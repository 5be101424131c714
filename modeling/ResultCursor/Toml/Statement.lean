import ResultCursor.Toml.Draft
import ResultCursor.Toml.Moment
import ResultCursor.Toml.Number
import ResultCursor.Toml.Quoted

/-! The statements of a TOML document: headings, and keys with their values. -/

namespace ResultCursor.Toml

inductive Statement where
  | assign (path : List String) (name : String) (v : Value)
  | head (path : List String) (name : String)
  | headNext (path : List String) (name : String)

/-! ### Keys -/

def isBareKeyChar (c : Char) : Bool := c.isAlphanum || c = '_' || c = '-'

def readName (cs : List Char) : Option (String × List Char) :=
  match cs.takeWhile isBareKeyChar with
  | [] => (readShortQuoted cs).map fun (name, rest) => (String.ofList name, rest)
  | name => some (String.ofList name, cs.dropWhile isBareKeyChar)

/-- The longest key has so many names. -/
def maxNames : Nat := 80

/-- A key: names with points between them, the last of which stands apart. The first argument bounds
their number. -/
def readKey : Nat → List Char → Option ((List String × String) × List Char)
  | 0, _ => none
  | fuel + 1, cs =>
    match readName cs with
    | none => none
    | some (name, rest) =>
      match skipSpaces rest with
      | '.' :: rest =>
        (readKey fuel (skipSpaces rest)).map fun ((path, last), rest) =>
          ((name :: path, last), rest)
      | rest => some (([], name), rest)

/-! ### Values -/

def isPlainChar (c : Char) : Bool :=
  c.isAlphanum || c = '_' || c = '+' || c = '-' || c = '.' || c = ':'

/-- The characters of an unquoted value and what follows them. One blank may stand between a date
and a time. -/
def plainChars (cs : List Char) : List Char × List Char :=
  let run := cs.takeWhile isPlainChar
  let rest := cs.dropWhile isPlainChar
  match rest with
  | ' ' :: d :: more =>
    if isDate run && d.isDigit then
      (run ++ ' ' :: (d :: more).takeWhile isPlainChar, (d :: more).dropWhile isPlainChar)
    else (run, rest)
  | _ => (run, rest)

/-- Whole numbers have at most 128 bits. -/
def isWide (n : Int) : Bool := n < -(Nat.pow 2 127 : Nat) || (Nat.pow 2 128 : Nat) ≤ n

def plainValue? (cs : List Char) : Option Value :=
  if cs = ['t', 'r', 'u', 'e'] then some (.boolean true)
  else if cs = ['f', 'a', 'l', 's', 'e'] then some (.boolean false)
  else
    match integer? cs with
    | some n => if isWide n then none else some (.integer n)
    | none =>
      match float? cs with
      | some word => some (.float word)
      | none => if isMoment cs then some (.moment (String.ofList cs)) else none

def readPlain (cs : List Char) : Option (Value × List Char) :=
  let (run, rest) := plainChars cs
  (plainValue? run).map fun v => (v, rest)

mutual

/-- A value and what follows it. The arguments bound the nesting of brackets and the number of
steps. -/
def readValue (depth : Nat) : Nat → List Char → Option (Value × List Char)
  | 0, _ => none
  | fuel + 1, cs =>
    match cs with
    | '[' :: rest =>
      if depth = 0 then none
      else (readItems (depth - 1) fuel rest).map fun (items, rest) => (.array items, rest)
    | '{' :: rest =>
      if depth = 0 then none
      else
        match readPairs (depth - 1) fuel rest with
        | none => none
        | some (pairs, rest) => (Node.inlineTable? pairs).map fun fields => (.table fields, rest)
    | cs =>
      match cs with
      | '"' :: _ => (readQuoted cs).map fun (s, rest) => (.string (String.ofList s), rest)
      | '\'' :: _ => (readQuoted cs).map fun (s, rest) => (.string (String.ofList s), rest)
      | _ => readPlain cs

/-- The items of an array up to its closing bracket. -/
def readItems (depth : Nat) : Nat → List Char → Option (List Value × List Char)
  | 0, _ => none
  | fuel + 1, cs =>
    match skipVoid? false cs with
    | none => none
    | some (']' :: rest) => some ([], rest)
    | some cs =>
      match readValue depth fuel cs with
      | none => none
      | some (v, rest) =>
        match skipVoid? false rest with
        | some (',' :: rest) => (readItems depth fuel rest).map fun (vs, rest) => (v :: vs, rest)
        | some (']' :: rest) => some ([v], rest)
        | _ => none

/-- The keys and values of a table up to its closing brace. -/
def readPairs (depth : Nat) :
    Nat → List Char → Option (List (List String × String × Value) × List Char)
  | 0, _ => none
  | fuel + 1, cs =>
    match skipVoid? false cs with
    | none => none
    | some ('}' :: rest) => some ([], rest)
    | some cs =>
      match readPair true depth fuel cs with
      | none => none
      | some (p, rest) =>
        match skipVoid? false rest with
        | some (',' :: rest) => (readPairs depth fuel rest).map fun (ps, rest) => (p :: ps, rest)
        | some ('}' :: rest) => some ([p], rest)
        | _ => none

/-- A key and its value. Between braces, line ends and comments may stand around the equals sign. -/
def readPair (inBraces : Bool) (depth : Nat) :
    Nat → List Char → Option ((List String × String × Value) × List Char)
  | 0, _ => none
  | fuel + 1, cs =>
    match readKey maxNames cs with
    | none => none
    | some ((path, name), rest) =>
      match skipGap? inBraces rest with
      | some ('=' :: rest) =>
        match skipGap? inBraces rest with
        | some rest => (readValue depth fuel rest).map fun (v, rest) => ((path, name, v), rest)
        | none => none
      | _ => none

end

/-! ### Statements -/

/-- Brackets are nested at most so deep. -/
def maxDepth : Nat := 80

def readStatement (cs : List Char) : Option (Statement × List Char) :=
  match cs with
  | '[' :: '[' :: rest =>
    match readKey maxNames (skipSpaces rest) with
    | some ((path, name), ']' :: ']' :: rest) => some (.headNext path name, rest)
    | _ => none
  | '[' :: rest =>
    match readKey maxNames (skipSpaces rest) with
    | some ((path, name), ']' :: rest) => some (.head path name, rest)
    | _ => none
  | cs => (readPair false maxDepth (4 * cs.length + 4) cs).map fun ((path, name, v), rest) =>
      (.assign path name v, rest)

/-- The statements of a text, each of which ends its line. The first argument bounds their
number. -/
def readStatements : Nat → List Char → Option (List Statement)
  | 0, _ => none
  | fuel + 1, cs =>
    match skipVoid? false cs with
    | none => none
    | some [] => some []
    | some cs =>
      match readStatement cs with
      | none => none
      | some (s, rest) =>
        match endLine? false rest with
        | some rest => (readStatements fuel rest).map (s :: ·)
        | none => none

end ResultCursor.Toml
