import ResultCursor.Json.Value
import ResultCursor.Text.Decimal
import ResultCursor.Text.Hexadecimal

/-! Reading JSON text. The grammar is the strict one: no comments, no trailing commas, no control
characters inside strings, and nothing after the value but blanks. -/

namespace ResultCursor.Json

def isSpace (c : Char) : Bool := c = ' ' || c = '\n' || c = '\t' || c = '\r'

def skipSpace (cs : List Char) : List Char := cs.dropWhile isSpace

def hexQuad? (a b c d : Char) : Option Nat := do
  let a ← Text.hexValue? a
  let b ← Text.hexValue? b
  let c ← Text.hexValue? c
  let d ← Text.hexValue? d
  return ((a * 16 + b) * 16 + c) * 16 + d

/-- The code that a one-letter escape stands for. -/
def shortEscape? (c : Char) : Option Nat :=
  match c with
  | '"' => some 0x22
  | '\\' => some 0x5c
  | '/' => some 0x2f
  | 'b' => some 0x08
  | 'f' => some 0x0c
  | 'n' => some 0x0a
  | 'r' => some 0x0d
  | 't' => some 0x09
  | _ => none

/-- The codes of a string up to its closing quote, and what follows the quote. -/
def scanString : List Char → Option (List Nat × List Char)
  | [] => none
  | '"' :: rest => some ([], rest)
  | '\\' :: 'u' :: a :: b :: c :: d :: rest =>
    match hexQuad? a b c d, scanString rest with
    | some n, some (codes, rest) => some (n :: codes, rest)
    | _, _ => none
  | '\\' :: c :: rest =>
    match shortEscape? c, scanString rest with
    | some n, some (codes, rest) => some (n :: codes, rest)
    | _, _ => none
  | c :: rest =>
    if c.toNat < 0x20 then none
    else (scanString rest).map fun (codes, rest) => (c.toNat :: codes, rest)

def isHighSurrogate (n : Nat) : Bool := 0xd800 ≤ n && n < 0xdc00

def isLowSurrogate (n : Nat) : Bool := 0xdc00 ≤ n && n < 0xe000

/-- The characters of the codes; `none` when a surrogate stands alone. -/
def joinCodes : List Nat → Option (List Char)
  | [] => some []
  | [n] => if isHighSurrogate n || isLowSurrogate n then none else some [Char.ofNat n]
  | n :: m :: rest =>
    if isHighSurrogate n then
      if isLowSurrogate m then
        (joinCodes rest).map (Char.ofNat (0x10000 + (n - 0xd800) * 0x400 + (m - 0xdc00)) :: ·)
      else none
    else if isLowSurrogate n then none
    else (joinCodes (m :: rest)).map (Char.ofNat n :: ·)

def joinedString? (codes : List Nat) : Option String := (joinCodes codes).map String.ofList

/-- The whole part of a number: a single zero, or digits that do not begin with one. -/
def wholePart? (cs : List Char) : Option (List Char × List Char) :=
  match cs.takeWhile Char.isDigit with
  | [] => none
  | '0' :: _ :: _ => none
  | digits => some (digits, cs.dropWhile Char.isDigit)

def fractionPart? (cs : List Char) : Option (List Char × List Char) :=
  match cs with
  | '.' :: rest =>
    match rest.takeWhile Char.isDigit with
    | [] => none
    | digits => some ('.' :: digits, rest.dropWhile Char.isDigit)
  | _ => some ([], cs)

def exponentPart? (cs : List Char) : Option (List Char × List Char) :=
  match cs with
  | mark :: rest =>
    if mark = 'e' || mark = 'E' then
      let (sign, rest) := match rest with
        | '+' :: rest => (['+'], rest)
        | '-' :: rest => (['-'], rest)
        | _ => ([], rest)
      match rest.takeWhile Char.isDigit with
      | [] => none
      | digits => some (mark :: sign ++ digits, rest.dropWhile Char.isDigit)
    else some ([], cs)
  | [] => some ([], cs)

def readNumber (cs : List Char) : Option (Value × List Char) := do
  let (negative, cs) := match cs with
    | '-' :: rest => (true, rest)
    | _ => (false, cs)
  let (whole, cs) ← wholePart? cs
  let (fraction, cs) ← fractionPart? cs
  let (exponent, cs) ← exponentPart? cs
  let value ← Text.digitsValue? whole
  let plain := fraction.isEmpty && exponent.isEmpty
  let sign := if negative then ['-'] else []
  if plain && !(negative && value = 0) then
    return (.integer (if negative then -(value : Int) else value), cs)
  else return (.decimal (String.ofList (sign ++ whole ++ fraction ++ exponent)), cs)

/-- The object with the fields, garbled if one of its names is. -/
def objectOf (fields : List (Option String × Value)) : Value :=
  match fields.mapM fun (name, v) => name.map fun n => (n, v) with
  | some fields => .object fields
  | none => .garbled

mutual

/-- A value and what follows it. The first argument bounds the number of nested steps. -/
def readValue : Nat → List Char → Option (Value × List Char)
  | 0, _ => none
  | fuel + 1, cs =>
    match skipSpace cs with
    | 'n' :: 'u' :: 'l' :: 'l' :: rest => some (.null, rest)
    | 't' :: 'r' :: 'u' :: 'e' :: rest => some (.bool true, rest)
    | 'f' :: 'a' :: 'l' :: 's' :: 'e' :: rest => some (.bool false, rest)
    | '"' :: rest =>
      (scanString rest).map fun (codes, rest) =>
        (((joinedString? codes).map Value.string).getD .garbled, rest)
    | '[' :: rest =>
      match skipSpace rest with
      | ']' :: rest => some (.array [], rest)
      | _ => (readItems fuel rest).map fun (items, rest) => (.array items, rest)
    | '{' :: rest =>
      match skipSpace rest with
      | '}' :: rest => some (.object [], rest)
      | _ => (readFields fuel rest).map fun (fields, rest) => (objectOf fields, rest)
    | cs => readNumber cs

/-- The items of an array up to its closing bracket. -/
def readItems : Nat → List Char → Option (List Value × List Char)
  | 0, _ => none
  | fuel + 1, cs =>
    match readValue fuel cs with
    | none => none
    | some (v, rest) =>
      match skipSpace rest with
      | ',' :: rest => (readItems fuel rest).map fun (vs, rest) => (v :: vs, rest)
      | ']' :: rest => some ([v], rest)
      | _ => none

/-- The fields of an object up to its closing brace. -/
def readFields : Nat → List Char → Option (List (Option String × Value) × List Char)
  | 0, _ => none
  | fuel + 1, cs =>
    match skipSpace cs with
    | '"' :: rest =>
      match scanString rest with
      | none => none
      | some (codes, rest) =>
        match skipSpace rest with
        | ':' :: rest =>
          match readValue fuel rest with
          | none => none
          | some (v, rest) =>
            match skipSpace rest with
            | ',' :: rest =>
              (readFields fuel rest).map fun (fs, rest) => ((joinedString? codes, v) :: fs, rest)
            | '}' :: rest => some ([(joinedString? codes, v)], rest)
            | _ => none
        | _ => none
    | _ => none

end

/-- The value of a whole text. Every two nested steps take at least one character, so the bound is
never reached. -/
def read? (cs : List Char) : Option Value :=
  match readValue (2 * cs.length + 2) cs with
  | some (v, rest) => if (skipSpace rest).isEmpty then some v else none
  | none => none

def ofText? (s : String) : Option Value := read? s.toList

end ResultCursor.Json
