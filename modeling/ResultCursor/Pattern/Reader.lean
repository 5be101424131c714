import ResultCursor.Pattern.Syntax
import ResultCursor.Text.Blank
import ResultCursor.Text.Hexadecimal
import ResultCursor.Text.Letter

/-! Reading patterns. Readers take the characters that are left and give back those that they leave.
Where a pattern is verbose, blanks and comments are skipped between its parts. -/

namespace ResultCursor.Pattern

/-! ### Gaps -/

/-- What follows blanks and comments, which run to the end of their line. -/
def skipGap (inComment : Bool) : List Char → List Char
  | [] => []
  | c :: rest =>
    if inComment then skipGap (c ≠ '\n') rest
    else if Text.isBlank c then skipGap false rest
    else if c = '#' then skipGap true rest
    else c :: rest

def skip (verbose : Bool) (cs : List Char) : List Char := if verbose then skipGap false cs else cs

/-- The next character of weight. A comment is taken to begin with the character that is sought. -/
def peek? (verbose : Bool) (cs : List Char) : Option Char :=
  if verbose then
    match cs.dropWhile Text.isBlank with
    | '#' :: rest => (rest.dropWhile Text.isBlank).head?
    | rest => rest.head?
  else cs.head?

/-! ### Escapes -/

/-- Digits to the base sixteen, between which there may be gaps. -/
def readHexDigits (verbose : Bool) : Nat → List Char → Option (List Char × List Char)
  | 0, cs => some ([], cs)
  | n + 1, cs =>
    match skip verbose cs with
    | [] => none
    | c :: rest =>
      if (Text.hexValue? c).isNone then none
      else (readHexDigits verbose n rest).map fun (digits, rest) => (c :: digits, rest)

def readHexLiteral (verbose : Bool) (n : Nat) (cs : List Char) : Option (Pattern × List Char) := do
  let (digits, rest) ← readHexDigits verbose n cs
  return (.literal ⟨← Text.hexChar? digits, n = 2⟩, rest)

/-- Characters that an escape leaves as they are. -/
def escapesToItself (c : Char) : Bool :=
  c.toNat < 0x80 && !c.isAlphanum && c ≠ '<' && c ≠ '>'

/-- The control character that a letter stands for. -/
def control? : Char → Option Char
  | 'a' => some '\x07'
  | 'f' => some '\x0c'
  | 't' => some '\t'
  | 'n' => some '\n'
  | 'r' => some '\r'
  | 'v' => some '\x0b'
  | _ => none

/-- What the character after a backslash means by itself. -/
def escape? (c : Char) : Option Pattern :=
  if c = 'd' || c = 's' || c = 'w' then some (.shorthand false)
  else if c = 'D' || c = 'S' || c = 'W' then some (.shorthand true)
  else if c = 'A' || c = 'z' then some .edge
  else if c = 'b' || c = 'B' || c = '<' || c = '>' then some .wordEdge
  else if escapesToItself c then some (.literal ⟨c, false⟩)
  else (control? c).map fun c => .literal ⟨c, false⟩

/-- The rest of an escape after its backslash. Classes of characters by their properties are not
known. -/
def readEscape (verbose : Bool) : List Char → Option (Pattern × List Char)
  | [] => none
  | 'x' :: rest => readHexLiteral verbose 2 rest
  | 'u' :: rest => readHexLiteral verbose 4 rest
  | 'U' :: rest => readHexLiteral verbose 8 rest
  | c :: rest => (escape? c).map fun p => (p, rest)

/-! ### Sets of characters -/

def setNames : List String :=
  ["alnum", "alpha", "ascii", "blank", "cntrl", "digit", "graph", "lower", "print", "punct",
    "space", "upper", "word", "xdigit"]

/-- A set with a name, after its opening bracket. -/
def readNamed : List Char → Option (CharSet × List Char)
  | ':' :: rest =>
    let (negated, rest) := match rest with
      | '^' :: rest => (true, rest)
      | rest => (false, rest)
    match rest.dropWhile (· ≠ ':') with
    | ':' :: ']' :: after =>
      if setNames.contains (String.ofList (rest.takeWhile (· ≠ ':'))) then
        some (.named negated, after)
      else none
    | _ => none
  | _ => none

/-- One member of a set, which is a character or a shorthand. -/
def readMember (verbose : Bool) : List Char → Option (Pattern × List Char)
  | [] => none
  | '\\' :: rest => readEscape verbose rest
  | c :: rest => some (.literal ⟨c, false⟩, rest)

def memberSet? : Pattern → Option CharSet
  | .literal l => some (.literal l)
  | .shorthand negated => some (.shorthand negated)
  | _ => none

def rangeSet? : Pattern → Pattern → Option CharSet
  | .literal first, .literal last =>
    if first.char ≤ last.char then some (.range first last) else none
  | _, _ => none

/-- A member or a range. A hyphen before the closing bracket or before another hyphen makes none. -/
def readRange (verbose : Bool) (cs : List Char) : Option (CharSet × List Char) := do
  let (first, rest) ← readMember verbose cs
  match skip verbose rest with
  | '-' :: more =>
    let next := peek? verbose more
    if next = some ']' || next = some '-' then return (← memberSet? first, '-' :: more)
    else
      let (last, rest) ← readMember verbose (skip verbose more)
      return (← rangeSet? first last, rest)
  | rest => return (← memberSet? first, rest)

/-- The hyphens at the beginning of a set stand for themselves. -/
def readHyphens (verbose inComment : Bool) : List Char → List CharSet × List Char
  | [] => ([], [])
  | c :: rest =>
    if inComment then readHyphens verbose (c ≠ '\n') rest
    else if c = '-' then
      let (items, rest) := readHyphens verbose false rest
      (.literal ⟨'-', false⟩ :: items, rest)
    else if verbose && Text.isBlank c then readHyphens verbose false rest
    else if verbose && c = '#' then readHyphens verbose true rest
    else ([], c :: rest)

/-- The beginning of a set after its opening bracket: whether it is negated, and members that could
not stand elsewhere. -/
def openSet (verbose : Bool) (cs : List Char) : Bool × List CharSet × List Char :=
  let (negated, rest) := match skip verbose cs with
    | '^' :: rest => (true, skip verbose rest)
    | rest => (false, rest)
  match readHyphens verbose false rest with
  | ([], ']' :: rest) => (negated, [.literal ⟨']', false⟩], rest)
  | (items, rest) => (negated, items, rest)

/-- A set on the left of an operator with the members on its right, which come last first. -/
def combine (left : Option CharSet) (items : List CharSet) : CharSet :=
  match left with
  | some s => .combined s (.ofItems items.reverse)
  | none => .ofItems items.reverse

/-- The rest of a set up to its closing bracket. -/
def readSet (verbose : Bool) (left : Option CharSet) (items : List CharSet) :
    Nat → List Char → Option (CharSet × List Char)
  | 0, _ => none
  | fuel + 1, cs =>
    match skip verbose cs with
    | [] => none
    | '[' :: rest =>
      match readNamed rest with
      | some (s, rest) => readSet verbose left (s :: items) fuel rest
      | none =>
        let (negated, first, rest) := openSet verbose rest
        match readSet verbose none first.reverse fuel rest with
        | some (inner, rest) =>
          readSet verbose left (.bracketed negated inner :: items) fuel rest
        | none => none
    | ']' :: rest => some (combine left items, rest)
    | '&' :: '&' :: rest => readSet verbose (some (combine left items)) [] fuel rest
    | '-' :: '-' :: rest => readSet verbose (some (combine left items)) [] fuel rest
    | '~' :: '~' :: rest => readSet verbose (some (combine left items)) [] fuel rest
    | cs =>
      match readRange verbose cs with
      | some (s, rest) => readSet verbose left (s :: items) fuel rest
      | none => none

/-- A whole set after its opening bracket. -/
def readBracketed (verbose : Bool) (cs : List Char) : Option (Pattern × List Char) :=
  let (negated, first, rest) := openSet verbose cs
  (readSet verbose none first.reverse (rest.length + 1) rest).map fun (inner, rest) =>
    (.set (.bracketed negated inner), rest)

/-! ### Groups -/

/-- Flags up to the colon or the bracket that ends them, each once; those after a hyphen are
cleared. A colon opens a group. -/
def readFlags (negated justNegated : Bool) (seen : List Flag) :
    List Char → Option (Flags × Bool × List Char)
  | [] => none
  | c :: rest =>
    if c = ':' || c = ')' then if justNegated then none else some ([], c = ':', rest)
    else if c = '-' then if negated then none else readFlags true true seen rest
    else
      match Flag.ofLetter? c with
      | none => none
      | some f =>
        if seen.contains f then none
        else (readFlags negated false (f :: seen) rest).map fun (fs, opens, rest) =>
          ((f, !negated) :: fs, opens, rest)

def isNameChar (c : Char) : Bool :=
  Text.isAlphanumeric c || c = '_' || c = '.' || c = '[' || c = ']'

/-- The name of a group, closed by an angle bracket. -/
def readGroupName (cs : List Char) : Option (String × List Char) :=
  match cs.takeWhile (· ≠ '>'), cs.dropWhile (· ≠ '>') with
  | c :: name, _ :: rest =>
    if (Text.isLetter c || c = '_') && name.all isNameChar then
      some (String.ofList (c :: name), rest)
    else none
  | _, _ => none

inductive Opening where
  | group (fs : Flags) (name : Option String)
  /-- Flags that hold from here on. -/
  | flags (fs : Flags)

/-- What stands after an opening bracket. Conditions on what is around a place are not known. -/
def readOpening (cs : List Char) : Option (Opening × List Char) :=
  match cs with
  | '?' :: '=' :: _ => none
  | '?' :: '!' :: _ => none
  | '?' :: '<' :: '=' :: _ => none
  | '?' :: '<' :: '!' :: _ => none
  | '?' :: 'P' :: '<' :: rest =>
    (readGroupName rest).map fun (name, rest) => (.group [] (some name), rest)
  | '?' :: '<' :: rest =>
    (readGroupName rest).map fun (name, rest) => (.group [] (some name), rest)
  | '?' :: rest =>
    match readFlags false false [] rest with
    | none => none
    | some (fs, true, rest) => some (.group fs none, rest)
    | some (fs, false, rest) => if fs.isEmpty then none else some (.flags fs, rest)
  | _ => some (.group [] none, cs)

def verboseAfter (verbose : Bool) (fs : Flags) : Bool := (fs.lookup .verbose).getD verbose

/-- Adds the name of a group, which no other group may have. -/
def addName? (names : List String) : Option String → Option (List String)
  | none => some names
  | some name => if names.contains name then none else some (name :: names)

/-! ### Whole patterns -/

/-- Repeats the last item. A question mark more changes its greed. -/
def repeatLast? (items : List Pattern) (rest : List Char) :
    Option (List Pattern × List Char) :=
  match items with
  | [] => none
  | p :: items =>
    if p.isRepeatable then
      some (.repeated p :: items, match rest with
        | '?' :: rest => rest
        | rest => rest)
    else none

/-- An item that is neither a group nor repeated. -/
def readItem (verbose : Bool) : List Char → Option (Pattern × List Char)
  | [] => none
  | '[' :: rest => readBracketed verbose rest
  | '\\' :: rest => readEscape verbose rest
  | '.' :: rest => some (.anyChar, rest)
  | '^' :: rest => some (.edge, rest)
  | '$' :: rest => some (.edge, rest)
  | '\x7b' :: _ => none
  | c :: rest => some (.literal ⟨c, false⟩, rest)

def isRepeater (c : Char) : Bool := c = '?' || c = '*' || c = '+'

/-- The alternatives up to the bracket that closes them or to the end, with the names of all groups
so far. The branches and items that have been read come last first. -/
def readBranches (verbose : Bool) (names : List String) (branches items : List Pattern) :
    Nat → List Char → Option (Pattern × List String × List Char)
  | 0, _ => none
  | fuel + 1, cs =>
    match skip verbose cs with
    | [] => some (.ofBranches (ofItems items.reverse :: branches).reverse, names, [])
    | ')' :: rest =>
      some (.ofBranches (ofItems items.reverse :: branches).reverse, names, ')' :: rest)
    | '|' :: rest =>
      readBranches verbose names (ofItems items.reverse :: branches) [] fuel rest
    | '(' :: rest =>
      match readOpening (skip verbose rest) with
      | none => none
      | some (.flags fs, rest) =>
        readBranches (verboseAfter verbose fs) names branches (.flags fs :: items) fuel rest
      | some (.group fs name, rest) =>
        match addName? names name with
        | none => none
        | some names =>
          match readBranches (verboseAfter verbose fs) names [] [] fuel rest with
          | some (p, names, ')' :: rest) =>
            readBranches verbose names branches (.group fs p :: items) fuel rest
          | _ => none
    | c :: rest =>
      if isRepeater c then
        match repeatLast? items rest with
        | some (items, rest) => readBranches verbose names branches items fuel rest
        | none => none
      else
        match readItem verbose (c :: rest) with
        | some (p, rest) => readBranches verbose names branches (p :: items) fuel rest
        | none => none

/-- The deepest nesting that a pattern may have. -/
def maxDepth : Nat := 250

def ofText? (s : String) : Option Pattern :=
  match readBranches false [] [] [] (s.length + 1) s.toList with
  | some (p, _, []) => if p.depth ≤ maxDepth then some p else none
  | _ => none

end ResultCursor.Pattern
