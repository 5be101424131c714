import ResultCursor.Toml.Document

/-! Writing TOML documents of tables that hold texts, numbers and switches only. A text is written
in the first of the four quoted forms that takes it without escapes. -/

namespace ResultCursor.Toml

inductive Scalar where
  | string (s : String)
  | integer (n : Int64)
  | boolean (b : Bool)
  deriving DecidableEq, Repr

def Scalar.toValue : Scalar → Value
  | string s => .string s
  | integer n => .integer n.toInt
  | boolean b => .boolean b

/-- A table under a heading. -/
structure Section where
  name : String
  fields : List (String × Scalar)
  deriving DecidableEq, Repr

def Section.toField (s : Section) : String × Value :=
  (s.name, .table (s.fields.map fun f => (f.1, f.2.toValue)))

/-! ### Texts -/

/-- The length of the longest run of a character. `run` counts the one that ends here. -/
def longestRun (c : Char) : Nat → List Char → Nat
  | run, [] => run
  | run, d :: rest => if c = d then longestRun c (run + 1) rest else max run (longestRun c 0 rest)

/-- A control character that is neither a tab nor a line feed. -/
def needsCode (c : Char) : Bool := isControl c && c ≠ '\n'

inductive QuoteStyle where
  | basic
  | literal
  | longBasic
  | longLiteral
  deriving DecidableEq, Repr

def quoteStyle (cs : List Char) : QuoteStyle :=
  let coded := cs.any needsCode
  let escaped := cs.contains '\\'
  let lines := cs.contains '\n'
  if !coded && !escaped && !cs.contains '"' && !lines then .basic
  else if !coded && !cs.contains '\'' && !lines then .literal
  else if !coded && !escaped && longestRun '"' 0 cs ≤ 2 then .longBasic
  else if !coded && longestRun '\'' 0 cs ≤ 2 then .longLiteral
  else if lines then .longBasic
  else .basic

def hexCode (n : Nat) : List Char :=
  let digits := (Nat.toDigits 16 n).map Char.toUpper
  '\\' :: 'u' :: List.replicate (4 - digits.length) '0' ++ digits

/-- A character, other than a double quote, between double quotes. -/
def escapedChar (long : Bool) (c : Char) : List Char :=
  match c with
  | '\x08' => ['\\', 'b']
  | '\t' => ['\\', 't']
  | '\x0c' => ['\\', 'f']
  | '\r' => ['\\', 'r']
  | '\\' => ['\\', '\\']
  | '\n' => if long then ['\n'] else ['\\', 'n']
  | c => if isControl c then hexCode c.toNat else [c]

/-- A text between double quotes. In the long form two quotes in a row stand for themselves; `run`
counts those that do. -/
def escapedChars (long : Bool) : Nat → List Char → List Char
  | _, [] => []
  | run, c :: rest =>
    if c = '"' then
      if long && run < 2 then '"' :: escapedChars long (run + 1) rest
      else '\\' :: '"' :: escapedChars long 0 rest
    else escapedChar long c ++ escapedChars long 0 rest

def quotedChars (cs : List Char) : List Char :=
  let lineEnd := if cs.contains '\n' then ['\n'] else []
  match quoteStyle cs with
  | .basic => ['"'] ++ escapedChars false 0 cs ++ ['"']
  | .literal => ['\''] ++ cs ++ ['\'']
  | .longBasic => List.replicate 3 '"' ++ lineEnd ++ escapedChars true 0 cs ++ List.replicate 3 '"'
  | .longLiteral => List.replicate 3 '\'' ++ lineEnd ++ cs ++ List.replicate 3 '\''

/-! ### Documents -/

def scalarChars : Scalar → List Char
  | .string s => quotedChars s.toList
  | .integer n => (toString n.toInt).toList
  | .boolean b => (if b then "true" else "false").toList

def fieldChars (f : String × Scalar) : List Char :=
  f.1.toList ++ [' ', '=', ' '] ++ scalarChars f.2 ++ ['\n']

def sectionChars (s : Section) : List Char :=
  ['['] ++ s.name.toList ++ [']', '\n'] ++ s.fields.flatMap fieldChars

/-- Sections with an empty line between them. -/
def sectionsChars : List Section → List Char
  | [] => []
  | [s] => sectionChars s
  | s :: t :: rest => sectionChars s ++ '\n' :: sectionsChars (t :: rest)

def textOf (sections : List Section) : String := String.ofList (sectionsChars sections)

end ResultCursor.Toml
