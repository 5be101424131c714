import ResultCursor.Json.Value
import ResultCursor.Text.Quoted

/-! Writing JSON text, on one line or with one field a line and an indent of two blanks a level. -/

namespace ResultCursor.Json

/-- The written form of one character inside a string: quotes, backslashes and control characters
are escaped, all others stand for themselves. -/
def escapedChar (c : Char) : List Char :=
  match c with
  | '"' => ['\\', '"']
  | '\\' => ['\\', '\\']
  | '\x08' => ['\\', 'b']
  | '\x0c' => ['\\', 'f']
  | '\n' => ['\\', 'n']
  | '\r' => ['\\', 'r']
  | '\t' => ['\\', 't']
  | _ =>
    if c.toNat < 0x20 then
      ['\\', 'u', '0', '0', Nat.digitChar (c.toNat / 16), Nat.digitChar (c.toNat % 16)]
    else [c]

def stringChars (s : String) : List Char := '"' :: s.toList.flatMap escapedChar ++ ['"']

def scalarChars : Value → List Char
  | .null => "null".toList
  | .bool b => (if b then "true" else "false").toList
  | .integer n => (toString n).toList
  | .decimal literal => literal.toList
  | .string s => stringChars s
  | _ => []

mutual

def compactChars : Value → List Char
  | .array items => '[' :: compactItems items ++ [']']
  | .object fields => '{' :: compactFields fields ++ ['}']
  | v => scalarChars v

def compactItems : List Value → List Char
  | [] => []
  | [v] => compactChars v
  | v :: w :: rest => compactChars v ++ ',' :: compactItems (w :: rest)

def compactFields : List (String × Value) → List Char
  | [] => []
  | [(name, v)] => stringChars name ++ ':' :: compactChars v
  | (name, v) :: f :: rest =>
    stringChars name ++ ':' :: compactChars v ++ ',' :: compactFields (f :: rest)

end

/-- A line end followed by the indent of a level. -/
def newLine (level : Nat) : List Char := '\n' :: List.replicate (2 * level) ' '

mutual

def prettyChars (level : Nat) : Value → List Char
  | .array [] => ['[', ']']
  | .array (v :: rest) => '[' :: prettyItems (level + 1) (v :: rest) ++ newLine level ++ [']']
  | .object [] => ['{', '}']
  | .object (f :: rest) => '{' :: prettyFields (level + 1) (f :: rest) ++ newLine level ++ ['}']
  | v => scalarChars v

def prettyItems (level : Nat) : List Value → List Char
  | [] => []
  | [v] => newLine level ++ prettyChars level v
  | v :: w :: rest => newLine level ++ prettyChars level v ++ ',' :: prettyItems level (w :: rest)

def prettyFields (level : Nat) : List (String × Value) → List Char
  | [] => []
  | [(name, v)] => newLine level ++ stringChars name ++ ':' :: ' ' :: prettyChars level v
  | (name, v) :: f :: rest =>
    newLine level ++ stringChars name ++ ':' :: ' ' :: prettyChars level v ++
      ',' :: prettyFields level (f :: rest)

end

namespace Value

def compact (v : Value) : String := String.ofList (compactChars v)

def pretty (v : Value) : String := String.ofList (prettyChars 0 v)

end Value

end ResultCursor.Json
