import ResultCursor.Text.Hexadecimal
import ResultCursor.Toml.Layout

/-! Quoted texts of TOML documents. Between double quotes a backslash escapes, between single quotes
every character stands for itself; three quotes in place of one admit line ends. -/

namespace ResultCursor.Toml

/-- The character that a one-letter escape stands for. -/
def shortEscape? (c : Char) : Option Char :=
  match c with
  | '"' => some '"'
  | '\\' => some '\\'
  | 'b' => some '\x08'
  | 't' => some '\t'
  | 'n' => some '\n'
  | 'f' => some '\x0c'
  | 'r' => some '\r'
  | 'e' => some '\x1b'
  | _ => none

/-- A text with what follows it, to the front of which one more character goes. -/
def prepend? (c : Option Char) (tail : Option (List Char × List Char)) :
    Option (List Char × List Char) :=
  match c, tail with
  | some c, some (cs, rest) => some (c :: cs, rest)
  | _, _ => none

/-- A text up to its closing double quote, and what follows the quote. -/
def scanBasic : List Char → Option (List Char × List Char)
  | [] => none
  | '"' :: rest => some ([], rest)
  | '\\' :: 'x' :: a :: b :: rest => prepend? (Text.hexChar? [a, b]) (scanBasic rest)
  | '\\' :: 'u' :: a :: b :: c :: d :: rest =>
    prepend? (Text.hexChar? [a, b, c, d]) (scanBasic rest)
  | '\\' :: 'U' :: a :: b :: c :: d :: e :: f :: g :: h :: rest =>
    prepend? (Text.hexChar? [a, b, c, d, e, f, g, h]) (scanBasic rest)
  | '\\' :: c :: rest => prepend? (shortEscape? c) (scanBasic rest)
  | c :: rest => if isControl c then none else prepend? (some c) (scanBasic rest)

/-- A text up to its closing single quote, and what follows the quote. -/
def scanLiteral : List Char → Option (List Char × List Char)
  | [] => none
  | '\'' :: rest => some ([], rest)
  | c :: rest => if isControl c then none else prepend? (some c) (scanLiteral rest)

/-- A text up to three double quotes, of which up to two more may be part of it. A backslash at the
end of a line takes all blanks and line ends after it away: there, `inGap` holds. -/
def scanLongBasic (inGap : Bool) : List Char → Option (List Char × List Char)
  | [] => none
  | '"' :: '"' :: '"' :: '"' :: '"' :: rest => some (['"', '"'], rest)
  | '"' :: '"' :: '"' :: '"' :: rest => some (['"'], rest)
  | '"' :: '"' :: '"' :: rest => some ([], rest)
  | '\\' :: 'x' :: a :: b :: rest => prepend? (Text.hexChar? [a, b]) (scanLongBasic false rest)
  | '\\' :: 'u' :: a :: b :: c :: d :: rest =>
    prepend? (Text.hexChar? [a, b, c, d]) (scanLongBasic false rest)
  | '\\' :: 'U' :: a :: b :: c :: d :: e :: f :: g :: h :: rest =>
    prepend? (Text.hexChar? [a, b, c, d, e, f, g, h]) (scanLongBasic false rest)
  | '\\' :: c :: rest =>
    if startsLineEnd (skipSpaces (c :: rest)) then scanLongBasic true rest
    else prepend? (shortEscape? c) (scanLongBasic false rest)
  | '\r' :: '\n' :: rest =>
    if inGap then scanLongBasic true rest
    else prepend? (some '\r') (prepend? (some '\n') (scanLongBasic false rest))
  | c :: rest =>
    if inGap && (isSpace c || c = '\n') then scanLongBasic true rest
    else if isControl c && c ≠ '\n' then none
    else prepend? (some c) (scanLongBasic false rest)

/-- A text up to three single quotes, of which up to two more may be part of it. -/
def scanLongLiteral : List Char → Option (List Char × List Char)
  | [] => none
  | '\'' :: '\'' :: '\'' :: '\'' :: '\'' :: rest => some (['\'', '\''], rest)
  | '\'' :: '\'' :: '\'' :: '\'' :: rest => some (['\''], rest)
  | '\'' :: '\'' :: '\'' :: rest => some ([], rest)
  | '\r' :: '\n' :: rest => prepend? (some '\r') (prepend? (some '\n') (scanLongLiteral rest))
  | c :: rest =>
    if isControl c && c ≠ '\n' then none else prepend? (some c) (scanLongLiteral rest)

/-- A line end directly after the opening quotes is no part of the text. -/
def dropLineEnd : List Char → List Char
  | '\n' :: rest => rest
  | '\r' :: '\n' :: rest => rest
  | cs => cs

/-- A quoted text on one line. -/
def readShortQuoted : List Char → Option (List Char × List Char)
  | '"' :: '"' :: '"' :: _ => none
  | '\'' :: '\'' :: '\'' :: _ => none
  | '"' :: rest => scanBasic rest
  | '\'' :: rest => scanLiteral rest
  | _ => none

/-- A quoted text of any of the four kinds. -/
def readQuoted : List Char → Option (List Char × List Char)
  | '"' :: '"' :: '"' :: rest => scanLongBasic false (dropLineEnd rest)
  | '\'' :: '\'' :: '\'' :: rest => scanLongLiteral (dropLineEnd rest)
  | cs => readShortQuoted cs

end ResultCursor.Toml
