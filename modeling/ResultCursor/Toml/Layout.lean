/-! What stands between the words of a TOML document: blanks, line ends and comments. A line ends
with a line feed, which a carriage return may precede; a carriage return alone is refused. -/

namespace ResultCursor.Toml

def isSpace (c : Char) : Bool := c = ' ' || c = '\t'

/-- A control character other than the tab. -/
def isControl (c : Char) : Bool := (c.toNat < 0x20 && c ≠ '\t') || c.toNat = 0x7f

def skipSpaces (cs : List Char) : List Char := cs.dropWhile isSpace

/-- The next character begins a line end. -/
def startsLineEnd : List Char → Bool
  | '\n' :: _ => true
  | '\r' :: '\n' :: _ => true
  | _ => false

/-- What follows the line, on which there is nothing else but blanks and a comment. -/
def endLine? (inComment : Bool) : List Char → Option (List Char)
  | [] => some []
  | '\n' :: rest => some rest
  | '\r' :: '\n' :: rest => some rest
  | c :: rest =>
    if inComment then if isControl c then none else endLine? true rest
    else if isSpace c then endLine? false rest
    else if c = '#' then endLine? true rest
    else none

/-- What follows all blanks, line ends and comments. -/
def skipVoid? (inComment : Bool) : List Char → Option (List Char)
  | [] => some []
  | '\n' :: rest => skipVoid? false rest
  | '\r' :: '\n' :: rest => skipVoid? false rest
  | c :: rest =>
    if inComment then if isControl c then none else skipVoid? true rest
    else if isSpace c then skipVoid? false rest
    else if c = '#' then skipVoid? true rest
    else some (c :: rest)

/-- What follows the blanks and, between braces, also line ends and comments. -/
def skipGap? (inBraces : Bool) (cs : List Char) : Option (List Char) :=
  if inBraces then skipVoid? false cs else some (skipSpaces cs)

end ResultCursor.Toml
