/-! Patterns that texts are matched against: characters and sets of them in sequence, repeated, in
groups and as alternatives. A pattern can change its own mode in the middle. -/

namespace ResultCursor

namespace Pattern

inductive Flag where
  | ignoreCase
  | manyLines
  | dotMatchesAll
  | swapGreed
  | unicode
  | carriageReturns
  /-- Blanks and comments between the parts of a pattern mean nothing. -/
  | verbose
  deriving DecidableEq, Repr

namespace Flag

def ofLetter? : Char → Option Flag
  | 'i' => some ignoreCase
  | 'm' => some manyLines
  | 's' => some dotMatchesAll
  | 'U' => some swapGreed
  | 'u' => some unicode
  | 'R' => some carriageReturns
  | 'x' => some verbose
  | _ => none

end Flag

/-- Flags that are set or cleared. -/
abbrev Flags := List (Flag × Bool)

structure Literal where
  char : Char
  /-- It was written with two hexadecimal digits, which can mean a byte. -/
  byByte : Bool := false
  deriving DecidableEq, Repr

/-- A set of characters, as far as it matters which ones can be written. -/
inductive CharSet where
  | empty
  | literal (l : Literal)
  | range (first last : Literal)
  /-- A set with a name of its own, all of ASCII. -/
  | named (negated : Bool)
  /-- Digits, blanks or the characters of words. -/
  | shorthand (negated : Bool)
  | bracketed (negated : Bool) (inner : CharSet)
  | union (items : List CharSet)
  | combined (left right : CharSet)
  deriving Repr

end Pattern

open Pattern in
inductive Pattern where
  | empty
  | flags (fs : Flags)
  | literal (l : Literal)
  | shorthand (negated : Bool)
  | anyChar
  /-- The beginning or the end of a text or a line. -/
  | edge
  /-- The beginning or the end of a word, or a place that is neither. -/
  | wordEdge
  | set (s : CharSet)
  | repeated (p : Pattern)
  | group (fs : Flags) (p : Pattern)
  | sequence (ps : List Pattern)
  | alternatives (ps : List Pattern)
  deriving Repr

namespace Pattern

def CharSet.ofItems : List CharSet → CharSet
  | [] => empty
  | [s] => s
  | items => union items

def ofItems : List Pattern → Pattern
  | [] => empty
  | [p] => p
  | ps => sequence ps

def ofBranches : List Pattern → Pattern
  | [p] => p
  | ps => alternatives ps

/-- There is something that can be repeated. -/
def isRepeatable : Pattern → Bool
  | empty => false
  | flags _ => false
  | _ => true

/-! ### Nesting -/

mutual

def CharSet.depth : CharSet → Nat
  | .bracketed _ inner => inner.depth + 1
  | .union items => CharSet.depthOfAll items + 1
  | .combined left right => max left.depth right.depth + 1
  | _ => 0

def CharSet.depthOfAll : List CharSet → Nat
  | [] => 0
  | s :: rest => max s.depth (CharSet.depthOfAll rest)

end

mutual

/-- How deep the parts of a pattern are nested. -/
def depth : Pattern → Nat
  | .set s => s.depth
  | .repeated p => p.depth + 1
  | .group _ p => p.depth + 1
  | .sequence ps => depthOfAll ps + 1
  | .alternatives ps => depthOfAll ps + 1
  | _ => 0

def depthOfAll : List Pattern → Nat
  | [] => 0
  | p :: rest => max p.depth (depthOfAll rest)

end

end Pattern

end ResultCursor
