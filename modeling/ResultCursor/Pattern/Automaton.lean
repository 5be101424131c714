import ResultCursor.Pattern.Reader

/-! Which patterns can be made into an automaton over the bytes of texts. The automaton has no
tables of characters: letters cannot be compared without their case, and sets of characters by what
they are for exist within ASCII only. It must not match half a character. -/

namespace ResultCursor.Pattern

/-- The flags on which it depends what a part of a pattern means. -/
structure Mode where
  ignoreCase : Bool := false
  /-- Characters are meant, not bytes. -/
  unicode : Bool := true
  deriving DecidableEq, Repr

def Mode.change (m : Mode) (fs : Flags) : Mode where
  ignoreCase := (fs.lookup .ignoreCase).getD m.ignoreCase
  unicode := (fs.lookup .unicode).getD m.unicode

def Literal.isAscii (l : Literal) : Bool := l.char.toNat < 0x80

/-- A character in a sequence. As a byte it must be one of ASCII. -/
def Literal.isUsable (m : Mode) (l : Literal) : Bool :=
  if m.unicode then !m.ignoreCase else l.isAscii || (!l.byByte && !m.ignoreCase)

mutual

/-- Sets of bytes stay within ASCII. -/
def CharSet.isUsable (m : Mode) : CharSet → Bool
  | .empty => true
  | .literal l => if m.unicode then !m.ignoreCase else l.isAscii
  | .range first last => if m.unicode then !m.ignoreCase else first.isAscii && last.isAscii
  | .named negated => if m.unicode then !m.ignoreCase else !negated
  | .shorthand negated => !m.unicode && !negated
  | .bracketed negated inner => inner.isUsable m && (m.unicode || !negated)
  | .union items => CharSet.areUsable m items
  | .combined left right => left.isUsable m && right.isUsable m

def CharSet.areUsable (m : Mode) : List CharSet → Bool
  | [] => true
  | s :: rest => s.isUsable m && CharSet.areUsable m rest

end

/-- The mode is kept if a part can be used. -/
def keep (m : Mode) (usable : Bool) : Option Mode := if usable then some m else none

mutual

/-- The mode after a part of a pattern, if the part can be used. -/
def modeAfter? (m : Mode) : Pattern → Option Mode
  | .empty => some m
  | .flags fs => some (m.change fs)
  | .literal l => keep m (l.isUsable m)
  | .shorthand negated => keep m (!m.unicode && !negated)
  | .anyChar => keep m m.unicode
  | .edge => some m
  | .wordEdge => keep m (!m.unicode)
  | .set s => keep m (s.isUsable m)
  | .repeated p => modeAfter? m p
  | .group fs p => (modeAfter? (m.change fs) p).map fun _ => m
  | .sequence ps => modeAfterAll? m ps
  | .alternatives ps => modeAfterAll? m ps

def modeAfterAll? (m : Mode) : List Pattern → Option Mode
  | [] => some m
  | p :: rest =>
    match modeAfter? m p with
    | some m => modeAfterAll? m rest
    | none => none

end

def isUsable (p : Pattern) : Bool := (modeAfter? {} p).isSome

end ResultCursor.Pattern
