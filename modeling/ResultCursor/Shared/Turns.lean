/-! Turns at something that only one may use at a time. Whoever asks while it is in use stands in
line, and a turn that ends passes to the first in line. -/

namespace ResultCursor

structure Turns where
  holder : Option Nat := none
  line : List Nat := []
  deriving DecidableEq, Repr

namespace Turns

/-- Takes the turn if it is free, or the last place in line. -/
def ask (t : Turns) (i : Nat) : Turns :=
  match t.holder with
  | none => { t with holder := some i }
  | some _ => { t with line := t.line ++ [i] }

def isTurnOf (t : Turns) (i : Nat) : Bool := t.holder = some i

/-- The turn ends. -/
def pass (t : Turns) : Turns := ⟨t.line.head?, t.line.tail⟩

/-- Gives up the turn, or the place in line. -/
def leave (t : Turns) (i : Nat) : Turns :=
  if t.isTurnOf i then t.pass else { t with line := t.line.erase i }

end Turns

end ResultCursor
