import ResultCursor.Journal
import ResultCursor.Signal

/-! What stands at the other end of a connection. A peer either answers a command at once or holds
it, to be asked again later. -/

namespace ResultCursor.Peer

/-- The circumstances under which a peer is asked. -/
structure Moment where
  now : Instant
  /-- Answers that wait for the barrier can go. -/
  barrierOpen : Bool := true
  /-- The flags that can stop a wait; a shared cursor has none. -/
  signal : Option Signal := none

def Moment.mustStop (m : Moment) : Bool :=
  match m.signal with
  | some s => s.shouldStop
  | none => false

def waitInterrupted : Outcome := .failure (.cancelled .waitInterrupted)

/-- A peer's reaction; a held command may have a time at which it is worth asking again. -/
inductive Reaction (Held : Type) where
  | answers (o : Outcome) (notes : List Note)
  | holds (h : Held) (wake : Option Instant)

end ResultCursor.Peer
