import ResultCursor.Shared
import ResultCursor.Shared.Turns

/-! Calls on a shared cursor that run side by side. A call waits for its turn, then holds it until
it has its answer; it stops while it holds the turn only for the connection. Any call can be given
up wherever it has stopped. -/

namespace ResultCursor

/-- Where a call has stopped. -/
inductive Stage where
  | inLine (r : Request)
  | waiting (wait : Wait)

structure Calls where
  shared : Shared
  turns : Turns := {}
  running : List (Nat × Stage) := []
  /-- The number of the next call. -/
  fresh : Nat := 0

namespace Calls

/-- What a call came to when it was last allowed to run. -/
inductive Status where
  | answered (a : Answer)
  | crashed (text : String)
  | inLine
  | waiting (sending : Sending)

def stage? (c : Calls) (i : Nat) : Option Stage := c.running.lookup i

def forget (c : Calls) (i : Nat) : Calls :=
  { c with running := c.running.filter fun p => p.1 != i }

def put (c : Calls) (i : Nat) (s : Stage) : Calls :=
  let c := c.forget i
  { c with running := c.running ++ [(i, s)] }

/-- The call is over and its turn ends. -/
def retire (c : Calls) (i : Nat) : Calls :=
  let c := c.forget i
  { c with turns := c.turns.pass }

/-- Takes note of how far the call that has the turn came. -/
def settle (c : Calls) (i : Nat) : Shared × Progress → Calls × Status
  | (shared, .answered a) => ({ c with shared }.retire i, .answered a)
  | (shared, .crashed text) => ({ c with shared }.retire i, .crashed text)
  | (shared, .waiting sending wait) => ({ c with shared }.put i (.waiting wait), .waiting sending)

/-- Runs the call if it is its turn. -/
def turn (c : Calls) (i : Nat) : Calls × Status :=
  match c.stage? i with
  | some (.inLine r) =>
    if c.turns.isTurnOf i then c.settle i (c.shared.request r) else (c, .inLine)
  | _ => (c, .inLine)

/-- Asking for a close counts at once. -/
def announce (c : Calls) : Request → Calls
  | .close => { c with shared := c.shared.requestClose }
  | _ => c

/-- Starts a call, which runs at once if the turn is free. -/
def start (c : Calls) (r : Request) : Calls × Nat × Status :=
  let i := c.fresh
  let c := c.announce r
  let c : Calls := { c.put i (.inLine r) with turns := c.turns.ask i, fresh := i + 1 }
  let (c, status) := c.turn i
  (c, i, status)

/-- The connection's answer for a call. -/
def deliver (c : Calls) (i : Nat) (o : Outcome) : Calls × Status :=
  match c.stage? i with
  | some (.waiting wait) => c.settle i (c.shared.resume wait o)
  | _ => (c, .inLine)

/-- Gives a call up. -/
def abandon (c : Calls) (i : Nat) : Calls :=
  match c.stage? i with
  | some (.inLine _) => { c.forget i with turns := c.turns.leave i }
  | some (.waiting wait) => { c with shared := c.shared.abandon wait }.retire i
  | none => c

end Calls

end ResultCursor
