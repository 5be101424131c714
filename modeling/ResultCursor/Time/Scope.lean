import ResultCursor.Time.Deadline

/-! Programs of scopes on one deadline. A scope puts its own override in place and, when it ends,
puts back the one that it found. Scopes end by name, newest first, or with the body that they
surround, however that body ends. A body may end before all of it was run, and may take bodies
around it with it. -/

namespace ResultCursor.Scope

/-- How a body ends. -/
inductive Ending where
  | finished
  | failed
  | crashed
  | abandoned
  deriving DecidableEq, Repr

inductive Action where
  | enter (limit : Span)
  /-- Ends the newest scope that still has a slot. -/
  | leaveNewest
  /-- Ends the scope in a slot and leaves the slot empty. -/
  | leave (slot : Nat)
  | restart
  | sleep (time : Span)
  | within (limit : Span) (body : List Action) (ending : Ending)
  /-- Ends the body here, in this way, and so many of the bodies around it. -/
  | quit (ending : Ending) (through : Nat)
  deriving Repr

/-- A body has ended early, and so many of those around it end with it. -/
structure Exit where
  ending : Ending
  through : Nat
  deriving DecidableEq, Repr

/-- What is left of an exit outside the body that has ended. -/
def Exit.outward? (e : Exit) : Option Exit :=
  match e.through with
  | 0 => none
  | n + 1 => some { e with through := n }

/-- A deadline with the overrides that the open scopes will put back, oldest first. -/
structure State where
  deadline : Deadline
  clock : Clock
  slots : List (Option (Option Span)) := []
  deriving Repr

/-- A deadline and the time at which it is looked at. -/
structure Snapshot where
  deadline : Deadline
  now : Instant
  deriving Repr

inductive Result where
  | nothing
  | wasHeld (b : Bool)
  | body (steps : List (Result × Snapshot)) (first last : Snapshot) (ending : Ending)

structure Run where
  first : Snapshot
  steps : List (Result × Snapshot)
  last : Snapshot

namespace State

def snapshot (s : State) : Snapshot := ⟨s.deadline, s.clock.now⟩

def putBack (s : State) (saved : Option Span) : State :=
  { s with deadline := s.deadline.withOverride saved }

def enter (s : State) (limit : Span) : State :=
  { s with
    deadline := s.deadline.withOverride (some limit)
    slots := s.slots ++ [some s.deadline.override] }

/-- Ends the scopes, in the order given. -/
def leaveAll (s : State) : List (Option (Option Span)) → State
  | [] => s
  | some saved :: rest => (s.putBack saved).leaveAll rest
  | none :: rest => s.leaveAll rest

/-- Ends all open scopes, newest first. -/
def close (s : State) : State := { s.leaveAll s.slots.reverse with slots := [] }

def leaveNewest (s : State) : State × Bool :=
  match s.slots.getLast? with
  | none => (s, false)
  | some slot => ({ s.leaveAll [slot] with slots := s.slots.dropLast }, true)

def leave (s : State) (i : Nat) : State × Bool :=
  match s.slots[i]? with
  | some (some saved) => ({ s.putBack saved with slots := s.slots.set i none }, true)
  | _ => (s, false)

end State

mutual

/-- One action, what it answers, and whether the body ends with it. -/
def perform (s : State) : Action → State × Result × Option Exit
  | .enter limit => (s.enter limit, .nothing, none)
  | .leaveNewest => let (s, b) := s.leaveNewest; (s, .wasHeld b, none)
  | .leave i => let (s, b) := s.leave i; (s, .wasHeld b, none)
  | .restart => ({ s with deadline := s.deadline.restart s.clock.now }, .nothing, none)
  | .sleep time => ({ s with clock := s.clock.advance time }, .nothing, none)
  | .within limit body ending =>
    let inside : State := { s with deadline := s.deadline.withOverride (some limit), slots := [] }
    let (done, steps, exit) := performAll inside body
    let closed := done.close
    let ending := (exit.map Exit.ending).getD ending
    ({ closed.putBack s.deadline.override with slots := s.slots },
      .body steps inside.snapshot closed.snapshot ending, exit.bind Exit.outward?)
  | .quit ending through => (s, .nothing, some ⟨ending, through⟩)

/-- The actions one after another, up to one with which the body ends. -/
def performAll (s : State) : List Action → State × List (Result × Snapshot) × Option Exit
  | [] => (s, [], none)
  | a :: rest =>
    match perform s a with
    | (s, r, some exit) => (s, [(r, s.snapshot)], some exit)
    | (s, r, none) =>
      let (t, steps, exit) := performAll s rest
      (t, (r, s.snapshot) :: steps, exit)

end

/-- A whole program; scopes left open at its end are ended newest first. -/
def run (deadline : Deadline) (clock : Clock) (program : List Action) : Run :=
  let s : State := { deadline, clock }
  let (t, steps, _) := performAll s program
  ⟨s.snapshot, steps, t.close.snapshot⟩

end ResultCursor.Scope
