import ResultCursor.Failure
import ResultCursor.Text.Blank
import ResultCursor.Time.Clock

/-! The time limit of a whole operation, and the override that a scope puts on it for single
commands. An override never moves the limit itself. -/

namespace ResultCursor

/-- What the time limit spans: all calls on a cursor, or each of them anew. -/
inductive TimeoutMode where
  | lifetime
  | iteration
  deriving DecidableEq, Repr

/-- The name in small letters. -/
def TimeoutMode.name : TimeoutMode → String
  | lifetime => "cursor_lifetime"
  | iteration => "iteration"

/-- The mode of exactly this name. -/
def TimeoutMode.ofName? (name : String) : Option TimeoutMode :=
  if name = lifetime.name then some lifetime
  else if name = iteration.name then some iteration
  else none

/-- The mode of a name, in any case and with blanks around it. -/
def TimeoutMode.ofText? (s : String) : Option TimeoutMode :=
  let name := Text.lowerAscii (Text.trim s)
  if name = "cursor_lifetime" || name = "cursorlifetime" || name = "lifetime" then some lifetime
  else if name = "iteration" then some iteration
  else none

/-- The time that a single command may take. -/
inductive Allowance where
  | unlimited
  | granted (limit : Span)
  | remaining (left : Span)
  deriving DecidableEq, Repr

def Allowance.span? : Allowance → Option Span
  | unlimited => none
  | granted limit => some limit
  | remaining left => some left

structure Deadline where
  timeout : Option Span
  limit : Option Instant
  override : Option Span
  deriving DecidableEq, Repr

namespace Deadline

/-- A limit that lies `timeout` ahead; without a timeout there is none. -/
def start (timeout : Option Span) (now : Instant) : Deadline :=
  ⟨timeout, timeout.map fun t => now + t.nanos, none⟩

/-- The same, unless the clock cannot show the limit. -/
def start? (timeout : Option Span) (now : Instant) : Option Deadline :=
  match timeout with
  | some t => (Instant.after? now t).map fun limit => ⟨some t, some limit, none⟩
  | none => some ⟨none, none, none⟩

def unlimited : Deadline := ⟨none, none, none⟩

/-- A limit at an instant, which may have passed already. -/
def endingAt (limit now : Instant) : Deadline := ⟨some ⟨limit - now⟩, some limit, none⟩

def isExpired (d : Deadline) (now : Instant) : Bool :=
  match d.limit with
  | some limit => limit ≤ now
  | none => false

/-- The time left; at the limit and after it there is none to give. -/
def remaining (d : Deadline) (now : Instant) : Except Failure (Option Span) :=
  match d.limit with
  | none => .ok none
  | some limit =>
    if limit ≤ now then .error (.timeout (.passed ⟨now - limit⟩)) else .ok (some ⟨limit - now⟩)

/-- The time for one command: an override counts whatever is left of the limit. -/
def allowance (d : Deadline) (now : Instant) : Except Failure Allowance :=
  match d.override with
  | some limit => .ok (.granted limit)
  | none =>
    match d.remaining now with
    | .ok none => .ok .unlimited
    | .ok (some left) => .ok (.remaining left)
    | .error f => .error f

/-- Starts the timeout anew; without one nothing changes. A limit that the clock cannot show, which
`start?` refuses, is not told apart here: it comes up only for a timeout that has reached almost to
`Instant.bound` when the deadline was started. -/
def restart (d : Deadline) (now : Instant) : Deadline :=
  match d.timeout with
  | some t => { d with limit := some (now + t.nanos) }
  | none => d

def withOverride (d : Deadline) (override : Option Span) : Deadline := { d with override }

end Deadline

end ResultCursor
