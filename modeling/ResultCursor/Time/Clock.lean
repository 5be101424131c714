import ResultCursor.Time.Span

/-! A clock that never runs backwards. Every reading takes the next of the delays that lie ahead
and moves the clock on by it; with no delays ahead the clock stands still. -/

namespace ResultCursor

/-- A point in time, in nanoseconds. -/
abbrev Instant := Nat

namespace Instant

/-- The clock has words of 63 bits for its seconds. -/
def bound : Instant := 0x8000000000000000 * 1000000000

/-- The instant that lies so far ahead, if the clock can show it. -/
def after? (t : Instant) (s : Span) : Option Instant :=
  if t + s.nanos < bound then some (t + s.nanos) else none

/-- What is said of an instant that the clock cannot show. -/
def overflowText : String := "overflow when adding duration to instant"

end Instant

structure Clock where
  now : Instant
  delays : List Nat := []
  deriving DecidableEq, Repr

namespace Clock

/-- Reads the clock: the time seen, and the clock afterwards. -/
def read (c : Clock) : Instant × Clock :=
  match c.delays with
  | [] => (c.now, c)
  | d :: rest => (c.now + d, ⟨c.now + d, rest⟩)

def advance (c : Clock) (s : Span) : Clock := { c with now := c.now + s.nanos }

/-- Moves on to the instant, unless it has passed. -/
def advanceTo (c : Clock) (t : Instant) : Clock := { c with now := max c.now t }

theorem now_le_read (c : Clock) : c.now ≤ c.read.1 := by
  unfold read
  split <;> simp

theorem read_snd_now (c : Clock) : c.read.2.now = c.read.1 := by
  unfold read
  split <;> rfl

end Clock

end ResultCursor
