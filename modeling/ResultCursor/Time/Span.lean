/-! Spans of time, in whole nanoseconds. -/

namespace ResultCursor

structure Span where
  nanos : Nat
  deriving DecidableEq, Repr, Inhabited

namespace Span

def zero : Span := ⟨0⟩

def ofMillis (n : Nat) : Span := ⟨n * 1000000⟩

/-- Seconds and nanoseconds, of which a second or more counts as seconds. -/
def ofParts (seconds nanos : Nat) : Span := ⟨seconds * 1000000000 + nanos⟩

def seconds (s : Span) : Nat := s.nanos / 1000000000

/-- The nanoseconds beyond the whole seconds. -/
def subsecond (s : Span) : Nat := s.nanos % 1000000000

instance : Min Span := ⟨fun a b => if a.nanos ≤ b.nanos then a else b⟩

theorem min_nanos (a b : Span) : (min a b).nanos = min a.nanos b.nanos := by
  change (if a.nanos ≤ b.nanos then a else b).nanos = _
  split <;> omega

/-- The largest number of milliseconds that a command can carry. -/
def maxMillis : Nat := 0x7fffffffffffffff

/-- Whole milliseconds, rounded up and cut off at `maxMillis`. -/
def millis (s : Span) : Nat := min ((s.nanos + 999999) / 1000000) maxMillis

/-- The places of a decimal fraction, without zeros at its end. -/
def trimmedPlaces (width n : Nat) : List Char :=
  let digits := Nat.toDigits 10 n
  let padded := List.replicate (width - digits.length) '0' ++ digits
  (padded.reverse.dropWhile (· = '0')).reverse

def withPlaces (whole : Nat) (width fraction : Nat) (unit : String) : String :=
  let places := trimmedPlaces width fraction
  toString whole ++ (if places.isEmpty then "" else "." ++ String.ofList places) ++ unit

/-- The span in the largest unit of which it holds at least one, with the places it needs. -/
def text (s : Span) : String :=
  if 1000000000 ≤ s.nanos then withPlaces s.seconds 9 s.subsecond "s"
  else if 1000000 ≤ s.nanos then withPlaces (s.nanos / 1000000) 6 (s.nanos % 1000000) "ms"
  else if 1000 ≤ s.nanos then withPlaces (s.nanos / 1000) 3 (s.nanos % 1000) "µs"
  else toString s.nanos ++ "ns"

end Span

end ResultCursor
