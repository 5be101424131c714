import ResultCursor.Numeric.Binary64

/-! The text of a floating-point number: the fewest digits that read back as the same number, of
those the nearest. Numbers from 0.0001 up to below 10 ^ 16 are written positionally with at least
one decimal place, all others with a power of ten. -/

namespace ResultCursor.Numeric

/-- The decimal `digits * 10 ^ power`. -/
structure Decimal where
  digits : Nat
  power : Int
  deriving DecidableEq, Repr

/-- The numbers that round to `significand * 2 ^ exponent / 2 ^ 1074`, as the bounds of an
interval in quarters of the spacing; the bounds belong to it for an even significand. -/
structure Rounding where
  low : Nat
  high : Nat
  closed : Bool

def roundingOf (significand exponent : Nat) : Rounding :=
  let narrow := significand = Nat.pow 2 52 && 0 < exponent
  { low := 4 * significand - (if narrow then 1 else 2)
    high := 4 * significand + 2
    closed := significand % 2 = 0 }

def Rounding.contains (r : Rounding) (num den : Nat) : Bool :=
  if r.closed then r.low * den ≤ num && num ≤ r.high * den
  else r.low * den < num && num < r.high * den

/-- `10 ^ power` as a fraction. -/
def tenPower (power : Int) : Nat × Nat :=
  if 0 ≤ power then (Nat.pow 10 power.toNat, 1) else (1, Nat.pow 10 (-power).toNat)

/-- Among the two multiples of `10 ^ power` next to the number, the nearest that rounds to it. -/
def onGrid? (significand exponent : Nat) (power : Int) : Option Decimal :=
  let (up, down) := tenPower power
  let value := significand * Nat.pow 2 exponent * down
  let unit := Nat.pow 2 1074 * up
  let below := value / unit
  let interval := roundingOf significand exponent
  let fits (digits : Nat) : Bool :=
    interval.contains (4 * digits * unit) (Nat.pow 2 exponent * down)
  let upper := below + 1
  match fits below, fits upper with
  | true, true =>
    some ⟨if 2 * (value - below * unit) < unit then below else upper, power⟩
  | true, false => some ⟨below, power⟩
  | false, true => some ⟨upper, power⟩
  | false, false => none

/-- The power of ten of the leading digit of `num / den`, searched from an estimate. -/
def leadingPower (num den : Nat) : Int :=
  let digits (n : Nat) : Int := (Nat.toDigits 10 n).length
  let guess := digits num - digits den
  let (up, down) := tenPower guess
  if den * up ≤ num * down then guess else guess - 1

/-- The shortest decimal that reads back as the positive number. -/
def shortest (significand exponent : Nat) : Decimal :=
  let top := leadingPower (significand * Nat.pow 2 exponent) (Nat.pow 2 1074)
  ((List.range 17).findSome? fun (n : Nat) => onGrid? significand exponent (top - n)).getD
    ⟨significand * Nat.pow 2 exponent, 0⟩

/-- The digits without zeros at the end, and the power of ten of the first digit. -/
def Decimal.normal (d : Decimal) : List Char × Int :=
  let cs := Nat.toDigits 10 d.digits
  let kept := (cs.reverse.dropWhile (· = '0')).reverse
  (kept, d.power + cs.length - 1)

def positional (digits : List Char) (power : Int) : String :=
  if power < 0 then
    "0." ++ String.ofList (List.replicate (-power - 1).toNat '0' ++ digits)
  else
    let whole := power.toNat + 1
    let front := digits.take whole ++ List.replicate (whole - digits.length) '0'
    let back := digits.drop whole
    String.ofList front ++ "." ++ String.ofList (if back.isEmpty then ['0'] else back)

def scientific (digits : List Char) (power : Int) : String :=
  let tail := digits.drop 1
  String.ofList (digits.take 1) ++ (if tail.isEmpty then "" else "." ++ String.ofList tail) ++
    "e" ++ toString power

def magnitudeText (significand exponent : Nat) : String :=
  if significand = 0 then "0.0"
  else
    let (digits, power) := (shortest significand exponent).normal
    if -4 ≤ power && power < 16 then positional digits power else scientific digits power

def binary64Text (word : UInt64) : String :=
  match Binary64.ofBits word with
  | .nan => "NaN"
  | .infinite negative => if negative then "-inf" else "inf"
  | .finite negative significand exponent =>
    (if negative then "-" else "") ++ magnitudeText significand exponent

end ResultCursor.Numeric
