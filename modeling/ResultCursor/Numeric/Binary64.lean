/-! Binary floating-point numbers of 64 bits, handled as words. Reading a decimal text rounds the
exact rational number to the nearest representable one, a tie going to the even neighbour. -/

namespace ResultCursor.Numeric

/-- A word split into its sign and either a special value or the exact magnitude
`significand * 2 ^ (exponent - 1074)`. -/
inductive Binary64 where
  | nan
  | infinite (negative : Bool)
  | finite (negative : Bool) (significand exponent : Nat)
  deriving DecidableEq, Repr

namespace Binary64

def ofBits (word : UInt64) : Binary64 :=
  let n := word.toNat
  let negative := Nat.pow 2 63 ≤ n
  let biased := n / Nat.pow 2 52 % Nat.pow 2 11
  let fraction := n % Nat.pow 2 52
  if biased = 2047 then if fraction = 0 then .infinite negative else .nan
  else if biased = 0 then .finite negative fraction 0
  else .finite negative (Nat.pow 2 52 + fraction) (biased - 1)

def signWord (negative : Bool) : Nat := if negative then Nat.pow 2 63 else 0

def infiniteWord : Nat := 2047 * Nat.pow 2 52

def nanWord : UInt64 := UInt64.ofNat (infiniteWord + Nat.pow 2 51)

/-- The quotient rounded to the nearest whole number, a half to the even one. -/
def roundHalfEven (num den : Nat) : Nat :=
  let q := num / den
  let r := 2 * (num % den)
  if r < den then q else if den < r then q + 1 else q + q % 2

/-- The word of the positive rational `num / den`: with `2 ^ (e - 1074)` the spacing of the
representable numbers around it, the word is `e * 2 ^ 52` plus the rounded number of spacings. -/
def magnitudeWord (num den : Nat) : Nat :=
  if num = 0 then 0
  else
    let guess := num.log2 + 1074 - den.log2 - 52
    let scaled (e : Nat) : Nat × Nat := (num * Nat.pow 2 1074, den * Nat.pow 2 e)
    let e := if (scaled guess).1 < Nat.pow 2 52 * (scaled guess).2 then guess - 1 else guess
    min (e * Nat.pow 2 52 + roundHalfEven (scaled e).1 (scaled e).2) infiniteWord

/-- A decimal `digits * 10 ^ power` with a sign. Magnitudes far outside the range of the format are
settled without computing the power of ten. -/
def ofDecimal (negative : Bool) (digits : Nat) (power : Int) : UInt64 :=
  let size : Int := (Nat.toDigits 10 digits).length + power
  let magnitude :=
    if digits = 0 || size < -400 then 0
    else if 400 < size then infiniteWord
    else if 0 ≤ power then magnitudeWord (digits * Nat.pow 10 power.toNat) 1
    else magnitudeWord digits (Nat.pow 10 (-power).toNat)
  UInt64.ofNat (signWord negative + magnitude)

end Binary64

end ResultCursor.Numeric
