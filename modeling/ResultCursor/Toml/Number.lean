import ResultCursor.Numeric.Binary64
import ResultCursor.Text.Decimal
import ResultCursor.Text.Hexadecimal

/-! Numbers of TOML documents. Single underscores may stand between digits; a decimal number does
not begin with a zero unless it is a single zero. -/

namespace ResultCursor.Toml

/-- The digits of a text in which single underscores may stand between digits. -/
def digits? (isDigit : Char → Bool) : List Char → Option (List Char)
  | [] => none
  | [c] => if isDigit c then some [c] else none
  | c :: '_' :: rest => if isDigit c then (digits? isDigit rest).map (c :: ·) else none
  | c :: d :: rest => if isDigit c then (digits? isDigit (d :: rest)).map (c :: ·) else none

def isDigitOf (base : Nat) (c : Char) : Bool :=
  match Text.hexValue? c with
  | some n => n < base
  | none => false

def valueOf (base : Nat) (digits : List Char) : Nat :=
  digits.foldl (fun n c => base * n + (Text.hexValue? c).getD 0) 0

/-- The digits of a decimal number without a sign. -/
def wholeDigits? (cs : List Char) : Option (List Char) :=
  match digits? Char.isDigit cs with
  | some ('0' :: _ :: _) => none
  | found => found

def based? (base : Nat) (cs : List Char) : Option Int :=
  (digits? (isDigitOf base) cs).map fun digits => (valueOf base digits : Int)

def decimal? (cs : List Char) : Option Int :=
  (wholeDigits? cs).map fun digits => (valueOf 10 digits : Int)

/-- A whole number; only a decimal one can have a sign. -/
def integer? (cs : List Char) : Option Int :=
  match cs with
  | '+' :: rest => decimal? rest
  | '-' :: rest => (decimal? rest).map (-·)
  | '0' :: 'x' :: rest => based? 16 rest
  | '0' :: 'o' :: rest => based? 8 rest
  | '0' :: 'b' :: rest => based? 2 rest
  | _ => decimal? cs

/-- A sign, if there is one, and what follows it. -/
def splitSign (cs : List Char) : Bool × List Char :=
  match cs with
  | '+' :: rest => (false, rest)
  | '-' :: rest => (true, rest)
  | _ => (false, cs)

/-- The exponent of a number, of which a power of ten remains; without a mark it is zero. -/
def exponent? (cs : List Char) : Option Int :=
  match cs with
  | [] => some 0
  | _ :: rest =>
    let (negative, rest) := splitSign rest
    (digits? Char.isDigit rest).map fun digits =>
      if negative then -(valueOf 10 digits : Int) else valueOf 10 digits

/-- The digits after the point of a number, of which the fraction remains. -/
def fraction? (cs : List Char) : Option (List Char) :=
  match cs with
  | [] => some []
  | _ :: rest => digits? Char.isDigit rest

def isExponentMark (c : Char) : Bool := c = 'e' || c = 'E'

/-- The word of a number with a fraction, an exponent or both. -/
def decimalWord? (negative : Bool) (cs : List Char) : Option UInt64 := do
  let mantissa := cs.takeWhile fun c => !isExponentMark c
  let exponent ← exponent? (cs.dropWhile fun c => !isExponentMark c)
  let whole ← wholeDigits? (mantissa.takeWhile (· ≠ '.'))
  let fraction ← fraction? (mantissa.dropWhile (· ≠ '.'))
  return Numeric.Binary64.ofDecimal negative (valueOf 10 (whole ++ fraction))
    (exponent - fraction.length)

def isInfinite (word : UInt64) : Bool :=
  word.toNat % Numeric.Binary64.signWord true = Numeric.Binary64.infiniteWord

/-- A floating-point number. One too large for the format is refused. -/
def float? (cs : List Char) : Option UInt64 :=
  let (negative, cs) := splitSign cs
  if cs = ['i', 'n', 'f'] then
    some (UInt64.ofNat (Numeric.Binary64.signWord negative + Numeric.Binary64.infiniteWord))
  else if cs = ['n', 'a', 'n'] then some Numeric.Binary64.nanWord
  else (decimalWord? negative cs).filter fun word => !isInfinite word

end ResultCursor.Toml
