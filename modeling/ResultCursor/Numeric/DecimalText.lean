import ResultCursor.Numeric.Binary64
import ResultCursor.Text.Decimal

/-! Reading a floating-point number: an optional sign, then a special name in any case or digits
with an optional point and an optional power of ten. -/

namespace ResultCursor.Numeric

/-- The sign in front of a number, and what follows it. -/
def splitSign (cs : List Char) : Bool × List Char :=
  match cs with
  | '-' :: rest => (true, rest)
  | '+' :: rest => (false, rest)
  | _ => (false, cs)

def isExponentMark (c : Char) : Bool := c = 'e' || c = 'E'

def readMagnitude? (negative : Bool) (cs : List Char) : Option UInt64 :=
  let whole := cs.takeWhile Char.isDigit
  let afterWhole := cs.dropWhile Char.isDigit
  let (places, afterPlaces) := match afterWhole with
    | '.' :: rest => (rest.takeWhile Char.isDigit, rest.dropWhile Char.isDigit)
    | _ => ([], afterWhole)
  let power? : Option Int := match afterPlaces with
    | [] => some 0
    | mark :: rest => if isExponentMark mark then Text.readInt? rest else none
  match Text.digitsValue? (whole ++ places), power? with
  | some digits, some power => some (Binary64.ofDecimal negative digits (power - places.length))
  | _, _ => none

def readBinary64? (s : String) : Option UInt64 :=
  let (negative, cs) := splitSign s.toList
  let name := String.ofList (cs.map Char.toLower)
  if name = "inf" || name = "infinity" then
    some (UInt64.ofNat (Binary64.signWord negative + Binary64.infiniteWord))
  else if name = "nan" then
    some (UInt64.ofNat (Binary64.signWord negative + Binary64.nanWord.toNat))
  else readMagnitude? negative cs

end ResultCursor.Numeric
