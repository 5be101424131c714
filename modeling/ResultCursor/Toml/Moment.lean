import ResultCursor.Text.Decimal

/-! Dates and times of the day. A date is one of the Gregorian calendar; a time may lack its
seconds; both together may be followed by the distance from universal time. -/

namespace ResultCursor.Toml

/-- A number of exactly so many digits within the bounds, and what follows it. -/
def fixedNumber? (width low high : Nat) (cs : List Char) : Option (Nat × List Char) :=
  let digits := cs.take width
  match Text.digitsValue? digits with
  | some n => if digits.length = width ∧ low ≤ n ∧ n ≤ high then some (n, cs.drop width) else none
  | none => none

def skipChar? (c : Char) : List Char → Option (List Char)
  | d :: rest => if c = d then some rest else none
  | [] => none

def isLeapYear (year : Nat) : Bool := year % 4 = 0 && (year % 100 ≠ 0 || year % 400 = 0)

def daysOf (year month : Nat) : Nat :=
  if month = 2 then if isLeapYear year then 29 else 28
  else if month = 4 || month = 6 || month = 9 || month = 11 then 30
  else 31

/-- What follows a date. -/
def skipDate? (cs : List Char) : Option (List Char) := do
  let (year, cs) ← fixedNumber? 4 0 9999 cs
  let cs ← skipChar? '-' cs
  let (month, cs) ← fixedNumber? 2 1 12 cs
  let cs ← skipChar? '-' cs
  let (_, cs) ← fixedNumber? 2 1 (daysOf year month) cs
  return cs

/-- What follows the fraction of a second, if there is one. -/
def skipFraction? : List Char → Option (List Char)
  | '.' :: cs =>
    if (cs.takeWhile Char.isDigit).isEmpty then none else some (cs.dropWhile Char.isDigit)
  | cs => some cs

/-- What follows a time of the day. A minute may have a leap second. -/
def skipTime? (cs : List Char) : Option (List Char) := do
  let (_, cs) ← fixedNumber? 2 0 23 cs
  let cs ← skipChar? ':' cs
  let (_, cs) ← fixedNumber? 2 0 59 cs
  match cs with
  | ':' :: cs =>
    let (_, cs) ← fixedNumber? 2 0 60 cs
    skipFraction? cs
  | cs => return cs

/-- What follows the distance from universal time, if there is one. -/
def skipOffset? (cs : List Char) : Option (List Char) :=
  match cs with
  | [] => some []
  | c :: cs =>
    if c = 'Z' || c = 'z' then some cs
    else if c = '+' || c = '-' then do
      let (_, cs) ← fixedNumber? 2 0 23 cs
      let cs ← skipChar? ':' cs
      let (_, cs) ← fixedNumber? 2 0 59 cs
      return cs
    else none

def isDate (cs : List Char) : Bool := skipDate? cs = some []

def isMoment (cs : List Char) : Bool :=
  match skipDate? cs with
  | some [] => true
  | some (c :: cs) =>
    (c = 'T' || c = 't' || c = ' ') && (skipTime? cs).bind skipOffset? = some []
  | none => skipTime? cs = some []

end ResultCursor.Toml
