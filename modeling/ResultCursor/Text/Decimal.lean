import ResultCursor.Numeric.Word

/-! Whole numbers in decimal notation, read within bounds. -/

namespace ResultCursor.Text

def digitsValue? (cs : List Char) : Option Nat :=
  if cs.isEmpty || !cs.all Char.isDigit then none
  else some (cs.foldl (fun n c => 10 * n + (c.toNat - '0'.toNat)) 0)

/-- A number without a minus sign: one optional plus sign, then digits only. -/
def readNat? (cs : List Char) : Option Nat :=
  match cs with
  | '+' :: rest => digitsValue? rest
  | _ => digitsValue? cs

/-- A number with an optional sign, then digits only. -/
def readInt? (cs : List Char) : Option Int :=
  match cs with
  | '-' :: rest => (digitsValue? rest).map fun n => -(n : Int)
  | _ => (readNat? cs).map Int.ofNat

/-- A number of 32 bits with sign. -/
def readInt32? (s : String) : Option Int32 :=
  (readInt? s.toList).bind Numeric.int32?

/-- A number of 64 bits without sign. -/
def readWord64? (s : String) : Option UInt64 :=
  (readNat? s.toList).bind fun n => Numeric.word64? n

end ResultCursor.Text
