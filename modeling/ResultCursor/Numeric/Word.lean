/-! Whole numbers that fit in a word. -/

namespace ResultCursor.Numeric

def int32? (n : Int) : Option Int32 :=
  if -0x80000000 ≤ n ∧ n < 0x80000000 then some (Int32.ofInt n) else none

def int64? (n : Int) : Option Int64 :=
  if -0x8000000000000000 ≤ n ∧ n < 0x8000000000000000 then some (Int64.ofInt n) else none

/-- A word without a sign. -/
def word64? (n : Int) : Option UInt64 :=
  if 0 ≤ n ∧ n < 0x10000000000000000 then some (UInt64.ofNat n.toNat) else none

theorem int32?_toInt (n : Int32) : int32? n.toInt = some n := by
  have low := n.le_toInt
  have high := n.toInt_lt
  rw [int32?, if_pos ⟨by omega, by omega⟩, Int32.ofInt_toInt]

theorem int64?_toInt (n : Int64) : int64? n.toInt = some n := by
  have low := n.le_toInt
  have high := n.toInt_lt
  rw [int64?, if_pos ⟨by omega, by omega⟩, Int64.ofInt_toInt]

theorem word64?_toNat (n : UInt64) : word64? n.toNat = some n := by
  have high := n.toNat_lt
  rw [word64?, if_pos ⟨by omega, by omega⟩, Int.toNat_natCast, UInt64.ofNat_toNat]

end ResultCursor.Numeric
