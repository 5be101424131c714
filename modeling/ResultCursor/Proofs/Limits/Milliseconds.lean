import Mathlib.Algebra.Order.Floor.Div
import Mathlib.GroupTheory.GroupAction.Ring
import Mathlib.Order.Bounds.Basic
import ResultCursor.Numeric.Word
import ResultCursor.Time.Span

/-! Spans in whole milliseconds. A span counts nanoseconds with natural numbers. Here it is also
held in words, whole seconds in 64 bits and the rest in 32, and its milliseconds are computed in
words of 128 bits, where a result that does not fit is none. The words come to what the natural
numbers come to: the milliseconds rounded up, and cut off at the largest number with a sign that 64
bits hold. -/

namespace ResultCursor.Span

/-! ### Whole milliseconds -/

/-- The least number of milliseconds that hold so many nanoseconds. -/
def wholeMillis (nanos : Nat) : Nat := (nanos + 999999) / 1000000

theorem wholeMillis_isLeast (nanos : Nat) :
    IsLeast {k | nanos ≤ k * 1000000} (wholeMillis nanos) := by
  unfold wholeMillis
  constructor
  · show nanos ≤ (nanos + 999999) / 1000000 * 1000000
    omega
  · intro k (hk : nanos ≤ k * 1000000)
    omega

theorem wholeMillis_pos {nanos : Nat} : 0 < wholeMillis nanos ↔ 0 < nanos := by
  unfold wholeMillis
  omega

theorem wholeMillis_mono {m n : Nat} (h : m ≤ n) : wholeMillis m ≤ wholeMillis n :=
  Nat.div_le_div_right (Nat.add_le_add_right h 999999)

theorem wholeMillis_mul (k : Nat) : wholeMillis (k * 1000000) = k := by
  unfold wholeMillis
  omega

/-- Rounding up adds one millisecond where a part of one is left. -/
theorem wholeMillis_eq_add (nanos : Nat) :
    wholeMillis nanos = nanos / 1000000 + if nanos % 1000000 = 0 then 0 else 1 := by
  unfold wholeMillis
  split <;> omega

variable {s t : Span}

theorem millis_eq (s : Span) : s.millis = min (wholeMillis s.nanos) maxMillis := rfl

theorem millis_eq_ceilDiv (s : Span) : s.millis = min (s.nanos ⌈/⌉ 1000000) maxMillis := by
  rw [millis_eq, wholeMillis, Nat.ceilDiv_eq_add_pred_div, Nat.add_sub_assoc (by decide)]

theorem millis_pos : 0 < s.millis ↔ 0 < s.nanos := by
  rw [millis_eq, Nat.lt_min, wholeMillis_pos]
  exact and_iff_left (by decide)

theorem millis_eq_zero : s.millis = 0 ↔ s = zero := by
  have pos : s.millis = 0 ↔ s.nanos = 0 := by
    rw [← Nat.le_zero, ← Nat.not_lt, millis_pos, Nat.not_lt, Nat.le_zero]
  rw [pos]
  exact ⟨fun h => congrArg Span.mk h, fun h => h ▸ rfl⟩

theorem millis_mono (h : s.nanos ≤ t.nanos) : s.millis ≤ t.millis :=
  Nat.le_min.mpr
    ⟨Nat.le_trans (Nat.min_le_left _ _) (wholeMillis_mono h), Nat.min_le_right _ _⟩

theorem millis_min (s t : Span) : (min s t).millis = min s.millis t.millis := by
  rcases Nat.le_total s.nanos t.nanos with h | h
  · have least : (min s t).nanos = s.nanos := by rw [min_nanos, Nat.min_eq_left h]
    rw [Nat.min_eq_left (millis_mono h), millis, millis, least]
  · have least : (min s t).nanos = t.nanos := by rw [min_nanos, Nat.min_eq_right h]
    rw [Nat.min_eq_right (millis_mono h), millis, millis, least]

/-- Milliseconds that are not cut off hold the span, and less than one of them is too much. -/
theorem millis_bounds (fits : s.nanos ≤ maxMillis * 1000000) :
    s.nanos ≤ s.millis * 1000000 ∧ s.millis * 1000000 < s.nanos + 1000000 := by
  have whole : s.millis = wholeMillis s.nanos :=
    Nat.min_eq_left ((wholeMillis_isLeast s.nanos).2 fits)
  rw [whole, wholeMillis]
  omega

theorem millis_ofMillis (n : Nat) : (ofMillis n).millis = min n maxMillis := by
  rw [millis_eq, ofMillis, wholeMillis_mul]

/-- The number of milliseconds as the word in which it is sent. -/
theorem toInt_millis (s : Span) : (Int64.ofNat s.millis).toInt = s.millis := by
  have fits : s.millis ≤ maxMillis := Nat.min_le_right _ _
  exact Int64.toInt_ofNat_of_lt (by unfold maxMillis at fits; omega)

/-! ### The same in words -/

/-- A span in words: whole seconds, and nanoseconds that do not make another. -/
structure Words where
  seconds : UInt64
  nanos : UInt32
  nanos_lt : nanos.toNat < 1000000000

namespace Words

def span (w : Words) : Span := .ofParts w.seconds.toNat w.nanos.toNat

/-- Seconds count first, and nanoseconds between equal seconds. -/
instance : Min Words :=
  ⟨fun v w => if v.seconds < w.seconds ∨ v.seconds = w.seconds ∧ v.nanos ≤ w.nanos then v else w⟩

theorem toNat_nanosOf (m : UInt64) :
    ((m % 1000).toUInt32 * 1000000).toNat = m.toNat % 1000 * 1000000 := by
  have rest : m.toNat % 1000 < 1000 := Nat.mod_lt _ (by decide)
  have million : (1000000 : UInt32).toNat = 1000000 := rfl
  have thousand : (1000 : UInt64).toNat = 1000 := rfl
  rw [UInt32.toNat_mul, UInt64.toNat_toUInt32, UInt64.toNat_mod, million, thousand,
    Nat.mod_eq_of_lt (a := m.toNat % 1000) (by omega), Nat.mod_eq_of_lt (by omega)]

def ofMillis (m : UInt64) : Words where
  seconds := m / 1000
  nanos := (m % 1000).toUInt32 * 1000000
  nanos_lt := by
    rw [toNat_nanosOf]
    omega

/-! Operations on words of 128 bits. -/

def add? (a b : BitVec 128) : Option (BitVec 128) := if a.uaddOverflow b then none else some (a + b)

def multiply? (a b : BitVec 128) : Option (BitVec 128) :=
  if a.umulOverflow b then none else some (a * b)

/-- The word with a sign, cut off where it does not fit. -/
def narrow (a : BitVec 128) : Int64 := (Numeric.int64? a.toNat).getD Int64.maxValue

/-- The milliseconds of all whole seconds and those within the last, and one more where a part of
one is left. -/
def millis? (w : Words) : Option Int64 := do
  let seconds ← multiply? (w.seconds.toBitVec.setWidth 128) 1000
  let whole ← add? seconds ((w.nanos / 1000000).toBitVec.setWidth 128)
  let rounded ← add? whole (if w.nanos % 1000000 = 0 then 0 else 1)
  return narrow rounded

variable {v w : Words}

theorem span_nanos (w : Words) :
    w.span.nanos = w.seconds.toNat * 1000000000 + w.nanos.toNat := rfl

theorem span_min (v w : Words) : (min v w).span = min v.span w.span := by
  have hv := v.nanos_lt
  have hw := w.nanos_lt
  have before : (v.seconds < w.seconds ∨ v.seconds = w.seconds ∧ v.nanos ≤ w.nanos) ↔
      v.span.nanos ≤ w.span.nanos := by
    rw [UInt64.lt_iff_toNat_lt, ← UInt64.toNat_inj, UInt32.le_iff_toNat_le, span_nanos, span_nanos]
    omega
  change (if _ then v else w).span = if _ then v.span else w.span
  rw [apply_ite Words.span]
  simp only [before]

theorem span_ofMillis (m : UInt64) : (ofMillis m).span = .ofMillis m.toNat := by
  have seconds : (ofMillis m).seconds.toNat = m.toNat / 1000 := UInt64.toNat_div m 1000
  have nanos : (ofMillis m).nanos.toNat = m.toNat % 1000 * 1000000 := toNat_nanosOf m
  have same : m.toNat / 1000 * 1000000000 + m.toNat % 1000 * 1000000 = m.toNat * 1000000 := by
    omega
  rw [span, seconds, nanos, ofParts, same]
  rfl

theorem add?_eq {a b : BitVec 128} (h : a.toNat + b.toNat < 2 ^ 128) :
    ∃ c, add? a b = some c ∧ c.toNat = a.toNat + b.toNat := by
  have fits : ¬a.uaddOverflow b = true := by simpa [BitVec.uaddOverflow] using h
  exact ⟨a + b, if_neg fits, BitVec.toNat_add_of_not_uaddOverflow fits⟩

theorem multiply?_eq {a b : BitVec 128} (h : a.toNat * b.toNat < 2 ^ 128) :
    ∃ c, multiply? a b = some c ∧ c.toNat = a.toNat * b.toNat := by
  have fits : ¬a.umulOverflow b = true := by simpa [BitVec.umulOverflow] using h
  exact ⟨a * b, if_neg fits, BitVec.toNat_mul_of_not_umulOverflow fits⟩

theorem narrow_toInt (a : BitVec 128) : (narrow a).toInt = min a.toNat maxMillis := by
  unfold narrow Numeric.int64? maxMillis
  by_cases h : a.toNat < 0x8000000000000000
  · rw [if_pos ⟨by omega, by omega⟩, Option.getD_some,
      Int64.toInt_ofInt_of_le (by omega) (by omega)]
    omega
  · rw [if_neg (by omega), Option.getD_none, Int64.toInt_maxValue]
    omega

/-- No step overflows: the words count the whole milliseconds. -/
theorem millis?_eq (w : Words) : ∃ m, w.millis? = some m ∧ m.toInt = w.span.millis := by
  have seconds := w.seconds.toNat_lt
  have nanos := w.nanos_lt
  have long : (w.seconds.toBitVec.setWidth 128).toNat = w.seconds.toNat := by
    rw [BitVec.toNat_setWidth, UInt64.toNat_toBitVec]
    omega
  have part : ((w.nanos / 1000000).toBitVec.setWidth 128).toNat = w.nanos.toNat / 1000000 := by
    have quotient : (w.nanos / 1000000).toNat = w.nanos.toNat / 1000000 := UInt32.toNat_div _ _
    rw [BitVec.toNat_setWidth, UInt32.toNat_toBitVec, quotient]
    omega
  have rest : (if w.nanos % 1000000 = 0 then 0 else 1 : BitVec 128).toNat =
      if w.nanos.toNat % 1000000 = 0 then 0 else 1 := by
    have exact : w.nanos % 1000000 = 0 ↔ w.nanos.toNat % 1000000 = 0 := by
      rw [← UInt32.toNat_inj, UInt32.toNat_mod]
      rfl
    simp only [exact]
    split <;> rfl
  obtain ⟨a, ha, a_eq⟩ := multiply?_eq (a := w.seconds.toBitVec.setWidth 128) (b := 1000)
    (by rw [long]; simp only [BitVec.reduceToNat]; omega)
  rw [long] at a_eq
  obtain ⟨b, hb, b_eq⟩ := add?_eq (a := a) (b := (w.nanos / 1000000).toBitVec.setWidth 128)
    (by rw [a_eq, part]; simp only [BitVec.reduceToNat]; omega)
  rw [a_eq, part] at b_eq
  obtain ⟨c, hc, c_eq⟩ := add?_eq (a := b) (b := if w.nanos % 1000000 = 0 then 0 else 1)
    (by rw [b_eq, rest]; simp only [BitVec.reduceToNat]; split <;> omega)
  rw [b_eq, rest] at c_eq
  refine ⟨narrow c, ?_, ?_⟩
  · simp only [millis?, ha, hb, hc, Option.bind_eq_bind, Option.bind_some, Option.pure_def]
  · have total : c.toNat = wholeMillis w.span.nanos := by
      rw [c_eq, wholeMillis_eq_add, span_nanos]
      simp only [BitVec.reduceToNat]
      split <;> split <;> omega
    rw [narrow_toInt, total, millis_eq]

theorem le_of_millis {m n : Int64} (hm : m.toInt = v.span.millis) (hn : n.toInt = w.span.millis)
    (h : v.span.nanos ≤ w.span.nanos) : m ≤ n := by
  rw [Int64.le_iff_toInt_le, hm, hn, Int.ofNat_le]
  exact millis_mono h

theorem min_of_millis {k m n : Int64} (hk : k.toInt = (min v w).span.millis)
    (hm : m.toInt = v.span.millis) (hn : n.toInt = w.span.millis) : k = min m n := by
  have before : m ≤ n ↔ v.span.millis ≤ w.span.millis := by
    rw [Int64.le_iff_toInt_le, hm, hn, Int.ofNat_le]
  rw [← Int64.toInt_inj, hk, span_min, millis_min]
  change _ = (if m ≤ n then m else n).toInt
  rw [apply_ite Int64.toInt, hm, hn]
  simp only [before]
  split <;> omega

end Words

/-- The milliseconds of a span can be counted in words whatever the span is: nothing overflows on
the way. They are the least number that holds the span, cut off only at the largest word. So none
are counted for the empty span alone, a longer span never counts for less, the smaller of two spans
counts for the smaller number, and a number of milliseconds counts for itself. -/
theorem millis_counted_in_words :
    ∃ count : Words → Int64,
      (∀ w, w.millis? = some (count w) ∧ (count w).toInt = w.span.millis) ∧
      (∀ w, (count w).toInt = (min (w.span.nanos ⌈/⌉ 1000000) (2 ^ 63 - 1) : Nat)) ∧
      (∀ w, count w = 0 ↔ w.span = .zero) ∧
      (∀ v w, v.span.nanos ≤ w.span.nanos → count v ≤ count w) ∧
      (∀ w, w.span.nanos ⌈/⌉ 1000000 ≤ 2 ^ 63 - 1 →
        w.span.nanos ≤ (count w).toInt * 1000000 ∧
          (count w).toInt * 1000000 < w.span.nanos + 1000000) ∧
      (∀ v w, (min v w).span = min v.span w.span ∧ count (min v w) = min (count v) (count w)) ∧
      ∀ m, (Words.ofMillis m).span = ofMillis m.toNat ∧
        (count (Words.ofMillis m)).toInt = (min m.toNat (2 ^ 63 - 1) : Nat) := by
  choose count counted number using Words.millis?_eq
  refine ⟨count, fun w => ⟨counted w, number w⟩, ?_, ?_, ?_, ?_, ?_, ?_⟩
  · intro w
    rw [number, millis_eq_ceilDiv]
    rfl
  · intro w
    rw [← Int64.toInt_inj, number, Int64.toInt_zero, Int.natCast_eq_zero]
    exact millis_eq_zero
  · intro v w h
    exact Words.le_of_millis (number v) (number w) h
  · intro w h
    have fits : w.span.nanos ≤ maxMillis * 1000000 := by
      rw [Nat.mul_comm]
      exact (ceilDiv_le_iff_le_mul (by decide)).mp h
    have bounds := millis_bounds fits
    rw [number]
    omega
  · intro v w
    exact ⟨Words.span_min v w, Words.min_of_millis (number _) (number v) (number w)⟩
  · intro m
    have same := Words.span_ofMillis m
    refine ⟨same, ?_⟩
    rw [number, same, millis_ofMillis]
    rfl

/-- The longest span whose milliseconds are not cut off, but for a nanosecond. -/
example : (⟨9223372036854775, 806999999, by decide⟩ : Words).millis? = some Int64.maxValue := by
  decide +kernel

end ResultCursor.Span
