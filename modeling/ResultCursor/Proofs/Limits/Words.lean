import ResultCursor.Numeric.Word
import ResultCursor.Proofs.Limits.Quota

/-! A quota counts with natural numbers. Here it is computed in words of 32 bits, where a result
that does not fit is none. Whatever is done to a quota, the words come to what the natural numbers
come to, and so nothing ever overflows. -/

namespace ResultCursor

/-- A quota in words. -/
structure Words where
  limit : Int32
  batchSize : Int32
  fetched : Int32 := 0
  deriving DecidableEq, Repr

namespace Words

/-! ### Operations on words -/

/-- The absolute value. That of the least word does not fit and is cut off. -/
def magnitude (n : Int32) : Int32 := (Numeric.int32? n.toInt.natAbs).getD Int32.maxValue

def subtract? (a b : Int32) : Option Int32 := Numeric.int32? (a.toInt - b.toInt)

/-- The sum, cut off where it does not fit. -/
def saturatingAdd (a b : Int32) : Int32 := Int32.ofIntClamp (a.toInt + b.toInt)

/-- A length, cut off where it does not fit. -/
def ofLength (n : Nat) : Int32 := (Numeric.int32? n).getD Int32.maxValue

/-! ### The quota -/

def singleBatch (w : Words) : Bool := w.limit < 0 || w.batchSize < 0

def cap (w : Words) : Option Int32 :=
  if w.limit < 0 then some (magnitude w.limit)
  else if w.batchSize < 0 then
    some (if magnitude w.limit = 0 then magnitude w.batchSize
      else min (magnitude w.limit) (magnitude w.batchSize))
  else if magnitude w.limit = 0 then none
  else some (magnitude w.limit)

def remaining? (w : Words) : Option (Option Int32) :=
  match w.cap with
  | none => some none
  | some cap => (subtract? cap w.fetched).map fun left => some (max left 0)

def sizeFor (w : Words) : Option Int32 → Int32
  | none => magnitude w.batchSize
  | some left =>
    if w.singleBatch then left
    else if magnitude w.batchSize = 0 then left
    else min (magnitude w.batchSize) left

def effectiveBatchSize? (w : Words) : Option Int32 := w.remaining?.map w.sizeFor

def reached? (w : Words) : Option Bool := w.remaining?.map fun left => left = some 0

def stopsAfterBatch? (w : Words) : Option Bool := w.reached?.map fun r => w.singleBatch || r

def keep (batch : List Document) : Option Int32 → List Document
  | some left => batch.take left.toInt.toNat
  | none => batch

/-- Counts a batch as far as it is kept. -/
def receive? (w : Words) (batch : List Document) : Option (Words × List Document) :=
  w.remaining?.map fun left =>
    let kept := keep batch left
    ({ w with fetched := saturatingAdd w.fetched (ofLength kept.length) }, kept)

end Words

namespace Quota

/-- What is done to a quota. -/
inductive Use where
  | receive (batch : List Document)
  | setBatchSize (n : Int32)

/-- A quota is used. The documents that are kept are added to those kept before. -/
def use (q : Quota × List Document) : Use → Quota × List Document
  | .receive batch => (q.1.charge batch, q.2 ++ q.1.admitted batch)
  | .setBatchSize n => (q.1.withBatchSize n, q.2)

/-- The words of a quota. -/
def words (q : Quota) : Words := ⟨q.limit, q.batchSize, Int32.ofNat q.fetched⟩

end Quota

/-- The same in words. -/
def Words.use? (w : Words × List Document) : Quota.Use → Option (Words × List Document)
  | .receive batch => (w.1.receive? batch).map fun r => (r.1, w.2 ++ r.2)
  | .setBatchSize n => some ({ w.1 with batchSize := n }, w.2)

namespace Words

open Quota (most)

/-! ### Words and natural numbers -/

section

variable {m n : Nat}

theorem toInt_ofNat (h : n ≤ most) : (Int32.ofNat n).toInt = n :=
  Int32.toInt_ofNat_of_lt (by unfold most at h; omega)

theorem ofNat_inj (hm : m ≤ most) (hn : n ≤ most) : Int32.ofNat m = Int32.ofNat n ↔ m = n := by
  rw [← Int32.toInt_inj, toInt_ofNat hm, toInt_ofNat hn, Int.ofNat_inj]

theorem ofNat_le (hm : m ≤ most) (hn : n ≤ most) : Int32.ofNat m ≤ Int32.ofNat n ↔ m ≤ n := by
  rw [Int32.le_iff_toInt_le, toInt_ofNat hm, toInt_ofNat hn, Int.ofNat_le]

theorem min_ofNat (hm : m ≤ most) (hn : n ≤ most) :
    min (Int32.ofNat m) (Int32.ofNat n) = Int32.ofNat (min m n) := by
  change (if Int32.ofNat m ≤ Int32.ofNat n then _ else _) = _
  rw [Nat.min_def, apply_ite Int32.ofNat]
  simp only [ofNat_le hm hn]

theorem int32?_ofNat (n : Nat) :
    Numeric.int32? n = if n ≤ most then some (Int32.ofNat n) else none := by
  unfold Numeric.int32? most
  by_cases h : n ≤ 0x7fffffff
  · rw [if_pos ⟨by omega, by omega⟩, if_pos h]
    rfl
  · rw [if_neg (by omega), if_neg h]

/-- A number that is cut off where it does not fit. -/
theorem ofLength_eq (n : Nat) : ofLength n = Int32.ofNat (min n most) := by
  unfold ofLength
  rw [int32?_ofNat]
  by_cases h : n ≤ most
  · rw [if_pos h, Nat.min_eq_left h, Option.getD_some]
  · rw [if_neg h, Nat.min_eq_right (by omega)]
    rfl

theorem magnitude_eq (n : Int32) : magnitude n = Int32.ofNat (Quota.magnitude n) :=
  ofLength_eq n.toInt.natAbs

theorem ofIntClamp_natCast (n : Nat) : Int32.ofIntClamp n = Int32.ofNat (min n most) := by
  have low : Int32.minValue.toInt ≤ n := by rw [Int32.toInt_minValue]; omega
  have high : Int32.maxValue.toInt = most := Int32.toInt_maxValue
  unfold Int32.ofIntClamp
  rw [dif_pos low]
  by_cases h : n ≤ most
  · rw [dif_pos (by omega), Nat.min_eq_left h, Int32.ofIntLE_eq_ofInt]
    rfl
  · rw [dif_neg (by omega), Nat.min_eq_right (by omega)]
    rfl

theorem saturatingAdd_ofNat (hm : m ≤ most) (hn : n ≤ most) :
    saturatingAdd (Int32.ofNat m) (Int32.ofNat n) = Int32.ofNat (min (m + n) most) := by
  rw [saturatingAdd, toInt_ofNat hm, toInt_ofNat hn, ← Int.natCast_add, ofIntClamp_natCast]

/-- The difference of two numbers always fits, also where it is negative. -/
theorem subtract?_ofNat (hm : m ≤ most) (hn : n ≤ most) :
    (subtract? (Int32.ofNat m) (Int32.ofNat n)).map (max · 0) = some (Int32.ofNat (m - n)) := by
  have high : most = 0x7fffffff := rfl
  have negative : Int32.ofInt (m - n) ≤ 0 ↔ m ≤ n := by
    rw [Int32.le_iff_toInt_le, Int32.toInt_ofInt_of_le (by omega) (by omega), Int32.toInt_zero]
    omega
  rw [subtract?, toInt_ofNat hm, toInt_ofNat hn, Numeric.int32?, if_pos ⟨by omega, by omega⟩,
    Option.map_some]
  congr 1
  change (if Int32.ofInt (m - n) ≤ 0 then 0 else Int32.ofInt (m - n)) = _
  by_cases hle : m ≤ n
  · rw [if_pos (negative.mpr hle), Nat.sub_eq_zero_of_le hle]
    rfl
  · rw [if_neg (mt negative.mp hle), ← Int.ofNat_sub (by omega), Int32.ofInt_eq_ofNat]

end

/-! ### The words of a quota -/

section

variable {q : Quota}

theorem magnitude_eq_zero_iff (n : Int32) : magnitude n = 0 ↔ n = 0 := by
  rw [magnitude_eq]
  constructor
  · intro h
    have h0 := (ofNat_inj (Quota.magnitude_le_most n) (Nat.zero_le most)).mp h
    exact Decidable.byContradiction fun hn => Nat.ne_of_gt (Quota.magnitude_pos hn) h0
  · rintro rfl
    rfl

theorem cap_words (q : Quota) : q.words.cap = q.cap.map Int32.ofNat := by
  have smaller := min_ofNat (Quota.magnitude_le_most q.limit) (Quota.magnitude_le_most q.batchSize)
  unfold cap Quota.cap
  simp only [Quota.words, magnitude_eq_zero_iff]
  simp only [magnitude_eq, smaller]
  split
  · rfl
  · split
    · split <;> rfl
    · split <;> rfl

theorem remaining?_words (h : q.fetched ≤ most) :
    q.words.remaining? = some (q.remaining.map Int32.ofNat) := by
  unfold remaining? Quota.remaining
  rw [cap_words]
  cases hc : q.cap with
  | none => rfl
  | some c =>
    have left := subtract?_ofNat (Quota.cap_le_most hc) h
    have some_left := congrArg (Option.map some) left
    rwa [Option.map_map, Option.map_some] at some_left

theorem sizeFor_words (q : Quota) :
    q.words.sizeFor (q.remaining.map Int32.ofNat) = Int32.ofNat q.effectiveBatchSize := by
  cases hr : q.remaining with
  | none => simp only [Option.map_none, sizeFor, Quota.effectiveBatchSize, hr, Quota.words,
      magnitude_eq]
  | some left =>
    have smaller := min_ofNat (Quota.magnitude_le_most q.batchSize) (Quota.remaining_le_most hr)
    have zero : magnitude q.words.batchSize = 0 ↔ q.batchSize = 0 := magnitude_eq_zero_iff _
    have single : q.words.singleBatch = q.singleBatch := rfl
    simp only [Option.map_some, sizeFor, Quota.effectiveBatchSize, hr, zero, single]
    cases q.singleBatch with
    | true => rfl
    | false =>
      by_cases hb : q.batchSize = 0
      · simp [hb]
      · simpa [hb, Quota.words, magnitude_eq] using smaller

theorem effectiveBatchSize?_words (h : q.fetched ≤ most) :
    q.words.effectiveBatchSize? = some (Int32.ofNat q.effectiveBatchSize) := by
  rw [effectiveBatchSize?, remaining?_words h, Option.map_some, sizeFor_words]

theorem reached?_words (h : q.fetched ≤ most) : q.words.reached? = some q.reached := by
  rw [reached?, remaining?_words h, Option.map_some, Quota.reached]
  cases hr : q.remaining with
  | none => rfl
  | some left =>
    have zero : Int32.ofNat left = 0 ↔ left = 0 :=
      ofNat_inj (Quota.remaining_le_most hr) (Nat.zero_le most)
    simp [zero]

theorem stopsAfterBatch?_words (h : q.fetched ≤ most) :
    q.words.stopsAfterBatch? = some q.stopsAfterBatch := by
  rw [stopsAfterBatch?, reached?_words h]
  rfl

theorem keep_words (q : Quota) (batch : List Document) :
    keep batch (q.remaining.map Int32.ofNat) = q.admitted batch := by
  cases hr : q.remaining with
  | none => exact (Quota.admitted_of_uncapped hr batch).symm
  | some left =>
    rw [Quota.admitted_eq_take hr, Option.map_some, keep,
      toInt_ofNat (Quota.remaining_le_most hr), Int.toNat_natCast]

theorem receive?_words (h : q.fetched ≤ most) (batch : List Document) :
    q.words.receive? batch = some ((q.charge batch).words, q.admitted batch) := by
  have sum := saturatingAdd_ofNat h (Nat.min_le_right (q.admitted batch).length most)
  have cut : min (q.fetched + min (q.admitted batch).length most) most =
      min (q.fetched + (q.admitted batch).length) most := by omega
  rw [cut, ← ofLength_eq] at sum
  rw [receive?, remaining?_words h, Option.map_some, keep_words]
  simp only [Quota.words, sum, Quota.charge]

end

end Words

/-! ### Any use of a quota -/

namespace Quota

/-- The numbers are in order after documents were kept under a limit. -/
structure Tallies (limit : Int32) (r : Quota × List Document) : Prop where
  sameLimit : r.1.limit = limit
  fetched : r.1.fetched = min most r.2.length
  within : limit ≠ 0 → r.2.length ≤ magnitude limit

theorem Tallies.fetched_le {limit : Int32} {r : Quota × List Document} (h : Tallies limit r) :
    r.1.fetched ≤ most :=
  h.fetched ▸ Nat.min_le_left _ _

theorem Tallies.use {limit : Int32} {r : Quota × List Document} (h : Tallies limit r) (u : Use) :
    Tallies limit (Quota.use r u) := by
  cases u with
  | setBatchSize n => exact ⟨h.sameLimit, h.fetched, h.within⟩
  | receive batch =>
    have hf := h.fetched
    refine ⟨h.sameLimit, ?_, fun hl => ?_⟩
    · simp only [Quota.use, charge, List.length_append]
      omega
    · have hw := h.within hl
      have hm := magnitude_le_most limit
      obtain ⟨c, hc, hle⟩ := cap_of_limit (q := r.1) (h.sameLimit ▸ hl)
      have hr : r.1.remaining = some (c - r.1.fetched) := by simp [remaining, hc]
      have new := admitted_length_le hr batch
      rw [h.sameLimit] at hle
      simp only [Quota.use, List.length_append]
      omega

theorem Tallies.useAll {limit : Int32} {r : Quota × List Document} (h : Tallies limit r)
    (uses : List Use) : Tallies limit (uses.foldl Quota.use r) := by
  induction uses generalizing r with
  | nil => exact h
  | cons u uses ih => exact ih (h.use u)

end Quota

theorem Words.use?_words {limit : Int32} {r : Quota × List Document} (h : Quota.Tallies limit r)
    (u : Quota.Use) :
    use? (r.1.words, r.2) u = some ((Quota.use r u).1.words, (Quota.use r u).2) := by
  cases u with
  | setBatchSize n => rfl
  | receive batch => simp only [use?, receive?_words h.fetched_le, Option.map_some, Quota.use]

theorem Words.useAll_words {limit : Int32} {r : Quota × List Document} (h : Quota.Tallies limit r)
    (uses : List Quota.Use) :
    uses.foldlM use? (r.1.words, r.2) =
      some ((uses.foldl Quota.use r).1.words, (uses.foldl Quota.use r).2) := by
  induction uses generalizing r with
  | nil => rfl
  | cons u uses ih =>
    rw [List.foldlM_cons, use?_words h u]
    exact ih (h.use u)

/-- Words with which nothing overflows: whatever is computed from them comes to the number that
the quota has there. -/
structure Words.Sound (q : Quota) (w : Words) : Prop where
  limit : w.limit = q.limit
  batchSize : w.batchSize = q.batchSize
  fetched : w.fetched.toInt = q.fetched
  remaining : w.remaining? = some (q.remaining.map Int32.ofNat)
  size : w.effectiveBatchSize? = some (Int32.ofNat q.effectiveBatchSize)
  reached : w.reached? = some q.reached
  stops : w.stopsAfterBatch? = some q.stopsAfterBatch
  receives : ∀ batch, w.receive? batch = some ((q.charge batch).words, q.admitted batch)

theorem Quota.words_sound {q : Quota} (h : q.fetched ≤ most) : q.words.Sound q where
  limit := rfl
  batchSize := rfl
  fetched := Words.toInt_ofNat h
  remaining := Words.remaining?_words h
  size := Words.effectiveBatchSize?_words h
  reached := Words.reached?_words h
  stops := Words.stopsAfterBatch?_words h
  receives := Words.receive?_words h

/-- The least word has no absolute value among the words, and counts as the greatest. -/
example : (⟨Int32.minValue, Int32.minValue, 0⟩ : Words).effectiveBatchSize? =
    some Int32.maxValue := by
  decide

/-- Whatever is done to a quota, nothing overflows in its words. The documents kept are counted
rightly, up to the largest number; of a batch, the first ones are kept, as many as are left; what is
asked for is at most what is left; and no more documents are kept than the limit says. -/
theorem quota_arithmetic_safe (limit batchSize : Int32) (uses : List Quota.Use) :
    ∃ q w kept, uses.foldl Quota.use ({ limit, batchSize }, []) = (q, kept) ∧
      uses.foldlM Words.use? ({ limit, batchSize }, []) = some (w, kept) ∧ w.Sound q ∧
      (0 ≤ w.fetched ∧ w.fetched.toInt = min Quota.most kept.length) ∧
      (∀ batch, q.admitted batch = match q.remaining with
        | some left => batch.take (min batch.length left)
        | none => batch) ∧
      (∀ size, w.effectiveBatchSize? = some size →
        0 ≤ size ∧ ∀ left, w.remaining? = some (some left) → size ≤ left) ∧
      (limit ≠ 0 → kept.length ≤ Quota.magnitude limit) := by
  have start : Quota.Tallies limit ({ limit, batchSize }, []) := ⟨rfl, rfl, fun _ => Nat.zero_le _⟩
  have tallies := start.useAll uses
  have words := Words.useAll_words start uses
  generalize uses.foldl Quota.use ({ limit, batchSize }, []) = r at tallies words
  obtain ⟨q, kept⟩ := r
  have sound := Quota.words_sound tallies.fetched_le
  have counted : q.words.fetched.toInt = min Quota.most kept.length := by
    rw [sound.fetched, tallies.fetched]
  refine ⟨q, q.words, kept, rfl, words, sound, ⟨?_, counted⟩, q.admitted_eq, fun size hs => ?_,
    tallies.within⟩
  · rw [Int32.le_iff_toInt_le, sound.fetched, Int32.toInt_zero]
    exact Int.natCast_nonneg _
  · cases sound.size.symm.trans hs
    have fits := q.effectiveBatchSize_le_most
    refine ⟨(Words.ofNat_le (Nat.zero_le _) fits).mpr (Nat.zero_le _), fun left hl => ?_⟩
    have hr := Option.some.inj (sound.remaining.symm.trans hl)
    obtain ⟨n, hn, rfl⟩ := Option.map_eq_some_iff.mp hr
    exact (Words.ofNat_le fits (Quota.remaining_le_most hn)).mpr (Quota.effectiveBatchSize_le hn)

end ResultCursor
