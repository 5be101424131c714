import ResultCursor.Proofs.Limits.Quota

/-! What a quota makes of batches that come one after the other and ask for no more than is left:
every one of them is kept whole, and the cap is reached with the last document that it allows. -/

namespace ResultCursor

/-- The documents that a cap allows. -/
def upTo (cap : Option Nat) (ds : List Document) : List Document :=
  match cap with
  | none => ds
  | some c => ds.take c

/-- A part of the documents that ends before the cap does. -/
theorem take_drop_upTo {cap : Option Nat} {k n : Nat} (fits : ∀ c, cap = some c → k + n ≤ c)
    (ds : List Document) : ((upTo cap ds).drop k).take n = (ds.drop k).take n := by
  cases cap with
  | none => rfl
  | some c =>
    have room : n ≤ c - k := by have := fits c rfl; omega
    simp only [upTo, List.drop_take, List.take_take, Nat.min_eq_left room]

/-- Nothing is left at the end of the documents, or at the cap. -/
theorem drop_upTo_eq_nil {cap : Option Nat} {k : Nat} {ds : List Document}
    (done : ds.length ≤ k ∨ cap = some k) : (upTo cap ds).drop k = [] := by
  apply List.drop_eq_nil_of_le
  cases cap with
  | none => simpa [upTo] using done
  | some c =>
    simp only [upTo, List.length_take, Option.some.injEq] at done ⊢
    omega

namespace Quota

variable {q : Quota} {cap : Option Nat} {k : Nat} {batch : List Document}

theorem singleBatch_eq_false_iff : q.singleBatch = false ↔ 0 ≤ q.limit ∧ 0 ≤ q.batchSize := by
  simp [singleBatch, Int32.not_lt]

/-- The cap of a single batch is all that is asked for. -/
theorem cap_of_singleBatch (h : q.singleBatch = true) : ∃ c, q.cap = some c ∧ 0 < c := by
  simp only [singleBatch, Bool.or_eq_true, decide_eq_true_eq] at h
  have pos {n : Int32} (hn : n < 0) : 0 < magnitude n :=
    magnitude_pos fun he => Int32.lt_irrefl (he ▸ hn)
  by_cases hl : q.limit < 0
  · exact ⟨_, by simp [cap, hl], pos hl⟩
  · have hb : q.batchSize < 0 := h.resolve_left hl
    by_cases hz : q.limit = 0
    · exact ⟨_, by simp [cap, hb, hz], pos hb⟩
    · exact ⟨_, by simp [cap, hl, hb, hz], Nat.lt_min.mpr ⟨magnitude_pos hz, pos hb⟩⟩

/-- A batch size that is not negative has no say in the cap. -/
theorem cap_of_not_single (h : q.singleBatch = false) :
    q.cap = if q.limit = 0 then none else some (magnitude q.limit) := by
  obtain ⟨hl, hb⟩ := singleBatch_eq_false_iff.mp h
  simp [cap, Int32.not_lt.mpr hl, Int32.not_lt.mpr hb]

theorem singleBatch_withBatchSize (h : q.singleBatch = false) {n : Int32} (hn : 0 ≤ n) :
    (q.withBatchSize n).singleBatch = false :=
  singleBatch_eq_false_iff.mpr ⟨(singleBatch_eq_false_iff.mp h).1, hn⟩

/-- Under this cap, so many documents were kept. -/
structure At (cap : Option Nat) (k : Nat) (q : Quota) : Prop where
  capped : q.cap = cap
  fetched : ∀ c, cap = some c → q.fetched = k ∧ k ≤ c

namespace At

theorem remaining_eq (h : q.At cap k) : q.remaining = cap.map (· - k) := by
  unfold remaining
  rw [h.capped]
  cases cap with
  | none => rfl
  | some c => simp [(h.fetched c rfl).1]

/-- A batch for which there is room is kept. -/
theorem admitted_eq (h : q.At cap k) (fits : ∀ c, cap = some c → k + batch.length ≤ c) :
    q.admitted batch = batch := by
  cases cap with
  | none => exact admitted_of_uncapped h.remaining_eq batch
  | some c =>
    have left : q.remaining = some (c - k) := h.remaining_eq
    rw [admitted_eq_take left]
    exact List.take_of_length_le (by have := fits c rfl; omega)

theorem charge (h : q.At cap k) (fits : ∀ c, cap = some c → k + batch.length ≤ c) :
    (q.charge batch).At cap (k + batch.length) where
  capped := h.capped
  fetched c hc := by
    have most : c ≤ most := cap_le_most (h.capped.trans hc)
    have room := fits c hc
    refine ⟨?_, room⟩
    simp only [Quota.charge, h.admitted_eq fits, (h.fetched c hc).1]
    omega

theorem withBatchSize (h : q.At cap k) (plain : q.singleBatch = false) {n : Int32} (hn : 0 ≤ n) :
    (q.withBatchSize n).At cap k where
  capped := by
    rw [cap_of_not_single (singleBatch_withBatchSize plain hn), ← h.capped, cap_of_not_single plain]
    rfl
  fetched := h.fetched

theorem stopsAfterBatch_iff (h : q.At cap k) :
    q.stopsAfterBatch = true ↔ q.singleBatch = true ∨ cap = some k := by
  simp only [stopsAfterBatch, reached, h.remaining_eq, Bool.or_eq_true, decide_eq_true_eq]
  cases cap with
  | none => simp
  | some c =>
    have := (h.fetched c rfl).2
    simp only [Option.map_some, Option.some.injEq]
    exact or_congr_right (by omega)

/-- What is asked for before the cap is reached. -/
theorem effectiveBatchSize (h : q.At cap k) {c : Nat} (hc : cap = some c) (hk : k < c) :
    0 < q.effectiveBatchSize ∧ k + q.effectiveBatchSize ≤ c := by
  have left : q.remaining = some (c - k) := by rw [h.remaining_eq, hc]; rfl
  have pos := effectiveBatchSize_pos left (by omega)
  have le := effectiveBatchSize_le left
  omega

end At

/-! ### The first batch -/

/-- The batch size of the query that opens a cursor; a negative one asks for a single batch. -/
def initialBatchSize (q : Quota) : Int32 :=
  if q.singleBatch then -Int32.ofNat q.effectiveBatchSize else Int32.ofNat q.effectiveBatchSize

/-- Before the first batch. -/
theorem at_zero (fresh : q.fetched = 0) : q.At q.cap 0 :=
  ⟨rfl, fun _ _ => ⟨fresh, Nat.zero_le _⟩⟩

theorem initialBatchSize_single (single : q.singleBatch = true) (fresh : q.fetched = 0) :
    ∃ c, q.cap = some c ∧ 0 < c ∧ q.initialBatchSize.toInt = -c := by
  obtain ⟨c, hc, pos⟩ := cap_of_singleBatch single
  have asked : q.effectiveBatchSize = c := by
    simp [Quota.effectiveBatchSize, remaining, hc, single, fresh]
  refine ⟨c, hc, pos, ?_⟩
  have most : c ≤ most := cap_le_most hc
  have fits := q.toInt_effectiveBatchSize
  rw [asked] at fits
  rw [initialBatchSize, if_pos single, asked, Int32.toInt_neg, fits]
  unfold Quota.most at most
  exact Int.bmod_eq_of_le (by omega) (by omega)

theorem initialBatchSize_plain (plain : q.singleBatch = false) :
    q.initialBatchSize.toInt = q.effectiveBatchSize := by
  rw [initialBatchSize, plain, if_neg Bool.false_ne_true, toInt_effectiveBatchSize]

end Quota

end ResultCursor
