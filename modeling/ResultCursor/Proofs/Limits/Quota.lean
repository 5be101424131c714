import ResultCursor.Quota

/-! The sizes that a quota works with: what it may still hand out, what it asks for, and what it
keeps of a batch. -/

namespace ResultCursor.Quota

variable {q : Quota}

theorem magnitude_le_most (n : Int32) : magnitude n ≤ most := Nat.min_le_right _ _

theorem magnitude_pos {n : Int32} (h : n ≠ 0) : 0 < magnitude n := by
  have hn : n.toInt ≠ 0 := fun h' => h (Int32.toInt_inj.mp (by rw [h', Int32.toInt_zero]))
  unfold magnitude most
  omega

/-! ### The cap -/

theorem cap_le_most {c : Nat} (h : q.cap = some c) : c ≤ most := by
  unfold cap at h
  have hl := magnitude_le_most q.limit
  have hb := magnitude_le_most q.batchSize
  split at h
  · cases h
    exact hl
  · split at h
    · cases h
      split
      · exact hb
      · exact Nat.le_trans (Nat.min_le_left _ _) hl
    · split at h
      · cases h
      · cases h
        exact hl

/-- A limit is a cap, and no batch size lifts it. -/
theorem cap_of_limit (h : q.limit ≠ 0) : ∃ c, q.cap = some c ∧ c ≤ magnitude q.limit := by
  simp only [cap, h, if_false]
  split
  · exact ⟨_, rfl, Nat.le_refl _⟩
  · split
    · exact ⟨_, rfl, Nat.min_le_left _ _⟩
    · exact ⟨_, rfl, Nat.le_refl _⟩

theorem remaining_le_most {left : Nat} (h : q.remaining = some left) : left ≤ most := by
  obtain ⟨c, hc, rfl⟩ := Option.map_eq_some_iff.mp h
  exact Nat.le_trans (Nat.sub_le _ _) (cap_le_most hc)

/-! ### What is asked for -/

theorem effectiveBatchSize_le {left : Nat} (h : q.remaining = some left) :
    q.effectiveBatchSize ≤ left := by
  simp only [effectiveBatchSize, h]
  split
  · exact Nat.le_refl _
  · exact Nat.min_le_right _ _

/-- What is asked for is a number as long as something is left. -/
theorem effectiveBatchSize_pos {left : Nat} (h : q.remaining = some left) (hl : 0 < left) :
    0 < q.effectiveBatchSize := by
  simp only [effectiveBatchSize, h]
  split
  · exact hl
  · next hb =>
    have hb : q.batchSize ≠ 0 := fun he => hb (by simp [he])
    exact Nat.lt_min.mpr ⟨magnitude_pos hb, hl⟩

theorem effectiveBatchSize_le_most (q : Quota) : q.effectiveBatchSize ≤ most := by
  cases hr : q.remaining with
  | none => simpa only [effectiveBatchSize, hr] using magnitude_le_most q.batchSize
  | some left => exact Nat.le_trans (effectiveBatchSize_le hr) (remaining_le_most hr)

/-- The size of the next batch as the word in which it is sent. -/
theorem toInt_effectiveBatchSize (q : Quota) :
    (Int32.ofNat q.effectiveBatchSize).toInt = q.effectiveBatchSize := by
  have fits := q.effectiveBatchSize_le_most
  exact Int32.toInt_ofNat_of_lt (by unfold most at fits; omega)

/-! ### What is kept of a batch -/

theorem admitted_eq_take {left : Nat} (h : q.remaining = some left) (batch : List Document) :
    q.admitted batch = batch.take left := by
  simp [admitted, h]

theorem admitted_of_uncapped (h : q.remaining = none) (batch : List Document) :
    q.admitted batch = batch := by
  simp [admitted, h]

theorem admitted_eq (q : Quota) (batch : List Document) :
    q.admitted batch = match q.remaining with
      | some left => batch.take (min batch.length left)
      | none => batch := by
  cases hr : q.remaining with
  | none => exact admitted_of_uncapped hr batch
  | some left =>
    rw [admitted_eq_take hr]
    exact List.take_eq_take_min.trans (by rw [Nat.min_comm])

theorem admitted_length_le {left : Nat} (h : q.remaining = some left) (batch : List Document) :
    (q.admitted batch).length ≤ left := by
  rw [admitted_eq_take h]
  exact List.length_take_le _ _

end ResultCursor.Quota
