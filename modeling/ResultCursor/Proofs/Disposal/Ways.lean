import ResultCursor.Proofs.Disposal.Sessions

/-! The ways to be done with a cursor: to close it, once or more often, to drop it, or both. A call
that was made goes on until nothing is under way any more, or it breaks off; how that happens is
left open. -/

namespace ResultCursor

/-- What is done with a cursor of some kind at its end. -/
structure Disposal (σ μ : Type) where
  act : σ → μ → Option σ
  close : μ
  drop : μ
  /-- The moves by which what is under way goes on or breaks off. -/
  goes : σ → μ → Prop
  /-- Nothing is under way. -/
  rests : σ → Prop
  /-- A call can be made. -/
  free : σ → Prop
  session : σ → Session
  answers : σ → List Answer

namespace Disposal

variable {σ μ : Type} {D : Disposal σ μ} {stop : Option Bool} {s t u : σ} {m : μ}

inductive ComesToRest (D : Disposal σ μ) : σ → σ → Prop where
  | rests {s : σ} (rests : D.rests s) : ComesToRest D s s
  | goes {s t u : σ} {m : μ} (goes : D.goes s m) (made : D.act s m = some t)
      (rest : ComesToRest D t u) : ComesToRest D s u

/-- The move is made, and what it starts comes to its end. -/
def Takes (D : Disposal σ μ) (s : σ) (m : μ) (t : σ) : Prop :=
  ∃ u, D.act s m = some u ∧ D.ComesToRest u t

/-- To be done with a cursor: it is dropped, it is closed, or it is closed and done with again. -/
inductive Ends (D : Disposal σ μ) : σ → σ → Prop where
  | drop {s t : σ} (dropped : D.Takes s D.drop t) : Ends D s t
  | close {s t : σ} (closed : D.Takes s D.close t) : Ends D s t
  | again {s t u : σ} (closed : D.Takes s D.close t) (rest : Ends D t u) : Ends D s u

/-- What holds when the move is made, and is kept by what goes on, holds at the end. -/
theorem Takes.induction {P : σ → Prop} (taken : D.Takes s m t)
    (first : ∀ u, D.act s m = some u → P u)
    (kept : ∀ u v n, P u → D.goes u n → D.act u n = some v → P v) : P t ∧ D.rests t := by
  obtain ⟨u, made, rest⟩ := taken
  have holds := first u made
  clear made first
  induction rest with
  | rests rests => exact ⟨holds, rests⟩
  | goes goes made rest ih => exact ih (kept _ _ _ holds goes made)

/-- What is taken is a run of moves. -/
theorem Takes.run (taken : D.Takes s m t) : ∃ moves : List μ, moves.foldlM D.act s = some t := by
  obtain ⟨u, made, rest⟩ := taken
  suffices h : ∃ moves : List μ, moves.foldlM D.act u = some t by
    obtain ⟨moves, run⟩ := h
    exact ⟨m :: moves, by simpa [made] using run⟩
  clear made
  induction rest with
  | rests rests => exact ⟨[], rfl⟩
  | @goes s t u n goes made rest ih =>
    obtain ⟨moves, run⟩ := ih
    exact ⟨n :: moves, by simpa [made] using run⟩

/-- In this kind closing and dropping do what is left to do, and nothing else. -/
structure Lawful (D : Disposal σ μ) (stop : Option Bool) (Free : σ → Prop) : Prop where
  closes : ∀ s, Free s → ∃ t, D.Takes s D.close t
  drops : ∀ s, Free s → ∃ t, D.Takes s D.drop t
  closed : ∀ s t, Free s → D.Takes s D.close t →
    Free t ∧ Session.Disposed stop (D.session s) (D.session t) ∧
      (D.answers t = D.answers s ++ [.done] → (D.session t).cursor.phase = .closed)
  dropped : ∀ s t, Free s → D.Takes s D.drop t →
    Session.Disposed stop (D.session s) (D.session t)

theorem Lawful.ends {Free : σ → Prop} (lawful : D.Lawful stop Free) (free : Free s)
    (ends : D.Ends s t) : Session.Disposed stop (D.session s) (D.session t) := by
  induction ends with
  | drop dropped => exact lawful.dropped _ _ free dropped
  | close closed => exact (lawful.closed _ _ free closed).2.1
  | again closed rest ih =>
    obtain ⟨free, disposed, -⟩ := lawful.closed _ _ free closed
    exact disposed.trans (ih free)

/-- What it comes to when one is done with a cursor. -/
structure Disposable (D : Disposal σ μ) (before : Counts) (s : σ) : Prop where
  /-- The cursor can be closed and dropped, and closed again. -/
  possible : (∃ t, D.Takes s D.close t) ∧ (∃ t, D.Takes s D.drop t) ∧
    ∀ t, D.Takes s D.close t → D.free t
  /-- Every way has the same effect. -/
  same : ∀ t u, D.Ends s t → D.Ends s u → (D.session t).effect = (D.session u).effect
  restored : ∀ t, D.Ends s t → (D.session t).leased = false ∧ (D.session t).counts = before ∧
    (D.session t).deadline.override = (D.session s).deadline.override
  /-- A close that returns has closed the cursor. -/
  closed : ∀ t, D.Takes s D.close t → D.answers t = D.answers s ++ [.done] →
    (D.session t).cursor.phase = .closed ∧ (D.session t).cursor.available = 0 ∧
      (D.session t).cursor.remote = none
  /-- Nothing is sent after a close, however it ended and whatever happens. -/
  silent : ∀ t, D.Takes s D.close t → ∀ (moves : List μ) u, moves.foldlM D.act t = some u →
    (D.session u).sendings = (D.session t).sendings

theorem Lawful.disposable {Free : σ → Prop} {before : Counts} (lawful : D.Lawful stop Free)
    (ready : Free s) (free : ∀ t, Free t → D.free t) (fair : (D.session s).lending.Fair before)
    (silent : ∀ t, D.Takes s D.close t → (D.session t).Spent → ∀ (moves : List μ) u,
      moves.foldlM D.act t = some u → (D.session u).sendings = (D.session t).sendings) :
    D.Disposable before s where
  possible := by
    refine ⟨lawful.closes s ready, lawful.drops s ready, fun t taken => ?_⟩
    obtain ⟨again, -⟩ := lawful.closed s t ready taken
    exact free t again
  same t u ht hu := (lawful.ends ready ht).effect_eq (lawful.ends ready hu)
  restored t ht := by
    have disposed := lawful.ends ready ht
    have returned := disposed.spent.returned
    have still : (D.session t).lending.Fair before := disposed.lending ▸ fair.giveBack
    exact ⟨returned, (still.of_not_leased returned).1, disposed.override⟩
  closed t taken told := by
    obtain ⟨-, disposed, shut⟩ := lawful.closed s t ready taken
    have closed := shut told
    exact ⟨closed, by simp [Cursor.available, closed], disposed.gone⟩
  silent t taken := silent t taken (lawful.closed s t ready taken).2.1.spent

end Disposal

end ResultCursor
