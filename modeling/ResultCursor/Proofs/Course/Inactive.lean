import ResultCursor.Proofs.Course.Coherence

/-! What a call has come to when it cleans up before it answers: the last reply exhausted the
cursor, or a failure that is no cancellation closed it. -/

namespace ResultCursor

/-- The cursor as a clean-up in the middle of a call finds it. -/
def Aftermath.Inactive (s : Session) : Aftermath → Prop
  | .fetched _ => s.cursor.phase = .exhausted
  | .failing _ f => s.cursor.phase = .closed ∧ f.isCancellation = false
  | _ => True

def Control.Inactive (s : Session) : Control → Prop
  | .leaving after => after.Inactive s
  | .cleaning _ after => after.Inactive s
  | .waiting (.kill _ after) => after.Inactive s
  | _ => True

theorem Aftermath.Inactive.of_phase {s t : Session} {after : Aftermath} (h : after.Inactive s)
    (hp : t.cursor.phase = s.cursor.phase) : after.Inactive t := by
  cases after with
  | fetched call => exact hp.trans h
  | failing call f => exact ⟨hp.trans h.1, h.2⟩
  | _ => trivial

theorem Control.Inactive.of_cursor {s t : Session} {c : Control} (h : c.Inactive s)
    (hc : t.cursor = s.cursor) : c.Inactive t := by
  have hp : t.cursor.phase = s.cursor.phase := by rw [hc]
  match c with
  | .leaving after => exact Aftermath.Inactive.of_phase h hp
  | .cleaning _ after => exact Aftermath.Inactive.of_phase h hp
  | .waiting (.kill _ after) => exact Aftermath.Inactive.of_phase h hp
  | .waiting (.batch _) => trivial
  | .idle => trivial
  | .calling _ => trivial
  | .resuming _ => trivial

/-- What is due is no clean-up while the cursor is active. -/
theorem Control.Inactive.due {s : Session} {after : Aftermath}
    (h : s.cursor.phase ≠ .active → after.Inactive s) : (Control.due s after).Inactive s := by
  unfold Control.due
  split
  · trivial
  · next hp => exact h hp

theorem Cursor.named_isCancellation {c : Cursor} {f : Failure} (hf : f.isCancellation = false) :
    (c.named f).isCancellation = false := by
  rcases c.named_eq_or f with h | ⟨id, address, h⟩
  · rw [h, hf]
  · rw [h]
    rfl

/-- The result of a request makes an active cursor inactive in one of two ways. -/
theorem Session.settleFetch_inactive {s t : Session} {result : Except Failure Document}
    {outcome : Except Failure Unit} (call : Call) (h : s.settleFetch result = (t, outcome))
    (active : s.cursor.phase = .active) (hp : t.cursor.phase ≠ .active) :
    (Aftermath.ofFetch call outcome).Inactive t := by
  rcases settleFetch_cases h with
      ⟨r, n, -, rfl, rfl⟩ | ⟨f, n, -, -, -, rfl⟩ | ⟨f, n, -, hf, rfl, rfl⟩
  · simp only [Aftermath.ofFetch, Aftermath.Inactive, note_cursor, Cursor.absorb] at hp ⊢
    split
    · rfl
    · next hn =>
      rw [if_neg hn] at hp
      exact absurd active hp
  · exact absurd active hp
  · exact ⟨rfl, Cursor.named_isCancellation hf⟩

namespace Situation

variable {R : Rules} {S T : Situation} {reply : Document} {setting : Setting}

theorem Step.inactive (step : Step R S T) (hc : S.Coherent)
    (hS : S.control.Inactive S.session) : T.control.Inactive T.session := by
  cases step with
  | adjust deadline clock => exact hS.of_cursor rfl
  | note n => exact hS.of_cursor rfl
  | refuse allowed needed refused settled =>
    obtain ⟨since, n, rfl, -, rfl⟩ := hc.refused needed refused settled
    exact .due fun _ => ⟨rfl, rfl⟩
  | @settle s t call h outcome result settled =>
    have active : s.cursor.phase = .active := hc.fits.active hc.fits.remote
    exact .due fun hp => Session.settleFetch_inactive call settled active hp
  | takeKill =>
    apply Aftermath.Inactive.of_phase hS
    simp [Session.takeKill_fst_cursor]
  | sendKill clean =>
    apply Aftermath.Inactive.of_phase hS
    rw [Session.cleanUp_cursor clean]
  | _ => trivial

theorem Courses.inactive (hS : Courses reply setting S) : S.control.Inactive S.session :=
  hS.induction (fun _ _ => .due fun _ => trivial)
    fun _ _ hC hS step => step.inactive hC.coherent hS

end Situation

end ResultCursor
