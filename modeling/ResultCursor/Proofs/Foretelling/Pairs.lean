import ResultCursor.Proofs.Agreement.Kinds
import ResultCursor.Proofs.Foretelling.Reading

/-! A `hasNext` and a `next` in lockstep. In a kind of cursor whose calls stop only for commands,
both hear the same outcomes, and one argument shows for every such kind that they keep abreast. -/

namespace ResultCursor

/-- A command returns, or it breaks off. -/
theorem Outcome.ofResult_or_crash {o : Outcome} (real : o ≠ .failure .noMoreElements) :
    (∃ result, result ≠ .error .noMoreElements ∧ o = .ofResult result) ∨
      ∃ text, o = .crash text := by
  cases o with
  | reply d => exact .inl ⟨.ok d, by simp, rfl⟩
  | failure f =>
    refine .inl ⟨.error f, fun said => real ?_, rfl⟩
    rw [Except.error.inj said]
  | crash text => exact .inr ⟨text, rfl⟩

namespace Wait.Foretells

variable {wait wait' : Wait} {h : History} {q : Quota}

/-- The history does not tell the two calls apart while they wait. -/
theorem hear_eq (waits : wait.Foretells wait') (result : Except Failure Document) :
    h.hear q wait' (.ofResult result) = h.hear q wait (.ofResult result) := by
  cases result <;> cases waits <;> rfl

theorem hear_told (waits : wait.Foretells wait') (h : History) (q : Quota) (o : Outcome) :
    (h.hear q wait o).answers = h.answers ∧ (h.hear q wait' o).answers = h.answers ∧
      (h.hear q wait o).ended = h.ended := by
  cases waits <;> cases o <;> simp [History.hear, History.giveUp, History.lose, History.breakOff,
    Aftermath.isOpened]

end Wait.Foretells

namespace Reader

variable {σ μ κ : Type} {D : Reader σ μ} {Free : σ → Prop} {around : Session → κ}
  {land : History → κ × Progress → σ} {resume : κ → Wait → Outcome → κ × Progress}
  {before : List Answer} {t u : σ} {h : History} {o : Outcome} {wait wait' : Wait}

/-- A kind of cursor is in `land h x` when a call on it has come to `x`, and goes on by `resume`. -/
structure Follows (D : Reader σ μ) (Free : σ → Prop) (around : Session → κ)
    (land : History → κ × Progress → σ) (resume : κ → Wait → Outcome → κ × Progress) : Prop where
  session : ∀ h s x, D.session (land h (around s, x)) = s
  rests : ∀ h s x, D.rests (land h (around s, x)) = x.wait?.isNone
  answers : ∀ h s x, D.answers (land h (around s, x)) = (h.follow x).answers
  free : ∀ h s x, h.ended = false → x.wait? = none → Free (land h (around s, x))
  hears : ∀ h s sending wait o, D.act (land h (around s, .waiting sending wait))
    (D.hear (land h (around s, .waiting sending wait)) o) =
      some (land (h.hear s.cursor.quota wait o) (resume (around s) wait o))
  hears_none : ∀ h s x o, x.wait? = none →
    D.act (land h (around s, x)) (D.hear (land h (around s, x)) o) = none
  settles : ∀ s wait wait' result, wait.Foretells wait' → result ≠ .error .noMoreElements →
    Foretells around (resume (around s) wait (.ofResult result))
      (resume (around s) wait' (.ofResult result))
  /-- What broke off leaves the same cursor behind, whatever was to follow. -/
  breaks : ∀ s wait wait' text, wait.Foretells wait' → ∃ t,
    resume (around s) wait (.crash text) = (around t, .crashed text) ∧
      resume (around s) wait' (.crash text) = (around t, .crashed text)

/-- A `hasNext` and a `next` that were called in the same state and heard the same outcomes. -/
inductive Pair (around : Session → κ) (land : History → κ × Progress → σ) (before : List Answer) :
    σ → σ → Prop where
  | lands {x y : κ × Progress} {h : History} (told : h.answers = before) (used : h.ended = false)
      (foretells : Foretells around x y) : Pair around land before (land h x) (land h y)
  | crashed {h h' : History} (s : Session) (text : String) (told : h.answers = before)
      (told' : h'.answers = before) (used : h.ended = false) :
      Pair around land before (land h (around s, .crashed text))
        (land h' (around s, .crashed text))

namespace Follows

/-- Both hear the outcome of the command that they wait for. -/
theorem resumes (follows : D.Follows Free around land resume) (s : Session) (q : Quota)
    (told : h.answers = before) (used : h.ended = false) (waits : wait.Foretells wait')
    (real : o ≠ .failure .noMoreElements) :
    Pair around land before (land (h.hear q wait o) (resume (around s) wait o))
      (land (h.hear q wait' o) (resume (around s) wait' o)) := by
  obtain ⟨same, same', ended⟩ := waits.hear_told h q o
  rcases Outcome.ofResult_or_crash real with ⟨result, named, rfl⟩ | ⟨text, rfl⟩
  · rw [waits.hear_eq]
    exact .lands (same.trans told) (ended.trans used) (follows.settles s _ _ result waits named)
  · obtain ⟨t, broke, broke'⟩ := follows.breaks s _ _ text waits
    rw [broke, broke']
    exact .crashed t text (same.trans told) (same'.trans told) (ended.trans used)

theorem hears_pair (follows : D.Follows Free around land resume)
    (pair : Pair around land before t u) (real : o ≠ .failure .noMoreElements) :
    (D.act t (D.hear t o) = none ∧ D.act u (D.hear u o) = none) ∨
    ∃ t' u', D.act t (D.hear t o) = some t' ∧ D.act u (D.hear u o) = some u' ∧
      Pair around land before t' u' := by
  have neither (h h' : History) (s s' : Session) (x y : Progress) (hx : x.wait? = none)
      (hy : y.wait? = none) :=
    And.intro (follows.hears_none h s x o hx) (follows.hears_none h' s' y o hy)
  cases pair with
  | crashed s text told told' used => exact .inl (neither _ _ _ _ _ _ rfl rfl)
  | lands told used foretells =>
    cases foretells with
    | batch held => exact .inl (neither _ _ _ _ _ _ rfl rfl)
    | told s answers => exact .inl (neither _ _ _ _ _ _ rfl rfl)
    | waiting s sending waits =>
      refine .inr ⟨_, _, follows.hears _ s sending _ o, follows.hears _ s sending _ o, ?_⟩
      exact follows.resumes s _ told used waits real

theorem abreast (follows : D.Follows Free around land resume)
    (pair : Pair around land before t u) : D.Abreast before t u := by
  cases pair with
  | crashed s text told told' used =>
    apply Abreast.untold
    · rw [follows.rests, follows.rests]
    · rw [follows.answers]
      exact told
    · rw [follows.answers]
      exact told'
    · rw [follows.session, follows.session]
  | lands told used foretells =>
    subst told
    cases foretells with
    | @batch s docs held =>
      apply Abreast.batch
      · exact follows.rests _ _ _
      · exact follows.rests _ _ _
      · exact follows.answers _ _ _
      · exact follows.answers _ _ _
      · rw [follows.session, held]
      · rw [follows.session, follows.session]
    | told s answers =>
      apply Abreast.told
      · exact follows.rests _ _ _
      · exact follows.rests _ _ _
      · exact follows.answers _ _ _
      · exact follows.answers _ _ _
      · exact answers
      · rw [follows.session, follows.session]
    | waiting s sending waits =>
      apply Abreast.untold
      · rw [follows.rests, follows.rests]
        rfl
      · exact follows.answers _ _ _
      · exact follows.answers _ _ _
      · rw [follows.session, follows.session]

theorem pair_free (follows : D.Follows Free around land resume)
    (pair : Pair around land before t u) (rests : D.rests t = true) : Free t := by
  cases pair with
  | crashed s text told told' used => exact follows.free _ s _ used rfl
  | lands told used foretells =>
    cases foretells with
    | batch held => exact follows.free _ _ _ used rfl
    | told s answers => exact follows.free _ s _ used rfl
    | waiting s sending waits =>
      rw [follows.rests] at rests
      cases rests

end Follows

end Reader

end ResultCursor
