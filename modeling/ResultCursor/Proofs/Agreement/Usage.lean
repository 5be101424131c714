import ResultCursor.Proofs.Run.Moves
import ResultCursor.Proofs.Agreement.Sessions

/-! One caller uses a cursor: it makes one call after the other, waits until each has its answer,
and at last lets the cursor go. What it sees depends on the results of commands alone, and so two
kinds of cursors that keep in step show the same. -/

namespace ResultCursor

/-- What a caller does with a cursor that is in use. -/
inductive Act where
  | call (r : Request)
  /-- Time passes, and others use the deadline. -/
  | adjust (deadline : Deadline) (clock : Clock)

/-- What can be seen of a cursor while no command is under way: the answers so far, and its session
without the notes. -/
structure Sight where
  answers : List Answer
  session : Session

/-- How one caller uses a kind of cursor. -/
structure Usage (σ : Type) where
  start : Document → Setting → Except Failure σ
  perform : σ → Act → σ
  /-- Lets the cursor go. -/
  leave : σ → σ
  /-- A command is under way. -/
  waits : σ → Bool
  hear : σ → Except Failure Document → σ
  answers : σ → List Answer
  session : σ → Session

namespace Usage

variable {σ τ : Type}

/-- Hears results until no command is under way. There may be too few of them. -/
def settle (u : Usage σ) (s : σ) :
    List (Except Failure Document) → Option (σ × List (Except Failure Document))
  | [] => if u.waits s then none else some (s, [])
  | result :: rest =>
    if u.waits s then u.settle (u.hear s result) rest else some (s, result :: rest)

def sight (u : Usage σ) (s : σ) : Sight := ⟨u.answers s, (u.session s).bare⟩

/-- What is seen of a cursor that was let go. That is no call, and has no answer. -/
def last (u : Usage σ) (s : σ) (results : List (Except Failure Document)) : List Sight :=
  match u.settle (u.leave s) results with
  | none => []
  | some (gone, _) => [⟨u.answers s, (u.session gone).bare⟩]

/-- What is seen at first, after each act and at last, as far as the results go. -/
def sights (u : Usage σ) (s : σ) : List Act → List (Except Failure Document) → List Sight
  | [], results =>
    match u.settle s results with
    | none => []
    | some (s, rest) => u.sight s :: u.last s rest
  | act :: acts, results =>
    match u.settle s results with
    | none => []
    | some (s, rest) => u.sight s :: u.sights (u.perform s act) acts rest

/-- What is seen from the first reply on. -/
def record (u : Usage σ) (reply : Document) (setting : Setting) (acts : List Act)
    (results : List (Except Failure Document)) : Except Failure (List Sight) :=
  match u.start reply setting with
  | .error f => .error f
  | .ok s => .ok (u.sights s acts results)

/-! ### Keeping in step -/

/-- Related states wait at the same time, and stay related whatever they hear. -/
structure InStep (u : Usage σ) (v : Usage τ) (Q : σ → τ → Prop) : Prop where
  waits : ∀ {s t}, Q s t → v.waits t = u.waits s
  hear : ∀ {s t}, Q s t → u.waits s = true → ∀ result, Q (u.hear s result) (v.hear t result)

/-- Cursors in use are related by `Q`, and those that were let go by `P`. -/
structure Matches (u : Usage σ) (v : Usage τ) (Q P : σ → τ → Prop) : Prop where
  start : ∀ reply setting,
    (∃ f, u.start reply setting = .error f ∧ v.start reply setting = .error f) ∨
    ∃ s t, u.start reply setting = .ok s ∧ v.start reply setting = .ok t ∧ Q s t
  inUse : InStep u v Q
  gone : InStep u v P
  perform : ∀ {s t}, Q s t → u.waits s = false → ∀ act, Q (u.perform s act) (v.perform t act)
  leave : ∀ {s t}, Q s t → u.waits s = false → P (u.leave s) (v.leave t)
  sight : ∀ {s t}, Q s t → v.sight t = u.sight s
  session : ∀ {s t}, P s t → u.waits s = false → (v.session t).bare = (u.session s).bare

variable {u : Usage σ} {v : Usage τ} {Q P : σ → τ → Prop} {s : σ} {t : τ}

/-- Related states settle together, or both run out of results. -/
theorem InStep.settle (h : InStep u v Q) (hq : Q s t) (results : List (Except Failure Document)) :
    (u.settle s results = none ∧ v.settle t results = none) ∨
    ∃ s' t' rest, u.settle s results = some (s', rest) ∧ v.settle t results = some (t', rest) ∧
      Q s' t' ∧ u.waits s' = false := by
  induction results generalizing s t with
  | nil =>
    have hw := h.waits hq
    cases hs : u.waits s with
    | true => exact .inl ⟨by simp [Usage.settle, hs], by simp [Usage.settle, hw, hs]⟩
    | false =>
      exact .inr ⟨s, t, [], by simp [Usage.settle, hs], by simp [Usage.settle, hw, hs], hq, hs⟩
  | cons result rest ih =>
    have hw := h.waits hq
    cases hs : u.waits s with
    | true =>
      simp only [Usage.settle, hw, hs, if_true]
      exact ih (h.hear hq hs result)
    | false =>
      exact .inr ⟨s, t, result :: rest, by simp [Usage.settle, hs],
        by simp [Usage.settle, hw, hs], hq, hs⟩

theorem Matches.last_eq (h : Matches u v Q P) (hq : Q s t) (hs : u.waits s = false)
    (results : List (Except Failure Document)) : v.last t results = u.last s results := by
  have answers : v.answers t = u.answers s := congrArg Sight.answers (h.sight hq)
  unfold last
  rcases h.gone.settle (h.leave hq hs) results with
      ⟨hu, hv⟩ | ⟨s', t', rest, hu, hv, hp, hw⟩
  · rw [hu, hv]
  · simp only [hu, hv, answers, h.session hp hw]

theorem Matches.sights_eq (h : Matches u v Q P) (hq : Q s t) (acts : List Act)
    (results : List (Except Failure Document)) :
    v.sights t acts results = u.sights s acts results := by
  induction acts generalizing s t results with
  | nil =>
    unfold sights
    rcases h.inUse.settle hq results with ⟨hu, hv⟩ | ⟨s', t', rest, hu, hv, hq', hw⟩
    · rw [hu, hv]
    · simp only [hu, hv, h.sight hq', h.last_eq hq' hw]
  | cons act acts ih =>
    unfold sights
    rcases h.inUse.settle hq results with ⟨hu, hv⟩ | ⟨s', t', rest, hu, hv, hq', hw⟩
    · rw [hu, hv]
    · simp only [hu, hv, h.sight hq', ih (h.perform hq' hw act)]

theorem Matches.record_eq (h : Matches u v Q P) (reply : Document) (setting : Setting)
    (acts : List Act) (results : List (Except Failure Document)) :
    v.record reply setting acts results = u.record reply setting acts results := by
  unfold record
  rcases h.start reply setting with ⟨f, hu, hv⟩ | ⟨s, t, hu, hv, hq⟩
  · rw [hu, hv]
  · simp only [hu, hv, h.sights_eq hq]

end Usage

end ResultCursor
