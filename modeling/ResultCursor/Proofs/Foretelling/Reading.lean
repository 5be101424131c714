import ResultCursor.Proofs.Foretelling.Calls
import ResultCursor.Proofs.Overrides
import ResultCursor.Proofs.Phases

/-! One caller makes a call on a cursor and hears the outcomes of its commands one after the other.
A kind of cursor in which a `hasNext` and a `next` keep abreast while they hear the same outcomes
can be asked by `hasNext` what `next` would do. -/

namespace ResultCursor

/-- How one caller makes a call on a cursor of some kind. -/
structure Reader (σ μ : Type) where
  act : σ → μ → Option σ
  call : Call → μ
  /-- The move by which the call that was made hears an outcome. -/
  hear : σ → Outcome → μ
  /-- No call is under way. -/
  rests : σ → Bool
  session : σ → Session
  answers : σ → List Answer

/-- A session with a batch that can be handed out. -/
structure Session.Offers (s : Session) (docs : List Document) : Prop where
  isOpen : s.cursor.phase ≠ .closed
  held : s.cursor.buffer = some docs

namespace Session.Offers

variable {s : Session} {docs : List Document}

theorem not_closed (h : s.Offers docs) : s.cursor.isClosed = false := by
  simpa [Cursor.isClosed] using h.isOpen

theorem isSettled (h : s.Offers docs) : s.beginCall.isSettled = true := by
  simp [Session.isSettled, Cursor.buffered, h.held]

theorem finish_hasNext (h : s.Offers docs) :
    s.beginCall.finish .hasNext = (s.beginCall, .more true) := by
  simp only [finish, beginCall_cursor, h.held, Option.isSome_some]

theorem finish_next (h : s.Offers docs) :
    s.beginCall.finish .next =
      ({ s.beginCall with cursor := s.cursor.take.1 }, .batch docs) := by
  simp only [finish, beginCall_cursor, h.held]

theorem available (h : s.Offers docs) : s.cursor.available = docs.length := by
  have isOpen := h.isOpen
  cases phase : s.cursor.phase with
  | closed => exact absurd phase isOpen
  | active => simp only [Cursor.available, phase, h.held]
  | exhausted => simp only [Cursor.available, phase, h.held]

end Session.Offers

theorem Session.Sound.offers {s : Session} {docs : List Document} (sound : s.Sound)
    (held : s.cursor.buffer = some docs) : s.Offers docs := by
  refine ⟨fun closed => ?_, held⟩
  cases held.symm.trans (sound.emptied closed).1

theorem Session.Sound.length_pos {s : Session} {docs : List Document} (sound : s.Sound)
    (held : s.cursor.buffer = some docs) : 0 < docs.length := by
  refine List.length_pos_iff.mpr ?_
  rintro rfl
  exact sound.filled held

/-- The time may have changed, but nothing else. -/
inductive Session.Retimed (s : Session) : Session → Prop where
  | intro {clock : Clock} {deadline : Deadline}
      (override : deadline.override = s.deadline.override) :
      Retimed s { s with clock, deadline }

namespace Session.Retimed

variable {s t u : Session}

theorem refl (s : Session) : s.Retimed s := ⟨rfl⟩

theorem trans (h : s.Retimed t) (h' : t.Retimed u) : s.Retimed u := by
  obtain ⟨override⟩ := h
  obtain ⟨override'⟩ := h'
  exact ⟨override'.trans override⟩

theorem cursor_eq (h : s.Retimed t) : t.cursor = s.cursor := by
  obtain ⟨override⟩ := h
  rfl

theorem sendings_eq (h : s.Retimed t) : t.sendings = s.sendings := by
  obtain ⟨override⟩ := h
  rfl

theorem override_eq (h : s.Retimed t) : t.deadline.override = s.deadline.override := by
  obtain ⟨override⟩ := h
  exact override

theorem withCursor (h : s.Retimed t) (c : Cursor) :
    Retimed { s with cursor := c } { t with cursor := c } := by
  obtain ⟨override⟩ := h
  exact ⟨override⟩

/-- A call that begins starts the deadline anew, at most. -/
theorem beginCall (s : Session) : s.Retimed s.beginCall := by
  have override := s.beginCall_override
  cases mode : s.cursor.options.mode with
  | lifetime =>
    rw [Session.beginCall, mode]
    exact refl s
  | iteration =>
    simp only [Session.beginCall, mode] at override ⊢
    exact ⟨override⟩

end Session.Retimed

theorem Session.Offers.of_retimed {s t : Session} {docs : List Document} (h : s.Offers docs)
    (retimed : s.Retimed t) : t.Offers docs := by
  have same := retimed.cursor_eq
  exact ⟨same ▸ h.isOpen, same ▸ h.held⟩

namespace Reader

variable {σ μ : Type} {D : Reader σ μ} {before : List Answer} {s t u : σ} {o : Outcome}
  {outcomes : List Outcome}

/-- Makes a call, which hears the outcomes. -/
def reads (D : Reader σ μ) (s : σ) (call : Call) (outcomes : List Outcome) : Option σ :=
  (D.act s (D.call call)).bind fun t => outcomes.foldlM (fun u o => D.act u (D.hear u o)) t

/-- How a `hasNext` and a `next` stand to each other that were called on the same cursor and heard
the same outcomes. A call has no answer while it waits, and none if its command broke off. -/
inductive Abreast (D : Reader σ μ) (before : List Answer) (t u : σ) : Prop where
  | untold (together : D.rests t = D.rests u) (untold : D.answers t = before)
      (untold' : D.answers u = before) (same : D.session u = D.session t)
  | batch {docs : List Document} (rests : D.rests t = true) (rests' : D.rests u = true)
      (told : D.answers t = before ++ [.more true])
      (told' : D.answers u = before ++ [.batch docs])
      (held : (D.session t).cursor.buffer = some docs)
      (taken : D.session u = { D.session t with cursor := (D.session t).cursor.take.1 })
  | told {a a' : Answer} (rests : D.rests t = true) (rests' : D.rests u = true)
      (told : D.answers t = before ++ [a]) (told' : D.answers u = before ++ [a'])
      (answers : a.Foretells a') (same : D.session u = D.session t)

/-- A `hasNext` foretells what a `next` does that hears the same outcomes. -/
structure Foretold (D : Reader σ μ) (before : List Answer) (t u : σ) : Prop where
  together : D.rests t = D.rests u
  more : D.answers t = before ++ [.more true] ↔ ∃ docs, D.answers u = before ++ [.batch docs]
  ended : D.answers t = before ++ [.more false] ↔
    D.answers u = before ++ [.failed .noMoreElements]
  failed : ∀ f, (∀ use, f ≠ .closed use) → (D.answers t = before ++ [.failed f] ↔
    f ≠ .noMoreElements ∧ D.answers u = before ++ [.failed f])
  closed : (∃ use, D.answers t = before ++ [.failed (.closed use)]) ↔
    ∃ use, D.answers u = before ++ [.failed (.closed use)]
  untold : D.answers t = before ↔ D.answers u = before
  commands : (D.session u).sendings = (D.session t).sendings
  override : (D.session u).deadline.override = (D.session t).deadline.override

theorem Abreast.foretold (h : D.Abreast before t u) : D.Foretold before t u := by
  cases h with
  | untold together untold untold' same =>
    exact
      { together
        more := by simp [untold, untold']
        ended := by simp [untold, untold']
        failed := by simp [untold, untold']
        closed := by simp [untold, untold']
        untold := iff_of_true untold untold'
        commands := by rw [same]
        override := by rw [same] }
  | batch rests rests' told told' held taken =>
    exact
      { together := rests.trans rests'.symm
        more := by simp [told, told']
        ended := by simp [told, told']
        failed := by simp [told, told']
        closed := by simp [told, told']
        untold := by simp [told, told']
        commands := by rw [taken]; rfl
        override := by rw [taken] }
  | told rests rests' told told' answers same =>
    obtain ⟨unread, unread'⟩ := answers.not_batch
    exact
      { together := rests.trans rests'.symm
        more := by simp [told, told', unread, unread']
        ended := by simpa [told, told'] using answers.ended_iff
        failed := fun f isOpen => by simpa [told, told'] using answers.failed_iff isOpen
        closed := by simpa [told, told'] using answers.closed_iff
        untold := by simp [told, told']
        commands := by rw [same]
        override := by rw [same] }

/-! ### The batch that was foretold -/

/-- Makes a call a number of times, each of which is over at once. -/
def repeats (D : Reader σ μ) (call : Call) : Nat → σ → Option σ
  | 0, s => some s
  | n + 1, s => (D.act s (D.call call)).bind (D.repeats call n)

/-- The batch that a `hasNext` told of is there, and stays until a `next` takes it: `t` is the
cursor after the `hasNext`, and `u` after a `next` in its place. -/
structure Keeps (D : Reader σ μ) (before : List Answer) (t u : σ) : Prop where
  available : 0 < (D.session t).cursor.available
  again : ∀ n, ∃ v w docs, D.repeats .hasNext n t = some v ∧
    D.answers v = D.answers t ++ List.replicate n (.more true) ∧
    (D.session t).Retimed (D.session v) ∧
    D.act v (D.call .next) = some w ∧ D.answers w = D.answers v ++ [.batch docs] ∧
    (D.session t).cursor.buffer = some docs ∧ docs.length = (D.session t).cursor.available ∧
    D.answers u = before ++ [.batch docs] ∧ (D.session u).Retimed (D.session w) ∧
    (D.session w).sendings = (D.session t).sendings ∧
    (D.session w).deadline.override = (D.session t).deadline.override

/-- What a `hasNext` says about a `next` on the same cursor. -/
structure Predicts (D : Reader σ μ) (s : σ) (outcomes : List Outcome) : Prop where
  begins : (D.reads s .hasNext []).isSome = true
  /-- Both calls hear all the outcomes, or both are over before. -/
  possible : (D.reads s .next outcomes).isSome = (D.reads s .hasNext outcomes).isSome
  foretold : ∀ t u, D.reads s .hasNext outcomes = some t → D.reads s .next outcomes = some u →
    D.Foretold (D.answers s) t u
  keeps : ∀ t u, D.reads s .hasNext outcomes = some t → D.reads s .next outcomes = some u →
    D.answers t = D.answers s ++ [.more true] → D.Keeps (D.answers s) t u

/-- In this kind of cursor a `hasNext` and a `next` keep abreast. Both are called where the cursor
is `Free`; `Paired` are what they come to. -/
structure Lawful (D : Reader σ μ) (Free : σ → Prop) (Paired : List Answer → σ → σ → Prop) :
    Prop where
  begins : ∀ s, Free s → ∃ t u, D.act s (D.call .hasNext) = some t ∧
    D.act s (D.call .next) = some u ∧ Paired (D.answers s) t u
  hears : ∀ before t u o, Paired before t u → o ≠ .failure .noMoreElements →
    (D.act t (D.hear t o) = none ∧ D.act u (D.hear u o) = none) ∨
    ∃ t' u', D.act t (D.hear t o) = some t' ∧ D.act u (D.hear u o) = some u' ∧ Paired before t' u'
  abreast : ∀ before t u, Paired before t u → D.Abreast before t u
  free : ∀ before t u, Paired before t u → D.rests t = true → Free t
  /-- With a batch there both calls are over at once. -/
  again : ∀ s docs, Free s → (D.session s).Offers docs → ∃ t, D.act s (D.call .hasNext) = some t ∧
    Free t ∧ D.answers t = D.answers s ++ [.more true] ∧ D.session t = (D.session s).beginCall
  takes : ∀ s docs, Free s → (D.session s).Offers docs → ∃ t, D.act s (D.call .next) = some t ∧
    D.answers t = D.answers s ++ [.batch docs] ∧
    D.session t = { (D.session s).beginCall with cursor := (D.session s).cursor.take.1 }

namespace Lawful

variable {Free : σ → Prop} {Paired : List Answer → σ → σ → Prop}

/-- Both calls hear the outcomes, or both are over before. -/
theorem hears_all (lawful : D.Lawful Free Paired) (paired : Paired before t u)
    (real : ∀ o ∈ outcomes, o ≠ .failure .noMoreElements) :
    (outcomes.foldlM (fun t o => D.act t (D.hear t o)) t = none ∧
      outcomes.foldlM (fun t o => D.act t (D.hear t o)) u = none) ∨
    ∃ t' u', outcomes.foldlM (fun t o => D.act t (D.hear t o)) t = some t' ∧
      outcomes.foldlM (fun t o => D.act t (D.hear t o)) u = some u' ∧ Paired before t' u' := by
  induction outcomes generalizing t u with
  | nil => exact .inr ⟨t, u, rfl, rfl, paired⟩
  | cons o outcomes ih =>
    rcases lawful.hears before t u o paired (real o (by simp)) with
        ⟨neither, neither'⟩ | ⟨t', u', heard, heard', paired⟩
    · exact .inl ⟨by simp [neither], by simp [neither']⟩
    · simp only [List.foldlM_cons, heard, heard', Option.bind_eq_bind, Option.bind_some]
      exact ih paired fun o ho => real o (by simp [ho])

theorem reads (lawful : D.Lawful Free Paired) (free : Free s)
    (real : ∀ o ∈ outcomes, o ≠ .failure .noMoreElements) :
    (D.reads s .hasNext outcomes = none ∧ D.reads s .next outcomes = none) ∨
    ∃ t u, D.reads s .hasNext outcomes = some t ∧ D.reads s .next outcomes = some u ∧
      Paired (D.answers s) t u := by
  obtain ⟨t, u, made, made', paired⟩ := lawful.begins s free
  simp only [Reader.reads, made, made', Option.bind_some]
  exact lawful.hears_all paired real

/-- A batch that is there stays, however often the caller asks for it. -/
theorem repeats (lawful : D.Lawful Free Paired) {docs : List Document} (n : Nat) (free : Free t)
    (offers : (D.session t).Offers docs) :
    ∃ v, D.repeats .hasNext n t = some v ∧ Free v ∧
      D.answers v = D.answers t ++ List.replicate n (.more true) ∧
      (D.session t).Retimed (D.session v) := by
  induction n generalizing t with
  | zero => exact ⟨t, rfl, free, by simp, .refl _⟩
  | succ n ih =>
    obtain ⟨u, made, free, told, begun⟩ := lawful.again t docs free offers
    have retimed : (D.session t).Retimed (D.session u) := begun ▸ .beginCall _
    obtain ⟨v, repeated, free, answers, later⟩ := ih free (offers.of_retimed retimed)
    refine ⟨v, by simp [Reader.repeats, made, repeated], free, ?_, retimed.trans later⟩
    simp [answers, told, List.replicate_succ]

theorem keeps (lawful : D.Lawful Free Paired) (paired : Paired before t u)
    (sound : Free t → (D.session t).Sound)
    (more : D.answers t = before ++ [.more true]) : D.Keeps before t u := by
  cases lawful.abreast before t u paired with
  | untold together untold untold' same => simp [untold] at more
  | told rests rests' told told' answers same =>
    exact absurd (by simpa [told] using more) answers.not_batch.1
  | @batch docs rests rests' told told' held taken =>
    have free := lawful.free before t u paired rests
    have offers := (sound free).offers held
    have available := offers.available
    refine ⟨available ▸ (sound free).length_pos held, fun n => ?_⟩
    obtain ⟨v, repeated, free, answers, retimed⟩ := lawful.repeats n free offers
    obtain ⟨w, made, took, last⟩ := lawful.takes v docs free (offers.of_retimed retimed)
    have later : (D.session u).Retimed (D.session w) := by
      rw [taken, last, retimed.cursor_eq]
      exact (retimed.trans (.beginCall _)).withCursor _
    have foretold := (lawful.abreast before t u paired).foretold
    exact ⟨v, w, docs, repeated, answers, retimed, made, took, held, available.symm, told', later,
      later.sendings_eq.trans foretold.commands, later.override_eq.trans foretold.override⟩

theorem predicts (lawful : D.Lawful Free Paired) (free : Free s)
    (sound : ∀ t, D.reads s .hasNext outcomes = some t → Free t → (D.session t).Sound)
    (real : ∀ o ∈ outcomes, o ≠ .failure .noMoreElements) : D.Predicts s outcomes := by
  have paired (t u : σ) (read : D.reads s .hasNext outcomes = some t)
      (read' : D.reads s .next outcomes = some u) : Paired (D.answers s) t u := by
    rcases lawful.reads free real with ⟨neither, -⟩ | ⟨t', u', heard, heard', paired⟩
    · cases neither.symm.trans read
    · cases heard.symm.trans read
      cases heard'.symm.trans read'
      exact paired
  refine
    { begins := ?_
      possible := ?_
      foretold := fun t u read read' => (lawful.abreast _ t u (paired t u read read')).foretold
      keeps := fun t u read read' => lawful.keeps (paired t u read read') (sound t read) }
  · obtain ⟨t, u, made, -⟩ := lawful.begins s free
    simp [Reader.reads, made]
  · rcases lawful.reads free real with ⟨neither, neither'⟩ | ⟨t, u, heard, heard', -⟩
    · rw [neither, neither']
    · rw [heard, heard']
      rfl

end Lawful

/-- A call with the outcomes that it hears is a run of moves. -/
theorem run_of_reads {call : Call} (read : D.reads s call outcomes = some t) :
    ∃ moves : List μ, moves.foldlM D.act s = some t := by
  obtain ⟨u, made, heard⟩ := Option.bind_eq_some_iff.mp read
  suffices h : ∃ moves : List μ, moves.foldlM D.act u = some t by
    obtain ⟨moves, run⟩ := h
    exact ⟨D.call call :: moves, by simpa [made] using run⟩
  clear made read
  induction outcomes generalizing u with
  | nil => exact ⟨[], heard⟩
  | cons o outcomes ih =>
    obtain ⟨v, made, heard⟩ := Option.bind_eq_some_iff.mp heard
    obtain ⟨moves, run⟩ := ih v heard
    exact ⟨D.hear u o :: moves, by simpa [made] using run⟩

end Reader

end ResultCursor
