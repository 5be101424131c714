import ResultCursor.Proofs.Agreement.Kinds
import ResultCursor.Proofs.Unseen.Calls

/-! What a command that ends the server's cursor comes to is written down and nothing else. Two
runs in which such commands come to different results look the same to callers and to the server:
they give the same answers, send the same commands and leave the cursor in the same state. -/

namespace ResultCursor

/-- Two lists of moves that are followed from a state. The second one has another move in the place
of one of the first where the two may be exchanged. -/
inductive Varied {σ μ : Type} (act : σ → μ → Option σ) (exchange : σ → μ → μ → Prop) :
    σ → List μ → List μ → Prop where
  | nil (s : σ) : Varied act exchange s [] []
  | keep {s t : σ} {m : μ} {ms ns : List μ} (moved : act s m = some t)
      (rest : Varied act exchange t ms ns) : Varied act exchange s (m :: ms) (m :: ns)
  | change {s t : σ} {m n : μ} {ms ns : List μ} (moved : act s m = some t)
      (exchanged : exchange s m n) (rest : Varied act exchange t ms ns) :
      Varied act exchange s (m :: ms) (n :: ns)

/-- If moves that may be exchanged lead to states that look the same, and the same moves lead from
states that look the same to such states again, then so do the two lists. -/
theorem Varied.run {σ μ τ : Type} {act : σ → μ → Option σ} {exchange : σ → μ → μ → Prop}
    {s s' t : σ} {ms ns : List μ} (varied : Varied act exchange s ms ns) (look : σ → τ)
    (same : ∀ s s' m t, look s = look s' → act s m = some t →
      ∃ t', act s' m = some t' ∧ look t = look t')
    (other : ∀ s m n t, exchange s m n → act s m = some t →
      ∃ t', act s n = some t' ∧ look t = look t')
    (alike : look s = look s') (run : ms.foldlM act s = some t) :
    ∃ t', ns.foldlM act s' = some t' ∧ look t = look t' := by
  induction varied generalizing s' with
  | nil s =>
    cases run
    exact ⟨s', rfl, alike⟩
  | @keep s u m ms ns moved rest ih =>
    obtain ⟨u', moved', alike'⟩ := same s s' m u alike moved
    simp only [List.foldlM_cons, moved, Option.bind_eq_bind, Option.bind_some] at run
    simpa only [List.foldlM_cons, moved', Option.bind_eq_bind, Option.bind_some] using ih alike' run
  | @change s u m n ms ns moved exchanged rest ih =>
    obtain ⟨v, moved', alike'⟩ := other s m n u exchanged moved
    obtain ⟨u', moved'', alike''⟩ := same s s' n v alike moved'
    simp only [List.foldlM_cons, moved, Option.bind_eq_bind, Option.bind_some] at run
    simpa only [List.foldlM_cons, moved'', Option.bind_eq_bind, Option.bind_some] using
      ih (alike'.trans alike'') run

/-! ### What is shown -/

/-- The event changes something outside: a lease or a command. Notes are for those who follow the
cursor's work, and what was delivered came from outside. -/
def Event.isDeed : Event → Bool
  | .retained _ => true
  | .released _ => true
  | .sent _ => true
  | .delivered _ => false
  | .noted _ => false

namespace Session

/-- The session with nothing in its journal but leases and commands. -/
def shown (s : Session) : Session := { s with journal := s.journal.filter Event.isDeed }

/-- The session without its journal. -/
def unwritten (s : Session) : Session := { s with journal := [] }

theorem unwritten_withPast (s : Session) : s.unwritten.withPast s.journal = s := by
  simp [unwritten, withPast]

theorem unwritten_of_shown {s s' : Session} (h : s.shown = s'.shown) :
    s.unwritten = s'.unwritten ∧
      s.journal.filter Event.isDeed = s'.journal.filter Event.isDeed := by
  obtain ⟨cursor, leased, deadline, clock, counts, journal⟩ := s
  obtain ⟨cursor', leased', deadline', clock', counts', journal'⟩ := s'
  simp only [shown, mk.injEq] at h
  obtain ⟨rfl, rfl, rfl, rfl, rfl, same⟩ := h
  exact ⟨rfl, same⟩

theorem shown_withPast {past past' : List Event} (s : Session)
    (h : past.filter Event.isDeed = past'.filter Event.isDeed) :
    (s.withPast past).shown = (s.withPast past').shown := by
  simp only [shown, withPast, List.filter_append, h]

end Session

/-- A result that is written down with a note does not show. -/
theorem Event.filter_isDeed_heard (past : List Event) (result : Except Failure Document)
    (n : Note) : (past ++ [delivered result, noted n]).filter isDeed = past.filter isDeed := by
  simp [List.filter_append, isDeed]

theorem History.hear_kill (h : History) (q : Quota) (saved : Option Span) (after : Aftermath)
    (result : Except Failure Document) : h.hear q (.kill saved after) (.ofResult result) = h := by
  cases result <;> rfl

/-! ### Blocking cursors -/

namespace Blocking

namespace Play

variable {p p' q : Play} {m n : Move} {past past' : List Event}

def withPast (past : List Event) (p : Play) : Play :=
  { p with cursor := p.cursor.withPast past }

/-- The play with nothing in its journal but leases and commands. -/
def shown (p : Play) : Play := { p with cursor := { p.cursor with session := p.session.shown } }

theorem act_withPast (past : List Event) (p : Play) (m : Move) :
    (p.withPast past).act m = (p.act m).map (withPast past) := by
  have followed {f : Blocking → Blocking × Progress} (hf : Oblivious Blocking.withPast f)
      (h : History) : follow h (f (p.cursor.withPast past)) =
        (follow h (f p.cursor)).withPast past := by
    rw [hf past p.cursor]
    rfl
  cases m with
  | request r =>
    show (if p.isFree then
      some (follow p.history ((p.cursor.withPast past).request r)) else none) = _
    rw [followed (request_oblivious r)]
    unfold act
    split <;> rfl
  | outcome o =>
    cases hw : p.wait with
    | none => simp [act, withPast, hw]
    | some wait =>
      have same : (p.withPast past).wait = some wait := hw
      simp only [act, hw, same, Option.map_some, Option.some.injEq]
      exact followed (resume_oblivious wait o) _
  | drop =>
    show (if p.isFree then
      some (follow p.history.retire (p.cursor.withPast past).drop) else none) = _
    rw [followed drop_oblivious]
    unfold act
    split <;> rfl
  | interrupt => rfl
  | requestClose => rfl
  | adjust deadline clock => rfl

theorem shown_withPast (p : Play) (h : past.filter Event.isDeed = past'.filter Event.isDeed) :
    (p.withPast past).shown = (p.withPast past').shown := by
  have same := p.session.shown_withPast h
  simp only [shown, withPast, session, Blocking.withPast] at same ⊢
  rw [same]

/-- Moves lead from plays that show the same to plays that show the same. -/
theorem act_of_shown (h : p.shown = p'.shown) (hm : p.act m = some q) :
    ∃ q', p'.act m = some q' ∧ q.shown = q'.shown := by
  obtain ⟨⟨s, signal⟩, wait, history⟩ := p
  obtain ⟨⟨s', signal'⟩, wait', history'⟩ := p'
  simp only [shown, session, mk.injEq, Blocking.mk.injEq] at h
  obtain ⟨⟨hs, rfl⟩, rfl, rfl⟩ := h
  obtain ⟨unwritten, same⟩ := Session.unwritten_of_shown hs
  have hp : (⟨⟨s, signal⟩, wait, history⟩ : Play) =
      withPast s.journal ⟨⟨s.unwritten, signal⟩, wait, history⟩ := by
    simp only [withPast, Blocking.withPast, Session.unwritten_withPast]
  have hp' : (⟨⟨s', signal⟩, wait, history⟩ : Play) =
      withPast s'.journal ⟨⟨s.unwritten, signal⟩, wait, history⟩ := by
    simp only [withPast, Blocking.withPast, unwritten, Session.unwritten_withPast]
  rw [hp, act_withPast, Option.map_eq_some_iff] at hm
  obtain ⟨r, hr, rfl⟩ := hm
  exact ⟨r.withPast s'.journal, by rw [hp', act_withPast, hr]; rfl, r.shown_withPast same⟩

/-- The command that ends the server's cursor is under way and comes to another result. -/
inductive Exchanges (p : Play) : Move → Move → Prop where
  | kill {saved : Option Span} {after : Aftermath} (waits : p.wait = some (.kill saved after))
      (result result' : Except Failure Document) :
      Exchanges p (.outcome (.ofResult result)) (.outcome (.ofResult result'))

theorem act_of_exchanges (he : p.Exchanges m n) (hm : p.act m = some q) :
    ∃ q', p.act n = some q' ∧ q.shown = q'.shown := by
  obtain ⟨waits, result, result'⟩ := he
  next saved after =>
  obtain ⟨note, hn⟩ := p.cursor.settle_kill_eq result saved after
  obtain ⟨note', hn'⟩ := p.cursor.settle_kill_eq result' saved after
  simp only [act, waits, Option.map_some, History.hear_kill, resume_ofResult, hn,
    Option.some.injEq] at hm ⊢
  refine ⟨_, rfl, ?_⟩
  rw [← hm, hn']
  refine shown_withPast (follow p.history _) ?_
  rw [Event.filter_isDeed_heard, Event.filter_isDeed_heard]

end Play

end Blocking

/-! ### Shared cursors -/

namespace Shared

namespace Play

variable {p p' q : Play} {m n : Move} {past past' : List Event}

def withPast (past : List Event) (p : Play) : Play := { p with calls := p.calls.withPast past }

/-- The play with nothing in its journal but leases and commands. -/
def shown (p : Play) : Play := p.withShared { p.shared with session := p.session.shown }

theorem goOn_withPast {f : Shared → Shared × Progress} (hf : Oblivious Shared.withPast f)
    (h : History) : (p.withPast past).goOn h (f (p.shared.withPast past)) =
      (p.goOn h (f p.shared)).withPast past := by
  rw [hf past p.shared]
  rfl

theorem givenUp_withPast (past : List Event) (p : Play) (wait : Wait) :
    (p.withPast past).givenUp wait = (p.givenUp wait).withPast past := by
  have abandoned : (p.withPast past).shared.abandon wait = (p.shared.abandon wait).withPast past :=
    abandon_withPast past p.shared wait
  have dropped : ((p.shared.abandon wait).withPast past).drop true = _ :=
    drop_oblivious true past (p.shared.abandon wait)
  unfold givenUp
  rw [abandoned, dropped]
  show (if p.history.ended then _ else _) = _
  split <;> rfl

theorem act_withPast (past : List Event) (p : Play) (m : Move) :
    (p.withPast past).act m = (p.act m).map (withPast past) := by
  cases m with
  | start r =>
    have started := Calls.start_withPast past p.calls r
    simp only [act, withPast, started]
    show (if p.inUse then _ else _) = Option.map _ (if p.inUse then _ else _)
    split <;> rfl
  | turn i =>
    have turned : (p.calls.withPast past).turn i = _ := Calls.turn_oblivious i past p.calls
    simp only [act, withPast, turned]
    show (if p.inUse then _ else _) = Option.map _ (if p.inUse then _ else _)
    split <;> rfl
  | deliver i o =>
    have delivered : (p.calls.withPast past).deliver i o = _ :=
      Calls.deliver_oblivious i o past p.calls
    simp only [act, withPast, delivered, Calls.stage?_withPast]
    split <;> rfl
  | abandon i =>
    simp only [act, withPast, Calls.abandon_withPast, Calls.stage?_withPast]
    split <;> rfl
  | adjust deadline clock => rfl
  | drop tasksRun =>
    have dropped : (p.shared.withPast past).drop tasksRun = _ :=
      drop_oblivious tasksRun past p.shared
    have same : (p.withPast past).shared = p.shared.withPast past := rfl
    simp only [act, same, dropped]
    show (if p.inUse && p.calls.running.isEmpty then _ else _) =
      Option.map _ (if p.inUse && p.calls.running.isEmpty then _ else _)
    split <;> rfl
  | cleanUp =>
    cases ht : p.task with
    | none => simp [act, withPast, ht]
    | some kill =>
      have same : (p.withPast past).task = some kill := ht
      simp only [act, ht, same, Option.map_some, Option.some.injEq]
      exact goOn_withPast (cleanUp_oblivious kill) p.history
  | outcome o =>
    cases hw : p.wait with
    | none => simp [act, withPast, hw]
    | some wait =>
      have same : (p.withPast past).wait = some wait := hw
      simp only [act, hw, same, Option.map_some, Option.some.injEq]
      exact goOn_withPast (resume_oblivious wait o) _
  | giveUp =>
    have discarded : (p.withPast past).shared.discard = p.shared.discard.withPast past := by
      simp only [discard, shared, withPast, Calls.withPast, Shared.withPast,
        Session.giveBackOnDrop_withPast]
    have waits : (p.withPast past).wait = p.wait := rfl
    have left : (p.withPast past).task = p.task := rfl
    simp only [act, givenUp_withPast, discarded, waits, left]
    split <;> rfl

theorem shown_withPast (p : Play) (h : past.filter Event.isDeed = past'.filter Event.isDeed) :
    (p.withPast past).shown = (p.withPast past').shown := by
  have same := p.session.shown_withPast h
  show p.withShared { p.shared with session := (p.session.withPast past).shown } = _
  rw [same]
  rfl

/-- Moves lead from plays that show the same to plays that show the same. -/
theorem act_of_shown (h : p.shown = p'.shown) (hm : p.act m = some q) :
    ∃ q', p'.act m = some q' ∧ q.shown = q'.shown := by
  obtain ⟨⟨⟨s, asked⟩, turns, running, fresh⟩, wait, task, history⟩ := p
  obtain ⟨⟨⟨s', asked'⟩, turns', running', fresh'⟩, wait', task', history'⟩ := p'
  simp only [shown, withShared, shared, session, mk.injEq, Calls.mk.injEq, Shared.mk.injEq] at h
  obtain ⟨⟨⟨hs, rfl⟩, rfl, rfl, rfl⟩, rfl, rfl, rfl⟩ := h
  obtain ⟨unwritten, same⟩ := Session.unwritten_of_shown hs
  have hp : (⟨⟨⟨s, asked⟩, turns, running, fresh⟩, wait, task, history⟩ : Play) =
      withPast s.journal
        ⟨⟨⟨s.unwritten, asked⟩, turns, running, fresh⟩, wait, task, history⟩ := by
    simp only [withPast, Calls.withPast, Shared.withPast, Session.unwritten_withPast]
  have hp' : (⟨⟨⟨s', asked⟩, turns, running, fresh⟩, wait, task, history⟩ : Play) =
      withPast s'.journal
        ⟨⟨⟨s.unwritten, asked⟩, turns, running, fresh⟩, wait, task, history⟩ := by
    simp only [withPast, Calls.withPast, Shared.withPast, unwritten, Session.unwritten_withPast]
  rw [hp, act_withPast, Option.map_eq_some_iff] at hm
  obtain ⟨r, hr, rfl⟩ := hm
  exact ⟨r.withPast s'.journal, by rw [hp', act_withPast, hr]; rfl, r.shown_withPast same⟩

/-- A command that ends the server's cursor is under way and comes to another result. It is one of
the opening or of the clean-up after the last handle, or one of a call. -/
inductive Exchanges (p : Play) : Move → Move → Prop where
  | outcome {saved : Option Span} {after : Aftermath} (waits : p.wait = some (.kill saved after))
      (result result' : Except Failure Document) :
      Exchanges p (.outcome (.ofResult result)) (.outcome (.ofResult result'))
  | deliver {i : Nat} {saved : Option Span} {after : Aftermath}
      (waits : p.calls.stage? i = some (.waiting (.kill saved after)))
      (result result' : Except Failure Document) :
      Exchanges p (.deliver i (.ofResult result)) (.deliver i (.ofResult result'))

theorem act_of_exchanges (he : p.Exchanges m n) (hm : p.act m = some q) :
    ∃ q', p.act n = some q' ∧ q.shown = q'.shown := by
  cases he with
  | @outcome saved after waits result result' =>
    obtain ⟨note, hn⟩ := p.shared.settle_kill_eq result saved after
    obtain ⟨note', hn'⟩ := p.shared.settle_kill_eq result' saved after
    simp only [act, waits, Option.map_some, History.hear_kill, resume_ofResult, hn,
      Option.some.injEq] at hm ⊢
    refine ⟨_, rfl, ?_⟩
    rw [← hm, hn']
    refine shown_withPast (p.goOn p.history _) ?_
    rw [Event.filter_isDeed_heard, Event.filter_isDeed_heard]
  | @deliver i saved after waits result result' =>
    obtain ⟨note, hn⟩ := p.shared.settle_kill_eq result saved after
    obtain ⟨note', hn'⟩ := p.shared.settle_kill_eq result' saved after
    have delivered (r : Except Failure Document) : p.calls.deliver i (.ofResult r) =
        p.calls.settle i (p.shared.settle r (.kill saved after)) := by
      simp only [Calls.deliver, waits, resume_ofResult]
      rfl
    simp only [act, waits, History.hear_kill, Option.some.injEq, delivered, hn] at hm ⊢
    refine ⟨_, rfl, ?_⟩
    rw [← hm, hn', Calls.settle_withPast, Calls.settle_withPast]
    refine shown_withPast (p.follow _) ?_
    rw [Event.filter_isDeed_heard, Event.filter_isDeed_heard]

end Play

end Shared

/-- Whatever commands that end the server's cursor come to, a reply or a failure of any kind, the
cursor goes the same way. A second run in which they come to other results than in the first one is
possible, and it ends with the same answers, the same state of the cursor, its leases, its deadline
and its calls, and the same commands, counts and leases in the journal. -/
theorem kill_results_unseen (reply : Document) (setting : Setting) :
    (∀ moves p₀ p, Blocking.start reply setting = .ok p₀ →
      moves.foldlM Blocking.Play.act p₀ = some p →
      ∀ others, Varied Blocking.Play.act Blocking.Play.Exchanges p₀ moves others →
        ∃ p', Blocking.Comes reply setting others p' ∧ p.shown = p'.shown) ∧
    (∀ moves p₀ p, Shared.start reply setting = .ok p₀ →
      moves.foldlM Shared.Play.act p₀ = some p →
      ∀ others, Varied Shared.Play.act Shared.Play.Exchanges p₀ moves others →
        ∃ p', Shared.Comes reply setting others p' ∧ p.shown = p'.shown) := by
  constructor
  · intro moves p₀ p hs run others varied
    obtain ⟨p', run', same⟩ := varied.run Blocking.Play.shown
      (fun _ _ _ _ => Blocking.Play.act_of_shown) (fun _ _ _ _ => Blocking.Play.act_of_exchanges)
      rfl run
    exact ⟨p', ⟨p₀, hs, run'⟩, same⟩
  · intro moves p₀ p hs run others varied
    obtain ⟨p', run', same⟩ := varied.run Shared.Play.shown
      (fun _ _ _ _ => Shared.Play.act_of_shown) (fun _ _ _ _ => Shared.Play.act_of_exchanges)
      rfl run
    exact ⟨p', ⟨p₀, hs, run'⟩, same⟩

/-- A close is answered in the same way whether its command is answered or cancelled. -/
theorem kill_results_unseen_by_close :
    ∃ p p', Shared.Comes (BatchReply.Place.first.reply 7 [item 1]) (plainSetting .unlimited)
        [.start .close, .deliver 0 (.reply [])] p ∧
      Shared.Comes (BatchReply.Place.first.reply 7 [item 1]) (plainSetting .unlimited)
        [.start .close, .deliver 0 (.failure (.cancelled .interrupted))] p' ∧
      p.shown = p'.shown ∧ p.session.isFinished = true := by
  obtain ⟨p₀, p₁, p, hs, first, second, finished, saved, after, waits⟩ : ∃ p₀ p₁ p,
      Shared.start (BatchReply.Place.first.reply 7 [item 1]) (plainSetting .unlimited) = .ok p₀ ∧
      p₀.act (.start .close) = some p₁ ∧ p₁.act (.deliver 0 (.reply [])) = some p ∧
      p.session.isFinished = true ∧
      ∃ saved after, p₁.calls.stage? 0 = some (.waiting (.kill saved after)) :=
    ⟨_, _, _, rfl, rfl, rfl, rfl, _, _, rfl⟩
  have run : [Shared.Move.start .close, .deliver 0 (.reply [])].foldlM Shared.Play.act p₀ =
      some p := by
    simp [first, second]
  obtain ⟨p', run', same⟩ := (kill_results_unseen _ _).2 _ p₀ p hs run
    [.start .close, .deliver 0 (.failure (.cancelled .interrupted))]
    (.keep first (.change second (.deliver waits (.ok []) (.error (.cancelled .interrupted)))
      (.nil p)))
  exact ⟨p, p', ⟨p₀, hs, run⟩, run', same, finished⟩

end ResultCursor
