import ResultCursor.Proofs.Course.Frame
import ResultCursor.Proofs.Run.Moves

/-! The journal is only written. A cursor with more of a past does what it does without it, comes
to the same progress, and adds the same events to its journal. -/

namespace ResultCursor

/-- What a function does and returns does not depend on the past, which `grow` adds. -/
def Oblivious {σ α : Type} (grow : List Event → σ → σ) (f : σ → σ × α) : Prop :=
  ∀ past s, f (grow past s) = (grow past (f s).1, (f s).2)

namespace Oblivious

variable {σ α : Type} {grow : List Event → σ → σ} {f g : σ → σ × α}

/-- A choice that does not look at the past. -/
theorem ite {c : σ → Prop} [DecidablePred c] (hc : ∀ past s, c (grow past s) ↔ c s)
    (hf : Oblivious grow f) (hg : Oblivious grow g) :
    Oblivious grow fun s => if c s then f s else g s := by
  intro past s
  by_cases h : c s
  · simp only [(hc past s).mpr h, h, if_true]
    exact hf past s
  · simp only [mt (hc past s).mp h, h, if_false]
    exact hg past s

theorem comp (hf : Oblivious grow f) (first : σ → σ)
    (hfirst : ∀ past s, first (grow past s) = grow past (first s)) :
    Oblivious grow fun s => f (first s) := by
  intro past s
  show f (first (grow past s)) = _
  rw [hfirst]
  exact hf past (first s)

end Oblivious

namespace Session

/-- The session with more events before those of its journal. -/
def withPast (past : List Event) (s : Session) : Session := { s with journal := past ++ s.journal }

variable (past : List Event) (s : Session)

@[simp] theorem withPast_cursor : (s.withPast past).cursor = s.cursor := rfl
@[simp] theorem withPast_leased : (s.withPast past).leased = s.leased := rfl
@[simp] theorem withPast_deadline : (s.withPast past).deadline = s.deadline := rfl
@[simp] theorem withPast_clock : (s.withPast past).clock = s.clock := rfl
@[simp] theorem withPast_isSettled : (s.withPast past).isSettled = s.isSettled := rfl
@[simp] theorem withPast_isFinished : (s.withPast past).isFinished = s.isFinished := rfl

@[simp] theorem record_withPast (e : Event) :
    (s.withPast past).record e = (s.record e).withPast past := by
  simp [record, withPast]

@[simp] theorem note_withPast (n : Note) :
    (s.withPast past).note n = (s.note n).withPast past :=
  record_withPast past s (.noted n)

@[simp] theorem deliver_withPast (result : Except Failure Document) :
    (s.withPast past).deliver result = (s.deliver result).withPast past :=
  record_withPast past s (.delivered result)

theorem noteAll_withPast (notes : List Note) :
    (s.withPast past).noteAll notes = (s.noteAll notes).withPast past := by
  induction notes generalizing s with
  | nil => rfl
  | cons n notes ih =>
    show ((s.withPast past).note n).noteAll notes = _
    rw [note_withPast, ih]
    rfl

theorem release_withPast (r : Resource) :
    (s.withPast past).release r = (s.release r).withPast past := by
  simp [release, record, withPast]

@[simp] theorem giveBack_withPast :
    (s.withPast past).giveBack = s.giveBack.withPast past := by
  unfold giveBack
  rw [withPast_leased]
  split
  · rw [release_withPast, release_withPast]
    rfl
  · rfl

@[simp] theorem giveBackOnDrop_withPast :
    (s.withPast past).giveBackOnDrop = s.giveBackOnDrop.withPast past := by
  unfold giveBackOnDrop
  rw [withPast_leased]
  split
  · rw [note_withPast, giveBack_withPast]
  · rfl

@[simp] theorem beginCall_withPast :
    (s.withPast past).beginCall = s.beginCall.withPast past := by
  unfold beginCall
  rw [withPast_cursor]
  split <;> rfl

@[simp] theorem close_withPast : (s.withPast past).close = s.close.withPast past := rfl

@[simp] theorem finishClose_withPast :
    (s.withPast past).finishClose = s.finishClose.withPast past := by
  simp [finishClose]

@[simp] theorem breakKill_withPast (saved : Option Span) :
    (s.withPast past).breakKill saved = (s.breakKill saved).withPast past :=
  giveBackOnDrop_withPast past (s.putBack saved)

/-! ### What the work of a session comes to -/

theorem send_withPast (command : Command) (stop : Option Bool) :
    (s.withPast past).send command stop =
      ((s.send command stop).1.withPast past, (s.send command stop).2) := by
  simp [send, withPast, record]

theorem beginFetch_withPast (stop : Option Bool) :
    (s.withPast past).beginFetch stop =
      ((s.beginFetch stop).1.withPast past, (s.beginFetch stop).2) := by
  obtain ⟨cursor, leased, deadline, clock, counts, journal⟩ := s
  simp only [beginFetch, withPast]
  split
  · rfl
  · next started command _ =>
    cases leased with
    | false => rfl
    | true =>
      have sent := send_withPast past ⟨started, true, deadline, clock.read.2, counts, journal⟩
        command stop
      exact congrArg (fun r => (r.1, Except.ok r.2)) sent

theorem settleFetch_withPast (result : Except Failure Document) :
    (s.withPast past).settleFetch result =
      ((s.settleFetch result).1.withPast past, (s.settleFetch result).2) := by
  apply Prod.ext
  · exact note_withPast past { s with cursor := (s.cursor.settleFetch result).1 } _
  · rfl

theorem takeKill_withPast :
    (s.withPast past).takeKill = (s.takeKill.1.withPast past, s.takeKill.2) := by
  apply Prod.ext
  · exact noteAll_withPast past { s with cursor := s.cursor.takeKill.1 } _
  · rfl

theorem cleanUp_withPast (kill : Option Command) (stop : Option Bool) :
    (s.withPast past).cleanUp kill stop =
      ((s.cleanUp kill stop).1.withPast past, (s.cleanUp kill stop).2) := by
  cases kill with
  | none => exact congrArg (·, Cleanup.finished) (giveBack_withPast past s)
  | some command =>
    obtain ⟨cursor, leased, deadline, clock, counts, journal⟩ := s
    cases leased with
    | false => rfl
    | true =>
      have sent := send_withPast past
        (underKillTime ⟨cursor, true, deadline, clock, counts, journal⟩) command stop
      exact congrArg (fun r => (r.1, Cleanup.killing r.2 deadline.override)) sent

theorem beginRelease_withPast (stop : Option Bool) :
    (s.withPast past).beginRelease stop =
      ((s.beginRelease stop).1.withPast past, (s.beginRelease stop).2) := by
  rw [beginRelease_eq, takeKill_withPast, cleanUp_withPast, beginRelease_eq]

theorem finish_withPast (call : Call) :
    (s.withPast past).finish call = ((s.finish call).1.withPast past, (s.finish call).2) := by
  simp only [finish, withPast_cursor]
  split <;> rfl

@[simp] theorem settleKill_withPast (saved : Option Span) (result : Except Failure Document) :
    (s.withPast past).settleKill saved result = (s.settleKill saved result).withPast past := by
  show (((s.putBack saved).withPast past).note _).giveBack = _
  rw [note_withPast, giveBack_withPast]
  rfl

/-- The result of a command that ends the server's cursor is only written down. -/
theorem settleKill_eq_withPast (saved : Option Span) (result : Except Failure Document) :
    ∃ n, (s.deliver result).settleKill saved result =
      withPast (s.journal ++ [.delivered result, .noted n])
        (giveBack { s.putBack saved with journal := [] }) := by
  obtain ⟨n, hn⟩ := (s.deliver result).settleKill_eq saved result
  refine ⟨n, ?_⟩
  rw [hn, ← giveBack_withPast]
  congr 1
  simp [withPast, note, record, putBack, deliver]

end Session

/-! ### Blocking cursors -/

namespace Blocking

def withPast (past : List Event) (b : Blocking) : Blocking :=
  { b with session := b.session.withPast past }

variable {go : Blocking → Blocking × Progress}

theorem answered_oblivious (a : Answer) : Oblivious withPast (·.answered a) := fun _ _ => rfl

theorem finish_oblivious (call : Call) : Oblivious withPast (·.finish call) := by
  intro past b
  simp only [finish, withPast, Session.finish_withPast]
  rfl

theorem afterCleanup_oblivious (after : Aftermath) (hgo : Oblivious withPast go) :
    Oblivious withPast (·.afterCleanup after go) := by
  intro past b
  simp only [afterCleanup, withPast, Session.beginRelease_withPast]
  rcases b.session.beginRelease (some false) with ⟨session, _ | ⟨sending, saved⟩⟩
  · exact hgo past { b with session }
  · rfl

theorem finishClose_oblivious (answer : Answer) : Oblivious withPast (finishClose answer) := by
  intro past b
  simp only [finishClose, withPast, Session.finishClose_withPast]
  rfl

theorem closeWith_oblivious (answer : Answer) : Oblivious withPast (·.closeWith answer) :=
  .ite (fun _ _ => Iff.rfl) (answered_oblivious answer)
    (afterCleanup_oblivious (.closing answer) (finishClose_oblivious answer))

theorem failing_oblivious (call : Call) (f : Failure) : Oblivious withPast (failing call f) := by
  have closing : Oblivious withPast fun b : Blocking =>
      if b.signal.closeRequested then b.closeWith (closedAnswer call) else b.failed f :=
    .ite (fun _ _ => Iff.rfl) (closeWith_oblivious _) (answered_oblivious _)
  apply Oblivious.ite
  · exact fun _ _ => Iff.rfl
  · exact closing.comp _ fun _ _ => rfl
  · exact answered_oblivious _

theorem failWith_oblivious (call : Call) (f : Failure) :
    Oblivious withPast (·.failWith call f) :=
  .ite (fun _ _ => Iff.rfl) (failing_oblivious call f)
    (afterCleanup_oblivious (.failing call f) (failing_oblivious call f))

theorem fetch_oblivious (call : Call) : Oblivious withPast (·.fetch call) := by
  intro past b
  simp only [fetch, withPast, Session.beginFetch_withPast]
  rcases b.session.beginFetch (some b.signal.shouldStop) with ⟨session, f | sending⟩
  · simp only [Session.settleFetch_withPast]
    rcases session.settleFetch (.error f) with ⟨session, g | ⟨⟩⟩
    · exact failWith_oblivious call g past { b with session }
    · exact finish_oblivious call past { b with session }
  · rfl

theorem unlessInterrupted_oblivious (hgo : Oblivious withPast go) :
    Oblivious withPast (·.unlessInterrupted go) :=
  .ite (fun _ _ => Iff.rfl) (fun _ _ => rfl) hgo

theorem proceed_oblivious (call : Call) : Oblivious withPast (·.proceed call) :=
  .ite (fun _ _ => Iff.rfl) (finish_oblivious call)
    (unlessInterrupted_oblivious (fetch_oblivious call))

theorem fetched_oblivious (call : Call) : Oblivious withPast (fetched call) :=
  .ite (fun _ _ => Iff.rfl) (closeWith_oblivious _)
    (.ite (fun _ _ => Iff.rfl) (finish_oblivious call)
      (unlessInterrupted_oblivious (proceed_oblivious call)))

theorem iterate_oblivious (call : Call) : Oblivious withPast (·.iterate call) := by
  have entering := (proceed_oblivious call).comp
    (fun b => { b with session := b.session.beginCall }) fun past b => by
      simp only [withPast, Session.beginCall_withPast]
  exact .ite (fun _ _ => Iff.rfl) (closeWith_oblivious _)
    (.ite (fun _ _ => Iff.rfl) (answered_oblivious _) entering)

theorem request_oblivious (r : Request) : Oblivious withPast (·.request r) := by
  cases r with
  | iterate call => exact iterate_oblivious call
  | close => exact closeWith_oblivious .done
  | setBatchSize n => exact fun _ _ => rfl
  | inspect => exact fun _ _ => rfl

theorem drop_oblivious : Oblivious withPast drop := by
  have closing := (closeWith_oblivious .done).comp
    (fun b => { b with session := b.session.note dropNote }) fun past b => by
      simp only [withPast, Session.note_withPast]
  exact .ite (fun _ _ => Iff.rfl) (answered_oblivious .done) closing

theorem resumeAfter_oblivious (after : Aftermath) : Oblivious withPast (·.resumeAfter after) := by
  cases after with
  | opened => exact answered_oblivious .done
  | fetched call => exact fetched_oblivious call
  | failing call f => exact failing_oblivious call f
  | closing answer => exact finishClose_oblivious answer

theorem settleBatch_oblivious (call : Call) (result : Except Failure Document) :
    Oblivious withPast (·.settleBatch call result) := by
  intro past b
  simp only [settleBatch, withPast, Session.deliver_withPast, Session.settleFetch_withPast]
  rcases (b.session.deliver result).settleFetch result with ⟨session, f | ⟨⟩⟩
  · exact failWith_oblivious call f past { b with session }
  · have going : Oblivious withPast fun b : Blocking =>
        if b.session.cursor.phase = .active then fetched call b
        else b.afterCleanup (.fetched call) (fetched call) :=
      .ite (fun _ _ => Iff.rfl) (fetched_oblivious call)
        (afterCleanup_oblivious (.fetched call) (fetched_oblivious call))
    exact going past { b with session }

/-- Whatever the command that ends the server's cursor came to, the rest of the call is the same. -/
theorem settle_kill_eq (b : Blocking) (result : Except Failure Document) (saved : Option Span)
    (after : Aftermath) :
    ∃ n, b.settle result (.kill saved after) =
      let past := b.session.journal ++ [.delivered result, .noted n]
      let rest := { b with
        session := Session.giveBack { b.session.putBack saved with journal := [] } }.resumeAfter
        after
      (rest.1.withPast past, rest.2) := by
  obtain ⟨n, hn⟩ := b.session.settleKill_eq_withPast saved result
  refine ⟨n, ?_⟩
  simp only [settle, hn]
  exact resumeAfter_oblivious after _
    { b with session := Session.giveBack { b.session.putBack saved with journal := [] } }

theorem settle_oblivious (result : Except Failure Document) (wait : Wait) :
    Oblivious withPast (·.settle result wait) := by
  intro past b
  cases wait with
  | batch call => exact settleBatch_oblivious call result past b
  | kill saved after =>
    have settled := Session.settleKill_withPast past (b.session.deliver result) saved result
    simp only [settle, withPast, Session.deliver_withPast, settled]
    exact resumeAfter_oblivious after past
      { b with session := (b.session.deliver result).settleKill saved result }

theorem crash_oblivious (text : String) (wait : Wait) : Oblivious withPast (·.crash text wait) := by
  intro past b
  cases wait with
  | batch call => rfl
  | kill saved after =>
    simp only [crash, withPast, Session.breakKill_withPast]
    cases after <;> simp [Session.note_withPast]

theorem resume_oblivious (wait : Wait) (o : Outcome) : Oblivious withPast (·.resume wait o) := by
  cases o with
  | reply d => exact settle_oblivious (.ok d) wait
  | failure f => exact settle_oblivious (.error f) wait
  | crash text => exact crash_oblivious text wait

end Blocking

end ResultCursor
