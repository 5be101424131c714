import ResultCursor.Proofs.Course.Calls
import ResultCursor.Proofs.Unseen.Past

/-! The journal of a shared cursor is only written too, whatever calls run on it. -/

namespace ResultCursor

namespace Shared

def withPast (past : List Event) (c : Shared) : Shared :=
  { c with session := c.session.withPast past }

variable {go : Shared → Shared × Progress}

theorem answered_oblivious (a : Answer) : Oblivious withPast (·.answered a) := fun _ _ => rfl

theorem finish_oblivious (call : Call) : Oblivious withPast (·.finish call) := by
  intro past c
  simp only [finish, withPast, Session.finish_withPast]
  rfl

theorem afterCleanup_oblivious (after : Aftermath) (hgo : Oblivious withPast go) :
    Oblivious withPast (·.afterCleanup after go) := by
  intro past c
  simp only [afterCleanup, withPast, Session.beginRelease_withPast]
  rcases c.session.beginRelease none with ⟨session, _ | ⟨sending, saved⟩⟩
  · exact hgo past { c with session }
  · rfl

theorem finishClose_oblivious (answer : Answer) : Oblivious withPast (finishClose answer) := by
  intro past c
  simp only [finishClose, withPast, Session.finishClose_withPast]
  rfl

theorem close_oblivious : Oblivious withPast close :=
  .ite (fun _ _ => Iff.rfl) (answered_oblivious .done)
    (afterCleanup_oblivious (.closing .done) (finishClose_oblivious .done))

theorem failing_oblivious (f : Failure) : Oblivious withPast (failing f) :=
  answered_oblivious _

theorem failWith_oblivious (call : Call) (f : Failure) :
    Oblivious withPast (·.failWith call f) :=
  .ite (fun _ _ => Iff.rfl) (failing_oblivious f)
    (afterCleanup_oblivious (.failing call f) (failing_oblivious f))

theorem fetch_oblivious (call : Call) : Oblivious withPast (·.fetch call) := by
  intro past c
  simp only [fetch, withPast, Session.beginFetch_withPast]
  rcases c.session.beginFetch none with ⟨session, f | sending⟩
  · simp only [Session.settleFetch_withPast]
    rcases session.settleFetch (.error f) with ⟨session, g | ⟨⟩⟩
    · exact failWith_oblivious call g past { c with session }
    · exact finish_oblivious call past { c with session }
  · rfl

theorem proceed_oblivious (call : Call) : Oblivious withPast (·.proceed call) :=
  .ite (fun _ _ => Iff.rfl) (finish_oblivious call)
    (.ite (fun _ _ => Iff.rfl) (answered_oblivious _) (fetch_oblivious call))

theorem fetched_oblivious (call : Call) : Oblivious withPast (fetched call) :=
  .ite (fun _ _ => Iff.rfl) (finish_oblivious call) (proceed_oblivious call)

theorem iterate_oblivious (call : Call) : Oblivious withPast (·.iterate call) := by
  have entering := (proceed_oblivious call).comp
    (fun c => { c with session := c.session.beginCall }) fun past c => by
      simp only [withPast, Session.beginCall_withPast]
  exact .ite (fun _ _ => Iff.rfl) (answered_oblivious _) entering

theorem request_oblivious (r : Request) : Oblivious withPast (·.request r) := by
  cases r with
  | iterate call => exact iterate_oblivious call
  | close => exact close_oblivious
  | setBatchSize n => exact fun _ _ => rfl
  | inspect => exact fun _ _ => rfl

theorem resumeAfter_oblivious (after : Aftermath) : Oblivious withPast (·.resumeAfter after) := by
  cases after with
  | opened => exact answered_oblivious .done
  | fetched call => exact fetched_oblivious call
  | failing call f => exact failing_oblivious f
  | closing answer => exact finishClose_oblivious answer

theorem settleBatch_oblivious (call : Call) (result : Except Failure Document) :
    Oblivious withPast (·.settleBatch call result) := by
  intro past c
  simp only [settleBatch, withPast, Session.deliver_withPast, Session.settleFetch_withPast]
  rcases (c.session.deliver result).settleFetch result with ⟨session, f | ⟨⟩⟩
  · exact failWith_oblivious call f past { c with session }
  · have going : Oblivious withPast fun c : Shared =>
        if c.session.cursor.phase = .active then fetched call c
        else c.afterCleanup (.fetched call) (fetched call) :=
      .ite (fun _ _ => Iff.rfl) (fetched_oblivious call)
        (afterCleanup_oblivious (.fetched call) (fetched_oblivious call))
    exact going past { c with session }

/-- Whatever the command that ends the server's cursor came to, the rest of the call is the same. -/
theorem settle_kill_eq (c : Shared) (result : Except Failure Document) (saved : Option Span)
    (after : Aftermath) :
    ∃ n, c.settle result (.kill saved after) =
      let past := c.session.journal ++ [.delivered result, .noted n]
      let rest := { c with
        session := Session.giveBack { c.session.putBack saved with journal := [] } }.resumeAfter
        after
      (rest.1.withPast past, rest.2) := by
  obtain ⟨n, hn⟩ := c.session.settleKill_eq_withPast saved result
  refine ⟨n, ?_⟩
  simp only [settle, hn]
  exact resumeAfter_oblivious after _
    { c with session := Session.giveBack { c.session.putBack saved with journal := [] } }

theorem settle_oblivious (result : Except Failure Document) (wait : Wait) :
    Oblivious withPast (·.settle result wait) := by
  intro past c
  cases wait with
  | batch call => exact settleBatch_oblivious call result past c
  | kill saved after =>
    have settled := Session.settleKill_withPast past (c.session.deliver result) saved result
    simp only [settle, withPast, Session.deliver_withPast, settled]
    exact resumeAfter_oblivious after past
      { c with session := (c.session.deliver result).settleKill saved result }

theorem drop_oblivious (tasksRun : Bool) : Oblivious withPast (·.drop tasksRun) := by
  intro past c
  simp only [drop, withPast, Session.withPast_isFinished, Session.note_withPast,
    Session.takeKill_withPast, Session.close_withPast, Session.withPast_leased,
    Session.withPast_cursor, Session.giveBack_withPast]
  split
  · rfl
  · split
    · rfl
    · split <;> rfl

theorem cleanUp_oblivious (kill : Option Command) : Oblivious withPast (·.cleanUp kill) := by
  intro past c
  simp only [cleanUp, withPast, Session.cleanUp_withPast]
  rcases c.session.cleanUp kill none with ⟨session, _ | ⟨sending, saved⟩⟩
  · rfl
  · rfl

theorem abandon_withPast (past : List Event) (c : Shared) (wait : Wait) :
    (c.withPast past).abandon wait = (c.abandon wait).withPast past := by
  cases wait with
  | batch call => rfl
  | kill saved after => simp only [abandon, withPast, Session.breakKill_withPast]

theorem crash_oblivious (text : String) (wait : Wait) : Oblivious withPast (·.crash text wait) := by
  intro past c
  simp only [crash, abandon_withPast]
  have dropped (c : Shared) : (c.withPast past).drop true =
      ((c.drop true).1.withPast past, (c.drop true).2) :=
    drop_oblivious true past c
  split
  · rw [dropped]
  · rfl

theorem resume_oblivious (wait : Wait) (o : Outcome) : Oblivious withPast (·.resume wait o) := by
  cases o with
  | reply d => exact settle_oblivious (.ok d) wait
  | failure f => exact settle_oblivious (.error f) wait
  | crash text => exact crash_oblivious text wait

end Shared

namespace Calls

def withPast (past : List Event) (c : Calls) : Calls :=
  { c with shared := c.shared.withPast past }

@[simp] theorem stage?_withPast (past : List Event) (c : Calls) (i : Nat) :
    (c.withPast past).stage? i = c.stage? i := rfl

/-- What a call came to replaces the cursor, past and all. -/
theorem withPast_settle (past : List Event) (c : Calls) (i : Nat) (r : Shared × Progress) :
    (c.withPast past).settle i r = c.settle i r := by
  obtain ⟨shared, progress⟩ := r
  cases progress <;> rfl

theorem settle_withPast (past : List Event) (c : Calls) (i : Nat) (r : Shared × Progress) :
    c.settle i (r.1.withPast past, r.2) =
      ((c.settle i r).1.withPast past, (c.settle i r).2) := by
  obtain ⟨shared, progress⟩ := r
  cases progress <;> rfl

theorem turn_oblivious (i : Nat) : Oblivious withPast (·.turn i) := by
  intro past c
  simp only [turn, stage?_withPast]
  split
  · next r _ =>
    have asked : (c.withPast past).shared.request r =
        ((c.shared.request r).1.withPast past, (c.shared.request r).2) :=
      Shared.request_oblivious r past c.shared
    rw [asked, withPast_settle, settle_withPast]
    show (if c.turns.isTurnOf i then _ else _) = _
    split <;> rfl
  · rfl

theorem entered_withPast (past : List Event) (c : Calls) (r : Request) :
    (c.withPast past).entered r = (c.entered r).withPast past := by
  cases r <;> rfl

theorem start_withPast (past : List Event) (c : Calls) (r : Request) :
    (c.withPast past).start r =
      ((c.start r).1.withPast past, (c.start r).2.1, (c.start r).2.2) := by
  have turned : ((c.withPast past).entered r).turn c.fresh =
      (((c.entered r).turn c.fresh).1.withPast past, ((c.entered r).turn c.fresh).2) := by
    rw [entered_withPast]
    exact turn_oblivious c.fresh past (c.entered r)
  have same : (c.withPast past).fresh = c.fresh := rfl
  rw [start_eq, start_eq, same, turned]

theorem deliver_oblivious (i : Nat) (o : Outcome) : Oblivious withPast (·.deliver i o) := by
  intro past c
  simp only [deliver, stage?_withPast]
  split
  · next wait _ =>
    have resumed : (c.withPast past).shared.resume wait o =
        ((c.shared.resume wait o).1.withPast past, (c.shared.resume wait o).2) :=
      Shared.resume_oblivious wait o past c.shared
    rw [resumed, withPast_settle, settle_withPast]
  · rfl

theorem abandon_withPast (past : List Event) (c : Calls) (i : Nat) :
    (c.withPast past).abandon i = (c.abandon i).withPast past := by
  simp only [abandon, stage?_withPast]
  split
  · rfl
  · next wait _ =>
    have gone : (c.withPast past).shared.abandon wait = (c.shared.abandon wait).withPast past :=
      Shared.abandon_withPast past c.shared wait
    rw [gone]
    rfl
  · rfl

end Calls

end ResultCursor
