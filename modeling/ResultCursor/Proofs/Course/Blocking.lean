import ResultCursor.Proofs.Course.Step
import ResultCursor.Proofs.Run.Moves

/-! A blocking cursor takes only steps of sessions: whatever a move does, it is a course from the
situation before it to the situation after it. -/

namespace ResultCursor.Blocking

open Situation Relation

variable {R : Rules} {b : Blocking} {h : History} {call : Call} {after : Aftermath}
  {answer : Answer}

/-- The situation in which a part of a call leaves the cursor. -/
def landing (h : History) (r : Blocking × Progress) : Situation := (Play.follow h r).situation

/-! ### Closing -/

theorem afterCleanup_course {go : Blocking → Blocking × Progress}
    (hgo : ∀ b' : Blocking, b'.session.cursor.phase = b.session.cursor.phase →
      Course R ⟨b'.session, .resuming after, h⟩ (landing h (go b'))) :
    Course R ⟨b.session, .leaving after, h⟩ (landing h (b.afterCleanup after go)) := by
  refine .head .takeKill ?_
  unfold afterCleanup
  split
  · next s clean =>
    have hc := Session.beginRelease_cursor clean
    exact .head (.spare clean) (hgo { b with session := s } (by simp [hc]))
  · next s sending saved clean => exact .single (.sendKill clean)

theorem finishClose_course (shut : R .shut) :
    Course R ⟨b.session, .resuming (.closing answer), h⟩ (landing h (finishClose answer b)) :=
  .head (.shut shut) (.single (.note _))

theorem closeWith_course (shut : R .shut) (ha : Answer.ofClose answer = true) :
    Course R ⟨b.session, .idle, h⟩ (landing h (b.closeWith answer)) := by
  unfold closeWith
  split
  · next hf => exact .single (.stay (Session.isFinished_iff.mp hf).1 ha)
  · exact .head (.close ha) (afterCleanup_course fun _ _ => finishClose_course shut)

/-! ### Handing out batches -/

theorem failing_course {f : Failure} (shut : R .shut) :
    Course R ⟨b.session, .resuming (.failing call f), h⟩ (landing h (failing call f b)) := by
  unfold failing
  split
  · dsimp only
    split
    · exact .head (.relent rfl)
        (closeWith_course (b := { b with signal := b.signal.acknowledge }) shut rfl)
    · exact .single .fail
  · exact .single .fail

theorem failWith_course {f : Failure} (shut : R .shut) :
    Course R ⟨b.session, .due b.session (.failing call f), h⟩ (landing h (b.failWith call f)) := by
  unfold failWith Control.due
  split
  · exact failing_course shut
  · exact afterCleanup_course fun _ _ => failing_course shut

theorem finish_course (hs : b.session.isSettled = true) :
    Course R ⟨b.session, .calling call, h⟩ (landing h (b.finish call)) :=
  .single (.finish hs)

theorem fetch_course (shut : R .shut) (hR : b.session.KeepsTo R)
    (hs : b.session.isSettled = false) :
    Course R ⟨b.session, .calling call, h⟩ (landing h (b.fetch call)) := by
  unfold fetch
  split
  · next t sending sent => exact .single (.ask hs sent (hR hs).1)
  · next t f refused =>
    split
    · next u settled =>
      rcases Session.settleFetch_cases settled with
          ⟨r, n, hr, -⟩ | ⟨f, n, -, -, ho, -⟩ | ⟨f, n, -, -, ho, -⟩
      · cases hr
      · cases ho
      · cases ho
    · next u g settled =>
      exact .head (.refuse ((hR hs).2 _ _ _ refused) hs refused settled)
        (failWith_course (b := { b with session := u }) shut)

theorem unlessInterrupted_course {go : Blocking → Blocking × Progress}
    (hgo : b.signal.interrupted = false →
      Course R ⟨b.session, .calling call, h⟩ (landing h (go b))) :
    Course R ⟨b.session, .calling call, h⟩ (landing h (b.unlessInterrupted go)) := by
  unfold unlessInterrupted
  split
  · exact .single (.halt .interrupted)
  · next hi => exact hgo (by simpa using hi)

theorem proceed_course (shut : R .shut)
    (hR : b.signal.interrupted = false → b.session.KeepsTo R) :
    Course R ⟨b.session, .calling call, h⟩ (landing h (b.proceed call)) := by
  unfold proceed
  split
  · next hs => exact finish_course hs
  · next hs =>
    exact unlessInterrupted_course fun hi => fetch_course shut (hR hi) (by simpa using hs)

theorem fetched_course (shut : R .shut) (hR : b.session.KeepsTo R) :
    Course R ⟨b.session, .resuming (.fetched call), h⟩ (landing h (fetched call b)) := by
  unfold fetched
  split
  · exact .head (.relent rfl) (closeWith_course shut rfl)
  · split
    · next ht =>
      subst ht
      exact .single .content
    · next ht =>
      exact .head (.again ht) (unlessInterrupted_course fun _ => proceed_course shut fun _ => hR)

/-- A call that nobody stops before it asks for a batch. -/
def asks (b : Blocking) : Request → Prop
  | .iterate _ => b.signal.closeRequested = false ∧ b.signal.interrupted = false
  | _ => False

theorem iterate_course (shut : R .shut)
    (start : R (.retime b.session b.session.beginCall.deadline))
    (hR : b.asks (.iterate call) → b.session.beginCall.KeepsTo R) :
    Course R ⟨b.session, .idle, h⟩ (landing h (b.iterate call)) := by
  unfold iterate
  split
  · exact closeWith_course shut rfl
  · next hq =>
    split
    · next hc => exact .single (.stay (Cursor.isClosed_iff.mp hc) rfl)
    · next hc =>
      exact .head (.enter call (fun hp => hc (Cursor.isClosed_iff.mpr hp)) start)
        (proceed_course (b := { b with session := b.session.beginCall }) shut
          fun hi => hR ⟨by simpa using hq, hi⟩)

/-! ### Calls -/

theorem request_course (r : Request) (shut : R .shut)
    (start : ∀ call, r = .iterate call → R (.retime b.session b.session.beginCall.deadline))
    (hR : b.asks r → b.session.beginCall.KeepsTo R) :
    Course R ⟨b.session, .idle, h⟩ (landing h (b.request r)) := by
  cases r with
  | iterate call => exact iterate_course shut (start call rfl) hR
  | close => exact closeWith_course shut rfl
  | setBatchSize n => exact .single (.setBatchSize n)
  | inspect => exact .single .inspect

theorem drop_course (shut : R .shut) :
    Course R ⟨b.session, .idle, h⟩ (landing h.retire b.drop) := by
  unfold drop
  split
  · next hf => exact .head (.retire hf) (.single (.stay (Session.isFinished_iff.mp hf).1 rfl))
  · next hf =>
    refine .head (.note dropNote) (.head .dropAndClose ?_)
    unfold closeWith
    split
    · next hn => exact absurd hn hf
    · exact afterCleanup_course (b := { b with session := b.session.note dropNote })
        fun _ _ => finishClose_course shut

theorem resumeAfter_course (shut : R .shut) (hR : b.session.KeepsTo R) :
    Course R ⟨b.session, .resuming after, h⟩ (landing h (b.resumeAfter after)) := by
  cases after with
  | opened => exact .single .opened
  | fetched call => exact fetched_course shut hR
  | failing call f => exact failing_course shut
  | closing answer => exact finishClose_course shut

theorem settleBatch_course (result : Except Failure Document) (shut : R .shut)
    (hR : (Wait.batch call).KeepsTo R b.session) :
    Course R ⟨b.session, .waiting (.batch call), h⟩
      (landing (h.settle b.session.cursor.quota result) (b.settleBatch call result)) := by
  unfold settleBatch
  split
  · next t f settled =>
    exact .head (.settle result settled) (failWith_course (b := { b with session := t }) shut)
  · next t settled =>
    refine .head (.settle result settled) ?_
    simp only [Aftermath.ofFetch, Control.due]
    split
    · exact fetched_course (b := { b with session := t }) shut (hR result t settled)
    · next hp =>
      exact afterCleanup_course (b := { b with session := t })
        fun _ hs => fetched_course shut (.of_phase (hs ▸ hp))

theorem settleKill_course (saved : Option Span) (result : Except Failure Document)
    (shut : R .shut) (hR : (Wait.kill saved after).KeepsTo R b.session) :
    Course R ⟨b.session, .waiting (.kill saved after), h⟩
      (landing h (b.settle result (.kill saved after))) :=
  .head (.settleKill result) (resumeAfter_course
    (b := { b with session := (b.session.deliver result).settleKill saved result }) shut
    (hR result))

/-- A clean-up that broke off. A cursor that was still being opened is gone. -/
theorem crash_course (text : String) (wait : Wait) (broken : R .breakOff) :
    Course R ⟨b.session, .waiting wait, h⟩ (landing (h.giveUp wait) (b.crash text wait)) := by
  cases wait with
  | batch call => exact .single (.lose broken)
  | kill saved after =>
    refine .head (.breakKill broken) ?_
    cases after with
    | opened =>
      refine .head (.note dropNote) (.head (.bury ?_ ?_) (.single (.note _)))
      · simp [History.breakOff, Aftermath.isOpened]
      · simp
    | fetched call => exact .refl
    | failing call f => exact .refl
    | closing answer => exact .refl

theorem resume_course (wait : Wait) (o : Outcome) (shut : R .shut)
    (broken : o.isCrash = true → R .breakOff) (hR : wait.KeepsTo R b.session) :
    Course R ⟨b.session, .waiting wait, h⟩
      (landing (h.hear b.session.cursor.quota wait o) (b.resume wait o)) := by
  cases o with
  | reply d =>
    cases wait with
    | batch call => exact settleBatch_course (.ok d) shut hR
    | kill saved after => exact settleKill_course saved (.ok d) shut hR
  | failure f =>
    cases wait with
    | batch call => exact settleBatch_course (.error f) shut hR
    | kill saved after => exact settleKill_course saved (.error f) shut hR
  | crash text => exact crash_course text wait (broken rfl)

/-! ### Runs -/

variable {reply : Document} {setting : Setting} {p q : Play}

theorem start_course (hp : start reply setting = .ok p) :
    ∃ s, Session.ofReply reply setting = .ok s ∧
      Course R (opening reply setting s) p.situation := by
  rw [start, Blocking.ofReply_eq] at hp
  cases hs : Session.ofReply reply setting with
  | error f => simp [hs] at hp
  | ok s =>
    simp only [hs, Except.ok.injEq] at hp
    subst hp
    refine ⟨s, rfl, ?_⟩
    have hopen := Session.ofReply_not_closed hs
    unfold Situation.opening Control.due
    cases hc : s.cursor.phase with
    | active => exact .single .opened
    | exhausted => exact afterCleanup_course (b := ⟨s, {}⟩) fun _ _ => .single .opened
    | closed => exact absurd hc hopen

theorem Play.situation_of_isFree (hp : p.isFree = true) :
    p.situation = ⟨p.session, .idle, p.history⟩ := by
  have hw : p.wait = none := by simp_all [isFree]
  simp [situation, control, Control.ofWait, hw]

/-- The move keeps to the rules. A blocking cursor may close itself in any call. -/
structure Play.KeepsTo (R : Rules) (p : Play) (m : Move) : Prop where
  shut : R .shut
  asks : ∀ r, m = .request r → p.cursor.asks r → p.session.beginCall.KeepsTo R
  goesOn : ∀ o, m = .outcome o → ∀ wait, p.wait = some wait → wait.KeepsTo R p.session
  broken : ∀ o, m = .outcome o → o.isCrash = true → R .breakOff
  starts : ∀ call, m = .request (.iterate call) →
    R (.retime p.session p.session.beginCall.deadline)
  adjusts : ∀ deadline clock, m = .adjust deadline clock → R (.retime p.session deadline)

theorem Play.KeepsTo.of_all (hR : ∀ d, R d) (p : Play) (m : Move) : p.KeepsTo R m where
  shut := hR _
  asks _ _ _ := .of_all (hR _) (fun _ => hR _) _
  goesOn _ _ wait _ := .of_all (hR _) (fun _ => hR _) _ wait
  broken _ _ _ := hR _
  starts _ _ := hR _
  adjusts _ _ _ := hR _

theorem act_course {m : Move} (hR : p.KeepsTo R m) (hm : p.act m = some q) :
    Course R p.situation q.situation := by
  cases Play.acts hm with
  | request r free =>
    rw [Play.situation_of_isFree free]
    exact request_course r hR.shut (fun call hr => hR.starts call (by rw [hr])) (hR.asks r rfl)
  | @outcome wait o hw =>
    have hs : p.situation = ⟨p.session, .waiting wait, p.history⟩ := by
      simp [Play.situation, Play.control, Control.ofWait, hw]
    rw [hs]
    exact resume_course wait o hR.shut (hR.broken o rfl) (hR.goesOn o rfl wait hw)
  | interrupt =>
    exact .refl
  | requestClose =>
    exact .refl
  | adjust deadline clock =>
    exact .single (.adjust deadline clock (hR.adjusts deadline clock rfl))
  | drop free =>
    rw [Play.situation_of_isFree free]
    exact drop_course hR.shut

theorem act_courses (hS : Courses reply setting p.situation) (hm : p.act m = some q) :
    Courses reply setting q.situation := by
  obtain ⟨s, hs, course⟩ := hS
  exact ⟨s, hs, course.trans (act_course (.of_all (fun _ => trivial) p m) hm)⟩

/-- Any moves one after the other are a course. -/
theorem run_course {moves : List Move} (run : moves.foldlM Play.act p = some q) :
    Course (fun _ => True) p.situation q.situation :=
  run_induction (P := fun q => Course (fun _ => True) p.situation q.situation) .refl
    (fun q _ m course hm => course.trans (act_course (.of_all (fun _ => trivial) q m) hm)) run

/-- What a run of a blocking cursor comes to is on a course from the first reply. -/
theorem Comes.courses {moves : List Move} (hp : Comes reply setting moves p) :
    Courses reply setting p.situation := by
  obtain ⟨p₀, hs, hr⟩ := hp
  obtain ⟨s, hs, first⟩ := start_course hs
  exact ⟨s, hs, first.trans (run_course hr)⟩

end ResultCursor.Blocking
