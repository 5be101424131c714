import ResultCursor.Proofs.Course.Step
import ResultCursor.Proofs.Run.Moves

/-! A shared cursor takes only steps of sessions, in the calls that have the turn, in the task
that cleans up after its last handle, and where a call is given up. -/

namespace ResultCursor.Shared

open Situation Relation

variable {R : Rules} {c : Shared} {h : History} {call : Call} {after : Aftermath}
  {answer : Answer}

/-- The situation in which a part of a call leaves the cursor. -/
def landing (h : History) (r : Shared × Progress) : Situation :=
  ⟨r.1.session, .ofWait r.2.wait?, h.follow r.2⟩

/-! ### Closing -/

theorem afterCleanup_course {go : Shared → Shared × Progress}
    (hgo : ∀ c' : Shared, c'.session.cursor.phase = c.session.cursor.phase →
      c.afterCleanup after go = go c' →
      Course R ⟨c'.session, .resuming after, h⟩ (landing h (go c'))) :
    Course R ⟨c.session, .leaving after, h⟩ (landing h (c.afterCleanup after go)) := by
  refine .head .takeKill ?_
  unfold afterCleanup at hgo ⊢
  split
  · next s clean =>
    have hc := Session.beginRelease_cursor clean
    exact .head (.spare clean) (hgo { c with session := s } (by simp [hc]) (by simp [clean]))
  · next s sending saved clean => exact .single (.sendKill clean)

theorem finishClose_course (shut : R .shut) :
    Course R ⟨c.session, .resuming (.closing answer), h⟩ (landing h (finishClose answer c)) :=
  .head (.shut shut) (.single (.note _))

/-- Only a close that comes to its answer closes the cursor. -/
theorem close_course (shut : ∀ a, c.close.2 = .answered a → R .shut) :
    Course R ⟨c.session, .idle, h⟩ (landing h c.close) := by
  unfold close at shut ⊢
  split
  · next hf => exact .single (.stay (Session.isFinished_iff.mp hf).1 rfl)
  · next hf =>
    rw [if_neg hf] at shut
    refine .head (.close rfl) (afterCleanup_course fun c' _ hgo => ?_)
    exact finishClose_course (shut .done (congrArg Prod.snd hgo))

/-! ### Handing out batches -/

theorem failing_course {f : Failure} :
    Course R ⟨c.session, .resuming (.failing call f), h⟩ (landing h (failing f c)) :=
  .single .fail

theorem failWith_course {f : Failure} :
    Course R ⟨c.session, .due c.session (.failing call f), h⟩ (landing h (c.failWith call f)) := by
  unfold failWith Control.due
  split
  · exact failing_course
  · exact afterCleanup_course fun _ _ _ => failing_course

theorem fetch_course (hR : c.session.KeepsTo R) (hs : c.session.isSettled = false) :
    Course R ⟨c.session, .calling call, h⟩ (landing h (c.fetch call)) := by
  unfold fetch
  split
  · next t sending sent => exact .single (.ask hs sent (hR hs).1)
  · next t f refused =>
    split
    · next u settled =>
      rcases Session.settleFetch_cases settled with
          ⟨r, n, hr, -⟩ | ⟨f, n, -, -, ho, -⟩ | ⟨f, n, -, -, ho, -⟩
      · cases hr
      · cases ho
      · cases ho
    · next u g settled =>
      exact .head (.refuse ((hR hs).2 _ _ _ refused) hs refused settled)
        (failWith_course (c := { c with session := u }))

theorem proceed_course (hR : c.closeRequested = false → c.session.KeepsTo R) :
    Course R ⟨c.session, .calling call, h⟩ (landing h (c.proceed call)) := by
  unfold proceed
  split
  · next hs => exact .single (.finish hs)
  · next hs =>
    split
    · exact .single (.halt .closeRequested)
    · next hq => exact fetch_course (hR (by simpa using hq)) (by simpa using hs)

theorem fetched_course (hR : c.closeRequested = false → c.session.KeepsTo R) :
    Course R ⟨c.session, .resuming (.fetched call), h⟩ (landing h (fetched call c)) := by
  unfold fetched
  split
  · next ht =>
    subst ht
    exact .single .content
  · next ht => exact .head (.again ht) (proceed_course hR)

/-- A call that nobody stops before it asks for a batch. -/
def asks (c : Shared) : Request → Prop
  | .iterate _ => c.closeRequested = false
  | _ => False

theorem iterate_course (start : R (.retime c.session c.session.beginCall.deadline))
    (hR : c.asks (.iterate call) → c.session.beginCall.KeepsTo R) :
    Course R ⟨c.session, .idle, h⟩ (landing h (c.iterate call)) := by
  unfold iterate
  split
  · next hc => exact .single (.stay (Cursor.isClosed_iff.mp hc) rfl)
  · next hc =>
    exact .head (.enter call (fun hp => hc (Cursor.isClosed_iff.mpr hp)) start)
      (proceed_course (c := { c with session := c.session.beginCall }) hR)

/-! ### Calls -/

/-- A call that begins keeps to the rules. -/
structure KeepsTo (R : Rules) (c : Shared) (r : Request) : Prop where
  asks : c.asks r → c.session.beginCall.KeepsTo R
  shut : r = .close → ∀ a, c.close.2 = .answered a → R .shut
  starts : ∀ call, r = .iterate call → R (.retime c.session c.session.beginCall.deadline)

theorem KeepsTo.of_all (hR : ∀ d, R d) (c : Shared) (r : Request) : c.KeepsTo R r :=
  ⟨fun _ => .of_all (hR _) (fun _ => hR _) _, fun _ _ _ => hR _, fun _ _ => hR _⟩

theorem request_course (r : Request) (hR : c.KeepsTo R r) :
    Course R ⟨c.session, .idle, h⟩ (landing h (c.request r)) := by
  cases r with
  | iterate call => exact iterate_course (hR.starts call rfl) hR.asks
  | close => exact close_course (hR.shut rfl)
  | setBatchSize n => exact .single (.setBatchSize n)
  | inspect => exact .single .inspect

theorem resumeAfter_course (shut : after.isClosing = true → R .shut)
    (hR : c.closeRequested = false → c.session.KeepsTo R) :
    Course R ⟨c.session, .resuming after, h⟩ (landing h (c.resumeAfter after)) := by
  cases after with
  | opened => exact .single .opened
  | fetched call => exact fetched_course hR
  | failing call f => exact failing_course
  | closing answer => exact finishClose_course (shut rfl)

theorem settleBatch_course (result : Except Failure Document)
    (hR : c.closeRequested = false → (Wait.batch call).KeepsTo R c.session) :
    Course R ⟨c.session, .waiting (.batch call), h⟩
      (landing (h.settle c.session.cursor.quota result) (c.settleBatch call result)) := by
  unfold settleBatch
  split
  · next t f settled =>
    exact .head (.settle result settled) (failWith_course (c := { c with session := t }))
  · next t settled =>
    refine .head (.settle result settled) ?_
    simp only [Aftermath.ofFetch, Control.due]
    split
    · exact fetched_course (c := { c with session := t }) fun hq => hR hq result t settled
    · next hp =>
      exact afterCleanup_course (c := { c with session := t })
        fun _ hs _ => fetched_course fun _ => .of_phase (hs ▸ hp)

theorem settleKill_course (saved : Option Span) (result : Except Failure Document)
    (shut : after.isClosing = true → R .shut)
    (hR : c.closeRequested = false → (Wait.kill saved after).KeepsTo R c.session) :
    Course R ⟨c.session, .waiting (.kill saved after), h⟩
      (landing h (c.settle result (.kill saved after))) :=
  .head (.settleKill result) (resumeAfter_course
    (c := { c with session := (c.session.deliver result).settleKill saved result }) shut
    fun hq => hR hq result)

/-! ### Dropping -/

/-- What is left to do after the last handle. -/
def Leftover.control : Leftover → Control
  | .task kill => .cleaning kill .opened
  | .finished => .idle

theorem drop_course (tasksRun : Bool) (broken : tasksRun = false → R .breakOff) :
    Course R ⟨c.session, .idle, h⟩
      ⟨(c.drop tasksRun).1.session, (c.drop tasksRun).2.control, h.retire⟩ := by
  unfold drop
  split
  · next hf => exact .single (.retire hf)
  · refine .head (.note dropNote) (.head .dropAndLeave ?_)
    dsimp only
    split
    · next hl =>
      have hs : (c.session.note dropNote).takeKill.1.close.leased = false := by simpa using hl
      have step : Step R
          ⟨(c.session.note dropNote).takeKill.1.close,
            .cleaning (c.session.note dropNote).takeKill.2 .opened, h.retire⟩
          ⟨(c.session.note dropNote).takeKill.1.close.giveBack, .idle, h.retire⟩ :=
        .forsake fun hl => absurd hl (Bool.eq_false_iff.mp hs)
      rw [Session.giveBack_of_not_leased hs] at step
      exact .single step
    · split
      · exact .refl
      · next ht => exact .head (.note _) (.single (.forsake fun _ => broken (by simpa using ht)))

/-- Without leases the last handle leaves nothing to clean up. -/
theorem drop_finished (hl : c.session.leased = false) (tasksRun : Bool) :
    (c.drop tasksRun).2 = .finished := by
  unfold drop
  split
  · rfl
  · obtain ⟨notes, ht⟩ := Session.takeKill_fst (c.session.note dropNote)
    simp [ht, hl]

theorem abandon_course (wait : Wait) (broken : R .breakOff) :
    Course R ⟨c.session, .waiting wait, h⟩ ⟨(c.abandon wait).session, .idle, h.giveUp wait⟩ := by
  cases wait with
  | batch call => exact .single (.lose broken)
  | kill saved after => exact .single (.breakKill broken)

/-- A clean-up that belongs to no call breaks off, and the cursor is dropped with it. -/
theorem forsaken_course (saved : Option Span) (broken : R .breakOff) :
    Course R ⟨c.session, .waiting (.kill saved .opened), h⟩
      ⟨((c.abandon (.kill saved .opened)).drop true).1.session, .idle, h.breakOff .opened⟩ := by
  refine (abandon_course _ broken).trans ?_
  have hd := drop_course (R := R) (c := c.abandon (.kill saved .opened))
    (h := h.breakOff .opened) true fun _ => broken
  rw [drop_finished (by simp [abandon])] at hd
  simpa [History.giveUp, History.retire, History.breakOff, Aftermath.isOpened, Leftover.control]
    using hd

/-- A call that goes on keeps to the rules. -/
structure GoesOn (R : Rules) (c : Shared) (wait : Wait) (o : Outcome) : Prop where
  asks : c.closeRequested = false → wait.KeepsTo R c.session
  shut : o.isCrash = false → wait.isClosing = true → R .shut
  broken : o.isCrash = true → R .breakOff

theorem GoesOn.of_all (hR : ∀ d, R d) (c : Shared) (wait : Wait) (o : Outcome) :
    c.GoesOn R wait o :=
  ⟨fun _ => .of_all (hR _) (fun _ => hR _) _ wait, fun _ _ => hR _, fun _ => hR _⟩

theorem resume_course (wait : Wait) (o : Outcome) (hR : c.GoesOn R wait o) :
    Course R ⟨c.session, .waiting wait, h⟩
      (landing (h.hear c.session.cursor.quota wait o) (c.resume wait o)) := by
  cases o with
  | reply d =>
    cases wait with
    | batch call => exact settleBatch_course (.ok d) hR.asks
    | kill saved after => exact settleKill_course saved (.ok d) (hR.shut rfl) hR.asks
  | failure f =>
    cases wait with
    | batch call => exact settleBatch_course (.error f) hR.asks
    | kill saved after => exact settleKill_course saved (.error f) (hR.shut rfl) hR.asks
  | crash text =>
    have broken := hR.broken rfl
    cases wait with
    | batch call => exact .single (.lose broken)
    | kill saved after =>
      cases after with
      | opened => exact forsaken_course saved broken
      | fetched call => exact abandon_course _ broken
      | failing call f => exact abandon_course _ broken
      | closing answer => exact abandon_course _ broken

theorem cleanUp_course (kill : Option Command) :
    Course R ⟨c.session, .cleaning kill .opened, h⟩ (landing h (c.cleanUp kill)) := by
  unfold cleanUp
  split
  · next s clean => exact .head (.spare clean) (.single .opened)
  · next s sending saved clean => exact .single (.sendKill clean)

/-- The clean-up after the last handle is given up before it begins. -/
theorem discard_course (kill : Option Command) (broken : R .breakOff) :
    Course R ⟨c.session, .cleaning kill .opened, h⟩ ⟨c.discard.session, .idle, h⟩ := by
  rcases c.session.giveBackOnDrop_eq with hb | ⟨n, hb⟩
  · simp only [discard, hb]
    exact .single (.forsake fun _ => broken)
  · simp only [discard, hb]
    exact .head (.note n) (.single (.forsake fun _ => broken))

/-! ### Openings -/

theorem ofReply_course {reply : Document} {setting : Setting} {r : Shared × Progress}
    (hr : Shared.ofReply reply setting = .ok r) :
    ∃ s, Session.ofReply reply setting = .ok s ∧
      Course R (opening reply setting s) (landing (.ofReply reply setting) r) := by
  rw [Shared.ofReply_eq] at hr
  cases hs : Session.ofReply reply setting with
  | error f => simp [hs] at hr
  | ok s =>
    simp only [hs, Except.ok.injEq] at hr
    subst hr
    refine ⟨s, rfl, ?_⟩
    have hopen := Session.ofReply_not_closed hs
    unfold Situation.opening Control.due
    cases hc : s.cursor.phase with
    | active => exact .single .opened
    | exhausted => exact afterCleanup_course (c := ⟨s, false⟩) fun _ _ _ => .single .opened
    | closed => exact absurd hc hopen

end ResultCursor.Shared
