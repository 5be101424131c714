import ResultCursor.Proofs.Conservation
import ResultCursor.Proofs.Exhaustion
import ResultCursor.Proofs.Sharing.Closing

/-! What calls that run side by side are answered. Each move answers one call at most; the batches
among the answers are those that the cursor hands out; and once a close was answered, a call that
looks for a batch is told that the cursor is closed. -/

namespace ResultCursor

open Shared

/-- The answer of a call with the request, given what the session was before and is now. -/
structure Answer.Fits (a : Answer) (r : Request) (before now : Session) : Prop where
  closed : r = .close → now.isFinished = true
  refused : ∀ call, r = .iterate call → before.isFinished = true →
    a = .failed (.closed call.closure)

namespace Shared

variable {c : Shared} {r : Request} {wait : Wait} {o : Outcome} {a : Answer}

/-- A finished cursor answers every call at once, and stays as it is but for the batch size. -/
theorem request_of_finished (hf : c.session.isFinished = true) (r : Request) :
    ∃ c' a, c.request r = (c', .answered a) ∧ c'.session.isFinished = true ∧
      ∀ call, r = .iterate call → a = .failed (.closed call.closure) := by
  have closed : c.session.cursor.isClosed = true := (Bool.and_eq_true_iff.mp hf).1
  cases r with
  | iterate call =>
    refine ⟨c, .failed (.closed call.closure), ?_, hf, fun _ hr => by cases hr; rfl⟩
    simp [request, iterate, closed, failed, answered]
  | close =>
    refine ⟨c, .done, ?_, hf, by simp⟩
    simp [request, close, hf, answered]
  | setBatchSize n => exact ⟨_, .done, rfl, hf, by simp⟩
  | inspect => exact ⟨c, _, rfl, hf, by simp⟩

theorem request_fits (ha : (c.request r).2 = .answered a) :
    a.Fits r c.session (c.request r).1.session where
  closed hr := (request_attends c r).closed hr a ha
  refused call hr hf := by
    subst hr
    have closed := request_of_closed (Session.isFinished_iff.mp hf).1 call
    cases ha.symm.trans closed
    rfl

theorem resume_fits (hw : wait.Serves r) (busy : c.session.isFinished = false)
    (ha : (c.resume wait o).2 = .answered a) : a.Fits r c.session (c.resume wait o).1.session where
  closed hr := (resume_attends hw o).closed hr a ha
  refused call hr hf := by cases busy.symm.trans hf

/-- A close whose clean-up comes to an outcome is answered. -/
theorem resume_closing (hc : wait.isClosing = true) (ho : o.isCrash = false) :
    ∃ a, (c.resume wait o).2 = .answered a := by
  match wait, o with
  | .kill _ (.closing answer), .reply _ => exact ⟨answer, rfl⟩
  | .kill _ (.closing answer), .failure _ => exact ⟨answer, rfl⟩
  | .kill _ (.closing _), .crash _ => cases ho

/-- No call closes the cursor. -/
def unshut : Rules := (· ≠ .shut)

theorem unshut_breakOff : unshut .breakOff := by simp [unshut]

theorem unshut_retime (s : Session) (deadline : Deadline) : unshut (.retime s deadline) := by
  simp [unshut]

end Shared

theorem Session.keepsTo_unshut (s : Session) : s.KeepsTo unshut :=
  .of_all (by simp [unshut]) (by simp [unshut]) s

theorem Wait.keepsTo_unshut (wait : Wait) (s : Session) : wait.KeepsTo unshut s :=
  .of_all (by simp [unshut]) (by simp [unshut]) s wait

theorem Wait.Serves.closing {r : Request} {wait : Wait} (hw : wait.Serves r)
    (hc : wait.isClosing = true) : r = .close := by
  match wait with
  | .kill _ (.closing _) => exact hw

/-- A call waits for the clean-up of a close if and only if it is one. -/
theorem Wait.serves_close_iff {wait : Wait} : wait.Serves .close ↔ wait.isClosing = true := by
  cases wait with
  | batch call => simp [Wait.Serves, Wait.isClosing]
  | kill saved after =>
    cases after <;> simp [Wait.Serves, Wait.isClosing, Aftermath.Serves, Aftermath.isClosing]

/-! ### Single calls -/

namespace Calls

variable {c : Calls} {started : List Request} {i : Nat} {r : Request} {wait : Wait} {o : Outcome}
  {a : Answer} {x : Shared × Progress}

def Status.answer? : Status → Option Answer
  | .answered a => some a
  | _ => none

theorem Status.answer?_eq_some {status : Status} :
    status.answer? = some a ↔ status = .answered a := by
  cases status <;> simp [answer?]

theorem settle_answered : (c.settle i x).2 = .answered a ↔ x.2 = .answered a := by
  obtain ⟨shared, progress⟩ := x
  cases progress <;> simp [settle]

theorem turn_eq (hi : c.stage? i = some (.inLine r)) (ht : c.turns.holder = some i) :
    c.turn i = c.settle i (c.shared.request r) := by
  simp [turn, hi, Turns.isTurnOf, ht]

/-- A new call stands in line. -/
theorem entered_stage? (c : Calls) (r : Request) :
    (c.entered r).stage? c.fresh = some (.inLine r) :=
  c.put_stage? c.fresh (.inLine r)

theorem deliver_eq (hi : c.stage? i = some (.waiting wait)) :
    c.deliver i o = c.settle i (c.shared.resume wait o) := by
  simp only [deliver, hi]

theorem Serves.turn_fits (h : c.Serves started) (ha : (c.turn i).2 = .answered a) :
    ∃ r, started[i]? = some r ∧ a.Fits r c.shared.session (c.turn i).1.shared.session := by
  unfold Calls.turn at ha ⊢
  split at ha
  · next r hi =>
    split at ha
    · obtain ⟨r', hr, hs⟩ := h.of_stage hi
      cases hs
      refine ⟨r, hr, ?_⟩
      simpa [*, settle_shared] using request_fits (settle_answered.mp ha)
    · cases ha
  · cases ha

theorem Serves.deliver_fits (h : c.Serves started) (hi : c.stage? i = some (.waiting wait))
    (busy : c.shared.session.isFinished = false) (ha : (c.deliver i o).2 = .answered a) :
    ∃ r, started[i]? = some r ∧ a.Fits r c.shared.session (c.deliver i o).1.shared.session := by
  obtain ⟨r, hr, hs⟩ := h.of_stage hi
  rw [deliver_eq hi] at ha ⊢
  rw [settle_shared]
  exact ⟨r, hr, resume_fits hs busy (settle_answered.mp ha)⟩

/-- A call that is not a close, or is not answered, does not close the cursor. -/
theorem Serves.keepsTo_unshut (h : c.Serves started)
    (ha : ∀ a, (c.turn i).2 = .answered a → started[i]? ≠ some .close) : c.KeepsTo unshut i := by
  intro r hi ht
  refine ⟨fun _ => Session.keepsTo_unshut _, fun hr a hc => ?_, fun _ _ => unshut_retime _ _⟩
  subst hr
  obtain ⟨r', hs, rfl⟩ := h.of_stage hi
  exact absurd hs (ha a (by rw [turn_eq hi ht]; exact settle_answered.mpr hc))

theorem Serves.goesOn_unshut (h : c.Serves started) (hi : c.stage? i = some (.waiting wait))
    (ha : ∀ a, (c.deliver i o).2 = .answered a → started[i]? ≠ some .close) :
    c.shared.GoesOn unshut wait o := by
  refine ⟨fun _ => wait.keepsTo_unshut _, fun ho hc => ?_, fun _ => unshut_breakOff⟩
  obtain ⟨r, hr, hs⟩ := h.of_stage hi
  obtain ⟨a, answered⟩ := resume_closing (c := c.shared) hc ho
  cases Wait.Serves.closing hs hc
  exact absurd hr (ha a (by rw [deliver_eq hi]; exact settle_answered.mpr answered))

end Calls

/-! ### Moves -/

namespace Shared

variable {p q : Play} {m : Move} {log : Log}

/-- The call that a move answers, and its answer. -/
def Play.answer? (p : Play) : Move → Option (Nat × Answer)
  | .start r => (p.calls.start r).2.2.answer?.map (p.calls.fresh, ·)
  | .turn i => (p.calls.turn i).2.answer?.map (i, ·)
  | .deliver i o => (p.calls.deliver i o).2.answer?.map (i, ·)
  | _ => none

namespace Log

theorem hear_answered (log : Log) (i : Nat) (status : Calls.Status) :
    (log.hear i status).answered = log.answered ++ (status.answer?.map (i, ·)).toList := by
  cases status <;> simp [hear, Calls.Status.answer?]

theorem add_answered (log : Log) (p : Play) (m : Move) (q : Play) :
    (log.add p m q).answered = log.answered ++ (p.answer? m).toList := by
  cases m <;> simp [add, start, hear_answered, Play.answer?]

/-- The batches that calls were answered with. -/
def batches (log : Log) : List (List Document) := log.answered.filterMap fun e => e.2.batch?

/-- A close was answered. -/
def Closed (log : Log) : Prop := ∃ e ∈ log.answered, log.started[e.1]? = some .close

/-- What was asked for stays as it is written down. -/
theorem started_add {r : Request} {i : Nat} (h : log.started[i]? = some r) :
    (log.add p m q).started[i]? = some r := by
  have hlt : i < log.started.length := (List.getElem?_eq_some_iff.mp h).1
  rw [add_started, List.getElem?_append_left hlt, h]

theorem Closed.add (h : log.Closed) : (log.add p m q).Closed := by
  obtain ⟨e, he, hr⟩ := h
  refine ⟨e, ?_, started_add hr⟩
  rw [add_answered]
  exact List.mem_append_left _ he

theorem Closed.of_answer {i : Nat} {a : Answer} (ha : p.answer? m = some (i, a))
    (hr : (log.add p m q).started[i]? = some .close) : (log.add p m q).Closed := by
  refine ⟨(i, a), ?_, hr⟩
  rw [add_answered, ha]
  simp

end Log

/-- While a call waits, the cursor waits for the same. -/
theorem Play.Orderly.control_eq (hp : p.Orderly) {i : Nat} {wait : Wait}
    (hi : p.calls.stage? i = some (.waiting wait)) : p.control = .waiting wait := by
  obtain ⟨hw, ht⟩ := hp.of_stage hi
  have waits := hp.calls.wait?_eq_some (Calls.mem_of_stage? hi)
  simp [control, hw, ht, waits, Control.ofWait]

theorem act_fits (hp : p.Recorded log) (hc : p.situation.Coherent) (hm : p.act m = some q)
    {i : Nat} {a : Answer} (ha : p.answer? m = some (i, a)) :
    ∃ r, (log.add p m q).started[i]? = some r ∧ a.Fits r p.session q.session := by
  rw [Log.add_started]
  cases Play.acts hm with
  | start r used =>
    simp only [Play.answer?, Calls.start_eq, Option.map_eq_some_iff, Prod.mk.injEq,
      Calls.Status.answer?_eq_some] at ha
    obtain ⟨a, ha, rfl, rfl⟩ := ha
    obtain ⟨r', hr, hf⟩ := (hp.serves.entered hp.inTurn.numbered r).turn_fits ha
    refine ⟨r', hr, ?_⟩
    have same : (p.calls.entered r).shared.session = p.session := Calls.announce_session p.calls r
    rw [same] at hf
    simpa [Play.session, Play.shared, Play.follow, Calls.start_eq] using hf
  | turn i used =>
    simp only [Play.answer?, Option.map_eq_some_iff, Prod.mk.injEq,
      Calls.Status.answer?_eq_some] at ha
    obtain ⟨a, ha, rfl, rfl⟩ := ha
    simpa [Move.asked?, Play.session, Play.shared, Play.follow] using hp.serves.turn_fits ha
  | deliver o waits =>
    simp only [Play.answer?, Option.map_eq_some_iff, Prod.mk.injEq,
      Calls.Status.answer?_eq_some] at ha
    obtain ⟨a, ha, rfl, rfl⟩ := ha
    have busy : p.session.isFinished = false :=
      Bool.eq_false_iff.mpr fun hf => hc.rests hf (hp.orderly.control_eq waits)
    simpa [Move.asked?, Play.session, Play.shared, Play.follow] using
      hp.serves.deliver_fits waits busy ha
  | _ => cases ha

/-- A move that answers no close does not close the cursor. -/
theorem keepsTo_unshut (hp : p.Recorded log) (ho : ¬(log.add p m q).Closed) :
    p.KeepsTo unshut m := by
  have started := log.add_started p m q
  cases m with
  | start r =>
    refine (hp.serves.entered hp.inTurn.numbered r).keepsTo_unshut fun a ha => ?_
    have answered : p.answer? (.start r) = some (p.calls.fresh, a) := by
      simp [Play.answer?, Calls.start_eq, ha, Calls.Status.answer?]
    exact fun hr => ho (.of_answer answered (by simpa [started, Move.asked?] using hr))
  | turn i =>
    refine hp.serves.keepsTo_unshut fun a ha => ?_
    have answered : p.answer? (.turn i) = some (i, a) := by
      simp [Play.answer?, ha, Calls.Status.answer?]
    exact fun hr => ho (.of_answer answered (by simpa [started, Move.asked?] using hr))
  | deliver i o =>
    refine fun wait hi => hp.serves.goesOn_unshut hi fun a ha => ?_
    have answered : p.answer? (.deliver i o) = some (i, a) := by
      simp [Play.answer?, ha, Calls.Status.answer?]
    exact fun hr => ho (.of_answer answered (by simpa [started, Move.asked?] using hr))
  | outcome o =>
    intro wait hw
    obtain ⟨saved, rfl⟩ := hp.orderly.opening wait hw
    exact ⟨fun _ => Wait.keepsTo_unshut _ _, fun _ hc => (by cases hc), fun _ => unshut_breakOff⟩
  | drop tasksRun => exact fun _ => unshut_breakOff
  | abandon i => exact unshut_breakOff
  | giveUp => exact unshut_breakOff
  | adjust deadline clock => exact unshut_retime _ _
  | cleanUp => trivial

/-! ### Batches -/

theorem handed_note (h : History) (status : Calls.Status) :
    (h.note status).handed = h.handed ++ (status.answer?.bind Answer.batch?).toList := by
  cases status with
  | answered a => exact History.handed_answer h a
  | _ => simp [History.note, Calls.Status.answer?]

theorem handed_giveUp (h : History) (wait : Wait) : (h.giveUp wait).handed = h.handed := by
  cases wait <;> rfl

theorem handed_hear (h : History) (quota : Quota) (wait : Wait) (o : Outcome) :
    (h.hear quota wait o).handed = h.handed := by
  cases o with
  | reply d => cases wait <;> simp [History.hear]
  | failure f => cases wait <;> simp [History.hear]
  | crash text => exact handed_giveUp h wait

theorem handed_cleanUp (h : History) (c : Shared) (kill : Option Command) :
    (h.follow (c.cleanUp kill).2).handed = h.handed := by
  unfold cleanUp
  split
  · exact History.handed_answer_of_none rfl
  · rfl

theorem handed_resume_opened (h : History) (c : Shared) (saved : Option Span) (o : Outcome) :
    (h.follow (c.resume (.kill saved .opened) o).2).handed = h.handed := by
  cases o with
  | reply d => exact History.handed_answer_of_none rfl
  | failure f => exact History.handed_answer_of_none rfl
  | crash text => rfl

/-- What a move hands out is in its answer. -/
theorem act_handed (hp : p.Orderly) (hm : p.act m = some q) :
    q.history.handed =
      p.history.handed ++ ((p.answer? m).bind fun e => e.2.batch?).toList := by
  have told (h : History) (i : Nat) (status : Calls.Status) :
      (h.note status).handed = h.handed ++
        ((status.answer?.map fun a => (i, a)).bind fun e => e.2.batch?).toList := by
    rw [handed_note]
    cases status <;> rfl
  cases Play.acts hm with
  | start r used => exact told _ _ _
  | turn i used => exact told _ _ _
  | @deliver i wait o waits =>
    rw [← handed_hear p.history p.session.cursor.quota wait o]
    exact told _ _ _
  | abandon waits => simp [handed_giveUp, Play.answer?]
  | leaveLine inLine => simp [Play.answer?]
  | adjust deadline clock => simp [Play.withShared, Play.answer?]
  | drop tasksRun used alone => simp [Play.answer?, History.retire, History.handed]
  | cleanUp due => simp [Play.goOn, handed_cleanUp, Play.answer?]
  | outcome o waits =>
    obtain ⟨saved, rfl⟩ := hp.opening _ waits
    simp [Play.goOn, handed_resume_opened, handed_hear, Play.answer?]
  | giveUp waits => simp [handed_giveUp, Play.answer?]
  | discard rests due => simp [Play.withShared, Play.answer?]

end Shared

end ResultCursor
