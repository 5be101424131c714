import Mathlib.Logic.Relation
import ResultCursor.Proofs.Course.Frame
import ResultCursor.Proofs.Run.Situation

/-! The steps that a session can take, whichever kind of cursor it belongs to. A step says what it
needs and what it changes; when it is taken is left open. What every step keeps, every run of both
kinds of cursors keeps; what only some steps keep is kept by the runs that do without the others,
which is what rules are for. -/

namespace ResultCursor

/-- An answer of a call that closes the cursor or finds it closed. -/
def Answer.ofClose : Answer → Bool
  | .done => true
  | .failed (.closed _) => true
  | _ => false

/-- What follows a request that came to an outcome. -/
def Aftermath.ofFetch (call : Call) : Except Failure Unit → Aftermath
  | .ok () => .fetched call
  | .error f => .failing call f

/-- A call that is not about to close the cursor. -/
def Aftermath.returns : Aftermath → Bool
  | .fetched _ => true
  | .failing .. => true
  | _ => false

/-- The server's cursor is let go of unless the cursor is still active. -/
def Control.due (s : Session) (after : Aftermath) : Control :=
  if s.cursor.phase = .active then .resuming after else .leaving after

/-! ### Rules -/

/-- What the rules for a course can forbid. -/
inductive Deed where
  /-- A request for a batch is sent. -/
  | ask
  /-- A call goes without the request that it needs. -/
  | refuse (s : Session)
  /-- What was waited for never comes, or a clean-up that is due is left undone. -/
  | breakOff
  /-- A call closes the cursor. -/
  | shut
  /-- The deadline is replaced, by others or at the start of a call. -/
  | retime (s : Session) (deadline : Deadline)

abbrev Rules := Deed → Prop

/-- If a call finds the session so and needs a request, the rules allow what comes of it. -/
def Session.KeepsTo (R : Rules) (s : Session) : Prop :=
  s.isSettled = false → R .ask ∧ ∀ stop t f, s.beginFetch stop = (t, .error f) → R (.refuse s)

theorem Session.KeepsTo.of_phase {R : Rules} {s : Session} (hp : s.cursor.phase ≠ .active) :
    s.KeepsTo R :=
  fun hs => absurd (Session.isSettled_eq_false_iff.mp hs).2.1 hp

/-- The same of the call that waits, once it goes on. -/
def Wait.KeepsTo (R : Rules) (s : Session) : Wait → Prop
  | .batch _ => ∀ result t, (s.deliver result).settleFetch result = (t, .ok ()) → t.KeepsTo R
  | .kill saved _ => ∀ result, ((s.deliver result).settleKill saved result).KeepsTo R

theorem Session.KeepsTo.of_all {R : Rules} (ask : R .ask) (refuse : ∀ s, R (.refuse s))
    (s : Session) : s.KeepsTo R :=
  fun _ => ⟨ask, fun _ _ _ _ => refuse s⟩

theorem Wait.KeepsTo.of_all {R : Rules} (ask : R .ask) (refuse : ∀ s, R (.refuse s)) (s : Session)
    (wait : Wait) : wait.KeepsTo R s := by
  cases wait with
  | batch call => exact fun _ t _ => .of_all ask refuse t
  | kill saved after => exact fun _ => .of_all ask refuse _

def Outcome.isCrash : Outcome → Bool
  | .crash _ => true
  | _ => false

/-- A close waits for its clean-up. -/
def Wait.isClosing : Wait → Bool
  | .batch _ => false
  | .kill _ after => after.isClosing

namespace Situation

/-- The steps that the rules allow. -/
inductive Step (R : Rules) : Situation → Situation → Prop where
  /-- Time passes and others use the deadline. -/
  | adjust {s c h} (deadline : Deadline) (clock : Clock) (allowed : R (.retime s deadline)) :
      Step R ⟨s, c, h⟩ ⟨{ s with deadline, clock }, c, h⟩
  | note {s c h} (n : Note) : Step R ⟨s, c, h⟩ ⟨s.note n, c, h⟩
  /- Calls -/
  | setBatchSize {s h} (n : Int32) :
      Step R ⟨s, .idle, h⟩ ⟨s.setBatchSize n, .idle, h.answer .done⟩
  | inspect {s h} : Step R ⟨s, .idle, h⟩ ⟨s, .idle, h.answer (.seen s.cursor.view)⟩
  | enter {s h} (call : Call) (isOpen : s.cursor.phase ≠ .closed)
      (allowed : R (.retime s s.beginCall.deadline)) :
      Step R ⟨s, .idle, h⟩ ⟨s.beginCall, .calling call, h⟩
  | stay {s h a} (closed : s.cursor.phase = .closed) (ha : Answer.ofClose a = true) :
      Step R ⟨s, .idle, h⟩ ⟨s, .idle, h.answer a⟩
  | finish {s call h} (settled : s.isSettled = true) :
      Step R ⟨s, .calling call, h⟩ ⟨(s.finish call).1, .idle, h.answer (s.finish call).2⟩
  | halt {s call h} (halt : Halt) :
      Step R ⟨s, .calling call, h⟩ ⟨s, .idle, h.answer (.failed (.cancelled halt))⟩
  /- Requests for the next batch -/
  | ask {s t call h stop sending} (needed : s.isSettled = false)
      (sent : s.beginFetch stop = (t, .ok sending)) (allowed : R .ask) :
      Step R ⟨s, .calling call, h⟩ ⟨t, .waiting (.batch call), h⟩
  | refuse {s t u call h stop f g} (allowed : R (.refuse s)) (needed : s.isSettled = false)
      (refused : s.beginFetch stop = (t, .error f))
      (settled : t.settleFetch (.error f) = (u, .error g)) :
      Step R ⟨s, .calling call, h⟩ ⟨u, .due u (.failing call g), h⟩
  | settle {s t call h outcome} (result : Except Failure Document)
      (settled : (s.deliver result).settleFetch result = (t, outcome)) :
      Step R ⟨s, .waiting (.batch call), h⟩
        ⟨t, .due t (.ofFetch call outcome), h.settle s.cursor.quota result⟩
  | lose {s call h} (allowed : R .breakOff) :
      Step R ⟨s, .waiting (.batch call), h⟩ ⟨s, .idle, h.lose⟩
  /- Clean-ups -/
  | takeKill {s after h} :
      Step R ⟨s, .leaving after, h⟩ ⟨s.takeKill.1, .cleaning s.takeKill.2 after, h⟩
  | spare {s t kill after h stop} (clean : s.cleanUp kill stop = (t, .finished)) :
      Step R ⟨s, .cleaning kill after, h⟩ ⟨t, .resuming after, h⟩
  | sendKill {s t kill after h stop sending saved}
      (clean : s.cleanUp kill stop = (t, .killing sending saved)) :
      Step R ⟨s, .cleaning kill after, h⟩ ⟨t, .waiting (.kill saved after), h⟩
  | settleKill {s saved after h} (result : Except Failure Document) :
      Step R ⟨s, .waiting (.kill saved after), h⟩
        ⟨(s.deliver result).settleKill saved result, .resuming after, h⟩
  | breakKill {s saved after h} (allowed : R .breakOff) :
      Step R ⟨s, .waiting (.kill saved after), h⟩ ⟨s.breakKill saved, .idle, h.breakOff after⟩
  /- What follows a request or a clean-up -/
  | opened {s h} : Step R ⟨s, .resuming .opened, h⟩ ⟨s, .idle, h.answer .done⟩
  | again {s call h} (more : call ≠ .tryNext) :
      Step R ⟨s, .resuming (.fetched call), h⟩ ⟨s, .calling call, h⟩
  | content {s h} :
      Step R ⟨s, .resuming (.fetched .tryNext), h⟩
        ⟨(s.finish .tryNext).1, .idle, h.answer (s.finish .tryNext).2⟩
  | fail {s call f h} :
      Step R ⟨s, .resuming (.failing call f), h⟩ ⟨s, .idle, h.answer (.failed f)⟩
  | relent {s after h} (returns : after.returns = true) :
      Step R ⟨s, .resuming after, h⟩ ⟨s, .idle, h⟩
  | shut {s a h} (allowed : R .shut) :
      Step R ⟨s, .resuming (.closing a), h⟩ ⟨s.close, .idle, h.answer a⟩
  /- Closing and dropping -/
  | close {s h a} (ha : Answer.ofClose a = true) :
      Step R ⟨s, .idle, h⟩ ⟨s, .leaving (.closing a), h⟩
  | retire {s h} (finished : s.isFinished = true) : Step R ⟨s, .idle, h⟩ ⟨s, .idle, h.retire⟩
  | dropAndClose {s h} : Step R ⟨s, .idle, h⟩ ⟨s, .leaving (.closing .done), h.retire⟩
  | dropAndLeave {s h} :
      Step R ⟨s, .idle, h⟩ ⟨s.takeKill.1.close, .cleaning s.takeKill.2 .opened, h.retire⟩
  /-- The clean-up after the last handle is not done, but the leases go back. -/
  | forsake {s kill h} (allowed : s.leased = true → R .breakOff) :
      Step R ⟨s, .cleaning kill .opened, h⟩ ⟨s.giveBack, .idle, h⟩
  | bury {s h} (ended : h.ended = true) (returned : s.leased = false) :
      Step R ⟨s, .idle, h⟩ ⟨s.close, .idle, h⟩

/-- A course from one situation to another, step by step. -/
abbrev Course (R : Rules) : Situation → Situation → Prop :=
  Relation.ReflTransGen (Step R)

theorem Course.trans_eq {R : Rules} {S T U : Situation} (course : Course R S T)
    (h : T = U) : Course R S U :=
  h ▸ course

/-- A cursor that has taken over its first reply. -/
def opening (reply : Document) (setting : Setting) (s : Session) : Situation :=
  ⟨s, .due s .opened, .ofReply reply setting⟩

/-- A situation that a session comes to from its first reply. -/
def Courses (reply : Document) (setting : Setting) (S : Situation) : Prop :=
  ∃ s, Session.ofReply reply setting = .ok s ∧ Course (fun _ => True) (opening reply setting s) S

/-- What holds at first and is kept by every step holds in every situation. -/
theorem Courses.induction {reply : Document} {setting : Setting} {P : Situation → Prop}
    (first : ∀ s, Session.ofReply reply setting = .ok s → P (opening reply setting s))
    (step : ∀ S T, Courses reply setting S → P S → Step (fun _ => True) S T → P T) {S : Situation}
    (hS : Courses reply setting S) : P S := by
  obtain ⟨s, hs, course⟩ := hS
  induction course with
  | refl => exact first s hs
  | tail course last ih => exact step _ _ ⟨s, hs, course⟩ ih last

end Situation

end ResultCursor
