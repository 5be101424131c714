import ResultCursor.Proofs.Course.Frame
import ResultCursor.Shared.Calls

/-! What a call on a shared cursor is about. From its start to its answer it serves one request,
whatever it waits for meanwhile; a close that comes to its answer leaves the cursor closed and the
leases back; and no call takes back that a close was asked for. -/

namespace ResultCursor

/-- What follows is a part of a call with the request. -/
def Aftermath.Serves (r : Request) : Aftermath → Prop
  | .opened => False
  | .fetched call => r = .iterate call
  | .failing call _ => r = .iterate call
  | .closing _ => r = .close

def Wait.Serves (r : Request) : Wait → Prop
  | .batch call => r = .iterate call
  | .kill _ after => after.Serves r

/-- Only the opening and the clean-up after the last handle serve no request. -/
theorem Wait.serves_or_opened (wait : Wait) :
    (∃ r, wait.Serves r) ∨ ∃ saved, wait = .kill saved .opened := by
  match wait with
  | .batch call => exact .inl ⟨.iterate call, rfl⟩
  | .kill saved .opened => exact .inr ⟨saved, rfl⟩
  | .kill _ (.fetched call) => exact .inl ⟨.iterate call, rfl⟩
  | .kill _ (.failing call _) => exact .inl ⟨.iterate call, rfl⟩
  | .kill _ (.closing _) => exact .inl ⟨.close, rfl⟩

def Stage.Serves (r : Request) : Stage → Prop
  | .inLine r' => r' = r
  | .waiting wait => wait.Serves r

namespace Shared

/-- From the cursor a call with the request comes so far, and that is still about the request. -/
structure Attends (c : Shared) (r : Request) (x : Shared × Progress) : Prop where
  stop : x.1.closeRequested = c.closeRequested
  serves : ∀ sending wait, x.2 = .waiting sending wait → wait.Serves r
  closed : r = .close → ∀ a, x.2 = .answered a → x.1.session.isFinished = true

variable {c c' : Shared} {call : Call} {r : Request} {x : Shared × Progress}

theorem Attends.of_eq (h : Attends c' r x) (hc : c'.closeRequested = c.closeRequested) :
    Attends c r x :=
  ⟨h.stop.trans hc, h.serves, h.closed⟩

theorem Attends.answered (hr : r = .close → c.session.isFinished = true) (a : Answer) :
    Attends c r (c.answered a) :=
  ⟨rfl, fun _ _ hw => (by cases hw), fun hr' _ _ => hr hr'⟩

theorem Attends.iterated (c : Shared) (call : Call) (a : Answer) :
    Attends c (.iterate call) (c.answered a) :=
  .answered (fun hr => by cases hr) a

theorem Attends.waiting {sending : Sending} {wait : Wait} (hw : wait.Serves r) :
    Attends c r (c, .waiting sending wait) where
  stop := rfl
  serves _ _ h := by
    cases h
    exact hw
  closed _ _ h := by cases h

theorem finish_attends : Attends c (.iterate call) (c.finish call) :=
  .of_eq (.iterated _ call _) rfl

/-! ### Closing -/

/-- What goes on after a clean-up that is over at once finds the leases back. -/
theorem afterCleanup_attends {after : Aftermath} {go : Shared → Shared × Progress}
    (ha : after.Serves r)
    (hgo : ∀ c' : Shared, c'.closeRequested = c.closeRequested → c'.session.leased = false →
      Attends c r (go c')) : Attends c r (c.afterCleanup after go) := by
  unfold afterCleanup
  split
  · next s clean =>
    rw [Session.beginRelease_eq] at clean
    refine hgo { c with session := s } rfl ?_
    rw [Session.cleanUp_finished clean, Session.giveBack_leased]
  · exact .of_eq (.waiting ha) rfl

theorem finishClose_attends {answer : Answer} (hl : c.session.leased = false) :
    Attends c .close (finishClose answer c) := by
  have finished : c.session.finishClose.isFinished = true :=
    Session.isFinished_iff.mpr ⟨rfl, hl⟩
  exact .of_eq (.answered (fun _ => finished) answer) rfl

theorem close_attends (c : Shared) : Attends c .close c.close := by
  unfold close
  split
  · next hf => exact .answered (fun _ => hf) .done
  · exact afterCleanup_attends rfl fun _ hc hl => (finishClose_attends hl).of_eq hc

/-! ### Handing out batches -/

theorem failWith_attends {f : Failure} : Attends c (.iterate call) (c.failWith call f) := by
  unfold failWith
  split
  · exact .iterated c call _
  · exact afterCleanup_attends rfl fun c' hc _ => .of_eq (.iterated c' call _) hc

theorem fetch_attends : Attends c (.iterate call) (c.fetch call) := by
  unfold fetch
  split
  · exact .of_eq (.waiting rfl) rfl
  · split
    · exact finish_attends.of_eq rfl
    · exact failWith_attends.of_eq rfl

theorem proceed_attends : Attends c (.iterate call) (c.proceed call) := by
  unfold proceed
  split
  · exact finish_attends
  · split
    · exact .iterated c _ _
    · exact fetch_attends

theorem fetched_attends : Attends c (.iterate call) (fetched call c) := by
  unfold fetched
  split
  · exact finish_attends
  · exact proceed_attends

theorem iterate_attends : Attends c (.iterate call) (c.iterate call) := by
  unfold iterate
  split
  · exact .iterated c _ _
  · exact proceed_attends.of_eq rfl

/-! ### Calls -/

theorem request_attends (c : Shared) (r : Request) : Attends c r (c.request r) := by
  cases r with
  | iterate call => exact iterate_attends
  | close => exact close_attends c
  | setBatchSize n => exact .of_eq (.answered (fun hr => by cases hr) _) rfl
  | inspect => exact .answered (fun hr => by cases hr) _

theorem resumeAfter_attends {after : Aftermath} (ha : after.Serves r)
    (hl : c.session.leased = false) : Attends c r (c.resumeAfter after) := by
  cases after with
  | opened => exact ha.elim
  | fetched call =>
    cases ha
    exact fetched_attends
  | failing call f =>
    cases ha
    exact .iterated c _ _
  | closing answer =>
    cases ha
    exact finishClose_attends hl

theorem settleBatch_attends (result : Except Failure Document) :
    Attends c (.iterate call) (c.settleBatch call result) := by
  unfold settleBatch
  split
  · exact failWith_attends.of_eq rfl
  · dsimp only
    split
    · exact fetched_attends.of_eq rfl
    · next s _ _ =>
      have goes : Attends { c with session := s } (.iterate call)
          (({ c with session := s } : Shared).afterCleanup (.fetched call) (fetched call)) :=
        afterCleanup_attends rfl fun _ hc _ => fetched_attends.of_eq hc
      exact goes.of_eq rfl

theorem settle_attends {wait : Wait} (hw : wait.Serves r) (result : Except Failure Document) :
    Attends c r (c.settle result wait) := by
  cases wait with
  | batch call =>
    cases hw
    exact settleBatch_attends result
  | kill saved after => exact (resumeAfter_attends hw Session.giveBack_leased).of_eq rfl

/-- A call in which something broke off has no answer, but a close is still asked for. -/
theorem crash_attends {wait : Wait} (hw : wait.Serves r) (text : String) :
    Attends c r (c.crash text wait) := by
  have broken (c' : Shared) (hc : c'.closeRequested = c.closeRequested) :
      Attends c r (c', .crashed text) :=
    ⟨hc, fun _ _ h => (by cases h), fun _ _ h => (by cases h)⟩
  match wait with
  | .batch _ => exact broken _ rfl
  | .kill _ .opened => exact hw.elim
  | .kill _ (.fetched _) => exact broken _ rfl
  | .kill _ (.failing ..) => exact broken _ rfl
  | .kill _ (.closing _) => exact broken _ rfl

theorem resume_attends {wait : Wait} (hw : wait.Serves r) (o : Outcome) :
    Attends c r (c.resume wait o) := by
  cases o with
  | reply d => exact settle_attends hw (.ok d)
  | failure f => exact settle_attends hw (.error f)
  | crash text => exact crash_attends hw text

@[simp] theorem abandon_closeRequested (c : Shared) (wait : Wait) :
    (c.abandon wait).closeRequested = c.closeRequested := by
  cases wait <;> rfl

@[simp] theorem drop_closeRequested (c : Shared) (tasksRun : Bool) :
    (c.drop tasksRun).1.closeRequested = c.closeRequested := by
  unfold drop
  dsimp only
  split
  · rfl
  · split
    · rfl
    · split <;> rfl

@[simp] theorem cleanUp_closeRequested (c : Shared) (kill : Option Command) :
    (c.cleanUp kill).1.closeRequested = c.closeRequested := by
  unfold cleanUp
  split <;> rfl

/-- The opening and the clean-up after the last handle leave a close asked for. -/
theorem resume_opened_closeRequested (c : Shared) (saved : Option Span) (o : Outcome) :
    (c.resume (.kill saved .opened) o).1.closeRequested = c.closeRequested := by
  cases o with
  | reply d => rfl
  | failure f => rfl
  | crash text => exact drop_closeRequested _ true

/-- Whatever was waited for, a close asked for stays asked for. -/
theorem resume_closeRequested (c : Shared) (wait : Wait) (o : Outcome) :
    (c.resume wait o).1.closeRequested = c.closeRequested := by
  rcases wait.serves_or_opened with ⟨r, hw⟩ | ⟨saved, rfl⟩
  · exact (resume_attends hw o).stop
  · exact resume_opened_closeRequested c saved o

end Shared

end ResultCursor
