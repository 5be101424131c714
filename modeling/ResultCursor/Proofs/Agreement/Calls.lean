import ResultCursor.Blocking
import ResultCursor.Proofs.Agreement.Sessions
import ResultCursor.Proofs.Course.Step
import ResultCursor.Shared

/-! Calls on a blocking cursor that nobody stops, and on a shared cursor in the same state for
which no close is waiting. They come equally far: to the same answer, or to a wait for the same
command. -/

namespace ResultCursor

/-- The same answer, or the same wait. -/
inductive Progress.Alike : Progress → Progress → Prop where
  | answered (a : Answer) : Alike (.answered a) (.answered a)
  | waiting (sending sending' : Sending) (wait : Wait) :
      Alike (.waiting sending wait) (.waiting sending' wait)

namespace Blocking

/-- A blocking cursor that nobody stops is in the same state as the shared one. -/
structure Agrees (b : Blocking) (c : Shared) : Prop where
  unstopped : b.signal = {}
  session : b.session.Agrees c.session

/-- Both cursors come equally far. -/
structure Matches (x : Blocking × Progress) (y : Shared × Progress) : Prop where
  cursors : x.1.Agrees y.1
  progress : x.2.Alike y.2

namespace Agrees

variable {b : Blocking} {c : Shared} {call : Call} {after : Aftermath}

theorem of_session {s t : Session} (h : b.Agrees c) (hs : s.Agrees t) :
    Agrees { b with session := s } { c with session := t } :=
  ⟨h.unstopped, hs⟩

theorem answered (h : b.Agrees c) (a : Answer) : Matches (b.answered a) (c.answered a) :=
  ⟨h, .answered a⟩

theorem finish (h : b.Agrees c) (call : Call) : Matches (b.finish call) (c.finish call) := by
  obtain ⟨u, u', a, hb, hc, hu⟩ := h.session.finish call
  unfold Blocking.finish Shared.finish
  rw [hb, hc]
  exact (h.of_session hu).answered a

/-! ### Closing -/

theorem afterCleanup (h : b.Agrees c) {go : Blocking → Blocking × Progress}
    {go' : Shared → Shared × Progress}
    (hgo : ∀ b' c', b'.Agrees c' → c'.closeRequested = c.closeRequested →
      Matches (go b') (go' c')) :
    Matches (b.afterCleanup after go) (c.afterCleanup after go') := by
  unfold Blocking.afterCleanup Shared.afterCleanup
  rcases h.session.beginRelease (some false) none with
      ⟨u, u', hb, hc, hu⟩ | ⟨u, u', sending, sending', saved, hb, hc, hu⟩
  · rw [hb, hc]
    exact hgo _ _ (h.of_session hu) rfl
  · rw [hb, hc]
    exact ⟨h.of_session hu, .waiting sending sending' _⟩

theorem finishClose (h : b.Agrees c) (answer : Answer) :
    Matches (Blocking.finishClose answer b) (Shared.finishClose answer c) :=
  (h.of_session (h.session.close.note _ _)).answered answer

theorem close (h : b.Agrees c) : Matches (b.closeWith .done) c.close := by
  unfold Blocking.closeWith Shared.close
  rw [h.session.isFinished_eq]
  split
  · exact h.answered .done
  · exact h.afterCleanup fun _ _ h _ => h.finishClose .done

/-! ### Handing out batches -/

/-- To use up an interrupt and to heed a close request makes no difference where there is none. -/
theorem failing (h : b.Agrees c) (call : Call) (f : Failure) :
    Matches (Blocking.failing call f b) (Shared.failing f c) := by
  unfold Blocking.failing
  rw [h.unstopped]
  split
  · exact Agrees.answered (b := { b with signal := {} }) ⟨rfl, h.session⟩ (.failed f)
  · exact h.answered (.failed f)

theorem failWith (h : b.Agrees c) (call : Call) (f : Failure) :
    Matches (b.failWith call f) (c.failWith call f) := by
  unfold Blocking.failWith Shared.failWith
  rw [h.session.cursor_eq]
  split
  · exact h.failing call f
  · exact h.afterCleanup fun _ _ h _ => h.failing call f

theorem fetch (h : b.Agrees c) (call : Call) : Matches (b.fetch call) (c.fetch call) := by
  unfold Blocking.fetch Shared.fetch
  rcases h.session.beginFetch (some b.signal.shouldStop) none with
      ⟨u, u', sending, sending', hb, hc, hu⟩ | ⟨u, u', f, hb, hc, hu⟩
  · rw [hb, hc]
    exact ⟨h.of_session hu, .waiting sending sending' _⟩
  · obtain ⟨v, v', outcome, hv, hv', settled⟩ := hu.settleFetch (.error f)
    rw [hb, hc]
    dsimp only
    rw [hv, hv']
    cases outcome with
    | ok _ => exact (h.of_session settled).finish call
    | error f => exact (h.of_session settled).failWith call f

/-- A call that no close stops. -/
theorem proceed (h : b.Agrees c) (hq : c.closeRequested = false) (call : Call) :
    Matches (b.proceed call) (c.proceed call) := by
  unfold Blocking.proceed Shared.proceed unlessInterrupted
  rw [h.session.isSettled_eq, h.unstopped, hq]
  split
  · exact h.finish call
  · exact h.fetch call

theorem fetched (h : b.Agrees c) (hq : c.closeRequested = false) (call : Call) :
    Matches (Blocking.fetched call b) (Shared.fetched call c) := by
  unfold Blocking.fetched Shared.fetched unlessInterrupted
  rw [h.unstopped]
  dsimp only
  split
  · contradiction
  · split
    · exact h.finish call
    · exact h.proceed hq call

theorem iterate (h : b.Agrees c) (hq : c.closeRequested = true → c.session.isFinished = true)
    (call : Call) : Matches (b.iterate call) (c.iterate call) := by
  unfold Blocking.iterate Shared.iterate
  rw [h.unstopped, h.session.cursor_eq]
  dsimp only
  split
  · contradiction
  · split
    · exact h.answered _
    · next isOpen =>
      have unasked : c.closeRequested = false :=
        Bool.eq_false_iff.mpr fun asked => isOpen (by
          rw [← h.session.cursor_eq]
          exact (Bool.and_eq_true_iff.mp (hq asked)).1)
      have begun : Agrees ⟨b.session.beginCall, {}⟩
          { c with session := c.session.beginCall } := ⟨rfl, h.session.beginCall⟩
      exact begun.proceed unasked call

/-! ### Calls -/

theorem request (h : b.Agrees c) (hq : c.closeRequested = true → c.session.isFinished = true)
    (r : Request) : Matches (b.request r) (c.request r) := by
  cases r with
  | iterate call => exact h.iterate hq call
  | close => exact h.close
  | setBatchSize n => exact (h.of_session (h.session.setBatchSize n)).answered .done
  | inspect =>
    unfold Blocking.request Shared.request
    rw [h.session.cursor_eq]
    exact h.answered _

theorem resumeAfter (h : b.Agrees c) (hq : c.closeRequested = true → after.isClosing = true) :
    Matches (b.resumeAfter after) (c.resumeAfter after) := by
  cases after with
  | opened => exact h.answered .done
  | fetched call => exact h.fetched (Bool.eq_false_iff.mpr fun asked => by cases hq asked) call
  | failing call f => exact h.failing call f
  | closing answer => exact h.finishClose answer

theorem settleBatch (h : b.Agrees c) (hq : c.closeRequested = false) (call : Call)
    (result : Except Failure Document) :
    Matches (b.settleBatch call result) (c.settleBatch call result) := by
  obtain ⟨v, v', outcome, hv, hv', settled⟩ := (h.session.deliver result).settleFetch result
  have landed := h.of_session settled
  unfold Blocking.settleBatch Shared.settleBatch
  rw [hv, hv']
  cases outcome with
  | error f => exact landed.failWith call f
  | ok _ =>
    dsimp only
    rw [settled.cursor_eq]
    split
    · exact landed.fetched hq call
    · exact landed.afterCleanup fun _ _ h hc => h.fetched (hc.trans hq) call

theorem settle (h : b.Agrees c) {wait : Wait}
    (hq : c.closeRequested = true → wait.isClosing = true) (result : Except Failure Document) :
    Matches (b.settle result wait) (c.settle result wait) := by
  cases wait with
  | batch call =>
    exact h.settleBatch (Bool.eq_false_iff.mpr fun asked => by cases hq asked) call result
  | kill saved after =>
    exact (h.of_session ((h.session.deliver result).settleKill saved result)).resumeAfter hq

/-- Both openings fail in the same way, or come equally far. -/
theorem ofReply (reply : Document) (setting : Setting) :
    (∃ f, Blocking.ofReply reply setting = .error f ∧ Shared.ofReply reply setting = .error f) ∨
    ∃ x y, Blocking.ofReply reply setting = .ok x ∧ Shared.ofReply reply setting = .ok y ∧
      Matches x y ∧ y.1.closeRequested = false := by
  rw [Blocking.ofReply_eq, Shared.ofReply_eq]
  cases Session.ofReply reply setting with
  | error f => exact .inl ⟨f, rfl, rfl⟩
  | ok s =>
    have h : Agrees ⟨s, {}⟩ ⟨s, false⟩ := ⟨rfl, .refl s⟩
    refine .inr ⟨_, _, rfl, rfl, ?_, ?_⟩
    · split
      · exact h.afterCleanup fun _ _ h _ => h.answered .done
      · exact h.answered .done
    · split
      · unfold Shared.afterCleanup
        split <;> rfl
      · rfl

end Agrees

end Blocking

end ResultCursor
