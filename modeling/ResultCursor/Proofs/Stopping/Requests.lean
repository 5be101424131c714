import ResultCursor.Proofs.Course.Inactive
import ResultCursor.Proofs.StrayKills
import ResultCursor.Proofs.Stopping.Release
import ResultCursor.Proofs.Stopping.Signals

/-! The moments at which a blocking cursor needs a batch from the server: a call begins and finds
none, or the result of a request brings an empty one. Only then is a request sent, and only if
nobody stops the call. -/

namespace ResultCursor

namespace Blocking

variable {b : Blocking} {call : Call} {after : Aftermath} {f : Failure}
  {go : Blocking → Blocking × Progress}

/-! ### Parts of a call that ask for nothing -/

theorem afterCleanup_requests
    (hgo : ∀ b' : Blocking, b'.session.cursor.phase = b.session.cursor.phase →
      b'.signal = b.signal → b'.session.requests = b.session.requests →
      (go b').1.session.requests = b.session.requests) :
    (b.afterCleanup after go).1.session.requests = b.session.requests := by
  have same := b.session.beginRelease_requests (some false)
  unfold afterCleanup
  split
  · next session clean =>
    rw [clean] at same
    have kept := Session.beginRelease_cursor clean
    exact hgo { b with session } (by simp [kept]) rfl same
  · next session sending saved clean =>
    rw [clean] at same
    exact same

theorem closeWith_requests (a : Answer) :
    (b.closeWith a).1.session.requests = b.session.requests := by
  unfold closeWith
  split
  · rfl
  · apply afterCleanup_requests
    intro b' _ _ same
    rw [← same]
    exact Session.requests_of_sendings (Session.note_quietly _).sendings

theorem failing_requests : (failing call f b).1.session.requests = b.session.requests := by
  unfold failing
  split
  · dsimp only
    split
    · exact closeWith_requests (b := { b with signal := b.signal.acknowledge }) _
    · rfl
  · rfl

theorem failWith_requests : (b.failWith call f).1.session.requests = b.session.requests := by
  unfold failWith
  split
  · exact failing_requests
  · apply afterCleanup_requests
    intro b' _ _ same
    exact failing_requests.trans same

/-! ### Calls that ask -/

theorem proceed_requests (call : Call) :
    (b.proceed call).1.session.requests = b.session.requests ∨
      b.session.isSettled = false ∧ b.signal.interrupted = false := by
  unfold proceed unlessInterrupted
  split
  · exact .inl (Session.finish_requests call)
  · next needed =>
    split
    · exact .inl rfl
    · next quiet => exact .inr ⟨by simpa using needed, by simpa using quiet⟩

theorem fetched_requests (call : Call) :
    (fetched call b).1.session.requests = b.session.requests ∨
      call ≠ .tryNext ∧ b.session.isSettled = false ∧ b.signal.shouldStop = false := by
  unfold fetched
  split
  · exact .inl (closeWith_requests _)
  · next calm =>
    split
    · exact .inl (Session.finish_requests call)
    · next more =>
      unfold unlessInterrupted
      split
      · exact .inl rfl
      · refine (proceed_requests call).imp_right fun ⟨needed, quiet⟩ => ⟨more, needed, ?_⟩
        simp [Signal.shouldStop, quiet, calm]

theorem iterate_requests (call : Call) :
    (b.iterate call).1.session.requests = b.session.requests ∨
      b.session.isSettled = false ∧ b.signal.shouldStop = false := by
  unfold iterate
  split
  · exact .inl (closeWith_requests _)
  · next calm =>
    split
    · exact .inl rfl
    · have begun : b.session.beginCall.requests = b.session.requests :=
        Session.requests_of_sendings Session.beginCall_quietly.sendings
      rcases proceed_requests (b := { b with session := b.session.beginCall }) call with same | asks
      · exact .inl (same.trans begun)
      · obtain ⟨needed, quiet⟩ := asks
        rw [Session.isSettled_beginCall] at needed
        exact .inr ⟨needed, by simpa [Signal.shouldStop, calm] using quiet⟩

theorem settleBatch_requests (call : Call) (result : Except Failure Document) :
    (b.settleBatch call result).1.session.requests = b.session.requests ∨
      ∃ t, (b.session.deliver result).settleFetch result = (t, .ok ()) ∧ call ≠ .tryNext ∧
        t.isSettled = false ∧ b.signal.shouldStop = false := by
  unfold settleBatch
  split
  · next t f settled =>
    have same := (Session.settleFetch_requests settled).trans (Session.deliver_requests result)
    exact .inl (failWith_requests.trans same)
  · next t settled =>
    have same := (Session.settleFetch_requests settled).trans (Session.deliver_requests result)
    dsimp only
    split
    · rcases fetched_requests (b := { b with session := t }) call with same' | asks
      · exact .inl (same'.trans same)
      · exact .inr ⟨t, settled, asks⟩
    · next inactive =>
      refine .inl (Eq.trans (afterCleanup_requests fun b' hp _ same' => ?_) same)
      refine (fetched_requests call).elim (·.trans same') fun asks => ?_
      -- a cursor that is not active needs nothing
      have active := (Session.isSettled_eq_false_iff.mp asks.2.1).2.1
      exact absurd (hp.symm.trans active) inactive

theorem settleKill_requests {saved : Option Span} (result : Except Failure Document)
    (ha : after.Inactive b.session) :
    (b.settle result (.kill saved after)).1.session.requests = b.session.requests := by
  have same : ((b.session.deliver result).settleKill saved result).requests =
      b.session.requests := by
    simp
  cases after with
  | opened => exact same
  | fetched call =>
    refine (fetched_requests call).elim (·.trans same) fun asks => ?_
    have active := (Session.isSettled_eq_false_iff.mp asks.2.1).2.1
    simp only [Session.settleKill_cursor, Session.deliver_cursor] at active
    cases active.symm.trans ha
  | failing call f => exact failing_requests.trans same
  | closing a =>
    exact (Session.requests_of_sendings (Session.note_quietly _).sendings).trans same

theorem crash_requests (text : String) (wait : Wait) :
    (b.crash text wait).1.session.requests = b.session.requests := by
  cases wait with
  | batch call => rfl
  | kill saved after =>
    have same : (b.session.breakKill saved).requests = b.session.requests :=
      Session.requests_of_sendings (Session.breakKill_quietly saved).sendings
    cases after with
    | opened =>
      have quiet : (b.session.breakKill saved).Quietly
          (((b.session.breakKill saved).note dropNote).finishClose) :=
        (Session.note_quietly dropNote).trans (Session.note_quietly _)
      exact (Session.requests_of_sendings quiet.sendings).trans same
    | _ => exact same

/-! ### Moves -/

/-- In a move a call comes to need a batch from the server, and the session is as it finds it
then. -/
inductive Play.Needs (p : Play) : Move → Session → Call → Prop where
  | first {call : Call} (free : p.isFree = true) (needed : p.session.isSettled = false) :
      Needs p (.request (.iterate call)) p.session.beginCall call
  /-- The batch that was asked for came empty. -/
  | again {call : Call} {result : Except Failure Document} {t : Session}
      (waits : p.wait = some (.batch call)) (more : call ≠ .tryNext)
      (settled : (p.session.deliver result).settleFetch result = (t, .ok ()))
      (needed : t.isSettled = false) : Needs p (.outcome (.ofResult result)) t call

variable {p q : Play} {m : Move}

theorem Play.fits_of_waits {wait : Wait} (hc : p.situation.Coherent) (waits : p.wait = some wait) :
    (Control.waiting wait).Fits p.session := by
  have fits := hc.fits
  rwa [show p.situation.control = .waiting wait by
    simp [situation, control, waits, Control.ofWait]] at fits

theorem Play.settled_of_isFree (hc : p.situation.Coherent) (free : p.isFree = true) :
    p.session.Settled := by
  have fits := hc.fits
  rwa [Play.situation_of_isFree free] at fits

theorem Play.inactive_of_waits {wait : Wait} (ha : p.control.Inactive p.session)
    (waits : p.wait = some wait) : (Control.waiting wait).Inactive p.session := by
  rwa [show p.control = .waiting wait by simp [control, waits, Control.ofWait]] at ha

/-- A move sends a request for a batch only where a call needs one and is not stopped. -/
theorem act_requests (ha : p.control.Inactive p.session) (hm : p.act m = some q) :
    q.session.requests = p.session.requests ∨
      p.cursor.signal.shouldStop = false ∧ ∃ s call, p.Needs m s call := by
  cases Play.acts hm with
  | request r free =>
    cases r with
    | iterate call =>
      exact (iterate_requests call).imp_right fun asks => ⟨asks.2, _, _, .first free asks.1⟩
    | close => exact .inl (closeWith_requests _)
    | setBatchSize n => exact .inl rfl
    | inspect => exact .inl rfl
  | @outcome wait o waits =>
    have settles (result : Except Failure Document) :
        (p.cursor.settle result wait).1.session.requests = p.session.requests ∨
          p.cursor.signal.shouldStop = false ∧
            ∃ s call, p.Needs (.outcome (.ofResult result)) s call := by
      cases wait with
      | batch call =>
        rcases settleBatch_requests call result with
            same | ⟨t, settled, more, needed, calm⟩
        · exact .inl same
        · exact .inr ⟨calm, t, call, .again waits more settled needed⟩
      | kill saved after =>
        exact .inl (settleKill_requests result (Play.inactive_of_waits ha waits))
    cases o with
    | reply d => exact settles (.ok d)
    | failure f => exact settles (.error f)
    | crash text => exact .inl (crash_requests text wait)
  | interrupt =>
    exact .inl rfl
  | requestClose =>
    exact .inl rfl
  | adjust deadline clock =>
    exact .inl rfl
  | drop free =>
    left
    show p.cursor.drop.1.session.requests = p.session.requests
    unfold drop
    split
    · rfl
    · refine (closeWith_requests _).trans ?_
      exact Session.requests_of_sendings (Session.note_quietly dropNote).sendings

end Blocking

end ResultCursor
