import ResultCursor.Proofs.Timing.Entering

/-! The moments at which a shared cursor sends a request for a batch: only where a call needs one,
and no close was asked for. -/

namespace ResultCursor.Shared

variable {c : Shared} {call : Call} {after : Aftermath} {f : Failure}
  {go : Shared → Shared × Progress} {p q : Play} {m : Move} {reply : Document} {setting : Setting}

/-! ### Parts of a call -/

theorem afterCleanup_requests
    (hgo : ∀ c' : Shared, c'.session.cursor.phase = c.session.cursor.phase →
      c'.session.requests = c.session.requests →
      (go c').1.session.requests = c.session.requests) :
    (c.afterCleanup after go).1.session.requests = c.session.requests := by
  have same := c.session.beginRelease_requests none
  unfold afterCleanup
  split
  · next session clean =>
    rw [clean] at same
    have kept := Session.beginRelease_cursor clean
    exact hgo { c with session } (by simp [kept]) same
  · next session sending saved clean =>
    rw [clean] at same
    exact same

theorem failWith_requests : (c.failWith call f).1.session.requests = c.session.requests := by
  unfold failWith
  split
  · rfl
  · exact afterCleanup_requests fun _ _ same => same

theorem fetched_requests (call : Call) :
    (fetched call c).1.session.requests = c.session.requests ∨
      call ≠ .tryNext ∧ c.session.isSettled = false ∧ c.closeRequested = false := by
  unfold fetched
  split
  · exact .inl (Session.finish_requests call)
  · next more =>
    unfold proceed
    split
    · exact .inl (Session.finish_requests call)
    · next needed =>
      split
      · exact .inl rfl
      · next calm => exact .inr ⟨more, by simpa using needed, by simpa using calm⟩

theorem settleBatch_requests (call : Call) (result : Except Failure Document) :
    (c.settleBatch call result).1.session.requests = c.session.requests ∨
      ∃ t, (c.session.deliver result).settleFetch result = (t, .ok ()) ∧ call ≠ .tryNext ∧
        t.isSettled = false ∧ c.closeRequested = false := by
  unfold settleBatch
  split
  · next t f settled =>
    have same := (Session.settleFetch_requests settled).trans (Session.deliver_requests result)
    exact .inl (failWith_requests.trans same)
  · next t settled =>
    have same := (Session.settleFetch_requests settled).trans (Session.deliver_requests result)
    dsimp only
    split
    · rcases fetched_requests (c := { c with session := t }) call with same' | asks
      · exact .inl (same'.trans same)
      · exact .inr ⟨t, settled, asks⟩
    · next inactive =>
      refine .inl (Eq.trans (afterCleanup_requests fun c' hp same' => ?_) same)
      refine (fetched_requests call).elim (·.trans same') fun asks => ?_
      -- a cursor that is not active needs nothing
      have active := (Session.isSettled_eq_false_iff.mp asks.2.1).2.1
      exact absurd (hp.symm.trans active) inactive

/-! ### Moves -/

/-- What a call has waited for has come to its outcome, and it was a batch. -/
def Play.HearsBatch (p : Play) (m : Move) (call : Call) (o : Outcome) : Prop :=
  ∃ i, m = .deliver i o ∧ p.calls.stage? i = some (.waiting (.batch call))

/-- A call that waits for a clean-up needs no batch after it. -/
theorem keepsTo_of_kill {s : Session} {wait : Wait} {R : Rules}
    (fits : (Control.waiting wait).Fits s) (other : ∀ call, wait ≠ .batch call) :
    wait.KeepsTo R s := by
  cases wait with
  | batch call => exact absurd rfl (other call)
  | kill saved after =>
    intro result needed
    have remote := (Session.isSettled_eq_false_iff.mp needed).2.2
    simp [fits.1] at remote

/-- Where no call comes to need a batch, and no outcome of a request comes, nobody asks for one. -/
theorem Play.keepsTo_stopped_of_none (hp : p.Orderly) (hc : p.situation.Coherent)
    (none : ∀ s call, ¬p.Needs m s call) (other : ∀ call o, ¬p.HearsBatch m call o) :
    p.KeepsTo stopped m := by
  have unneeded {s : Session} (same : s = p.session) {call : Call} (admits : p.Admits m call) :
      s.beginCall.KeepsTo stopped := by
    intro needed
    rw [same, Session.isSettled_beginCall] at needed
    exact absurd (.first admits needed) (none _ call)
  cases m with
  | start r =>
    intro r' hi ht
    cases (p.calls.entered_stage? r).symm.trans hi
    refine ⟨fun asks => ?_, fun _ _ _ => stopped_shut, fun _ _ => stopped_retime _ _⟩
    cases r with
    | iterate call => exact unneeded (Calls.announce_session p.calls _) ⟨hi, ht⟩
    | _ => exact asks.elim
  | turn i =>
    intro r hi ht
    refine ⟨fun asks => ?_, fun _ _ _ => stopped_shut, fun _ _ => stopped_retime _ _⟩
    cases r with
    | iterate call => exact unneeded rfl ⟨hi, ht⟩
    | _ => exact asks.elim
  | deliver i o =>
    intro wait waits
    have fits : p.control.Fits p.session := hc.fits
    rw [hp.control_eq waits] at fits
    refine ⟨fun _ => keepsTo_of_kill fits fun call hw => ?_, fun _ _ => stopped_shut,
      fun _ => stopped_breakOff⟩
    exact other call o ⟨i, rfl, by rw [waits, hw]⟩
  | outcome o =>
    intro wait waits
    obtain ⟨saved, rfl⟩ := hp.opening wait waits
    have fits : p.control.Fits p.session := hc.fits
    have control : p.control = .waiting (.kill saved .opened) := by
      simp [Play.control, waits, Control.ofWait]
    rw [control] at fits
    exact ⟨fun _ => keepsTo_of_kill fits fun call hw => (by cases hw), fun _ _ => stopped_shut,
      fun _ => stopped_breakOff⟩
  | drop tasksRun => exact fun _ => stopped_breakOff
  | abandon i => exact stopped_breakOff
  | giveUp => exact stopped_breakOff
  | adjust deadline clock => exact stopped_retime _ _
  | cleanUp => trivial

/-- A move sends a request for a batch only where a call needs one and no close was asked for. -/
theorem act_requests (hp : p.Orderly) (hS : Situation.Courses reply setting p.situation)
    (hm : p.act m = some q) :
    q.session.requests = p.session.requests ∨
      p.shared.closeRequested = false ∧ ∃ s call, p.Needs m s call := by
  have quietly (keeps : p.KeepsTo stopped m) : q.session.requests = p.session.requests := by
    obtain ⟨first, -, informed⟩ := hS.informed
    exact Situation.Course.requests (act_course hp keeps hm) (· rfl) hS.coherent hS.lending
      (informed.of_breakOff stopped_breakOff)
  by_cases hears : ∃ call o, p.HearsBatch m call o
  · obtain ⟨call, o, i, rfl, waits⟩ := hears
    have landed := congrArg Situation.session (act_delivers hp waits hm).2
    have came (result : Except Failure Document) (ho : o = .ofResult result) :
        q.session.requests = p.session.requests ∨
          p.shared.closeRequested = false ∧ ∃ s call, p.Needs (.deliver i o) s call := by
      subst ho
      rw [resume_ofResult] at landed
      rw [show q.session = _ from landed]
      rcases settleBatch_requests call result with same | ⟨t, settled, more, needed, calm⟩
      · exact .inl same
      · exact .inr ⟨calm, t, call, .again waits more settled needed⟩
    cases o with
    | reply d => exact came (.ok d) rfl
    | failure f => exact came (.error f) rfl
    | crash text => exact .inl (congrArg Session.requests landed)
  · by_cases asked : p.shared.closeRequested = true
    · exact .inl (quietly (Play.keepsTo_stopped (.inl asked)))
    · by_cases needs : ∃ s call, p.Needs m s call
      · exact .inr ⟨by simpa using asked, needs⟩
      · refine .inl (quietly (Play.keepsTo_stopped_of_none hp hS.coherent (fun s call h => ?_)
          fun call o h => ?_))
        · exact needs ⟨s, call, h⟩
        · exact hears ⟨call, o, h⟩

end ResultCursor.Shared
