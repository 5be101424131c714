import ResultCursor.Proofs.Overrides
import ResultCursor.Proofs.Timing.Fetching

/-! How calls begin and go on, on both kinds of cursors. A call that begins on an open cursor may
start the deadline anew; no other move touches it, unless others do. Where a call comes to need a
batch, now or when the result of a request brings none, it goes on to ask for one. -/

namespace ResultCursor

/-- Nobody replaces the deadline. -/
def unmoved : Rules := retiming fun _ _ => False

theorem Session.beginCall_of_lifetime {s : Session} (hm : s.cursor.options.mode = .lifetime) :
    s.beginCall = s := by
  simp only [beginCall, hm]

theorem Session.beginCall_of_iteration {s : Session} (hm : s.cursor.options.mode = .iteration) :
    s.beginCall.deadline = s.deadline.restart s.clock.read.1 := by
  simp only [beginCall, hm]

namespace Situation

variable {S T : Situation} {s : Session} {h : History} {call : Call} {reply : Document}
  {setting : Setting}

theorem Course.unmoved (course : Course unmoved S T) (hc : S.Coherent) :
    T.overall = S.overall := by
  have moved : T.overall = S.overall ∨ ∃ d : Deadline, False ∧ T.overall = d.overall :=
    Course.overall course hc
  exact moved.resolve_right fun ⟨_, replaced, _⟩ => replaced

/-- From the start of a call on an open cursor on, the deadline stays as that start has left it. -/
theorem Coherent.entered (hc : Coherent ⟨s, .idle, h⟩) (isOpen : s.cursor.phase ≠ .closed)
    (course : Course ResultCursor.unmoved ⟨s.beginCall, .calling call, h⟩ T) :
    T.overall = s.beginCall.deadline.overall := by
  have enters : Step (fun _ => True) ⟨s, .idle, h⟩ ⟨s.beginCall, .calling call, h⟩ :=
    .enter call isOpen trivial
  exact Course.unmoved course (enters.coherent hc)

/-- While a cursor is active no request has failed over its connection. -/
theorem Courses.usable (hS : Courses reply setting S) (active : S.session.cursor.phase = .active) :
    S.session.cursor.connectionBroken = false := by
  obtain ⟨first, -, informed⟩ := hS.informed
  refine Bool.eq_false_iff.mpr fun broken => ?_
  exact (informed.known.spoiled (informed.known.broken broken)).1 active

end Situation

/-! ### Blocking cursors -/

namespace Blocking

variable {p q : Play} {m : Move} {s : Session} {call : Call}

/-- The move lets the call look for a batch. One that finds a close request closes the cursor first.
-/
def Play.Admits (p : Play) (m : Move) (call : Call) : Prop :=
  m = .request (.iterate call) ∧ p.cursor.signal.closeRequested = false

theorem act_admits (admits : p.Admits m call) (hm : p.act m = some q) :
    p.situation = ⟨p.session, .idle, p.history⟩ ∧
      q.situation = landing p.history (p.cursor.iterate call) := by
  obtain ⟨rfl, -⟩ := admits
  obtain ⟨_, free⟩ := Play.acts hm
  exact ⟨Play.situation_of_isFree free, rfl⟩

/-- A call that begins on an open cursor starts the deadline anew if it is to span single calls. -/
theorem act_restarts (hc : p.situation.Coherent) (admits : p.Admits m call)
    (isOpen : p.session.cursor.phase ≠ .closed) (hm : p.act m = some q) :
    q.situation.overall = p.session.beginCall.deadline.overall := by
  obtain ⟨free, landed⟩ := act_admits admits hm
  have notClosed : p.cursor.session.cursor.isClosed = false :=
    Bool.eq_false_iff.mpr fun closed => isOpen (Cursor.isClosed_iff.mp closed)
  rw [free] at hc
  rw [landed]
  simp only [iterate, admits.2, notClosed, Bool.false_eq_true, if_false]
  exact hc.entered isOpen (proceed_course (b := { p.cursor with session := p.session.beginCall })
    trivial fun _ => Session.keepsTo_retiming _)

/-- No other move touches the deadline, unless others do. -/
theorem act_keeps (hc : p.situation.Coherent) (own : ∀ deadline clock, m ≠ .adjust deadline clock)
    (refused : ∀ call, p.Admits m call → p.session.cursor.phase = .closed)
    (hm : p.act m = some q) : q.situation.overall = p.situation.overall := by
  by_cases starts : ∃ call, m = .request (.iterate call)
  · obtain ⟨call, rfl⟩ := starts
    obtain ⟨_, free⟩ := Play.acts hm
    rw [Play.situation_of_isFree free] at hc ⊢
    show (landing p.history (p.cursor.iterate call)).overall = _
    by_cases asked : p.cursor.signal.closeRequested = true
    · simp only [iterate, asked, if_true]
      exact Situation.Course.unmoved (closeWith_course trivial rfl) hc
    · have closed : p.cursor.session.cursor.isClosed = true :=
        Cursor.isClosed_iff.mpr (refused call ⟨rfl, by simpa using asked⟩)
      simp only [iterate, asked, closed, Bool.false_eq_true, if_false, if_true]
      rfl
  · have none (deadline : Deadline) (retimes : p.Retimes m deadline) : False := by
      cases m with
      | request r =>
        cases r with
        | iterate call => exact starts ⟨call, rfl⟩
        | _ => exact retimes
      | adjust deadline clock => exact own deadline clock rfl
      | _ => exact retimes
    exact Situation.Course.unmoved (act_course (Play.keepsTo_retiming none) hm) hc

theorem Play.Needs.wants (needs : p.Needs m s call) (hc : p.situation.Coherent)
    (usable : p.session.cursor.phase = .active → p.session.cursor.connectionBroken = false) :
    p.session.Wants s := by
  cases needs with
  | first free needed => exact (Play.settled_of_isFree hc free).wants needed usable
  | again waits more settled needed =>
    have asking : p.session.Asking := Play.fits_of_waits hc waits
    exact asking.wants usable settled needed

/-- A call that needs a batch goes on to ask for one unless it is stopped. -/
theorem Play.Needs.lands (needs : p.Needs m s call)
    (unstopped : p.cursor.signal.shouldStop = false) (hm : p.act m = some q) :
    ∃ h, q.situation = landing h (fetch { p.cursor with session := s } call) := by
  simp only [Signal.shouldStop, Bool.or_eq_false_iff] at unstopped
  obtain ⟨quiet, calm⟩ := unstopped
  cases needs with
  | first free needed =>
    simp only [Play.act, free, if_true, Option.some.injEq] at hm
    subst hm
    have active := (Session.isSettled_eq_false_iff.mp needed).2.1
    have isOpen : p.cursor.session.cursor.isClosed = false := by
      simp [Cursor.isClosed, show p.cursor.session.cursor.phase = .active from active]
    have unsettled : p.cursor.session.beginCall.isSettled = false :=
      Session.isSettled_beginCall.trans needed
    refine ⟨p.history, ?_⟩
    show landing p.history (p.cursor.iterate call) = _
    simp only [iterate, calm, isOpen, proceed, unsettled, unlessInterrupted, quiet,
      Bool.false_eq_true, if_false]
    rfl
  | @again call result t waits more settled needed =>
    simp only [Play.act, waits, Option.map_some, Option.some.injEq, resume_ofResult] at hm
    subst hm
    have active := (Session.isSettled_eq_false_iff.mp needed).2.1
    refine ⟨p.history.hear p.session.cursor.quota (.batch call) (.ofResult result), ?_⟩
    show landing _ (p.cursor.settleBatch call result) = _
    rw [settleBatch_of_active settled active]
    simp only [fetched, calm, more, unlessInterrupted, quiet, proceed, needed, Bool.false_eq_true,
      if_false]

end Blocking

/-! ### Shared cursors -/

namespace Calls

variable {c : Calls} {i : Nat} {call : Call} {h : History}

/-- A call that looks for a batch stands in line, and it is its turn. -/
def Admits (c : Calls) (i : Nat) (call : Call) : Prop :=
  c.stage? i = some (.inLine (.iterate call)) ∧ c.turns.holder = some i

theorem Orderly.turn_admits (hc : c.Orderly) (admits : c.Admits i call) :
    c.situation h = ⟨c.shared.session, .idle, h⟩ ∧
      (c.turn i).1.situation (h.note (c.turn i).2) =
        Shared.landing h (c.shared.iterate call) := by
  obtain ⟨hi, ht⟩ := admits
  refine ⟨?_, ?_⟩
  · rw [situation, hc.wait?_of_inLine hi ht]
    rfl
  · rw [turn_eq hi ht]
    exact hc.settle_situation ht _

end Calls

namespace Shared

variable {c : Shared} {p q : Play} {m : Move} {s : Session} {call : Call}

/-- The move lets the call look for a batch: it is its turn, perhaps as soon as it is started. -/
def Play.Admits (p : Play) : Move → Call → Prop
  | .start r, call => (p.calls.entered r).Admits p.calls.fresh call
  | .turn i, call => p.calls.Admits i call
  | _, _ => False

theorem act_admits (hp : p.Orderly) (admits : p.Admits m call) (hm : p.act m = some q) :
    p.situation = ⟨p.session, .idle, p.history⟩ ∧
      q.situation = landing p.history (p.shared.iterate call) := by
  have acts := Play.acts hm
  clear hm
  obtain ⟨calls, wait, task, h⟩ := p
  cases acts with
  | start r used =>
    obtain ⟨rfl, rfl⟩ := hp.inUse used
    have stands := admits.1
    rw [Calls.entered_stage?] at stands
    cases stands
    obtain ⟨idle, landed⟩ := (hp.calls.entered (.iterate call)).turn_admits (h := h) admits
    rw [hp.calls.entered_situation] at idle
    refine ⟨idle, ?_⟩
    simp only [Calls.start_eq]
    exact landed
  | turn i used =>
    obtain ⟨rfl, rfl⟩ := hp.inUse used
    exact hp.calls.turn_admits admits
  | _ => exact admits.elim

/-- The result that a call has waited for comes. -/
theorem act_delivers {i : Nat} {wait : Wait} {o : Outcome} (hp : p.Orderly)
    (waits : p.calls.stage? i = some (.waiting wait)) (hm : p.act (.deliver i o) = some q) :
    p.situation = ⟨p.session, .waiting wait, p.history⟩ ∧
      q.situation = landing (p.history.hear p.session.cursor.quota wait o)
        (p.shared.resume wait o) := by
  obtain ⟨hw, ht⟩ := hp.of_stage waits
  have turn := hp.calls.waits i wait (Calls.mem_of_stage? waits)
  obtain ⟨calls, wait', task, h⟩ := p
  cases hw
  cases ht
  simp only [Play.act, waits, Option.some.injEq] at hm
  subst hm
  refine ⟨?_, ?_⟩
  · rw [Play.situation_calls, Calls.situation,
      hp.calls.wait?_eq_some (Calls.mem_of_stage? waits)]
    rfl
  · simp only [Calls.deliver_eq waits]
    exact hp.calls.settle_situation turn _

/-- A call that begins on an open cursor starts the deadline anew if it is to span single calls. -/
theorem act_restarts (hp : p.Orderly) (hc : p.situation.Coherent) (admits : p.Admits m call)
    (isOpen : p.session.cursor.phase ≠ .closed) (hm : p.act m = some q) :
    q.situation.overall = p.session.beginCall.deadline.overall := by
  obtain ⟨idle, landed⟩ := act_admits hp admits hm
  have notClosed : p.shared.session.cursor.isClosed = false :=
    Bool.eq_false_iff.mpr fun closed => isOpen (Cursor.isClosed_iff.mp closed)
  rw [idle] at hc
  rw [landed]
  simp only [iterate, notClosed, Bool.false_eq_true, if_false]
  exact hc.entered isOpen (proceed_course (c := { p.shared with session := p.session.beginCall })
    fun _ => Session.keepsTo_retiming _)

/-- Where no call begins, the deadline is replaced by others only. -/
theorem Play.keepsTo_unmoved (none : ∀ call, ¬p.Admits m call)
    (own : ∀ deadline clock, m ≠ .adjust deadline clock) : p.KeepsTo unmoved m := by
  have goesOn (c : Shared) (wait : Wait) (o : Outcome) : c.GoesOn unmoved wait o :=
    ⟨fun _ => wait.keepsTo_retiming _, fun _ _ => trivial, fun _ => trivial⟩
  cases m with
  | start r =>
    refine fun r' hi ht =>
      ⟨fun _ => Session.keepsTo_retiming _, fun _ _ _ => trivial, fun call hr => ?_⟩
    subst hr
    exact none call ⟨hi, ht⟩
  | turn i =>
    refine fun r' hi ht =>
      ⟨fun _ => Session.keepsTo_retiming _, fun _ _ _ => trivial, fun call hr => ?_⟩
    subst hr
    exact none call ⟨hi, ht⟩
  | deliver i o => exact fun wait _ => goesOn _ wait o
  | outcome o => exact fun wait _ => goesOn _ wait o
  | drop tasksRun => exact fun _ => trivial
  | abandon i => trivial
  | giveUp => trivial
  | adjust deadline clock => exact absurd rfl (own deadline clock)
  | cleanUp => trivial

/-- No other move touches the deadline, unless others do. -/
theorem act_keeps (hp : p.Orderly) (hc : p.situation.Coherent)
    (own : ∀ deadline clock, m ≠ .adjust deadline clock)
    (refused : ∀ call, p.Admits m call → p.session.cursor.phase = .closed)
    (hm : p.act m = some q) : q.situation.overall = p.situation.overall := by
  by_cases admitted : ∃ call, p.Admits m call
  · obtain ⟨call, admits⟩ := admitted
    have closed : p.shared.session.cursor.isClosed = true :=
      Cursor.isClosed_iff.mpr (refused call admits)
    rw [(act_admits hp admits hm).2]
    simp only [iterate, closed, if_true]
    rfl
  · have none : ∀ call, ¬p.Admits m call := fun call admits => admitted ⟨call, admits⟩
    exact Situation.Course.unmoved (act_course hp (Play.keepsTo_unmoved none own) hm) hc

/-- In a move a call comes to need a batch from the server, and the session is as it finds it
then. -/
inductive Play.Needs (p : Play) : Move → Session → Call → Prop where
  | first {m : Move} {call : Call} (admits : p.Admits m call)
      (needed : p.session.isSettled = false) : Needs p m p.session.beginCall call
  /-- The batch that was asked for came empty. -/
  | again {i : Nat} {call : Call} {result : Except Failure Document} {t : Session}
      (waits : p.calls.stage? i = some (.waiting (.batch call))) (more : call ≠ .tryNext)
      (settled : (p.session.deliver result).settleFetch result = (t, .ok ()))
      (needed : t.isSettled = false) : Needs p (.deliver i (.ofResult result)) t call

theorem Play.Needs.wants (needs : p.Needs m s call) (hp : p.Orderly) (hc : p.situation.Coherent)
    (hm : p.act m = some q)
    (usable : p.session.cursor.phase = .active → p.session.cursor.connectionBroken = false) :
    p.session.Wants s := by
  cases needs with
  | first admits needed =>
    rw [(act_admits hp admits hm).1] at hc
    exact Session.Settled.wants hc.fits needed usable
  | again waits more settled needed =>
    rw [(act_delivers hp waits hm).1] at hc
    exact Session.Asking.wants hc.fits usable settled needed

/-- A call that needs a batch goes on to ask for one unless a close was asked for. -/
theorem Play.Needs.lands (needs : p.Needs m s call) (hp : p.Orderly)
    (unstopped : p.shared.closeRequested = false) (hm : p.act m = some q) :
    ∃ h, q.situation = landing h (fetch { p.shared with session := s } call) := by
  cases needs with
  | first admits needed =>
    have active := (Session.isSettled_eq_false_iff.mp needed).2.1
    have isOpen : p.shared.session.cursor.isClosed = false := by
      simp [Cursor.isClosed, show p.shared.session.cursor.phase = .active from active]
    have unsettled : p.shared.session.beginCall.isSettled = false :=
      Session.isSettled_beginCall.trans needed
    refine ⟨p.history, (act_admits hp admits hm).2.trans ?_⟩
    simp only [iterate, isOpen, proceed, unsettled, unstopped, Bool.false_eq_true, if_false]
    rfl
  | @again i call result t waits more settled needed =>
    have active := (Session.isSettled_eq_false_iff.mp needed).2.1
    have settled : (p.shared.session.deliver result).settleFetch result = (s, .ok ()) := settled
    refine ⟨p.history.hear p.session.cursor.quota (.batch call) (.ofResult result),
      (act_delivers hp waits hm).2.trans ?_⟩
    simp only [resume_ofResult, settle, settleBatch, settled, active, if_true, fetched, more,
      if_false, proceed, needed, unstopped, Bool.false_eq_true]

end Shared

end ResultCursor
