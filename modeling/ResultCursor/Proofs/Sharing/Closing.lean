import ResultCursor.Proofs.Dialogue
import ResultCursor.Proofs.Phases
import ResultCursor.Proofs.Sharing.Attending
import ResultCursor.Proofs.Sharing.Log
import ResultCursor.Proofs.Speech

/-! What a close does to the calls around it. Once it was asked for, no call asks for a batch any
more; once it came to its answer the cursor is closed for good, the leases are back, and every call
that looks for a batch says so. -/

namespace ResultCursor

open Shared

/-- The requests for batches sent so far. -/
def Session.requests (s : Session) : List Command := s.commands.filter Command.isGetMore

@[simp] theorem Session.finish_phase (s : Session) (call : Call) :
    (s.finish call).1.cursor.phase = s.cursor.phase := by
  rcases s.finish_cases call with ⟨batch, -, hf⟩ | ⟨a, hf, -⟩
  · rw [hf]
  · rw [hf]

namespace Situation

variable {R : Rules} {S T : Situation} {before : Counts} {first : BatchReply}

/-! ### Closed for good -/

theorem Step.closed (step : Step R S T) (hc : S.Coherent)
    (h : S.session.cursor.phase = .closed) : T.session.cursor.phase = .closed := by
  have later := step.phase hc
  rw [h] at later
  exact later.of_closed

theorem Step.finished (step : Step R S T) (hc : S.Coherent)
    (h : S.session.isFinished = true) : T.session.isFinished = true := by
  obtain ⟨closed, returned⟩ := Session.isFinished_iff.mp h
  refine Session.isFinished_iff.mpr ⟨step.closed hc closed, ?_⟩
  rcases step.lending hc with hl | hl
  · exact (congrArg Lending.leased hl).trans returned
  · have unleased : S.session.lending.leased = false := returned
    rw [Lending.giveBack, unleased] at hl
    exact (congrArg Lending.leased hl).trans returned

theorem Course.finished (course : Course R S T) (hc : S.Coherent)
    (h : S.session.isFinished = true) : T.session.isFinished = true := by
  induction course with
  | refl => exact h
  | tail course step ih => exact step.finished (Course.coherent course hc) ih

/-- A closed cursor whose leases are back waits for nothing. -/
theorem Coherent.rests {wait : Wait} (hc : S.Coherent) (h : S.session.isFinished = true) :
    S.control ≠ .waiting wait := by
  intro hw
  obtain ⟨closed, returned⟩ := Session.isFinished_iff.mp h
  have fits := hc.fits
  rw [hw] at fits
  cases wait with
  | batch call =>
    have active : S.session.cursor.phase = .active := fits.active fits.remote
    cases closed.symm.trans active
  | kill saved after =>
    have leased : S.session.leased = true := fits.2.1
    cases returned.symm.trans leased

/-! ### No more requests -/

/-- What is lost where things break off is not missed where they may. -/
theorem Informed.of_breakOff {R' : Rules} (h : S.Informed R before first)
    (allowed : R' .breakOff) : S.Informed R' before first :=
  ⟨h.lawful, { h.known with
    owed := fun hn => absurd allowed hn
    busy := fun hn => absurd allowed hn }⟩

/-- Nothing is asked for unless the step goes on to wait for a batch. -/
theorem Speech.requests (speech : Speech R S T)
    (hR : ∀ call, T.control = .waiting (.batch call) → ¬R .ask)
    (hi : S.Informed R before first) : T.session.requests = S.session.requests := by
  cases speech with
  | quiet unheard same => rw [Session.requests, unheard.commands, Session.requests]
  | sends sending sent allowance prior after same what =>
    have spares : sending.command.isGetMore = false := by
      rcases what with ⟨allowed, -, call, asking⟩ | ⟨saved, aftermath, hw, -⟩
      · exact absurd allowed (hR call asking)
      · have control := hi.known.control
        rw [hw] at control
        exact Command.isGetMore_of_isKill control.1
    simp [Session.requests, Session.commands_sent sent, spares]
  | hears result heard prior after same =>
    rw [Session.requests, heard.commands, Session.deliver_commands, Session.requests]

theorem Course.requests (course : Course R S T) (hR : ¬R .ask) (hc : S.Coherent)
    (hl : S.session.lending.Fair before) (hi : S.Informed R before first) :
    T.session.requests = S.session.requests := by
  induction course with
  | refl => rfl
  | tail course step ih =>
    obtain ⟨hc, -, hi⟩ := Course.kept_informed course hc hl hi
    exact ((step.speech hc).requests (fun _ _ => hR) hi).trans ih

end Situation

/-! ### What running calls are about -/

namespace Calls

variable {c : Calls} {started : List Request} {i : Nat} {r : Request}

/-- Each call serves what was asked for when it was started. -/
def Serves (c : Calls) (started : List Request) : Prop :=
  ∀ e ∈ c.running, ∃ r, started[e.1]? = some r ∧ e.2.Serves r

theorem Serves.of_stage (h : c.Serves started) {s : Stage} (hi : c.stage? i = some s) :
    ∃ r, started[i]? = some r ∧ s.Serves r :=
  h (i, s) (mem_of_stage? hi)

theorem Serves.append (h : c.Serves started) (rs : List Request) : c.Serves (started ++ rs) := by
  intro e he
  obtain ⟨r', hr, hs⟩ := h e he
  have hlt : e.1 < started.length := (List.getElem?_eq_some_iff.mp hr).1
  exact ⟨r', by rw [List.getElem?_append_left hlt, hr], hs⟩

theorem Serves.forget (h : c.Serves started) (i : Nat) : (c.forget i).Serves started :=
  fun e he => h e (List.mem_filter.mp he).1

theorem Serves.put (h : c.Serves started) (hr : started[i]? = some r) {s : Stage}
    (hs : s.Serves r) : (c.put i s).Serves started := by
  intro e he
  rcases List.mem_append.mp he with he | he
  · exact h.forget i e he
  · rw [List.mem_singleton.mp he]
    exact ⟨r, hr, hs⟩

theorem Serves.settle (h : c.Serves started) (hr : started[i]? = some r)
    {x : Shared × Progress} (hx : Attends c.shared r x) : (c.settle i x).1.Serves started := by
  obtain ⟨shared, progress⟩ := x
  cases progress with
  | answered a => exact h.forget i
  | crashed text => exact h.forget i
  | waiting sending wait =>
    exact Serves.put (c := { c with shared }) h hr (hx.serves sending wait rfl)

theorem settle_shared (c : Calls) (i : Nat) (x : Shared × Progress) :
    (c.settle i x).1.shared = x.1 := by
  obtain ⟨shared, progress⟩ := x
  cases progress <;> rfl

theorem Serves.turn (h : c.Serves started) (i : Nat) : (c.turn i).1.Serves started := by
  unfold Calls.turn
  split
  · next r hi =>
    split
    · obtain ⟨r', hr, hs⟩ := h.of_stage hi
      cases hs
      exact h.settle hr (request_attends c.shared r)
    · exact h
  · exact h

theorem turn_closeRequested (c : Calls) (i : Nat) :
    (c.turn i).1.shared.closeRequested = c.shared.closeRequested := by
  unfold Calls.turn
  split
  · next r hi =>
    split
    · rw [settle_shared]
      exact (request_attends c.shared r).stop
    · rfl
  · rfl

theorem Serves.entered (h : c.Serves started) (hn : started.length = c.fresh) (r : Request) :
    (c.entered r).Serves (started ++ [r]) := by
  have hr : (started ++ [r])[c.fresh]? = some r := by simp [← hn]
  exact (h.append [r]).put hr rfl

theorem entered_closeRequested (c : Calls) (r : Request) :
    (c.entered r).shared.closeRequested = (c.shared.closeRequested || r = .close) := by
  cases r <;> simp [Calls.entered, announce, requestClose]

theorem Serves.deliver (h : c.Serves started) (i : Nat) (o : Outcome) :
    (c.deliver i o).1.Serves started := by
  unfold Calls.deliver
  split
  · next wait hi =>
    obtain ⟨r, hr, hs⟩ := h.of_stage hi
    exact h.settle hr (resume_attends hs o)
  · exact h

theorem deliver_closeRequested (c : Calls) (i : Nat) (o : Outcome) :
    (c.deliver i o).1.shared.closeRequested = c.shared.closeRequested := by
  unfold Calls.deliver
  split
  · rw [settle_shared]
    exact resume_closeRequested _ _ o
  · rfl

theorem Serves.abandon (h : c.Serves started) (i : Nat) : (c.abandon i).Serves started := by
  unfold Calls.abandon
  split
  · exact h.forget i
  · exact h.forget i
  · exact h

theorem abandon_closeRequested (c : Calls) (i : Nat) :
    (c.abandon i).shared.closeRequested = c.shared.closeRequested := by
  unfold Calls.abandon
  split
  · rfl
  · exact Shared.abandon_closeRequested _ _
  · rfl

end Calls

namespace Shared

variable {p q : Play} {m : Move} {log : Log} {c c' : Calls} {started : List Request}

/-- Every move leaves the calls at what they are about. -/
theorem Moved.serves (moved : Moved c m c') (h : c.Serves started) (hn : started.length = c.fresh) :
    c'.Serves (started ++ m.asked?.toList) := by
  cases moved with
  | start r =>
    rw [Calls.start_eq]
    exact (h.entered hn r).turn c.fresh
  | turn i => simpa [Move.asked?] using h.turn i
  | deliver i o => simpa [Move.asked?] using h.deliver i o
  | abandon i => simpa [Move.asked?] using h.abandon i
  | beside shared apart stop => exact h.append m.asked?.toList

/-- A close asked for stays asked for. -/
theorem Moved.closeRequested (moved : Moved c m c')
    (hq : c.shared.closeRequested = true ∨ m = .start .close) :
    c'.shared.closeRequested = true := by
  cases moved with
  | start r =>
    rw [Calls.start_eq, Calls.turn_closeRequested, Calls.entered_closeRequested]
    rcases hq with hq | hq
    · simp [hq]
    · cases hq
      simp
  | turn i => simpa [Calls.turn_closeRequested] using hq
  | deliver i o => simpa [Calls.deliver_closeRequested] using hq
  | abandon i => simpa [Calls.abandon_closeRequested] using hq
  | beside shared apart stop =>
    rcases hq with hq | rfl
    · exact stop.trans hq
    · cases apart

/-- The log tells of the calls as they are. -/
structure Play.Recorded (p : Play) (log : Log) : Prop where
  orderly : p.Orderly
  inTurn : log.InTurn p.calls.turns p.calls.fresh
  manned : Manned p.calls
  serves : p.calls.Serves log.started

theorem act_recorded (hp : p.Recorded log) (hm : p.act m = some q) :
    q.Recorded (log.add p m q) where
  orderly := act_orderly hp.orderly hm
  inTurn := act_inTurn hp.orderly hp.inTurn hm
  manned := (act_moved hp.orderly hm).manned hp.orderly.calls hp.inTurn hp.manned
  serves := by
    rw [Log.add_started]
    exact (act_moved hp.orderly hm).serves hp.serves hp.inTurn.numbered

theorem start_recorded {reply : Document} {setting : Setting} (hs : start reply setting = .ok p) :
    p.Recorded {} := by
  have orderly := start_orderly hs
  unfold start at hs
  cases hr : Shared.ofReply reply setting with
  | error f => simp [hr] at hs
  | ok r =>
    simp only [hr, Except.ok.injEq] at hs
    subst hs
    exact ⟨orderly, ⟨rfl, fun _ => rfl, by simp, by simp, by simp, by simp⟩, by simp [Manned],
      by simp [Calls.Serves]⟩

/-- Where no call runs or stands in line the turn is free. -/
theorem Comes.alone {reply : Document} {setting : Setting} {moves : List Move}
    (run : Comes reply setting moves p) (used : p.inUse = true) (alone : p.calls.running = []) :
    p.history.ended = false ∧ ∃ c n, p = ⟨⟨c, {}, [], n⟩, none, none, p.history⟩ := by
  obtain ⟨p₀, hs, hr⟩ := run
  obtain ⟨log, recorded⟩ := run_induction (P := fun p => ∃ log, p.Recorded log)
    ⟨{}, start_recorded hs⟩ (fun _ _ _ ⟨_, hp⟩ hm => ⟨_, act_recorded hp hm⟩) hr
  obtain ⟨waits, due⟩ := recorded.orderly.inUse used
  have vacant : p.calls.turns.holder.toList ++ p.calls.turns.line = [] := by
    refine List.eq_nil_iff_forall_not_mem.mpr fun i hi => ?_
    have manned := recorded.manned i hi
    simp [alone] at manned
  obtain ⟨⟨c, ⟨holder, line⟩, running, n⟩, wait, task, h⟩ := p
  obtain ⟨free, rfl⟩ := List.append_eq_nil_iff.mp vacant
  cases Option.toList_eq_nil_iff.mp free
  subst waits due alone
  refine ⟨?_, c, n, rfl⟩
  simpa [Play.inUse] using used

/-! ### After a close was asked for -/

/-- Nobody asks for a batch. -/
def stopped : Rules := (· ≠ .ask)

theorem stopped_shut : stopped .shut := by simp [stopped]

theorem stopped_breakOff : stopped .breakOff := by simp [stopped]

theorem stopped_retime (s : Session) (deadline : Deadline) : stopped (.retime s deadline) := by
  simp [stopped]

theorem not_asks_of_closeRequested {c : Shared} (hc : c.closeRequested = true) (r : Request) :
    ¬c.asks r := by
  cases r with
  | iterate call => exact fun ha => by cases hc.symm.trans ha
  | _ => exact id

theorem KeepsTo.of_closeRequested {c : Shared} (hc : c.closeRequested = true) (r : Request) :
    c.KeepsTo stopped r :=
  ⟨fun ha => absurd ha (not_asks_of_closeRequested hc r), fun _ _ _ => stopped_shut,
    fun _ _ => stopped_retime _ _⟩

theorem GoesOn.of_closeRequested {c : Shared} (hc : c.closeRequested = true) (wait : Wait)
    (o : Outcome) : c.GoesOn stopped wait o :=
  ⟨fun hq => (by cases hc.symm.trans hq), fun _ _ => stopped_shut, fun _ => stopped_breakOff⟩

theorem Play.keepsTo_stopped (h : p.shared.closeRequested = true ∨ m = .start .close) :
    p.KeepsTo stopped m := by
  cases m with
  | start r =>
    have asked : (p.calls.entered r).shared.closeRequested = true := by
      rw [Calls.entered_closeRequested]
      rcases h with h | h
      · simp [show p.calls.shared.closeRequested = true from h]
      · cases h
        simp
    exact fun r' _ _ => .of_closeRequested asked r'
  | turn i => exact fun r _ _ => .of_closeRequested (h.resolve_right (by simp)) r
  | deliver i o => exact fun wait _ => .of_closeRequested (h.resolve_right (by simp)) wait o
  | outcome o => exact fun wait _ => .of_closeRequested (h.resolve_right (by simp)) wait o
  | drop tasksRun => exact fun _ => stopped_breakOff
  | abandon i => exact stopped_breakOff
  | giveUp => exact stopped_breakOff
  | adjust deadline clock => exact stopped_retime _ _
  | cleanUp => trivial

/-- From the moment a close is asked for, moves send no request for a batch. -/
theorem course_after_close {moves : List Move} (hp : p.Recorded log)
    (hc : p.shared.closeRequested = true) (run : moves.foldlM Play.act p = some q) :
    Situation.Course stopped p.situation q.situation := by
  have kept := run_induction
    (P := fun q => (∃ log, q.Recorded log) ∧ q.shared.closeRequested = true ∧
      Situation.Course stopped p.situation q.situation)
    ⟨⟨log, hp⟩, hc, .refl⟩ (fun q q' m hq hm => ?_) run
  · exact kept.2.2
  · obtain ⟨⟨log, hr⟩, hc, course⟩ := hq
    exact ⟨⟨_, act_recorded hr hm⟩, (act_moved hr.orderly hm).closeRequested (.inl hc),
      course.trans (act_course hr.orderly (Play.keepsTo_stopped (.inl hc)) hm)⟩

end Shared

end ResultCursor
