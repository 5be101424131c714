import ResultCursor.Proofs.KillDecision
import ResultCursor.Proofs.Stopping.Halting
import ResultCursor.Proofs.Timing.Requests

/-! The deadline is kept on both kinds of cursors, whatever the clock shows and however long a call
goes on. No batch is asked for once it has passed: a call that needs one then times out, and cleans
up all the same. -/

namespace ResultCursor

/-- What a move has to do with the deadline. -/
structure Occasion where
  /-- Others leave the deadline alone. -/
  own : Prop
  /-- A call that looks for a batch begins, and finds the cursor open. -/
  enters : Prop
  /-- A call comes to need a batch in the session, and nothing stops it. -/
  needs : Session → Call → Prop
  /-- The command that is waited for has its result. -/
  comes : Prop
  /-- The command that is waited for will have no result. -/
  breaks : Prop

theorem Control.ofWait_eq_waiting {w : Option Wait} {wait : Wait} :
    ofWait w = .waiting wait ↔ w = some wait := by
  cases w <;> simp [ofWait]

namespace Situation

variable {S T : Situation} {o : Occasion} {f : Failure} {reply : Document} {setting : Setting}

/-- What becomes of a call that has failed and ends the server's cursor. -/
inductive Fails (o : Occasion) (f : Failure) (S T : Situation) : Prop where
  | waits (quiet : ¬o.comes ∧ ¬o.breaks) (control : T.control = S.control)
      (cursor : T.session.cursor = S.session.cursor)
      (sendings : T.session.sendings = S.session.sendings) (history : T.history = S.history)
  | answers (came : o.comes) (finished : T.session.isFinished = true)
      (sendings : T.session.sendings = S.session.sendings)
      (answer : T.history.answers = S.history.answers ++ [.failed f])
  | breaksOff (broke : o.breaks) (finished : T.session.isFinished = true)
      (sendings : T.session.sendings = S.session.sendings)
      (answer : T.history.answers = S.history.answers)

theorem Fails.of_eq (quiet : ¬o.comes ∧ ¬o.breaks) (same : T = S) : Fails o f S T := by
  subst same
  exact .waits quiet rfl rfl rfl rfl

/-- How a move keeps to the deadline. -/
structure Punctual (setting : Setting) (o : Occasion) (S T : Situation) : Prop where
  /-- A request is sent only for a call that needs a batch and finds, by the clock and by the
  deadline as it stays, that the limit is still ahead. -/
  asks : T.session.requests = S.session.requests ∨
    ∃ s call, o.needs s call ∧
      (∀ limit, s.deadline.limit = some limit → s.clock.read.1 < limit) ∧
      T.Fetches S.session s call
  /-- At the limit and after it, the call times out, whatever override the deadline has. -/
  late : ∀ s call limit, o.needs s call → s.deadline.limit = some limit →
    limit ≤ s.clock.read.1 →
    T.TimesOut S.session s call limit ∧ T.session.requests = S.session.requests
  /-- A call that failed is answered with its failure once the server's cursor is ended. -/
  fails : ∀ saved call f, S.control = .waiting (.kill saved (.failing call f)) → Fails o f S T
  options : S.session.cursor.options = setting.options
  /-- A deadline that spans the whole life of the cursor stays. -/
  lifetime : setting.options.mode = .lifetime → o.own → T.overall = S.overall
  /-- One that spans single calls is started anew, once, when a call begins on the open cursor. Its
  limit is then as far ahead as the timeout says, from what the clock shows there; without a timeout
  it stays. -/
  iteration : setting.options.mode = .iteration → o.enters →
    T.overall = (S.session.deadline.timeout,
      (S.session.deadline.timeout.map fun t => S.session.clock.read.1 + t.nanos).or
        S.session.deadline.limit)
  keeps : o.own → ¬o.enters → T.overall = S.overall
  /-- No call begins while another one waits. -/
  apart : o.enters → S.control = .idle

/-- The opening of a cursor asks for no batch and leaves the deadline as it was given. -/
structure Fresh (setting : Setting) (S : Situation) : Prop where
  requests : S.session.requests = []
  overall : S.overall = setting.deadline.overall

/-- Where nobody asks and nobody replaces the deadline, a new cursor is fresh. -/
theorem Fresh.of_courses {s : Session} (hs : Session.ofReply reply setting = .ok s)
    (silent : Course Shared.stopped (opening reply setting s) S)
    (still : Course unmoved (opening reply setting s) S) : S.Fresh setting where
  requests := by
    obtain ⟨first, -, informed⟩ := opening_informed (R := Shared.stopped) hs
    have none : s.requests = [] :=
      Session.requests_of_sendings (Session.ofReply_quietly hs).sendings
    exact (silent.requests (· rfl) (.opening hs) (opening_fair hs) informed).trans none
  overall := by
    rw [Course.unmoved still (.opening hs)]
    exact congrArg Deadline.overall (Session.ofReply_deadline hs)

/-- A move is punctual if a call that needs a batch asks in time or times out, and nothing but the
beginning of a call on the open cursor starts the deadline anew. -/
theorem Punctual.of_calls (options : S.session.cursor.options = setting.options)
    (requests : T.session.requests = S.session.requests ∨ ∃ s call, o.needs s call)
    (fetches : ∀ s call left, o.needs s call →
      s.deadline.remaining s.clock.read.1 = .ok left → T.Fetches S.session s call)
    (timesOut : ∀ s call limit, o.needs s call → s.deadline.limit = some limit →
      limit ≤ s.clock.read.1 → T.TimesOut S.session s call limit)
    (fails : ∀ saved call f, S.control = .waiting (.kill saved (.failing call f)) → Fails o f S T)
    (restarts : o.enters → T.overall = S.session.beginCall.deadline.overall)
    (keeps : o.own → ¬o.enters → T.overall = S.overall) (apart : o.enters → S.control = .idle) :
    Punctual setting o S T := by
  have mode : S.session.cursor.options.mode = setting.options.mode := by rw [options]
  have late (s : Session) (call : Call) (limit : Instant) (needs : o.needs s call)
      (hl : s.deadline.limit = some limit) (passed : limit ≤ s.clock.read.1) :
      T.TimesOut S.session s call limit ∧ T.session.requests = S.session.requests := by
    have out := timesOut s call limit needs hl passed
    obtain ⟨sending, sent, kill, -⟩ := out.sent
    exact ⟨out, Session.requests_of_kill sent kill⟩
  exact
    { options, late, fails, keeps, apart
      asks := by
        rcases requests with same | ⟨s, call, needs⟩
        · exact .inl same
        · rcases s.deadline.remaining_cases s.clock.read.1 with ⟨left, ahead⟩ | ⟨limit, hl, passed⟩
          · refine .inr ⟨s, call, needs, fun limit hl => ?_, fetches s call left needs ahead⟩
            exact Deadline.lt_of_remaining ahead hl
          · exact .inl (late s call limit needs hl passed).2
      lifetime := fun hm own => by
        by_cases enters : o.enters
        · rw [restarts enters, Session.beginCall_of_lifetime (mode.trans hm)]
          rfl
        · exact keeps own enters
      iteration := fun hm enters => by
        rw [restarts enters, Session.beginCall_of_iteration (mode.trans hm),
          Deadline.restart_overall] }

end Situation

/-! ### Blocking cursors -/

namespace Blocking

variable {p q : Play} {m : Move} {s : Session} {call : Call} {f : Failure} {saved : Option Span}
  {reply : Document} {setting : Setting} {moves : List Move}

def Play.occasion (p : Play) (m : Move) : Occasion where
  own := ∀ deadline clock, m ≠ .adjust deadline clock
  enters := (∃ call, p.Admits m call) ∧ p.session.cursor.phase ≠ .closed
  needs s call := p.cursor.signal.shouldStop = false ∧ p.Needs m s call
  comes := ∃ result, m = .outcome (.ofResult result)
  breaks := ∃ text, m = .outcome (.crash text)

theorem start_fresh (hs : start reply setting = .ok p) : p.situation.Fresh setting := by
  obtain ⟨s, hr, silent⟩ := start_course (R := Shared.stopped) hs
  obtain ⟨s', hr', still⟩ := start_course (R := unmoved) hs
  cases hr.symm.trans hr'
  exact .of_courses hr silent still

theorem act_fails (ha : p.control.Inactive p.session)
    (waits : p.wait = some (.kill saved (.failing call f))) (hm : p.act m = some q) :
    Situation.Fails (p.occasion m) f p.situation q.situation := by
  have busy : p.isFree = false := by simp [Play.isFree, waits]
  obtain ⟨closed, hf⟩ := Play.inactive_of_waits ha waits
  have finished (t : Session) (hc : t.cursor = p.session.cursor) (hl : t.leased = false) :
      t.isFinished = true := Session.isFinished_iff.mpr ⟨by rw [hc, closed], hl⟩
  have settles (result : Except Failure Document) (ho : m = .outcome (.ofResult result)) :
      Situation.Fails (p.occasion m) f p.situation q.situation := by
    subst ho
    simp only [Play.act, waits, Option.map_some, resume_ofResult, settle, resumeAfter, failing, hf,
      Bool.false_eq_true, if_false, Option.some.injEq] at hm
    subst hm
    refine .answers ⟨result, rfl⟩ (finished _ ?_ ?_) ?_ ?_
    · show ((p.session.deliver result).settleKill saved result).cursor = _
      simp
    · exact Session.settleKill_leased saved _
    · exact (Session.settleKill_sendings saved _).trans (Session.deliver_sendings _)
    · show (p.history.hear p.session.cursor.quota _ _).answers ++ _ = _
      rw [← Play.hears_outcome waits, Play.hears_answers]
      rfl
  cases Play.acts hm with
  | request r free => cases busy.symm.trans free
  | outcome o waits' =>
    cases waits.symm.trans waits'
    cases o with
    | reply d => exact settles (.ok d) rfl
    | failure g => exact settles (.error g) rfl
    | crash text =>
      refine .breaksOff ⟨text, rfl⟩ (finished _ ?_ ?_) ?_ rfl
      · exact Session.breakKill_cursor saved
      · exact Session.breakKill_leased saved
      · exact (Session.breakKill_quietly saved).sendings
  | drop free => cases busy.symm.trans free
  | _ =>
    refine .waits ⟨?_, ?_⟩ rfl rfl rfl rfl
    · rintro ⟨result, h⟩
      cases h
    · rintro ⟨text, h⟩
      cases h

theorem act_punctual (hS : Situation.Courses reply setting p.situation)
    (hm : p.act m = some q) :
    Situation.Punctual setting (p.occasion m) p.situation q.situation := by
  have refused (enters : ¬(p.occasion m).enters) (call : Call) (admits : p.Admits m call) :
      p.session.cursor.phase = .closed :=
    not_not.mp fun isOpen => enters ⟨⟨call, admits⟩, isOpen⟩
  refine .of_calls hS.options ?_ ?_ ?_ ?_ ?_ ?_ ?_
  · exact (act_requests hS.inactive hm).imp_right fun ⟨unstopped, s, call, needs⟩ =>
      ⟨s, call, unstopped, needs⟩
  · rintro s call left ⟨unstopped, needs⟩ ahead
    obtain ⟨h, landed⟩ := needs.lands unstopped hm
    rw [landed]
    exact fetch_fetches (b := { p.cursor with session := s }) (needs.wants hS.coherent hS.usable)
      ahead
  · rintro s call limit ⟨unstopped, needs⟩ hl passed
    obtain ⟨h, landed⟩ := needs.lands unstopped hm
    rw [landed]
    exact fetch_timesOut (b := { p.cursor with session := s }) (needs.wants hS.coherent hS.usable)
      hl passed
  · intro saved call f control
    exact act_fails hS.inactive (Control.ofWait_eq_waiting.mp control) hm
  · rintro ⟨⟨call, admits⟩, isOpen⟩
    exact act_restarts hS.coherent admits isOpen hm
  · exact fun own enters => act_keeps hS.coherent own (refused enters) hm
  · rintro ⟨⟨call, admits⟩, -⟩
    rw [(act_admits admits hm).1]

/-- In the run others leave the deadline alone, and no call begins on the open cursor. -/
def Play.Steady (p : Play) (later : List Move) : Prop :=
  ∀ pre m post r, later = pre ++ m :: post → pre.foldlM Play.act p = some r →
    (r.occasion m).own ∧ ¬(r.occasion m).enters

theorem Comes.steady {later : List Move} (run : Comes reply setting moves p)
    (steady : p.Steady later) (goes : later.foldlM Play.act p = some q) :
    q.situation.overall = p.situation.overall := by
  have kept := run_induction_unless (fun r m => ¬((r.occasion m).own ∧ ¬(r.occasion m).enters))
    (P := fun r => Situation.Courses reply setting r.situation ∧
      r.situation.overall = p.situation.overall)
    ⟨run.courses, rfl⟩ (fun r u m good hr hm => ?_)
    (fun pre m post r hs hp => not_not.mpr (steady pre m post r hs hp)) goes
  · exact kept.2
  · obtain ⟨courses, same⟩ := hr
    obtain ⟨own, enters⟩ := not_not.mp good
    exact ⟨act_courses courses hm, ((act_punctual courses hm).keeps own enters).trans same⟩

end Blocking

/-! ### Shared cursors -/

namespace Calls

variable {c : Calls} {i : Nat} {wait : Wait}

/-- While a call waits, none that stands in line has its turn. -/
theorem Orderly.turn_of_busy (hc : c.Orderly) (busy : c.wait? = some wait) (i : Nat) :
    c.turn i = (c, .inLine) := by
  unfold Calls.turn
  split
  · next r inLine =>
    split
    · next turn =>
      have holds : c.turns.holder = some i := by simpa [Turns.isTurnOf] using turn
      cases busy.symm.trans (hc.wait?_of_inLine inLine holds)
    · rfl
  · rfl

end Calls

namespace Shared

variable {p q : Play} {m : Move} {s : Session} {call : Call} {f : Failure} {saved : Option Span}
  {reply : Document} {setting : Setting} {moves : List Move}

def Play.occasion (p : Play) (m : Move) : Occasion where
  own := ∀ deadline clock, m ≠ .adjust deadline clock
  enters := (∃ call, p.Admits m call) ∧ p.session.cursor.phase ≠ .closed
  needs s call := p.shared.closeRequested = false ∧ p.Needs m s call
  comes := ∃ i result, m = .deliver i (.ofResult result)
  breaks := (∃ i text, m = .deliver i (.crash text)) ∨
    ∃ i wait, m = .abandon i ∧ p.calls.stage? i = some (.waiting wait)

theorem start_fresh (hs : start reply setting = .ok p) : p.situation.Fresh setting := by
  obtain ⟨s, hr, silent⟩ := start_course (R := stopped) hs
  obtain ⟨s', hr', still⟩ := start_course (R := unmoved) hs
  cases hr.symm.trans hr'
  exact .of_courses hr silent still

/-- A failed call that ends the server's cursor has the turn, and the cursor is in use. -/
theorem Play.Orderly.failing (hp : p.Orderly)
    (control : p.control = .waiting (.kill saved (.failing call f))) :
    p.wait = none ∧ p.task = none ∧ p.calls.wait? = some (.kill saved (.failing call f)) := by
  obtain ⟨calls, wait, task, h⟩ := p
  cases wait with
  | some wait =>
    obtain ⟨saved', rfl⟩ := hp.opening wait rfl
    cases control
  | none =>
    cases task with
    | some kill => cases control
    | none => exact ⟨rfl, rfl, Control.ofWait_eq_waiting.mp control⟩

/-- The result of the command that ends the server's cursor comes, or never comes. -/
theorem deliver_fails (hp : p.Orderly) (ha : p.control.Inactive p.session)
    (control : p.control = .waiting (.kill saved (.failing call f))) {i : Nat} {o : Outcome}
    (hm : p.act (.deliver i o) = some q) :
    Situation.Fails (p.occasion (.deliver i o)) f p.situation q.situation := by
  cases Play.acts hm with
  | deliver o waits =>
  cases (hp.control_eq waits).symm.trans control
  have landed := (act_delivers hp waits hm).2
  rw [control] at ha
  obtain ⟨closed, -⟩ := ha
  have finished (t : Session) (hc : t.cursor = p.session.cursor) (hl : t.leased = false) :
      t.isFinished = true := Session.isFinished_iff.mpr ⟨by rw [hc, closed], hl⟩
  rw [landed]
  have answered (result : Except Failure Document) (ho : o = .ofResult result) :
      Situation.Fails (p.occasion (.deliver i o)) f p.situation
        (landing (p.history.hear p.session.cursor.quota (.kill saved (.failing call f)) o)
          (p.shared.resume (.kill saved (.failing call f)) o)) := by
    subst ho
    rw [resume_ofResult]
    refine .answers ⟨i, result, rfl⟩ (finished _ ?_ ?_) ?_ ?_
    · show ((p.session.deliver result).settleKill saved result).cursor = _
      simp
    · exact Session.settleKill_leased saved _
    · exact (Session.settleKill_sendings saved _).trans (Session.deliver_sendings _)
    · cases result <;> rfl
  cases o with
  | reply d => exact answered (.ok d) rfl
  | failure g => exact answered (.error g) rfl
  | crash text =>
    refine .breaksOff (.inl ⟨i, text, rfl⟩) (finished _ ?_ ?_) ?_ rfl
    · exact Session.breakKill_cursor saved
    · exact Session.breakKill_leased saved
    · exact (Session.breakKill_quietly saved).sendings

theorem act_fails (hp : p.Orderly) (ha : p.control.Inactive p.session)
    (control : p.control = .waiting (.kill saved (.failing call f))) (hm : p.act m = some q) :
    Situation.Fails (p.occasion m) f p.situation q.situation := by
  obtain ⟨hw, ht, busy⟩ := hp.failing control
  have acts := Play.acts hm
  obtain ⟨calls, wait, task, h⟩ := p
  cases hw
  cases ht
  cases acts with
  | start r used =>
    have entered := hp.calls.entered_situation (h := h) r
    have busy' : (calls.entered r).wait? = some (.kill saved (.failing call f)) :=
      Control.ofWait_eq_waiting.mp ((congrArg Situation.control entered).trans control)
    have stays := (hp.calls.entered r).turn_of_busy busy' calls.fresh
    refine .of_eq (by simp [Play.occasion]) ?_
    simp only [Calls.start_eq, stays]
    exact entered
  | turn i used =>
    refine .of_eq (by simp [Play.occasion]) ?_
    simp only [hp.calls.turn_of_busy busy i]
    rfl
  | deliver o waits => exact deliver_fails hp ha control hm
  | @abandon i wait waits =>
    cases (hp.control_eq waits).symm.trans control
    rw [control] at ha
    have broke : (Play.occasion ⟨calls, none, none, h⟩ (.abandon i)).breaks :=
      .inr ⟨i, _, rfl, waits⟩
    have left : (calls.abandon i).shared.session = calls.shared.session.breakKill saved := by
      simp only [Calls.abandon, waits]
      rfl
    refine .breaksOff broke (Session.isFinished_iff.mpr ⟨?_, ?_⟩) ?_ rfl
    · show (calls.abandon i).shared.session.cursor.phase = .closed
      rw [left, Session.breakKill_cursor]
      exact ha.1
    · show (calls.abandon i).shared.session.leased = false
      rw [left, Session.breakKill_leased]
    · show (calls.abandon i).shared.session.sendings = _
      rw [left, (Session.breakKill_quietly saved).sendings]
      rfl
  | leaveLine inLine =>
    refine .of_eq ?_ (hp.calls.leave_situation inLine)
    simp [Play.occasion, inLine]
  | adjust deadline clock => exact .waits (by simp [Play.occasion]) rfl rfl rfl rfl
  | drop tasksRun used alone =>
    obtain ⟨j, hj⟩ := Calls.exists_of_wait? busy
    have alone : calls.running = [] := alone
    rw [alone] at hj
    cases hj
  | cleanUp due => cases due
  | outcome o waits => cases waits
  | giveUp waits => cases waits
  | discard rests due => cases due

theorem act_punctual (hp : p.Orderly) (hS : Situation.Courses reply setting p.situation)
    (hm : p.act m = some q) :
    Situation.Punctual setting (p.occasion m) p.situation q.situation := by
  have refused (enters : ¬(p.occasion m).enters) (call : Call) (admits : p.Admits m call) :
      p.session.cursor.phase = .closed :=
    not_not.mp fun isOpen => enters ⟨⟨call, admits⟩, isOpen⟩
  refine .of_calls hS.options ?_ ?_ ?_ ?_ ?_ ?_ ?_
  · exact (act_requests hp hS hm).imp_right fun ⟨unstopped, s, call, needs⟩ =>
      ⟨s, call, unstopped, needs⟩
  · rintro s call left ⟨unstopped, needs⟩ ahead
    obtain ⟨h, landed⟩ := needs.lands hp unstopped hm
    rw [landed]
    exact fetch_fetches (c := { p.shared with session := s })
      (needs.wants hp hS.coherent hm hS.usable) ahead
  · rintro s call limit ⟨unstopped, needs⟩ hl passed
    obtain ⟨h, landed⟩ := needs.lands hp unstopped hm
    rw [landed]
    exact fetch_timesOut (c := { p.shared with session := s })
      (needs.wants hp hS.coherent hm hS.usable) hl passed
  · exact fun saved call f control => act_fails hp hS.inactive control hm
  · rintro ⟨⟨call, admits⟩, isOpen⟩
    exact act_restarts hp hS.coherent admits isOpen hm
  · exact fun own enters => act_keeps hp hS.coherent own (refused enters) hm
  · rintro ⟨⟨call, admits⟩, -⟩
    rw [(act_admits hp admits hm).1]

/-- In the run others leave the deadline alone, and no call begins on the open cursor. -/
def Play.Steady (p : Play) (later : List Move) : Prop :=
  ∀ pre m post r, later = pre ++ m :: post → pre.foldlM Play.act p = some r →
    (r.occasion m).own ∧ ¬(r.occasion m).enters

theorem Comes.steady {later : List Move} (run : Comes reply setting moves p)
    (steady : p.Steady later) (goes : later.foldlM Play.act p = some q) :
    q.situation.overall = p.situation.overall := by
  have kept := run_induction_unless (fun r m => ¬((r.occasion m).own ∧ ¬(r.occasion m).enters))
    (P := fun r => r.Orderly ∧ Situation.Courses reply setting r.situation ∧
      r.situation.overall = p.situation.overall)
    ⟨run.orderly, run.courses, rfl⟩ (fun r u m good hr hm => ?_)
    (fun pre m post r hs hp => not_not.mpr (steady pre m post r hs hp)) goes
  · exact kept.2.2
  · obtain ⟨hp, courses, same⟩ := hr
    obtain ⟨own, enters⟩ := not_not.mp good
    exact ⟨act_orderly hp hm, act_courses hp courses hm,
      ((act_punctual hp courses hm).keeps own enters).trans same⟩

end Shared

/-- Both kinds of cursors keep to the deadline. A request for a batch is sent only if the clock,
read before, shows a time before the limit. At the limit and after it a call that needs a batch
sends none: it closes the cursor, ends the server's cursor with the time for that, whatever override
others have put on the deadline, and then fails with a timeout and without leases. The deadline is
started anew by calls that look for a batch on an open cursor, each time once and where the call
begins, if it is to span single calls; otherwise nothing but others moves it. -/
theorem deadline_kept (reply : Document) (setting : Setting) :
    (∀ p, Blocking.start reply setting = .ok p → p.situation.Fresh setting) ∧
    (∀ p, Shared.start reply setting = .ok p → p.situation.Fresh setting) ∧
    (∀ moves p, Blocking.Comes reply setting moves p →
      (∀ m q, p.act m = some q →
        Situation.Punctual setting (p.occasion m) p.situation q.situation) ∧
      ∀ later q, p.Steady later → later.foldlM Blocking.Play.act p = some q →
        q.situation.overall = p.situation.overall) ∧
    (∀ moves p, Shared.Comes reply setting moves p →
      (∀ m q, p.act m = some q →
        Situation.Punctual setting (p.occasion m) p.situation q.situation) ∧
      ∀ later q, p.Steady later → later.foldlM Shared.Play.act p = some q →
        q.situation.overall = p.situation.overall) := by
  refine ⟨fun p hs => Blocking.start_fresh hs, fun p hs => Shared.start_fresh hs, ?_, ?_⟩
  · intro moves p run
    exact ⟨fun m q hm => Blocking.act_punctual run.courses hm,
      fun later q steady goes => run.steady steady goes⟩
  · intro moves p run
    exact ⟨fun m q hm => Shared.act_punctual run.orderly run.courses hm,
      fun later q steady goes => run.steady steady goes⟩

/-- A call has sent a request for a batch when others put an override of five seconds on the
deadline, which passes meanwhile. -/
def overridden : List Shared.Move :=
  [.start (.iterate .next), .start (.iterate .next),
    .adjust ((Deadline.start (some (.ofMillis 100)) 0).withOverride (some (.ofMillis 5000)))
      ⟨200000000, []⟩]

/-- Each call may take 100 milliseconds. The clock shows 40 when the first call begins and 120 when
the second does. It is read twice for a request, and shows 150 before the second and 230 before the
third. -/
def iterating : Setting :=
  { plainSetting (.start (some (.ofMillis 100)) 0) with
    options := { mode := .iteration }
    clock := ⟨0, [40000000, 80000000, 0, 0, 30000000, 0, 80000000]⟩ }

/-- No documents come for a request. -/
def emptily : Shared.Move := .deliver 1 (.reply (BatchReply.Place.next.reply 7 []))

/-- With a deadline for the whole life of the cursor, a request brings no documents after the
deadline has passed: no second one is sent, and the call times out. With one for each call, the
second call has 100 milliseconds of its own: it still sends a second request at 150, after the
deadline that the first call had, and no third one at 230. -/
theorem deadline_kept_in_both_modes :
    (∃ p q r, Shared.Comes (BatchReply.Place.first.reply 7 [item 1])
        (plainSetting (.start (some (.ofMillis 100)) 0)) overridden p ∧
      p.act emptily = some q ∧
      q.session.requests = p.session.requests ∧ q.session.cursor.phase = .closed ∧
      q.act (.deliver 1 (.failure .noMoreElements)) = some r ∧ r.session.isFinished = true ∧
      r.history.answers =
        q.history.answers ++ [.failed (.timeout (.passed ⟨100000000⟩))]) ∧
    (∃ p q r t, Shared.Comes (BatchReply.Place.first.reply 7 [item 1]) iterating
        [.start (.iterate .next)] p ∧
      p.session.deadline.limit = some 140000000 ∧
      p.act (.start (.iterate .next)) = some q ∧ q.session.requests.length = 1 ∧
      q.situation.overall = (some (.ofMillis 100), some 220000000) ∧
      q.act emptily = some r ∧ r.session.clock.now = 150000000 ∧ r.session.requests.length = 2 ∧
      r.situation.overall = q.situation.overall ∧
      r.act emptily = some t ∧ t.session.clock.now = 230000000 ∧
      t.session.requests = r.session.requests ∧ t.session.cursor.phase = .closed) := by
  constructor
  · obtain ⟨p, q, r, t, run, run', came, needs, hl, late, ended⟩ : ∃ p q r t,
        Shared.Comes (BatchReply.Place.first.reply 7 [item 1])
          (plainSetting (.start (some (.ofMillis 100)) 0)) overridden p ∧
        Shared.Comes (BatchReply.Place.first.reply 7 [item 1])
          (plainSetting (.start (some (.ofMillis 100)) 0)) (overridden ++ [emptily]) q ∧
        p.act emptily = some q ∧ (p.occasion emptily).needs t .next ∧
        t.deadline.limit = some 100000000 ∧ t.clock.read.1 = 200000000 ∧
        q.act (.deliver 1 (.failure .noMoreElements)) = some r :=
      ⟨_, _, _, _, ⟨_, rfl, rfl⟩, ⟨_, rfl, rfl⟩, rfl,
        ⟨rfl, @Shared.Play.Needs.again _ _ _ (.ok _) _ rfl (by decide) rfl rfl⟩, rfl, rfl, rfl⟩
    obtain ⟨-, -, -, kept⟩ := deadline_kept (BatchReply.Place.first.reply 7 [item 1])
      (plainSetting (.start (some (.ofMillis 100)) 0))
    obtain ⟨out, same⟩ := ((kept _ p run).1 _ q came).late t .next _ needs hl (by simp [late])
    obtain ⟨saved, control⟩ := out.control
    refine ⟨p, q, r, run, came, same, out.closed, ended, ?_⟩
    rw [late] at control
    cases ((kept _ q run').1 _ r ended).fails saved .next _ control with
    | waits quiet => exact absurd ⟨1, .error .noMoreElements, rfl⟩ quiet.1
    | answers came finished sendings answer => exact ⟨finished, answer⟩
    | breaksOff broke => simp [Shared.Play.occasion] at broke
  · obtain ⟨p, q, r, t, u, run, run', run'', first, enters, next, last, needs, hl, late, facts⟩ :
        ∃ (p q r t : Shared.Play) (u : Session),
        Shared.Comes (BatchReply.Place.first.reply 7 [item 1]) iterating
          [.start (.iterate .next)] p ∧
        Shared.Comes (BatchReply.Place.first.reply 7 [item 1]) iterating
          [.start (.iterate .next), .start (.iterate .next)] q ∧
        Shared.Comes (BatchReply.Place.first.reply 7 [item 1]) iterating
          [.start (.iterate .next), .start (.iterate .next), emptily] r ∧
        p.act (.start (.iterate .next)) = some q ∧
        (p.occasion (.start (.iterate .next))).enters ∧
        q.act emptily = some r ∧ r.act emptily = some t ∧ (r.occasion emptily).needs u .next ∧
        u.deadline.limit = some 220000000 ∧ u.clock.read.1 = 230000000 ∧
        p.situation.overall = (some (.ofMillis 100), some 140000000) ∧
        p.situation.session.clock.read.1 = 120000000 ∧ q.session.requests.length = 1 ∧
        r.session.clock.now = 150000000 ∧ r.session.requests.length = 2 ∧
        t.session.clock.now = 230000000 :=
      ⟨_, _, _, _, _, ⟨_, rfl, rfl⟩, ⟨_, rfl, rfl⟩, ⟨_, rfl, rfl⟩, rfl,
        ⟨⟨.next, rfl, rfl⟩, by decide⟩, rfl, rfl,
        ⟨rfl, @Shared.Play.Needs.again _ _ _ (.ok _) _ rfl (by decide) rfl rfl⟩,
        rfl, rfl, rfl, rfl, rfl, rfl, rfl, rfl⟩
    obtain ⟨before, entry, once, midway, twice, after⟩ := facts
    obtain ⟨timeout, limit⟩ := Prod.mk.inj before
    obtain ⟨-, -, -, kept⟩ := deadline_kept (BatchReply.Place.first.reply 7 [item 1]) iterating
    have restarted := ((kept _ p run).1 _ q first).iteration rfl enters
    rw [timeout, entry] at restarted
    have shared := ((kept _ q run').1 _ r next).keeps nofun
      (by simp [Shared.Play.occasion, Shared.Play.Admits, emptily])
    obtain ⟨out, same⟩ := ((kept _ r run'').1 _ t last).late u .next _ needs hl (by simp [late])
    exact ⟨p, q, r, t, run, limit, first, once, restarted, next, midway, twice, shared, last, after,
      same, out.closed⟩

end ResultCursor
