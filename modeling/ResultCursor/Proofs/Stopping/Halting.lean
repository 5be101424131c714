import ResultCursor.Proofs.Stopping.Requests

/-! The ways in which a call on a blocking cursor is cancelled. An interrupt meets it before a
request or after one, or its request is given up; in each case the session is left as the request
left it. Every other part of a call leaves the signal as it is. -/

namespace ResultCursor

/-- A call was cancelled. -/
def Answer.isCancelled : Answer → Bool
  | .failed f => f.isCancellation
  | _ => false

theorem Answer.isCancelled_of_ofClose {a : Answer} (ha : a.ofClose = true) :
    a.isCancelled = false := by
  cases a with
  | failed f => cases f <;> simp_all [Answer.ofClose, Answer.isCancelled, Failure.isCancellation]
  | _ => simp_all [Answer.ofClose, Answer.isCancelled]

theorem Session.finish_isCancelled (s : Session) (call : Call) :
    (s.finish call).2.isCancelled = false := by
  cases hb : s.cursor.buffer <;> cases call <;>
    simp [finish, hb, Answer.isCancelled, Failure.isCancellation]

/-- A request that was given up leaves the cursor active. -/
theorem Session.Asking.stays_active {s t : Session} {result : Except Failure Document}
    {f : Failure} (asking : s.Asking)
    (settled : (s.deliver result).settleFetch result = (t, .error f))
    (hf : f.isCancellation = true) : t.cursor.phase = .active := by
  rcases settleFetch_cases settled with
      ⟨r, n, -, h, -⟩ | ⟨g, n, -, -, -, rfl⟩ | ⟨g, n, -, hg, h, -⟩
  · cases h
  · exact asking.active asking.remote
  · cases h
    cases hf.symm.trans (Cursor.named_isCancellation hg)

namespace Blocking

variable {b : Blocking} {call : Call} {after : Aftermath} {a : Answer} {f : Failure} {t : Session}
  {result : Except Failure Document} {go : Blocking → Blocking × Progress} {p q : Play} {m : Move}

/-! ### Parts of a call that no interrupt meets -/

/-- A part of a call leaves the signal as it is, and does not come to a cancellation. -/
structure Passes (b : Blocking) (r : Blocking × Progress) : Prop where
  signal : r.1.signal = b.signal
  answer : ∀ a, r.2 = .answered a → a.isCancelled = false

theorem Passes.answered (ha : a.isCancelled = false) : b.Passes (b.answered a) := by
  refine ⟨rfl, fun a' h => ?_⟩
  cases h
  exact ha

theorem finish_passes : b.Passes (b.finish call) := by
  refine ⟨rfl, fun a h => ?_⟩
  cases h
  exact b.session.finish_isCancelled call

theorem afterCleanup_passes
    (hgo : ∀ b' : Blocking, b'.session.cursor.phase = b.session.cursor.phase →
      b'.signal = b.signal → b'.Passes (go b')) : b.Passes (b.afterCleanup after go) := by
  unfold afterCleanup
  split
  · next session clean =>
    have kept := Session.beginRelease_cursor clean
    have passes := hgo { b with session } (by simp [kept]) rfl
    exact ⟨passes.signal, passes.answer⟩
  · exact ⟨rfl, fun a h => by cases h⟩

theorem closeWith_passes (ha : a.isCancelled = false) : b.Passes (b.closeWith a) := by
  unfold closeWith
  split
  · exact .answered ha
  · exact afterCleanup_passes fun b' _ _ => ⟨rfl, fun a' h => by cases h; exact ha⟩

theorem failing_passes (hf : f.isCancellation = false) : b.Passes (failing call f b) := by
  unfold failing
  rw [hf]
  exact .answered hf

theorem failWith_passes (hf : f.isCancellation = false) : b.Passes (b.failWith call f) := by
  unfold failWith
  split
  · exact failing_passes hf
  · exact afterCleanup_passes fun _ _ _ => failing_passes hf

theorem fetch_passes (hl : b.session.leased = true) (needed : b.session.isSettled = false) :
    b.Passes (b.fetch call) := by
  unfold fetch
  split
  · exact ⟨rfl, fun a h => by cases h⟩
  · next t f refused =>
    have hr := (Session.isSettled_eq_false_iff.mp needed).2.2
    split
    · exact ⟨rfl, fun a h => by
        cases h
        exact Session.finish_isCancelled _ call⟩
    · next u g settled =>
      obtain ⟨since, n, rfl, -, -⟩ := Session.refused hr hl refused settled
      have passes : Passes { b with session := u }
          (failWith { b with session := u } call (.timeout (.passed since))) :=
        failWith_passes rfl
      exact ⟨passes.signal, passes.answer⟩

/-! ### Calls that are cancelled -/

/-- The session is left as it is and the call fails; the interrupt is used up. -/
def halted (b : Blocking) (s : Session) (f : Failure) : Blocking × Progress :=
  (⟨s, b.signal.acknowledge⟩, .answered (.failed f))

theorem proceed_halted (raised : b.signal.interrupted = true)
    (needed : b.session.isSettled = false) :
    b.proceed call = b.halted b.session (.cancelled .interrupted) := by
  simp only [proceed, needed, Bool.false_eq_true, if_false, unlessInterrupted, raised, if_true]
  rfl

theorem proceed_passes (hl : b.session.isSettled = false → b.session.leased = true)
    (quiet : b.session.isSettled = false → b.signal.interrupted = false) :
    b.Passes (b.proceed call) := by
  unfold proceed
  split
  · exact finish_passes
  · next needed =>
    have needed : b.session.isSettled = false := by simpa using needed
    simp only [unlessInterrupted, quiet needed, Bool.false_eq_true, if_false]
    exact fetch_passes (hl needed) needed

theorem fetched_halted (calm : b.signal.closeRequested = false)
    (raised : b.signal.interrupted = true) (more : call ≠ .tryNext) :
    fetched call b = b.halted b.session (.cancelled .interrupted) := by
  simp only [fetched, calm, Bool.false_eq_true, if_false, more, unlessInterrupted, raised, if_true]
  rfl

theorem fetched_passes (hl : b.session.isSettled = false → b.session.leased = true)
    (spared : b.signal.interrupted = true → call = .tryNext) : b.Passes (fetched call b) := by
  unfold fetched
  split
  · exact closeWith_passes rfl
  · split
    · exact finish_passes
    · next more =>
      have quiet : b.signal.interrupted = false :=
        Bool.eq_false_iff.mpr fun raised => more (spared raised)
      simp only [unlessInterrupted, quiet, Bool.false_eq_true, if_false]
      exact proceed_passes hl fun _ => quiet

theorem failing_halted (calm : b.signal.closeRequested = false) (hf : f.isCancellation = true) :
    failing call f b = b.halted b.session f := by
  have calm : b.signal.acknowledge.closeRequested = false := calm
  simp only [failing, hf, if_true, calm, Bool.false_eq_true, if_false]
  rfl

theorem settleBatch_calledOff (asking : b.session.Asking) (calm : b.signal.closeRequested = false)
    (settled : (b.session.deliver result).settleFetch result = (t, .error f))
    (hf : f.isCancellation = true) : b.settleBatch call result = b.halted t f := by
  have active := asking.stays_active settled hf
  rw [settleBatch_of_error settled, failWith_of_active active]
  exact failing_halted (b := { b with session := t }) calm hf

theorem settleBatch_met (calm : b.signal.closeRequested = false)
    (raised : b.signal.interrupted = true) (more : call ≠ .tryNext)
    (settled : (b.session.deliver result).settleFetch result = (t, .ok ()))
    (active : t.cursor.phase = .active) :
    b.settleBatch call result = b.halted t (.cancelled .interrupted) := by
  rw [settleBatch_of_active settled active]
  exact fetched_halted (b := { b with session := t }) calm raised more

theorem settleBatch_last (calm : b.signal.closeRequested = false)
    (raised : b.signal.interrupted = true) (more : call ≠ .tryNext)
    (settled : (b.session.deliver result).settleFetch result = (t, .ok ()))
    (inactive : t.cursor.phase ≠ .active) (spared : t.takeKill.2 = none) :
    b.settleBatch call result = b.halted t.parted (.cancelled .interrupted) := by
  rw [settleBatch_of_inactive settled inactive, afterCleanup_of_none spared]
  exact fetched_halted (b := { b with session := t.parted }) calm raised more

/-- A move cancels a call and leaves the session so. -/
inductive Play.Halts (p : Play) : Move → Session → Failure → Prop where
  /-- A call begins and needs a batch. -/
  | first {call : Call} (free : p.isFree = true) (needed : p.session.isSettled = false)
      (raised : p.cursor.signal.interrupted = true) :
      Halts p (.request (.iterate call)) p.session.beginCall (.cancelled .interrupted)
  /-- The request was given up. -/
  | calledOff {call : Call} {result : Except Failure Document} {t : Session} {f : Failure}
      (waits : p.wait = some (.batch call))
      (settled : (p.session.deliver result).settleFetch result = (t, .error f))
      (hf : f.isCancellation = true) : Halts p (.outcome (.ofResult result)) t f
  /-- The request went well, and there may be more batches. -/
  | met {call : Call} {result : Except Failure Document} {t : Session}
      (waits : p.wait = some (.batch call)) (more : call ≠ .tryNext)
      (settled : (p.session.deliver result).settleFetch result = (t, .ok ()))
      (active : t.cursor.phase = .active) (raised : p.cursor.signal.interrupted = true) :
      Halts p (.outcome (.ofResult result)) t (.cancelled .interrupted)
  /-- The request brought the last batch, and no server's cursor is to be ended. -/
  | last {call : Call} {result : Except Failure Document} {t : Session}
      (waits : p.wait = some (.batch call)) (more : call ≠ .tryNext)
      (settled : (p.session.deliver result).settleFetch result = (t, .ok ()))
      (inactive : t.cursor.phase ≠ .active) (spared : t.takeKill.2 = none)
      (raised : p.cursor.signal.interrupted = true) :
      Halts p (.outcome (.ofResult result)) t.parted (.cancelled .interrupted)
  /-- The server's cursor was ended after the last batch had come. -/
  | ended {call : Call} {result : Except Failure Document} {saved : Option Span}
      (waits : p.wait = some (.kill saved (.fetched call))) (more : call ≠ .tryNext)
      (raised : p.cursor.signal.interrupted = true) :
      Halts p (.outcome (.ofResult result)) ((p.session.deliver result).settleKill saved result)
        (.cancelled .interrupted)

/-- What happened once the move has brought its news. -/
def Play.hears (p : Play) : Move → History
  | .outcome o => (p.wait.map (p.history.hear p.session.cursor.quota · o)).getD p.history
  | _ => p.history

theorem Play.hears_outcome {wait : Wait} (waits : p.wait = some wait) (o : Outcome) :
    p.hears (.outcome o) = p.history.hear p.session.cursor.quota wait o := by
  simp [hears, waits]

@[simp] theorem Play.hears_answers (p : Play) (m : Move) :
    (p.hears m).answers = p.history.answers := by
  cases m with
  | outcome o =>
    cases hw : p.wait with
    | none => simp [hears, hw]
    | some wait =>
      rw [hears_outcome hw]
      cases o <;> cases wait <;> simp [History.hear, History.giveUp, History.lose, History.breakOff]
  | _ => rfl

/-- What a move leads to where it cancels no call. -/
theorem Passes.follow {r : Blocking × Progress} (passes : b.Passes r) (h : History) :
    (b.signal.interrupted = true →
      (Play.follow h r).cursor.signal.interrupted = true) ∧
        ∃ answers, (Play.follow h r).history.answers = h.answers ++ answers ∧
          ∀ a ∈ answers, a.isCancelled = false := by
  obtain ⟨b', progress⟩ := r
  refine ⟨fun raised => ?_, ?_⟩
  · show b'.signal.interrupted = true
    rw [passes.signal, raised]
  · cases progress with
    | answered a => exact ⟨[a], rfl, by simpa using passes.answer a rfl⟩
    | waiting sending wait => exact ⟨[], (List.append_nil _).symm, by simp⟩
    | crashed text => exact ⟨[], (List.append_nil _).symm, by simp⟩

theorem iterate_halts (settled : p.session.Settled) (free : p.isFree = true)
    (calm : p.cursor.signal.closeRequested = false) (call : Call) :
    (∃ s f, p.Halts (.request (.iterate call)) s f ∧ p.cursor.iterate call = p.cursor.halted s f) ∨
      p.cursor.Passes (p.cursor.iterate call) := by
  unfold iterate
  simp only [calm, Bool.false_eq_true, if_false]
  split
  · exact .inr (.answered rfl)
  · let b : Blocking := { p.cursor with session := p.session.beginCall }
    have same : b.session.isSettled = p.session.isSettled := Session.isSettled_beginCall
    by_cases hn : p.session.isSettled = false ∧ p.cursor.signal.interrupted = true
    · exact .inl ⟨_, _, .first free hn.1 hn.2, proceed_halted (b := b) hn.2 (same.trans hn.1)⟩
    · right
      have passes : b.Passes (b.proceed call) := by
        refine proceed_passes (fun needed => ?_) fun needed => ?_
        · show p.session.beginCall.leased = true
          rw [Session.beginCall_leased, settled.leased]
          exact (Session.isSettled_eq_false_iff.mp (same.symm.trans needed)).2.2
        · exact Bool.eq_false_iff.mpr fun raised => hn ⟨same.symm.trans needed, raised⟩
      exact ⟨passes.signal, passes.answer⟩

theorem settleBatch_halts (asking : p.session.Asking)
    (calm : p.cursor.signal.closeRequested = false) {call : Call}
    (waits : p.wait = some (.batch call)) (result : Except Failure Document) :
    (∃ s f, p.Halts (.outcome (.ofResult result)) s f ∧
      p.cursor.settleBatch call result = p.cursor.halted s f) ∨
      p.cursor.Passes (p.cursor.settleBatch call result) := by
  rcases hs : (p.session.deliver result).settleFetch result with ⟨t, outcome⟩
  have held : t.leased = true := asking.still_held hs
  cases outcome with
  | error f =>
    cases hf : f.isCancellation with
    | true => exact .inl ⟨t, f, .calledOff waits hs hf, settleBatch_calledOff asking calm hs hf⟩
    | false =>
      have passes : Passes { p.cursor with session := t }
          (failWith { p.cursor with session := t } call f) := failWith_passes hf
      rw [settleBatch_of_error hs]
      exact .inr ⟨passes.signal, passes.answer⟩
  | ok done =>
    by_cases active : t.cursor.phase = .active
    · by_cases hn : p.cursor.signal.interrupted = true ∧ call ≠ .tryNext
      · exact .inl ⟨_, _, .met waits hn.2 hs active hn.1,
          settleBatch_met calm hn.1 hn.2 hs active⟩
      · have passes : Passes { p.cursor with session := t }
            (fetched call { p.cursor with session := t }) :=
          fetched_passes (fun _ => held) fun raised => not_not.mp fun more => hn ⟨raised, more⟩
        rw [settleBatch_of_active hs active]
        exact .inr ⟨passes.signal, passes.answer⟩
    · cases hk : t.takeKill.2 with
      | none =>
        by_cases hn : p.cursor.signal.interrupted = true ∧ call ≠ .tryNext
        · exact .inl ⟨_, _, .last waits hn.2 hs active hk hn.1,
            settleBatch_last calm hn.1 hn.2 hs active hk⟩
        · have passes : Passes { p.cursor with session := t.parted }
              (fetched call { p.cursor with session := t.parted }) := by
            refine fetched_passes (fun needed => ?_) fun raised =>
              not_not.mp fun more => hn ⟨raised, more⟩
            have remote := (Session.isSettled_eq_false_iff.mp needed).2.2
            simp at remote
          rw [settleBatch_of_inactive hs active, afterCleanup_of_none hk]
          exact .inr ⟨passes.signal, passes.answer⟩
      | some kill =>
        rw [settleBatch_of_inactive hs active, afterCleanup_of_some hk held]
        exact .inr ⟨rfl, fun a h => by cases h⟩

theorem settleKill_halts (calm : p.cursor.signal.closeRequested = false) {saved : Option Span}
    (waits : p.wait = some (.kill saved after)) (inactive : after.Inactive p.session)
    (fits : after.Fits p.session) (remote : p.session.cursor.remote = none)
    (result : Except Failure Document) :
    (∃ s f, p.Halts (.outcome (.ofResult result)) s f ∧
      p.cursor.settle result (.kill saved after) = p.cursor.halted s f) ∨
      p.cursor.Passes (p.cursor.settle result (.kill saved after)) := by
  let b : Blocking :=
    { p.cursor with session := (p.session.deliver result).settleKill saved result }
  suffices h : (∃ s f, p.Halts (.outcome (.ofResult result)) s f ∧
      b.resumeAfter after = p.cursor.halted s f) ∨ b.Passes (b.resumeAfter after) from
    h.imp_right fun passes => ⟨passes.signal, passes.answer⟩
  cases after with
  | opened => exact .inr (.answered rfl)
  | fetched call =>
    by_cases hn : p.cursor.signal.interrupted = true ∧ call ≠ .tryNext
    · exact .inl ⟨_, _, .ended waits hn.2 hn.1, fetched_halted (b := b) calm hn.1 hn.2⟩
    · refine .inr (fetched_passes (fun needed => ?_) fun raised =>
        not_not.mp fun more => hn ⟨raised, more⟩)
      have held := (Session.isSettled_eq_false_iff.mp needed).2.2
      simp [b, remote] at held
  | failing call f => exact .inr (failing_passes inactive.2)
  | closing a =>
    refine .inr ⟨rfl, fun a' h => ?_⟩
    cases h
    exact Answer.isCancelled_of_ofClose fits

theorem crash_passes (text : String) (wait : Wait) : b.Passes (b.crash text wait) := by
  cases wait with
  | batch call => exact ⟨rfl, fun a h => by cases h⟩
  | kill saved after => cases after <;> exact ⟨rfl, fun a h => by cases h⟩

theorem drop_passes : b.Passes b.drop := by
  unfold drop
  split
  · exact .answered rfl
  · have passes := closeWith_passes (b := { b with session := b.session.note dropNote })
      (a := .done) rfl
    exact ⟨passes.signal, passes.answer⟩

/-- A move on a cursor that nobody asked to close cancels a call, or it leaves the signal alone and
cancels none. -/
theorem act_halts (hc : p.situation.Coherent) (ha : p.control.Inactive p.session)
    (calm : p.cursor.signal.closeRequested = false) (hm : p.act m = some q) :
    (∃ s f, p.Halts m s f ∧ q = .follow (p.hears m) (p.cursor.halted s f)) ∨
      (p.cursor.signal.interrupted = true → q.cursor.signal.interrupted = true) ∧
        ∃ answers, q.history.answers = p.history.answers ++ answers ∧
          ∀ a ∈ answers, a.isCancelled = false := by
  cases Play.acts hm with
  | request r free =>
    have settled := Play.settled_of_isFree hc free
    cases r with
    | iterate call =>
      rcases iterate_halts settled free calm call with ⟨s, f, halts, hr⟩ | passes
      · exact .inl ⟨s, f, halts, congrArg (Play.follow p.history) hr⟩
      · exact .inr (passes.follow p.history)
    | close => exact .inr ((closeWith_passes rfl).follow p.history)
    | setBatchSize n => exact .inr ⟨id, [.done], rfl, by simp [Answer.isCancelled]⟩
    | inspect => exact .inr ((Passes.answered rfl).follow p.history)
  | @outcome wait o waits =>
    rw [← p.hears_outcome waits]
    have fits := Play.fits_of_waits hc waits
    have inactive := Play.inactive_of_waits ha waits
    have settles (result : Except Failure Document) :
        (∃ s f, p.Halts (.outcome (.ofResult result)) s f ∧
          p.cursor.settle result wait = p.cursor.halted s f) ∨
          p.cursor.Passes (p.cursor.settle result wait) := by
      cases wait with
      | batch call => exact settleBatch_halts fits calm waits result
      | kill saved after =>
        exact settleKill_halts calm waits inactive fits.2.2 fits.1 result
    have comes : (∃ s f, p.Halts (.outcome o) s f ∧
        p.cursor.resume wait o = p.cursor.halted s f) ∨
          p.cursor.Passes (p.cursor.resume wait o) := by
      cases o with
      | reply d => exact settles (.ok d)
      | failure f => exact settles (.error f)
      | crash text => exact .inr (crash_passes text wait)
    rcases comes with ⟨s, f, halts, hr⟩ | passes
    · exact .inl ⟨s, f, halts, congrArg (Play.follow _) hr⟩
    · rw [← p.hears_answers (.outcome o)]
      exact .inr (passes.follow _)
  | interrupt =>
    exact .inr ⟨fun _ => rfl, [], by simp [Play.withSignal], by simp⟩
  | requestClose =>
    exact .inr ⟨id, [], by simp [Play.withSignal], by simp⟩
  | adjust deadline clock =>
    exact .inr ⟨id, [], by simp, by simp⟩
  | drop free =>
    exact .inr (drop_passes.follow p.history.retire)

/-- Every move of which it is said that it cancels a call does so. -/
theorem Play.Halts.act {s : Session} (h : p.Halts m s f)
    (hc : p.situation.Coherent) (calm : p.cursor.signal.closeRequested = false) :
    p.act m = some (.follow (p.hears m) (p.cursor.halted s f)) := by
  have outcome {wait : Wait} (waits : p.wait = some wait) {result : Except Failure Document}
      (settles : p.cursor.settle result wait = p.cursor.halted s f) :
      p.act (.outcome (.ofResult result)) =
        some (.follow (p.hears (.outcome (.ofResult result))) (p.cursor.halted s f)) := by
    simp only [Play.act, waits, Option.map_some, Play.hears_outcome waits, resume_ofResult, settles]
  cases h with
  | @first call free needed raised =>
    have isOpen : p.cursor.session.cursor.isClosed = false := by
      have active : p.cursor.session.cursor.phase = .active :=
        (Session.isSettled_eq_false_iff.mp needed).2.1
      simp [Cursor.isClosed, active]
    let b : Blocking := { p.cursor with session := p.session.beginCall }
    have halts : b.proceed call = b.halted b.session (.cancelled .interrupted) :=
      proceed_halted raised (Session.isSettled_beginCall.trans needed)
    simp only [Play.act, free, if_true, request, iterate, calm, Bool.false_eq_true, if_false,
      isOpen, Option.some.injEq]
    exact congrArg (Play.follow p.history) halts
  | calledOff waits settled hf =>
    have asking : p.session.Asking := Play.fits_of_waits hc waits
    exact outcome waits (settleBatch_calledOff asking calm settled hf)
  | met waits more settled active raised =>
    exact outcome waits (settleBatch_met calm raised more settled active)
  | last waits more settled inactive spared raised =>
    exact outcome waits (settleBatch_last calm raised more settled inactive spared)
  | @ended call result saved waits more raised =>
    refine outcome waits ?_
    exact fetched_halted (b := { p.cursor with
      session := (p.session.deliver result).settleKill saved result }) calm raised more

/-- The session once the result that a move brings for a request has been taken over. -/
def Play.found (p : Play) : Move → Session
  | .outcome o =>
    match p.wait, o.result? with
    | some (.batch _), some result => ((p.session.deliver result).settleFetch result).1
    | _, _ => p.session
  | _ => p.session

/-- A session in which a call was cancelled: the cursor is not closed, and it has the batch and the
leases that the request left to it; no command was sent. -/
structure Play.Keeps (p : Play) (m : Move) (s : Session) : Prop where
  isOpen : s.cursor.phase ≠ .closed
  buffer : s.cursor.buffer = (p.found m).cursor.buffer
  sendings : s.sendings = p.session.sendings
  leased : s.leased = true ↔ (p.found m).cursor.phase = .active

theorem Play.found_batch {call : Call} {result : Except Failure Document} {t : Session}
    {outcome : Except Failure Unit} (waits : p.wait = some (.batch call))
    (settled : (p.session.deliver result).settleFetch result = (t, outcome)) :
    p.found (.outcome (.ofResult result)) = t := by
  simp only [found, waits, Outcome.result?_ofResult, settled]

theorem Play.found_kill {saved : Option Span} (waits : p.wait = some (.kill saved after))
    (o : Outcome) : p.found (.outcome o) = p.session := by
  simp only [found, waits]

theorem Play.Keeps.of_active {outcome : Except Failure Unit} (waits : p.wait = some (.batch call))
    (asking : p.session.Asking)
    (settled : (p.session.deliver result).settleFetch result = (t, outcome))
    (active : t.cursor.phase = .active) : p.Keeps (.outcome (.ofResult result)) t := by
  have leased : t.leased = true := asking.still_held settled
  have found := Play.found_batch waits settled
  exact
    { isOpen := by simp [active]
      buffer := by rw [found]
      sendings := Session.delivered_sendings settled
      leased := by simp [found, leased, active] }

theorem Play.Halts.keeps {s : Session} (h : p.Halts m s f) (hc : p.situation.Coherent)
    (ha : p.control.Inactive p.session) : p.Keeps m s := by
  cases h with
  | @first call free needed raised =>
    obtain ⟨-, active, remote⟩ := Session.isSettled_eq_false_iff.mp needed
    have settled := Play.settled_of_isFree hc free
    exact
      { isOpen := by simp [active]
        buffer := by simp [found]
        sendings := Session.beginCall_quietly.sendings
        leased := by simp [found, settled.leased, remote, active] }
  | calledOff waits settled hf =>
    have asking : p.session.Asking := Play.fits_of_waits hc waits
    exact .of_active waits asking settled (asking.stays_active settled hf)
  | met waits more settled active raised =>
    exact .of_active waits (Play.fits_of_waits hc waits) settled active
  | @last call result t waits more settled inactive spared raised =>
    have asking : p.session.Asking := Play.fits_of_waits hc waits
    have exhausted : t.cursor.phase = .exhausted :=
      Session.settleFetch_inactive call settled (asking.active asking.remote) inactive
    have found := Play.found_batch waits settled
    exact
      { isOpen := by simp [exhausted]
        buffer := by simp [found]
        sendings := Session.parted_sendings.trans (Session.delivered_sendings settled)
        leased := by simp [found, exhausted] }
  | @ended call result saved waits more raised =>
    have exhausted : p.session.cursor.phase = .exhausted := Play.inactive_of_waits ha waits
    have found := Play.found_kill waits (.ofResult result)
    exact
      { isOpen := by simp [exhausted]
        buffer := by simp [found]
        sendings := by simp
        leased := by simp [found, exhausted] }

end Blocking

end ResultCursor
