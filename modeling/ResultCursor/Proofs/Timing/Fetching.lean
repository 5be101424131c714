import ResultCursor.Proofs.Stopping.Requests

/-! A call that needs a batch looks at the clock first. Before the limit of the deadline it sends a
request. At the limit and after it, it sends none: the cursor is closed as if the request had
failed, and the command that ends the server's cursor goes out with a time of its own. -/

namespace ResultCursor

namespace Deadline

variable {d : Deadline} {now : Instant} {limit : Instant}

theorem remaining_passed (hl : d.limit = some limit) (late : limit ≤ now) :
    d.remaining now = .error (.timeout (.passed ⟨now - limit⟩)) := by
  simp only [remaining, hl, if_pos late]

theorem lt_of_remaining {left : Option Span} (h : d.remaining now = .ok left)
    (hl : d.limit = some limit) : now < limit := by
  by_contra late
  rw [remaining_passed hl (Nat.le_of_not_lt late)] at h
  cases h

/-- There is no limit, or it lies ahead, unless it has come. -/
theorem remaining_cases (d : Deadline) (now : Instant) :
    (∃ left, d.remaining now = .ok left) ∨ ∃ limit, d.limit = some limit ∧ limit ≤ now := by
  cases hd : d.remaining now with
  | ok left => exact .inl ⟨left, rfl⟩
  | error f =>
    right
    unfold remaining at hd
    split at hd
    · cases hd
    · next limit hl =>
      split at hd
      · next late => exact ⟨limit, hl, late⟩
      · cases hd

end Deadline

namespace Session

variable {s t : Session} {limit : Instant}

/-- In the session `t` a call comes to need a batch; the session `s` was there before. -/
structure Wants (s t : Session) : Prop where
  needed : t.isSettled = false
  leased : t.leased = true
  usable : t.cursor.connectionBroken = false
  sendings : t.sendings = s.sendings
  options : t.cursor.options = s.cursor.options

theorem Settled.wants (hs : s.Settled) (needed : s.isSettled = false)
    (usable : s.cursor.phase = .active → s.cursor.connectionBroken = false) :
    s.Wants s.beginCall := by
  obtain ⟨-, active, remote⟩ := isSettled_eq_false_iff.mp needed
  exact
    { needed := isSettled_beginCall.trans needed
      leased := by rw [beginCall_leased, hs.leased, remote]
      usable := by rw [beginCall_cursor, usable active]
      sendings := beginCall_quietly.sendings
      options := by rw [beginCall_cursor] }

theorem Asking.wants (hs : s.Asking)
    (usable : s.cursor.phase = .active → s.cursor.connectionBroken = false)
    {result : Except Failure Document}
    (settled : (s.deliver result).settleFetch result = (t, .ok ())) (needed : t.isSettled = false) :
    s.Wants t where
  needed := needed
  leased := hs.still_held settled
  usable := by
    rcases settleFetch_cases settled with
        ⟨r, n, -, -, rfl⟩ | ⟨f, n, -, -, h, -⟩ | ⟨f, n, -, -, h, -⟩
    · exact usable (hs.active hs.remote)
    · cases h
    · cases h
  sendings := delivered_sendings settled
  options := by simpa using settleFetch_options settled

/-- What a call that comes too late leaves behind before it cleans up. The session `s` was there
before the call came to need a batch. -/
structure Expired (s u : Session) : Prop where
  phase : u.cursor.phase = .closed
  leased : u.leased = true
  kill : ∃ kill, u.takeKill.2 = some kill
  sendings : u.sendings = s.sendings
  options : u.cursor.options = s.cursor.options

/-- A request that comes too late is not sent and fails. -/
theorem Wants.expired {s₀ : Session} (h : s₀.Wants s) (hl : s.deadline.limit = some limit)
    (late : limit ≤ s.clock.read.1) (stop : Option Bool) :
    ∃ t u, s.beginFetch stop =
        (t, .error (.timeout (.passed ⟨s.clock.read.1 - limit⟩))) ∧
      t.settleFetch (.error (.timeout (.passed ⟨s.clock.read.1 - limit⟩))) =
        (u, .error (.timeout (.passed ⟨s.clock.read.1 - limit⟩))) ∧ s₀.Expired u := by
  have remote := (isSettled_eq_false_iff.mp h.needed).2.2
  obtain ⟨server, hr⟩ := Option.isSome_iff_exists.mp remote
  refine ⟨_, _, beginFetch_passed hr (Deadline.remaining_passed hl late), rfl, ?_⟩
  exact
    { phase := rfl
      leased := h.leased
      kill := takeKill_isSome remote
        (by simpa [Cursor.fail, Cursor.named, Failure.breaksConnection] using h.usable) rfl
      sendings := (note_quietly _).sendings.trans h.sendings
      options := h.options }

/-- Before the limit the request is sent. -/
theorem Wants.sends {s₀ : Session} {left : Option Span} (h : s₀.Wants s)
    (hd : s.deadline.remaining s.clock.read.1 = .ok left) (stop : Option Bool) :
    ∃ t sending, s.beginFetch stop = (t, .ok sending) ∧ t.sendings = s.sendings ++ [sending] ∧
      t.deadline = s.deadline := by
  rcases hb : s.beginFetch stop with ⟨t, outcome⟩
  cases outcome with
  | error f =>
    have remote := (isSettled_eq_false_iff.mp h.needed).2.2
    cases hd.symm.trans (beginFetch_error remote h.leased hb).2
  | ok sending =>
    obtain ⟨-, server, left, -, -, -, rfl⟩ := beginFetch_ok hb
    exact ⟨_, sending, rfl, sendings_sent rfl, rfl⟩

end Session

/-! ### Where the call stands then -/

namespace Situation

variable (s₀ s : Session) (call : Call)

/-- The call has sent a request for a batch. -/
structure Fetches (T : Situation) : Prop where
  control : T.control = .waiting (.batch call)
  sent : ∃ sending, T.session.sendings = s₀.sendings ++ [sending]
  deadline : T.session.deadline.overall = s.deadline.overall

/-- The call has failed because the limit has passed. The cursor is closed, and the command that
ends the server's cursor is under way with the time for it. -/
structure TimesOut (limit : Instant) (T : Situation) : Prop where
  control : ∃ saved, T.control =
    .waiting (.kill saved (.failing call (.timeout (.passed ⟨s.clock.read.1 - limit⟩))))
  closed : T.session.cursor.phase = .closed
  sent : ∃ sending, T.session.sendings = s₀.sendings ++ [sending] ∧
    sending.command.isKill = true ∧
    sending.allowance = .ok (.granted s₀.cursor.options.killTimeout)

end Situation

namespace Blocking

variable {b : Blocking} {s₀ : Session} {h : History} {call : Call} {limit : Instant}

theorem fetch_fetches {left : Option Span} (wants : s₀.Wants b.session)
    (hd : b.session.deadline.remaining b.session.clock.read.1 = .ok left) :
    (landing h (b.fetch call)).Fetches s₀ b.session call := by
  obtain ⟨t, sending, began, sent, kept⟩ := wants.sends hd (some b.signal.shouldStop)
  simp only [fetch, began]
  exact ⟨rfl, ⟨sending, wants.sendings ▸ sent⟩, congrArg Deadline.overall kept⟩

theorem fetch_timesOut (wants : s₀.Wants b.session)
    (hl : b.session.deadline.limit = some limit) (late : limit ≤ b.session.clock.read.1) :
    (landing h (b.fetch call)).TimesOut s₀ b.session call limit := by
  obtain ⟨t, u, began, settled, expired⟩ := wants.expired hl late (some b.signal.shouldStop)
  obtain ⟨kill, due⟩ := expired.kill
  have closed : ¬u.cursor.phase = .active := by simp [expired.phase]
  simp only [fetch, began, settled, failWith, if_neg closed]
  rw [afterCleanup_of_some (b := { b with session := u }) due expired.leased]
  refine ⟨⟨_, rfl⟩, ?_, (u.ending kill (some false)).2, ?_, Session.isKill_of_takeKill due, ?_⟩
  · simp [landing, Play.situation, Play.session, Play.follow, expired.phase]
  · exact Session.ending_sendings.trans (congrArg (· ++ _) expired.sendings)
  · rw [Session.ending_allowance, expired.options]

end Blocking

namespace Shared

variable {c : Shared} {s₀ : Session} {h : History} {call : Call} {limit : Instant}

theorem fetch_fetches {left : Option Span} (wants : s₀.Wants c.session)
    (hd : c.session.deadline.remaining c.session.clock.read.1 = .ok left) :
    (landing h (c.fetch call)).Fetches s₀ c.session call := by
  obtain ⟨t, sending, began, sent, kept⟩ := wants.sends hd none
  simp only [fetch, began]
  exact ⟨rfl, ⟨sending, wants.sendings ▸ sent⟩, congrArg Deadline.overall kept⟩

theorem fetch_timesOut (wants : s₀.Wants c.session)
    (hl : c.session.deadline.limit = some limit) (late : limit ≤ c.session.clock.read.1) :
    (landing h (c.fetch call)).TimesOut s₀ c.session call limit := by
  obtain ⟨t, u, began, settled, expired⟩ := wants.expired hl late none
  obtain ⟨kill, due⟩ := expired.kill
  have closed : ¬u.cursor.phase = .active := by simp [expired.phase]
  simp only [fetch, began, settled, failWith, if_neg closed]
  rw [afterCleanup_of_some (c := { c with session := u }) due expired.leased]
  refine ⟨⟨_, rfl⟩, ?_, (u.ending kill none).2, ?_, Session.isKill_of_takeKill due, ?_⟩
  · simp [landing, expired.phase]
  · exact Session.ending_sendings.trans (congrArg (· ++ _) expired.sendings)
  · rw [Session.ending_allowance, expired.options]

end Shared

end ResultCursor
