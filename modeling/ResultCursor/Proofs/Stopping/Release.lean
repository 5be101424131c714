import ResultCursor.Blocking
import ResultCursor.Proofs.Overrides

/-! Letting go of the server's cursor. Whether a command is due to end it is decided by the session
alone: if none is, the leases are back at once; if one is, it is sent with the time for it, and the
rest waits for its outcome. -/

namespace ResultCursor

namespace Session

variable {s : Session} {kill : Command} {stop : Option Bool}

/-- The server's cursor was let go of, and the leases are back. -/
def parted (s : Session) : Session := s.takeKill.1.giveBack

/-- The server's cursor was let go of, and the command that ends it is under way. -/
def ending (s : Session) (kill : Command) (stop : Option Bool) : Session × Sending :=
  s.takeKill.1.underKillTime.send kill stop

theorem isKill_of_takeKill (hk : s.takeKill.2 = some kill) : kill.isKill = true := by
  have due := Control.dueKills_cleaning s .opened
  rw [hk] at due
  exact due

theorem takeKill_eq_none_of_remote (hr : s.cursor.remote = none) : s.takeKill.2 = none := by
  rw [takeKill_snd, Cursor.takeKill_kill, hr]
  simp

/-- A command is due while there is a server's cursor on a connection that can be used. -/
theorem takeKill_isSome (hr : s.cursor.remote.isSome) (hb : s.cursor.connectionBroken = false)
    (hf : s.cursor.inFlight = false) : ∃ kill, s.takeKill.2 = some kill := by
  obtain ⟨remote, hr⟩ := Option.isSome_iff_exists.mp hr
  refine ⟨.kill s.cursor.ns remote, ?_⟩
  rw [takeKill_snd, Cursor.takeKill_kill, hr]
  simp [hb, hf]

@[simp] theorem takeKill_leased : s.takeKill.1.leased = s.leased := by
  obtain ⟨notes, ht⟩ := takeKill_fst s
  rw [ht]

@[simp] theorem parted_cursor : s.parted.cursor = { s.cursor with remote := none } := by
  simp [parted, takeKill_fst_cursor]

@[simp] theorem parted_leased : s.parted.leased = false := giveBack_leased

@[simp] theorem parted_sendings : s.parted.sendings = s.sendings :=
  (takeKill_quietly.trans giveBack_quietly).sendings

@[simp] theorem ending_cursor :
    (s.ending kill stop).1.cursor = { s.cursor with remote := none } := takeKill_fst_cursor

/-- The command goes out with the time for it, whatever is left of the deadline. -/
theorem ending_allowance :
    (s.ending kill stop).2.allowance = .ok (.granted s.cursor.options.killTimeout) := by
  have limit : s.takeKill.1.cursor.options.killTimeout = s.cursor.options.killTimeout := by
    rw [takeKill_fst_cursor]
  rw [← limit]
  rfl

theorem ending_sendings :
    (s.ending kill stop).1.sendings = s.sendings ++ [(s.ending kill stop).2] := by
  have quiet : s.takeKill.1.sendings = s.sendings := takeKill_quietly.sendings
  rw [← quiet]
  apply sendings_sent
  rfl

theorem beginRelease_of_none (hk : s.takeKill.2 = none) :
    s.beginRelease stop = (s.parted, .finished) := by
  rw [beginRelease_eq, hk]
  rfl

theorem beginRelease_of_some (hk : s.takeKill.2 = some kill) (hl : s.leased = true) :
    s.beginRelease stop =
      ((s.ending kill stop).1, .killing (s.ending kill stop).2 s.deadline.override) := by
  have held : s.takeKill.1.leased = true := takeKill_leased.trans hl
  have kept : s.takeKill.1.deadline = s.deadline := takeKill_deadline
  rw [beginRelease_eq, hk]
  simp only [cleanUp, held, if_true, sendKill_eq, kept]
  rfl

theorem beginRelease_finished {t : Session} (h : s.beginRelease stop = (t, .finished)) :
    t = s.parted := by
  rw [beginRelease_eq] at h
  exact cleanUp_finished h

/-- A clean-up that waits has let go of the server's cursor and sent the command for that. -/
theorem beginRelease_killing {t : Session} {sending : Sending} {saved : Option Span}
    (h : s.beginRelease stop = (t, .killing sending saved)) :
    s.takeKill.2 = some sending.command ∧ sending.stop = stop ∧
      t.sendings = s.sendings ++ [sending] := by
  cases hk : s.takeKill.2 with
  | none =>
    rw [beginRelease_of_none hk] at h
    cases h
  | some kill =>
    by_cases hl : s.leased = true
    · rw [beginRelease_of_some hk hl] at h
      cases h
      exact ⟨rfl, rfl, ending_sendings⟩
    · have held : ¬s.takeKill.1.leased = true := by rwa [takeKill_leased]
      simp only [beginRelease_eq, hk, cleanUp, if_neg held] at h
      cases h

@[simp] theorem settleKill_leased (saved : Option Span) (result : Except Failure Document) :
    (s.settleKill saved result).leased = false := giveBack_leased

@[simp] theorem settleKill_sendings (saved : Option Span) (result : Except Failure Document) :
    (s.settleKill saved result).sendings = s.sendings :=
  (settleKill_quietly saved result).sendings

@[simp] theorem finish_leased (call : Call) : (s.finish call).1.leased = s.leased := by
  rcases s.finish_cases call with ⟨batch, -, hf⟩ | ⟨a, hf, -⟩ <;> rw [hf]

@[simp] theorem finish_sendings (call : Call) : (s.finish call).1.sendings = s.sendings := by
  rcases s.finish_cases call with ⟨batch, -, hf⟩ | ⟨a, hf, -⟩
  · rw [hf]
    rfl
  · rw [hf]

/-! ### Results of requests -/

section

variable {t : Session} {result : Except Failure Document} {outcome : Except Failure Unit}

theorem delivered_sendings (h : (s.deliver result).settleFetch result = (t, outcome)) :
    t.sendings = s.sendings :=
  (settleFetch_quietly h).sendings.trans (deliver_sendings result)

/-- A request that is not sent leaves no trace. -/
theorem refused_sendings {stop : Option Bool} {f : Failure}
    (h : s.beginFetch stop = (t, .error f)) : t.sendings = s.sendings := by
  unfold beginFetch at h
  cases hf : s.cursor.beginFetch s.deadline s.clock.read.1 with
  | error g =>
    simp only [hf] at h
    cases h
    rfl
  | ok started =>
    cases hl : s.leased with
    | true => simp [hf, hl] at h
    | false =>
      simp only [hf, hl, Bool.false_eq_true, if_false] at h
      cases h
      rfl

theorem delivered_leased (h : (s.deliver result).settleFetch result = (t, outcome)) :
    t.leased = s.leased := by
  rcases settleFetch_cases h with ⟨r, n, -, -, rfl⟩ | ⟨f, n, -, -, -, rfl⟩ | ⟨f, n, -, -, -, rfl⟩
  all_goals rfl

/-- A request that fails closes the cursor unless it was given up. -/
theorem isCancellation_of_active {f : Failure} (settled : s.settleFetch result = (t, .error f))
    (active : t.cursor.phase = .active) : f.isCancellation = true := by
  rcases settleFetch_cases settled with
      ⟨r, n, -, h, -⟩ | ⟨g, n, -, hg, h, -⟩ | ⟨g, n, -, -, -, rfl⟩
  · cases h
  · cases h
    exact hg
  · cases active

theorem Asking.held (asking : s.Asking) : s.leased = true := by
  rw [asking.leased, asking.remote]

theorem Asking.still_held (asking : s.Asking)
    (settled : (s.deliver result).settleFetch result = (t, outcome)) : t.leased = true :=
  (delivered_leased settled).trans asking.held

end

/-! ### Requests -/

theorem commands_eq_sendings (s : Session) : s.commands = s.sendings.map Sending.command := by
  simp only [Session.commands, sendings, List.map_filterMap]
  congr 1
  funext e
  cases e <;> rfl

theorem requests_eq_sendings (s : Session) :
    s.requests = (s.sendings.map Sending.command).filter Command.isGetMore := by
  rw [requests, commands_eq_sendings]

/-- What sends nothing asks for nothing. -/
theorem requests_of_sendings {t : Session} (h : t.sendings = s.sendings) :
    t.requests = s.requests := by
  rw [requests_eq_sendings, requests_eq_sendings, h]

/-- A command that ends the server's cursor asks for nothing. -/
theorem requests_of_kill {t : Session} {sending : Sending}
    (h : t.sendings = s.sendings ++ [sending]) (hk : sending.command.isKill = true) :
    t.requests = s.requests := by
  rw [requests_eq_sendings, requests_eq_sendings, h]
  simp [Command.isGetMore_of_isKill hk]

theorem ending_requests (hk : s.takeKill.2 = some kill) :
    (s.ending kill stop).1.requests = s.requests :=
  requests_of_kill ending_sendings (isKill_of_takeKill hk)

@[simp] theorem deliver_requests (result : Except Failure Document) :
    (s.deliver result).requests = s.requests :=
  requests_of_sendings (deliver_sendings result)

@[simp] theorem settleKill_requests (saved : Option Span) (result : Except Failure Document) :
    (s.settleKill saved result).requests = s.requests :=
  requests_of_sendings (settleKill_sendings saved result)

theorem settleFetch_requests {t : Session} {result : Except Failure Document}
    {outcome : Except Failure Unit} (h : s.settleFetch result = (t, outcome)) :
    t.requests = s.requests :=
  requests_of_sendings (settleFetch_quietly h).sendings

@[simp] theorem finish_requests (call : Call) : (s.finish call).1.requests = s.requests :=
  requests_of_sendings (finish_sendings call)

/-- A clean-up asks for nothing. -/
theorem beginRelease_requests (s : Session) (stop : Option Bool) :
    (s.beginRelease stop).1.requests = s.requests := by
  cases hk : s.takeKill.2 with
  | none =>
    rw [beginRelease_of_none hk]
    exact requests_of_sendings parted_sendings
  | some kill =>
    by_cases hl : s.leased = true
    · rw [beginRelease_of_some hk hl]
      exact ending_requests hk
    · have held : ¬s.takeKill.1.leased = true := by rwa [takeKill_leased]
      simp only [beginRelease_eq, hk, cleanUp, if_neg held]
      exact requests_of_sendings takeKill_quietly.sendings

end Session

/-! ### Both kinds of cursors -/

namespace Blocking

variable {b : Blocking} {call : Call} {after : Aftermath} {f : Failure} {t : Session}
  {go : Blocking → Blocking × Progress} {kill : Command} {result : Except Failure Document}

theorem afterCleanup_of_none (hk : b.session.takeKill.2 = none) :
    b.afterCleanup after go = go { b with session := b.session.parted } := by
  simp only [afterCleanup, Session.beginRelease_of_none hk]

theorem afterCleanup_of_some (hk : b.session.takeKill.2 = some kill)
    (hl : b.session.leased = true) :
    b.afterCleanup after go =
      ({ b with session := (b.session.ending kill (some false)).1 },
        .waiting (b.session.ending kill (some false)).2
          (.kill b.session.deadline.override after)) := by
  simp only [afterCleanup, Session.beginRelease_of_some hk hl]

theorem failWith_of_active (active : b.session.cursor.phase = .active) :
    b.failWith call f = failing call f b := by
  simp only [failWith, active, if_true]

/-! How a call goes on once the result of its request has been taken over. -/

theorem settleBatch_of_error
    (settled : (b.session.deliver result).settleFetch result = (t, .error f)) :
    b.settleBatch call result = failWith { b with session := t } call f := by
  simp only [settleBatch, settled]

theorem settleBatch_of_active
    (settled : (b.session.deliver result).settleFetch result = (t, .ok ()))
    (active : t.cursor.phase = .active) :
    b.settleBatch call result = fetched call { b with session := t } := by
  simp only [settleBatch, settled, active, if_true]

theorem settleBatch_of_inactive
    (settled : (b.session.deliver result).settleFetch result = (t, .ok ()))
    (inactive : t.cursor.phase ≠ .active) :
    b.settleBatch call result =
      afterCleanup { b with session := t } (.fetched call) (fetched call) := by
  simp only [settleBatch, settled, inactive, if_false]

end Blocking

namespace Shared

variable {c : Shared} {after : Aftermath} {go : Shared → Shared × Progress} {kill : Command}

theorem afterCleanup_of_some (hk : c.session.takeKill.2 = some kill)
    (hl : c.session.leased = true) :
    c.afterCleanup after go =
      ({ c with session := (c.session.ending kill none).1 },
        .waiting (c.session.ending kill none).2 (.kill c.session.deadline.override after)) := by
  simp only [afterCleanup, Session.beginRelease_of_some hk hl]

end Shared

end ResultCursor
