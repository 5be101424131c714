import Mathlib.Data.List.Induction
import ResultCursor.Proofs.Course.Location
import ResultCursor.Proofs.Gateway.Outcomes
import ResultCursor.Proofs.Phases
import ResultCursor.Proofs.Sharing.Answers
import ResultCursor.Proofs.Stopping.Release
import ResultCursor.Proofs.Timing.Entering

/-! Calls on a shared cursor whose request for a batch fails at a client library. The cursor is
closed and the leases go back. The server's cursor is ended first, unless the fault shows that the
connection is dead or that there is no such cursor. -/

namespace ResultCursor

open Peer

/-! ### The request under way -/

theorem Deadline.allowance_error {d : Deadline} {now : Instant} {f : Failure}
    (h : d.allowance now = .error f) : ∃ since, f = .timeout (.passed since) := by
  unfold allowance at h
  split at h
  · cases h
  · split at h
    · cases h
    · cases h
    · next late =>
      cases h
      exact remaining_error late

namespace Situation

variable {S : Situation} {reply : Document} {setting : Setting}

/-- A command that has no time was sent after the deadline. -/
theorem Courses.late (hS : Courses reply setting S) :
    ∀ sending ∈ S.session.sendings, ∀ f, sending.allowance = .error f →
      ∃ since, f = .timeout (.passed since) := by
  refine hS.induction (P := fun S => ∀ sending ∈ S.session.sendings, ∀ f,
    sending.allowance = .error f → ∃ since, f = .timeout (.passed since))
    (fun s hs => ?_) fun S T hC h step => ?_
  · have silent : s.sendings = [] := (Session.ofReply_quietly hs).sendings
    simp [opening, silent]
  · cases step.speech hC.coherent with
    | quiet unheard => rwa [unheard.sendings]
    | hears result heard => rwa [heard.sendings, Session.deliver_sendings]
    | sends sending sent allowance =>
      rw [Session.sendings_sent sent]
      intro other hm f failed
      rcases List.mem_append.mp hm with earlier | newest
      · exact h other earlier f failed
      · cases List.mem_singleton.mp newest
        exact Deadline.allowance_error (allowance.symm.trans failed)

end Situation

/-! ### A request that fails -/

namespace Session

variable {s : Session} {remote : RemoteCursor} {f : Failure}

/-- What a failed request leaves to be done. -/
structure Failed (s : Session) (remote : RemoteCursor) (f : Failure) (t : Session) : Prop where
  settled : (s.deliver (.error f)).settleFetch (.error f) = (t, .error (s.cursor.named f))
  closed : t.cursor.phase = .closed
  leased : t.leased = true
  sendings : t.sendings = s.sendings
  options : t.cursor.options = s.cursor.options
  kill : t.takeKill.2 = if f.spoils then none else some (.kill s.cursor.ns remote)

theorem Asking.failed (asking : s.Asking) (hr : s.cursor.remote = some remote)
    (usable : s.cursor.connectionBroken = false) (hf : f.isCancellation = false) :
    ∃ t, s.Failed remote f t := by
  rcases ht : (s.deliver (.error f)).settleFetch (.error f) with ⟨t, outcome⟩
  have leased := asking.still_held ht
  have sendings := delivered_sendings ht
  rcases settleFetch_cases ht with ⟨r, n, hn, -⟩ | ⟨g, n, hn, hg, -⟩ | ⟨g, n, hn, -, rfl, rfl⟩
  · cases hn
  · cases hn
    cases hf.symm.trans hg
  · cases hn
    refine ⟨_, ht, rfl, leased, sendings, rfl, ?_⟩
    rw [takeKill_snd, Cursor.takeKill_kill, Cursor.spoils_named (c := s.cursor) (by simp [hr]) f]
    cases broken : (s.cursor.named f).breaksConnection <;>
      cases gone : Cursor.isNotFound (s.cursor.named f) <;>
      simp [Cursor.fail, broken, gone, usable, hr]

end Session

namespace Shared

variable {c : Shared} {t : Session} {remote : RemoteCursor} {f : Failure} {call : Call}

theorem settleBatch_spared (call : Call) (failed : c.session.Failed remote f t)
    (spoils : f.spoils = true) :
    c.settleBatch call (.error f) =
      ({ c with session := t.parted }, .answered (.failed (c.session.cursor.named f))) := by
  have none : t.takeKill.2 = none := by rw [failed.kill, if_pos spoils]
  have inactive : ¬t.cursor.phase = .active := by simp [failed.closed]
  simp only [settleBatch, failed.settled, failWith, if_neg inactive, afterCleanup,
    Session.beginRelease_of_none none]
  rfl

theorem settleBatch_killing (call : Call) (failed : c.session.Failed remote f t)
    (spares : f.spoils = false) :
    ∃ u sending saved,
      c.settleBatch call (.error f) = ({ c with session := u },
        .waiting sending (.kill saved (.failing call (c.session.cursor.named f)))) ∧
      u.cursor.phase = .closed ∧ u.sendings = c.session.sendings ++ [sending] ∧
      sending.command = .kill c.session.cursor.ns remote ∧
      sending.allowance = .ok (.granted c.session.cursor.options.killTimeout) := by
  have due : t.takeKill.2 = some (.kill c.session.cursor.ns remote) := by
    rw [failed.kill, spares]
    rfl
  have inactive : ¬t.cursor.phase = .active := by simp [failed.closed]
  have cleaned : c.settleBatch call (.error f) =
      ({ c with session := (t.ending (.kill c.session.cursor.ns remote) none).1 },
        .waiting (t.ending (.kill c.session.cursor.ns remote) none).2
          (.kill t.deadline.override (.failing call (c.session.cursor.named f)))) := by
    simp only [settleBatch, failed.settled, failWith, if_neg inactive]
    exact afterCleanup_of_some (c := { c with session := t }) due failed.leased
  refine ⟨_, _, _, cleaned, ?_, ?_, rfl, ?_⟩
  · simp [failed.closed]
  · rw [Session.ending_sendings, failed.sendings]
  · rw [Session.ending_allowance, failed.options]

/-! ### What a call gets -/

namespace Play

variable {p : Play} {i : Nat} {wait wait' : Wait} {o : Outcome} {a : Answer} {sending : Sending}

theorem act_answers (waits : p.calls.stage? i = some (.waiting wait))
    (resumed : p.shared.resume wait o = (c, .answered a)) :
    p.act (.deliver i o) = some
      { p with
        calls := { p.calls with shared := c }.retire i
        history := (p.history.hear p.session.cursor.quota wait o).answer a } := by
  have resumed : p.calls.shared.resume wait o = (c, .answered a) := resumed
  simp only [act, waits, Calls.deliver_eq waits, resumed]
  rfl

theorem act_waits (waits : p.calls.stage? i = some (.waiting wait))
    (resumed : p.shared.resume wait o = (c, .waiting sending wait')) :
    p.act (.deliver i o) = some
      { p with
        calls := { p.calls with shared := c }.put i (.waiting wait')
        history := p.history.hear p.session.cursor.quota wait o } := by
  have resumed : p.calls.shared.resume wait o = (c, .waiting sending wait') := resumed
  simp only [act, waits, Calls.deliver_eq waits, resumed]
  rfl

/-- A call has ended with a failure and nothing is left of the cursor. -/
structure Fails (before : Counts) (i : Nat) (f : Failure) (p q : Play) : Prop where
  answers : q.history.answers = p.history.answers ++ [.failed f]
  ended : q.calls.stage? i = none
  closed : q.session.cursor.phase = .closed
  returned : q.session.leased = false
  counts : q.session.counts = before

/-- A call has closed the cursor and waits for the command that ends the server's cursor. Whatever
comes of that, the call ends with the failure. -/
structure Kills (setting : Setting) (i : Nat) (call : Call) (remote : RemoteCursor) (f : Failure)
    (p q : Play) : Prop where
  closed : q.session.cursor.phase = .closed
  waits : ∃ saved, q.calls.stage? i = some (.waiting (.kill saved (.failing call f)))
  sent : ∃ sending, q.session.sendings = p.session.sendings ++ [sending] ∧
    sending.command = .kill p.session.cursor.ns remote ∧
    sending.allowance = .ok (.granted setting.options.killTimeout)
  fails : ∀ o, o.isCrash = false → ∃ r, q.act (.deliver i o) = some r ∧
    Fails setting.counts i f p r ∧ r.session.sendings = q.session.sendings

end Play

variable {reply : Document} {setting : Setting} {moves : List Move} {p : Play} {i : Nat}

/-- A closed cursor that rests has given its leases back. -/
theorem Comes.let_go (run : Comes reply setting moves p)
    (closed : p.session.cursor.phase = .closed) (idle : p.control = .idle) :
    p.session.leased = false ∧ p.session.counts = setting.counts := by
  have inactive : p.session.cursor.phase ≠ .active := by simp [closed]
  have settled := run.courses.settled idle
  have returned := settled.not_leased (settled.remote_eq_none inactive)
  exact ⟨returned, (run.courses.lending.of_not_leased returned).1⟩

/-- The answer to the call that waits is the last thing that happens to a closed cursor. -/
theorem Comes.fails {wait : Wait} {o : Outcome}
    (run : Comes reply setting moves p) (waits : p.calls.stage? i = some (.waiting wait))
    (resumed : p.shared.resume wait o = (c, .answered (.failed f)))
    (closed : c.session.cursor.phase = .closed)
    (heard : (p.history.hear p.session.cursor.quota wait o).answers = p.history.answers) :
    ∃ q, p.act (.deliver i o) = some q ∧ p.Fails setting.counts i f q ∧ q.shared = c := by
  have acted := Play.act_answers waits resumed
  refine ⟨_, acted, ?_, rfl⟩
  have landed := (act_delivers run.orderly waits acted).2
  have idle := congrArg Situation.control landed
  rw [resumed] at idle
  obtain ⟨returned, counts⟩ := (run.onward acted).let_go closed idle
  exact
    { answers := congrArg (· ++ [Answer.failed f]) heard
      ended := Calls.retire_stage? _ i
      closed
      returned
      counts }

/-- While a call waits for a batch, a request is under way on a connection that can be used. -/
theorem Comes.asking (run : Comes reply setting moves p)
    (waits : p.calls.stage? i = some (.waiting (.batch call))) :
    p.situation.control = .waiting (.batch call) ∧ p.shared.session.Asking ∧
      p.shared.session.cursor.connectionBroken = false := by
  have control : p.situation.control = .waiting (.batch call) := run.orderly.control_eq waits
  have asking : p.shared.session.Asking := by
    have fits := run.courses.coherent.fits
    rwa [control] at fits
  exact ⟨control, asking, run.courses.usable (asking.active asking.remote)⟩

/-- The request of the call fails, and nothing is left to end or no way to end it. -/
theorem Comes.spared (run : Comes reply setting moves p)
    (waits : p.calls.stage? i = some (.waiting (.batch call)))
    (hr : p.session.cursor.remote = some remote) (hf : f.isCancellation = false)
    (spoils : f.spoils = true) :
    ∃ q, p.act (.deliver i (.failure f)) = some q ∧
      p.Fails setting.counts i (p.session.cursor.named f) q ∧
      q.session.sendings = p.session.sendings := by
  obtain ⟨-, asking, usable⟩ := run.asking waits
  obtain ⟨t, failed⟩ := asking.failed hr usable hf
  have resumed := settleBatch_spared call failed spoils
  obtain ⟨q, acted, fails, shared⟩ := run.fails waits (o := .failure f) resumed
    (by simp [failed.closed]) rfl
  refine ⟨q, acted, fails, ?_⟩
  rw [Play.session, shared]
  exact Session.parted_sendings.trans failed.sendings

/-- The command that ends the server's cursor has its result, and the call fails as it was to. -/
theorem Comes.fails_killed {saved : Option Span} {o : Outcome} (run : Comes reply setting moves p)
    (waits : p.calls.stage? i = some (.waiting (.kill saved (.failing call f))))
    (closed : p.session.cursor.phase = .closed) (returns : o.isCrash = false) :
    ∃ q, p.act (.deliver i o) = some q ∧ p.Fails setting.counts i f q ∧
      q.session.sendings = p.session.sendings := by
  have kept (result : Except Failure Document) :
      ((p.session.deliver result).settleKill saved result).cursor.phase = .closed := by
    simp [closed]
  have silent (result : Except Failure Document) :
      ((p.session.deliver result).settleKill saved result).sendings = p.session.sendings := by
    simp
  cases o with
  | reply d =>
    obtain ⟨q, acted, fails, shared⟩ := run.fails waits (o := .reply d) rfl (kept (.ok d)) rfl
    exact ⟨q, acted, fails, by rw [Play.session, shared]; exact silent (.ok d)⟩
  | failure g =>
    obtain ⟨q, acted, fails, shared⟩ := run.fails waits (o := .failure g) rfl (kept (.error g)) rfl
    exact ⟨q, acted, fails, by rw [Play.session, shared]; exact silent (.error g)⟩
  | crash text => cases returns

/-- The request of the call fails, and the server's cursor is ended before the call is. -/
theorem Comes.kills (run : Comes reply setting moves p)
    (waits : p.calls.stage? i = some (.waiting (.batch call)))
    (hr : p.session.cursor.remote = some remote) (hf : f.isCancellation = false)
    (spares : f.spoils = false) :
    ∃ q, p.act (.deliver i (.failure f)) = some q ∧
      p.Kills setting i call remote (p.session.cursor.named f) q := by
  obtain ⟨-, asking, usable⟩ := run.asking waits
  obtain ⟨t, failed⟩ := asking.failed hr usable hf
  obtain ⟨u, sending, saved, resumed, closed, sent, command, allowance⟩ :=
    settleBatch_killing call failed spares
  have acted := Play.act_waits (o := .failure f) waits resumed
  have onward := run.onward acted
  have waits' := Calls.put_stage? { p.calls with shared := { p.shared with session := u } } i
    (.waiting (.kill saved (.failing call (p.session.cursor.named f))))
  have options : p.shared.session.cursor.options = setting.options := run.courses.options
  rw [options] at allowance
  refine ⟨_, acted, closed, ⟨saved, waits'⟩, ⟨sending, sent, command, allowance⟩,
    fun o returns => ?_⟩
  obtain ⟨r, acted, fails, silent⟩ := onward.fails_killed waits' closed returns
  exact ⟨r, acted, { fails with answers := fails.answers }, silent⟩

end Shared

end ResultCursor
