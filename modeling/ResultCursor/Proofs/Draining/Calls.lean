import ResultCursor.Proofs.Draining.Reading

/-! What the calls come to that read a collection: each is answered, hands out the next documents
if it hands out any, and leaves the rest to be handed out. -/

namespace ResultCursor.Reading

open Peer (MemoryServer)
open Table (Current Lands lands_answered lands_waiting)

variable {r : Reading} {s t : Session} {y z : MemoryServer} {rest batch : List Document} {k n : Nat}
  {h : History}

/-! ### Clean-ups -/

theorem counts_giveBack {c : Counts} (lent : s.counts = if s.leased then c.raised else c) :
    s.giveBack.counts = c := by
  cases hl : s.leased with
  | true =>
    rw [Session.giveBack_of_leased hl, lent, hl]
    simp [Counts.raised]
  | false => rw [Session.giveBack_of_not_leased hl, lent, hl, if_neg Bool.false_ne_true]

/-- What is left once the leases are given back and the server's cursor is gone. -/
theorem Spent.giveBack (spent : r.Spent rest s y) (hc : t.cursor = { s.cursor with remote := none })
    (hold : s.Holds t) (server : z.Calm r.collections) (gone : z.cursors = []) :
    r.Done rest t.giveBack z where
  server := server
  unlimited := by simpa using hold.overall.trans spent.unlimited
  lent := by simpa using counts_giveBack (by rw [hold.counts, hold.leased]; exact spent.lent)
  usable := by simpa [hc] using spent.usable
  settled := by simpa [hc] using spent.settled
  phase := by simpa [hc] using spent.phase
  leased := by simp [hc]
  cursors := by simp [hc, gone]
  buffer := by simpa [hc] using spent.buffer
  free := Session.giveBack_leased

/-- Without a server's cursor, a clean-up is over at once. -/
theorem Spent.beginRelease_finished (spent : r.Spent rest s y) (hr : s.cursor.remote = none)
    (stop : Option Bool) : ∃ t, s.beginRelease stop = (t.giveBack, .finished) ∧ s.Quietly t ∧
      t.cursor = { s.cursor with remote := none } ∧ s.Holds t := by
  obtain ⟨notes, taken⟩ := Session.takeKill_fst s
  have kill : s.takeKill.2 = none := by
    rw [Session.takeKill_snd, Cursor.takeKill_kill, spent.usable, spent.settled, hr]
    rfl
  refine ⟨s.takeKill.1, ?_, Session.takeKill_quietly, Session.takeKill_fst_cursor, ?_⟩
  · rw [Session.beginRelease_eq, kill, Session.cleanUp]
  · rw [taken]
    exact ⟨rfl, rfl, rfl⟩

/-- A server's cursor is ended by a command. -/
theorem Spent.beginRelease_killing (spent : r.Spent rest s y) {remote : RemoteCursor}
    (hr : s.cursor.remote = some remote) (stop : Option Bool) :
    ∃ t u sending, s.beginRelease stop = (u, .killing sending s.deadline.override) ∧
      s.Quietly t ∧ u.journal = t.journal ++ [.sent sending] ∧
      sending.command = .kill s.cursor.ns remote ∧
      u.cursor = { s.cursor with remote := none } ∧ s.Holds u := by
  obtain ⟨notes, taken⟩ := Session.takeKill_fst s
  have kill : s.takeKill.2 = some (.kill s.cursor.ns remote) := by
    rw [Session.takeKill_snd, Cursor.takeKill_kill, spent.usable, spent.settled, hr]
    rfl
  have held : s.takeKill.1.leased = true := by
    rw [taken]
    exact spent.leased (by simp [hr])
  let sent := s.takeKill.1.underKillTime.send (.kill s.cursor.ns remote) stop
  refine ⟨s.takeKill.1, sent.1, sent.2, ?_, Session.takeKill_quietly, rfl, rfl,
    Session.takeKill_fst_cursor, ?_⟩
  · rw [Session.beginRelease_eq, kill, Session.cleanUp, if_pos held, Session.sendKill_eq,
      Session.takeKill_deadline]
  · obtain ⟨leased, counts, overall⟩ : s.Holds s.takeKill.1 := by
      rw [taken]
      exact ⟨rfl, rfl, rfl⟩
    exact ⟨leased, counts, overall⟩

/-- The server's cursor is let go of, and ended if there is one, before a call gives its answer. -/
theorem Spent.lands {b : Blocking} {after : Aftermath} {go : Blocking → Blocking × Progress}
    {a : Answer} {seen : Nat} (spent : r.Spent rest b.session y)
    (current : Current y seen b.session) (unstopped : b.signal = {}) (he : h.ended = false)
    (resumes : ∀ b : Blocking, b.resumeAfter after = go b)
    (answers : ∀ b' : Blocking, b'.signal = {} →
      b'.session.cursor = { b.session.cursor with remote := none } → go b' = (b', .answered a)) :
    Lands (fun a' s y => a' = a ∧ r.Done rest s y)
      (Table.settle Blocking.usage (n + 2) ⟨.follow h (b.afterCleanup after go), y, seen⟩) := by
  have idle := spent.server.released_eq
  cases hr : b.session.cursor.remote with
  | none =>
    obtain ⟨t, released, quiet, cursor, hold⟩ := spent.beginRelease_finished hr (some false)
    have gone : y.cursors = [] := by simpa [hr] using spent.cursors
    have done := spent.giveBack cursor hold spent.server gone
    have answered := answers { b with session := t.giveBack } unstopped
      (Session.giveBack_cursor.trans cursor)
    have ends : b.afterCleanup after go = ({ b with session := t.giveBack }, .answered a) := by
      simp only [Blocking.afterCleanup, released, answered]
    rw [ends]
    exact lands_answered (current.quietly idle (quiet.trans Session.giveBack_quietly)) unstopped he
      ⟨rfl, done⟩
  | some remote =>
    obtain ⟨t, u, sending, released, quiet, journal, command, cursor, hold⟩ :=
      spent.beginRelease_killing hr (some false)
    obtain ⟨c, hc, hid⟩ : ∃ c, y.cursors = [c] ∧ remote.id = c.id := by
      have ids := spent.cursors
      rw [hr] at ids
      obtain ⟨c, hc, hid⟩ := List.map_eq_singleton_iff.mp ids
      exact ⟨c, hc, hid.symm⟩
    obtain ⟨z, reply, arrives, calm, gone⟩ := spent.server.arrive_kill hc b.session.cursor.ns remote
      hid sending.allowance { now := u.clock.now }
    rw [← command] at arrives
    have waits : b.afterCleanup after go = ({ b with session := u },
        .waiting sending (.kill b.session.deadline.override after)) := by
      simp only [Blocking.afterCleanup, released]
    rw [waits]
    refine lands_waiting (current.quietly idle quiet) journal arrives ?_
    -- the answer to the command is heard, whatever it says
    generalize b.session.deadline.override = saved
    obtain ⟨note, settled⟩ := (u.deliver (.ok reply)).settleKill_eq saved (.ok reply)
    have done := spent.giveBack (t := ((u.deliver (.ok reply)).putBack saved).note note) cursor
      ⟨hold.leased, hold.counts, hold.overall⟩ calm gone
    rw [← settled] at done
    have answered := answers
      { b with session := (u.deliver (.ok reply)).settleKill saved (.ok reply) } unstopped
      ((Session.settleKill_cursor saved (.ok reply)).trans cursor)
    rw [Blocking.settle, resumes, answered]
    have heard := (Current.refl z u).deliver (.ok reply)
    exact lands_answered
      (heard.quietly calm.released_eq (Session.settleKill_quietly saved (.ok reply))) unstopped he
      ⟨rfl, done⟩

/-! ### Batch sizes -/

/-- Batch sizes that are not negative change nothing of what is to be handed out, nor of the batch
at hand. -/
theorem Owes.resize (owes : r.Owes rest s y) (he : h.ended = false) {sizes : List Int32}
    (hs : ∀ size ∈ sizes, 0 ≤ size) :
    ∃ t h' z, (Table.resting s h y).resize Blocking.usage (n + 1) sizes =
        some (Table.resting t h' z) ∧
      h'.ended = false ∧ r.Owes rest t z ∧ t.cursor.buffer = s.cursor.buffer := by
  induction sizes generalizing s h y with
  | nil => exact ⟨s, h, y, rfl, he, owes, rfl⟩
  | cons size sizes ih =>
    have set := owes.setBatchSize (hs size (by simp))
    have lands : Lands (fun _ t z => r.Owes rest t z ∧ t.cursor.buffer = s.cursor.buffer)
        ((Table.resting s h y).request Blocking.usage (n + 1) (.setBatchSize size)) := by
      rw [Table.request_resting he]
      exact lands_answered (b := ⟨s.setBatchSize size, {}⟩) (Current.refl y (s.setBatchSize size))
        rfl he ⟨set, rfl⟩
    obtain ⟨t, h', z, a, landed, he', -, owes', hb⟩ := lands
    obtain ⟨t', h'', z', resized, he'', owes'', hb'⟩ :=
      ih owes' he' fun m hm => hs m (by simp [hm])
    refine ⟨t', h'', z', ?_, he'', owes'', hb'.trans hb⟩
    rw [Table.resize, landed]
    exact resized

/-! ### Requests for the next batch -/

/-- A request for which there is all that it needs is sent. -/
theorem Open.sends (more : r.Open k batch s y) (stop : Option Bool) :
    ∃ t sending, s.beginFetch stop = (t, .ok sending) := by
  obtain ⟨remote, hr, -⟩ := more.cursors
  have limit : s.deadline.limit = none := congrArg Prod.snd more.unlimited
  rcases hf : s.beginFetch stop with ⟨t, f | sending⟩
  · have passed := (Session.beginFetch_error (by simp [hr]) more.leased hf).2
    simp [Deadline.remaining, limit] at passed
  · exact ⟨t, sending, rfl⟩

/-- A reply that can be read is taken over. -/
theorem settleFetch_takes {body : Document} {reply : BatchReply} (t : Session)
    (read : Cursor.readNext (.ok body) = .ok reply) :
    ∃ u, (t.deliver (.ok body)).settleFetch (.ok body) = (u, .ok ()) ∧
      u.cursor = ({ t.cursor with inFlight := false } : Cursor).absorb reply ∧ t.Holds u := by
  rcases hs : (t.deliver (.ok body)).settleFetch (.ok body) with ⟨u, outcome⟩
  rcases Session.settleFetch_cases hs with
      ⟨reply', m, read', rfl, rfl⟩ | ⟨f, m, read', -⟩ | ⟨f, m, read', -⟩
  · cases read.symm.trans read'
    exact ⟨_, rfl, rfl, rfl, rfl, rfl⟩
  · cases read.symm.trans read'
  · cases read.symm.trans read'

/-- A request is answered with the next documents, and they are taken over by the cursor as it was
before the request. -/
theorem Open.takes (more : r.Open k [] s y) {stop : Option Bool} {sending : Sending}
    (sent : s.beginFetch stop = (t, .ok sending)) (m : Peer.Moment) :
    ∃ z body u, y.arrive sending.command sending.allowance m = (z, .answers (.reply body) []) ∧
      z.Calm r.collections ∧ (t.deliver (.ok body)).settleFetch (.ok body) = (u, .ok ()) ∧
      r.Took (r.goal.drop k) u z := by
  obtain ⟨remote, hr, cursors⟩ := more.cursors
  obtain ⟨-, remote', left, hr', -, command, rfl⟩ := Session.beginFetch_ok sent
  cases hr.symm.trans hr'
  obtain ⟨size, portioned, pos, fits, allowed⟩ := more.portion_fits
  have documents : y.documents r.ns = r.documents := by
    rw [MemoryServer.documents, more.server.collections, Reading.documents]
  obtain ⟨z, arrives, server, moves⟩ := more.server.arrive_getMore cursors rfl documents
    s.cursor.quota.effectiveBatchSize_le_most portioned s.cursor.ns
    (Cursor.maxTime s.cursor.options left) s.cursor.options.comment sending.allowance m
  have read := BatchReply.ofDocument_replyBody .next
    (if r.documents.length ≤ k + size then 0 else remote.id) r.named
    ((r.documents.drop k).take size)
  have back : ({ s.cursor with inFlight := false } : Cursor) = s.cursor :=
    congrArg (fun b => ({ s.cursor with inFlight := b } : Cursor)) more.settled.symm
  obtain ⟨u, settled, cursor, hold⟩ := settleFetch_takes
    { s with
      clock := s.clock.read.2.read.2
      cursor := { s.cursor with inFlight := true }
      journal := s.journal ++ [.sent sending] } read
  rw [command]
  exact ⟨z, _, u, arrives, server, settled, more.absorbed pos fits allowed
    (cursor.trans (congrArg (Cursor.absorb · _) back)) ⟨hold.leased, hold.counts, hold.overall⟩
    server moves⟩

/-! ### Answers -/

/-- Something is at hand. -/
theorem buffered_of_buffer (hb : s.cursor.buffer = Cursor.bufferOf batch) (hn : batch ≠ []) :
    s.cursor.buffered = true := by
  simp [Cursor.buffered, hb, Cursor.bufferOf, hn]

theorem Took.buffered (took : r.Took rest s y) (hn : rest ≠ []) : s.cursor.buffered = true := by
  cases took with
  | last spent => exact buffered_of_buffer spent.buffer hn
  | more more nonempty hr => exact buffered_of_buffer more.buffer nonempty

/-- Once a reply was taken over, a call that needs no more than it brought is answered. -/
theorem Took.lands {b : Blocking} {after : Aftermath} {go : Blocking → Blocking × Progress}
    {a : Answer} {seen : Nat} (took : r.Took rest b.session y) (current : Current y seen b.session)
    (unstopped : b.signal = {}) (he : h.ended = false)
    (resumes : ∀ b : Blocking, b.resumeAfter after = go b)
    (answers : ∀ b' : Blocking, b'.signal = {} → b'.session.isSettled = true →
      b'.session.cursor.buffer = b.session.cursor.buffer → go b' = (b', .answered a)) :
    Lands (fun a' s y => a' = a ∧ r.Owes rest s y ∧ (rest ≠ [] → s.cursor.buffered = true))
      (Table.settle Blocking.usage (n + 2) ⟨.follow h
        (if b.session.cursor.phase = .active then go b else b.afterCleanup after go), y,
        seen⟩) := by
  cases took with
  | last spent =>
    have inactive : b.session.cursor.phase ≠ .active := by simp [spent.phase]
    rw [if_neg inactive]
    have lands := spent.lands (a := a) (n := n) current unstopped he resumes
      fun b' signal cursor =>
        answers b' signal (by simp [Session.isSettled, Cursor.canFetch, cursor]) (by rw [cursor])
    refine lands.mono ?_
    rintro a' s y ⟨rfl, done⟩
    exact ⟨rfl, .done done, buffered_of_buffer done.buffer⟩
  | more more nonempty hr =>
    have ready := buffered_of_buffer more.buffer nonempty
    rw [if_pos more.phase, answers b unstopped (by simp [Session.isSettled, ready]) rfl]
    exact lands_answered current unstopped he ⟨rfl, .more more hr, fun _ => ready⟩

/-- A call on a cursor that is not closed and that nobody stops. -/
theorem iterate_eq (hp : s.cursor.phase ≠ .closed) (call : Call) :
    Blocking.iterate ⟨s, {}⟩ call = Blocking.proceed ⟨s.beginCall, {}⟩ call := by
  have isOpen : s.cursor.isClosed = false := Bool.eq_false_iff.mpr (mt Cursor.isClosed_iff.mp hp)
  simp [Blocking.iterate, isOpen]

theorem Owes.not_closed (owes : r.Owes rest s y) : s.cursor.phase ≠ .closed := by
  cases owes with
  | done done => simp [done.phase]
  | more more hr => simp [more.phase]

/-- A call for which no request is needed. -/
theorem proceed_eq (settled : s.isSettled = true) (call : Call) :
    Blocking.proceed ⟨s, {}⟩ call = (⟨(s.finish call).1, {}⟩, .answered (s.finish call).2) := by
  simp [Blocking.proceed, settled, Blocking.finish, Blocking.answered]

theorem fetched_hasNext {b : Blocking} (unstopped : b.signal = {})
    (settled : b.session.isSettled = true) :
    Blocking.fetched .hasNext b = (b, .answered (.more b.session.cursor.buffered)) := by
  obtain ⟨s, signal⟩ := b
  cases unstopped
  simp [Blocking.fetched, Blocking.unlessInterrupted, proceed_eq settled, Session.finish,
    Cursor.buffered]

/-- The next documents are fetched. -/
theorem Open.lands_fetch (more : r.Open k [] s y) {seen : Nat} (current : Current y seen s)
    (he : h.ended = false) :
    Lands (fun a t z => a = .more true ∧ r.Owes (r.goal.drop k) t z ∧
        (r.goal.drop k ≠ [] → t.cursor.buffered = true))
      (Table.settle Blocking.usage (n + 3)
        ⟨.follow h (Blocking.proceed ⟨s, {}⟩ .hasNext), y, seen⟩) := by
  obtain ⟨t, sending, sent⟩ := more.sends (some false)
  obtain ⟨z, body, u, arrives, server, settled, took⟩ := more.takes sent { now := t.clock.now }
  have journal : t.journal = s.journal ++ [.sent sending] := by
    obtain ⟨-, remote, left, -, -, -, rfl⟩ := Session.beginFetch_ok sent
    rfl
  have needed : s.isSettled = false := by
    obtain ⟨remote, hr, -⟩ := more.cursors
    exact Session.isSettled_eq_false_iff.mpr ⟨more.buffer, more.phase, by simp [hr]⟩
  have waits : Blocking.proceed ⟨s, {}⟩ .hasNext =
      (⟨t, {}⟩, .waiting sending (.batch .hasNext)) := by
    simp [Blocking.proceed, needed, Blocking.unlessInterrupted, Blocking.fetch,
      Signal.shouldStop, sent]
  rw [waits]
  refine lands_waiting current journal arrives ?_
  have heard := ((Current.refl z t).deliver (.ok body)).quietly server.released_eq
    (Session.settleFetch_quietly settled)
  have inUse : (h.hear t.cursor.quota (.batch .hasNext) (.reply body)).ended = false := by
    simpa [History.hear] using he
  have resumes (b : Blocking) :
      b.resumeAfter (.fetched .hasNext) = Blocking.fetched .hasNext b := rfl
  have answers (b : Blocking) (unstopped : b.signal = {}) (ready : b.session.isSettled = true)
      (hb : b.session.cursor.buffer = u.cursor.buffer) :
      Blocking.fetched .hasNext b = (b, .answered (.more true)) := by
    have same : b.session.cursor.buffered = u.cursor.buffered := congrArg Option.isSome hb
    rw [fetched_hasNext unstopped ready, same, took.buffered more.goal_drop_ne_nil]
  rw [Blocking.settle, Blocking.settleBatch, settled]
  exact took.lands (b := ⟨u, {}⟩) heard rfl inUse resumes answers

/-- `hasNext` tells whether anything is left, and has it at hand. -/
theorem Owes.hasNext (owes : r.Owes rest s y) (he : h.ended = false) :
    Lands (fun a s y => a = .more (!rest.isEmpty) ∧ r.Owes rest s y ∧
        (rest ≠ [] → s.cursor.buffered = true))
      ((Table.resting s h y).request Blocking.usage (n + 3) (.iterate .hasNext)) := by
  have begun := owes.beginCall
  have current := (Current.refl y s).quietly owes.calm.server.released_eq Session.beginCall_quietly
  rw [Table.request_resting he]
  change Lands _ (Table.settle _ _ ⟨.follow h (Blocking.iterate ⟨s, {}⟩ .hasNext), _, _⟩)
  rw [iterate_eq owes.not_closed]
  generalize s.beginCall = t at begun current
  cases begun with
  | done done =>
    have settled : t.isSettled = true := by simp [Session.isSettled, Cursor.canFetch, done.phase]
    rw [proceed_eq settled]
    refine lands_answered current rfl he ⟨?_, .done done, buffered_of_buffer done.buffer⟩
    cases rest <;> simp [Session.finish, done.buffer, Cursor.bufferOf]
  | @more k batch more hr =>
    have left : rest ≠ [] := by simp [hr, more.goal_drop_ne_nil]
    have answer : (.more true : Answer) = .more (!rest.isEmpty) := by simp [left]
    by_cases hb : batch = []
    · subst hb
      rw [← answer, hr]
      exact more.lands_fetch current he
    · have ready := buffered_of_buffer more.buffer hb
      have found : t.cursor.buffer.isSome = true := ready
      rw [proceed_eq (by simp [Session.isSettled, ready])]
      refine lands_answered current rfl he ⟨?_, .more more hr, fun _ => ready⟩
      simp [Session.finish, found, ← answer]

/-- What is left once the batch at hand was handed out. -/
theorem Owes.take (owes : r.Owes rest s y) (ready : s.cursor.buffered = true) :
    ∃ batch left, s.cursor.buffer = some batch ∧ batch ≠ [] ∧ rest = batch ++ left ∧
      r.Owes left { s with cursor := s.cursor.take.1 } y := by
  have found {batch : List Document} (hb : s.cursor.buffer = Cursor.bufferOf batch) :
      s.cursor.buffer = some batch ∧ batch ≠ [] := by
    cases batch with
    | nil => simp [Cursor.buffered, hb, Cursor.bufferOf] at ready
    | cons d batch => exact ⟨hb, List.cons_ne_nil d batch⟩
  cases owes with
  | done done =>
    obtain ⟨⟨calm, phase, leased, cursors, buffer⟩, free⟩ := done
    obtain ⟨hb, hn⟩ := found buffer
    exact ⟨rest, [], hb, hn, (List.append_nil rest).symm,
      .done ⟨⟨calm.holds ⟨rfl, rfl, rfl⟩ rfl rfl, phase, leased, cursors, rfl⟩, free⟩⟩
  | @more k batch more hr =>
    obtain ⟨calm, phase, leased, cursors, ns, quota, plain, more, below, buffer⟩ := more
    obtain ⟨hb, hn⟩ := found buffer
    have taken : r.Open k [] { s with cursor := s.cursor.take.1 } y :=
      ⟨calm.holds ⟨rfl, rfl, rfl⟩ rfl rfl, phase, leased, cursors, ns, quota, plain, more, below,
        rfl⟩
    exact ⟨_, _, hb, hn, hr, .more taken rfl⟩

theorem finish_next (hb : s.cursor.buffer = some batch) :
    s.finish .next = ({ s with cursor := s.cursor.take.1 }, .batch batch) := by
  simp only [Session.finish, hb]

/-- `next` hands out the batch at hand. -/
theorem Owes.next (owes : r.Owes rest s y) (ready : s.cursor.buffered = true)
    (he : h.ended = false) :
    Lands (fun a s y => ∃ batch left, a = .batch batch ∧ batch ≠ [] ∧ rest = batch ++ left ∧
        r.Owes left s y)
      ((Table.resting s h y).request Blocking.usage (n + 1) (.iterate .next)) := by
  have current := (Current.refl y s).quietly owes.calm.server.released_eq Session.beginCall_quietly
  have settled : s.beginCall.isSettled = true := by simp [Session.isSettled, ready]
  have isOpen := owes.not_closed
  obtain ⟨batch, left, hb, hn, hr, owes⟩ := owes.beginCall.take (by simpa using ready)
  rw [Table.request_resting he]
  change Lands _ (Table.settle _ _ ⟨.follow h (Blocking.iterate ⟨s, {}⟩ .next), _, _⟩)
  rw [iterate_eq isOpen, proceed_eq settled, finish_next hb]
  exact lands_answered (b := ⟨{ s.beginCall with cursor := s.beginCall.cursor.take.1 }, {}⟩)
    ⟨current.within, current.silent⟩ rfl he ⟨batch, left, rfl, hn, hr, owes⟩

end ResultCursor.Reading
