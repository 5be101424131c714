import ResultCursor.Call

/-! What the steps of a session change and what they leave alone. Each step has one lemma for each
part of the session that matters to what comes later, and requests and clean-ups have one that
says everything they can come to. -/

namespace ResultCursor

/-! ### Cursors -/

namespace Cursor

variable {c : Cursor}

@[simp] theorem bufferOf_ne_some_nil (batch : List Document) : bufferOf batch ≠ some [] := by
  cases batch <;> simp [bufferOf]

@[simp] theorem bufferOf_getD (batch : List Document) : (bufferOf batch).getD [] = batch := by
  cases batch <;> simp [bufferOf]

theorem isClosed_iff : c.isClosed = true ↔ c.phase = .closed := by
  simp [isClosed]

/-- What is left of a cursor whose server's cursor was let go of. -/
theorem takeKill_fst (c : Cursor) : c.takeKill.1 = { c with remote := none } := by
  unfold takeKill
  split
  · next h => cases c; simp_all
  · split <;> rfl

/-- A command is due exactly for a server's cursor on a connection that can be used. -/
theorem takeKill_kill (c : Cursor) :
    c.takeKill.2.2 = if c.connectionBroken || c.inFlight then none
      else c.remote.map (Command.kill c.ns) := by
  unfold takeKill
  cases hr : c.remote with
  | none => simp
  | some remote =>
    by_cases h : (c.connectionBroken || c.inFlight) = true
    · simp only [h, if_true]
    · simp only [h, Bool.false_eq_true, if_false, Option.map_some]

/-- A reply after which the cursor stays active names a server's cursor. -/
theorem absorb_remote_of_active {r : BatchReply} (h : (c.absorb r).phase = .active) :
    (c.absorb r).remote.isSome := by
  cases hr : RemoteCursor.ofId? r.id c.address with
  | none => simp [absorb, hr] at h
  | some remote => simp [absorb, hr]

theorem absorb_phase_ne_closed {r : BatchReply} (h : c.phase ≠ .closed) :
    (c.absorb r).phase ≠ .closed := by
  simp only [absorb]
  split
  · simp
  · exact h

/-- A failure keeps its kind, except that a server that does not know the cursor is named. -/
theorem named_eq_or (c : Cursor) (f : Failure) :
    c.named f = f ∨ ∃ id address, c.named f = .cursorNotFound id address := by
  unfold named
  split
  · split
    · exact .inr ⟨_, _, rfl⟩
    · exact .inl rfl
  · exact .inl rfl

end Cursor

theorem Deadline.remaining_error {d : Deadline} {now : Instant} {f : Failure}
    (h : d.remaining now = .error f) : ∃ since, f = .timeout (.passed since) := by
  unfold remaining at h
  split at h
  · cases h
  · split at h
    · cases h
      exact ⟨_, rfl⟩
    · cases h

/-! ### Sessions -/

namespace Session

variable {s t : Session}

@[simp] theorem inWorld_cursor (w : World) (c : Cursor) : (inWorld w c).cursor = c := rfl
@[simp] theorem inWorld_leased (w : World) (c : Cursor) : (inWorld w c).leased = false := rfl

@[simp] theorem note_cursor (n : Note) : (s.note n).cursor = s.cursor := rfl
@[simp] theorem note_leased (n : Note) : (s.note n).leased = s.leased := rfl
@[simp] theorem note_journal (n : Note) : (s.note n).journal = s.journal ++ [.noted n] := rfl

@[simp] theorem deliver_cursor (r : Except Failure Document) :
    (s.deliver r).cursor = s.cursor := rfl
@[simp] theorem deliver_journal (r : Except Failure Document) :
    (s.deliver r).journal = s.journal ++ [.delivered r] := rfl

@[simp] theorem putBack_cursor (saved : Option Span) : (s.putBack saved).cursor = s.cursor := rfl

@[simp] theorem close_cursor : s.close.cursor = s.cursor.close := rfl
@[simp] theorem close_leased : s.close.leased = s.leased := rfl
@[simp] theorem close_journal : s.close.journal = s.journal := rfl

@[simp] theorem beginCall_cursor : s.beginCall.cursor = s.cursor := by
  unfold beginCall
  split <;> rfl

@[simp] theorem beginCall_leased : s.beginCall.leased = s.leased := by
  unfold beginCall
  split <;> rfl

@[simp] theorem beginCall_counts : s.beginCall.counts = s.counts := by
  unfold beginCall
  split <;> rfl

@[simp] theorem beginCall_journal : s.beginCall.journal = s.journal := by
  unfold beginCall
  split <;> rfl

theorem noteAll_eq (s : Session) (notes : List Note) :
    s.noteAll notes = { s with journal := s.journal ++ notes.map .noted } := by
  induction notes generalizing s with
  | nil => simp [noteAll]
  | cons n notes ih =>
    have h : s.noteAll (n :: notes) = (s.note n).noteAll notes := rfl
    rw [h, ih]
    simp [note, record]

theorem isFinished_iff : s.isFinished = true ↔ s.cursor.phase = .closed ∧ s.leased = false := by
  simp [isFinished, Cursor.isClosed_iff]

/-! ### Leases -/

/-- The events by which both leases are taken. -/
def takings : List Event := [.retained .connection, .retained .source]

/-- The events by which both leases are given back. -/
def returns : List Event := [.released .connection, .released .source]

/-- Everything a first reply can be opened to. -/
theorem ofReply_ok {reply : Document} {setting : Setting} (h : ofReply reply setting = .ok s) :
    ∃ first n, BatchReply.ofDocument .first reply = .ok first ∧
      s.cursor = (Cursor.fresh first.ns first.documents.isEmpty setting.address
        setting.options).absorb first ∧
      s.leased = s.cursor.remote.isSome ∧
      ((s.leased = false ∧ s.counts = setting.counts ∧ s.journal = [.noted n]) ∨
        (s.leased = true ∧
          s.counts = ⟨setting.counts.connection + 1, setting.counts.source + 1⟩ ∧
          s.journal = .noted n :: takings)) := by
  rw [ofReply_eq, Cursor.ofReply] at h
  cases hf : setting.options.fault? with
  | some fault => simp [hf] at h
  | none =>
    cases hr : BatchReply.ofDocument .first reply with
    | error f => simp [hf, hr] at h
    | ok first =>
      simp only [hf, hr, Except.ok.injEq] at h
      split at h
      · next hs =>
        subst h
        exact ⟨first, _, rfl, rfl, hs.symm, .inr ⟨rfl, rfl, rfl⟩⟩
      · next hs =>
        subst h
        exact ⟨first, _, rfl, rfl, by simpa using hs, .inl ⟨rfl, rfl, rfl⟩⟩

theorem ofReply_not_closed {reply : Document} {setting : Setting}
    (h : ofReply reply setting = .ok s) : s.cursor.phase ≠ .closed := by
  obtain ⟨first, n, -, hc, -⟩ := ofReply_ok h
  rw [hc]
  exact Cursor.absorb_phase_ne_closed (by simp [Cursor.fresh])

theorem giveBack_of_leased (h : s.leased = true) :
    s.giveBack =
      { s with
        leased := false
        counts := ⟨s.counts.connection - 1, s.counts.source - 1⟩
        journal := s.journal ++ returns } := by
  simp [giveBack, h, release, record, Counts.change, returns, Int.sub_eq_add_neg]

theorem giveBack_of_not_leased (h : s.leased = false) : s.giveBack = s := by
  simp [giveBack, h]

@[simp] theorem giveBack_cursor : s.giveBack.cursor = s.cursor := by
  unfold giveBack
  split <;> rfl

@[simp] theorem giveBack_leased : s.giveBack.leased = false := by
  unfold giveBack
  split
  · rfl
  · simp_all

theorem giveBackOnDrop_eq (s : Session) :
    s.giveBackOnDrop = s.giveBack ∨ ∃ n, s.giveBackOnDrop = (s.note n).giveBack := by
  unfold giveBackOnDrop
  split
  · exact .inr ⟨_, rfl⟩
  · next h => exact .inl (giveBack_of_not_leased (by simpa using h)).symm

theorem giveBack_journal (s : Session) : s.journal <+: s.giveBack.journal := by
  cases hl : s.leased with
  | true =>
    rw [giveBack_of_leased hl]
    exact List.prefix_append _ _
  | false => simp [giveBack_of_not_leased hl]

theorem breakKill_journal (s : Session) (saved : Option Span) :
    s.journal <+: (s.breakKill saved).journal := by
  rcases (s.putBack saved).giveBackOnDrop_eq with h | ⟨n, h⟩
  · rw [breakKill, h]
    exact giveBack_journal (s.putBack saved)
  · rw [breakKill, h]
    exact (List.prefix_append s.journal _).trans (giveBack_journal ((s.putBack saved).note n))

/-- The answer to a command that ends the server's cursor is noted, whatever it says. -/
theorem settleKill_eq (s : Session) (saved : Option Span) (result : Except Failure Document) :
    ∃ n, s.settleKill saved result = ((s.putBack saved).note n).giveBack := ⟨_, rfl⟩

@[simp] theorem settleKill_cursor (saved : Option Span) (result : Except Failure Document) :
    (s.settleKill saved result).cursor = s.cursor := by
  obtain ⟨n, h⟩ := s.settleKill_eq saved result
  simp [h]

theorem settleKill_journal (s : Session) (saved : Option Span)
    (result : Except Failure Document) : s.journal <+: (s.settleKill saved result).journal := by
  obtain ⟨n, h⟩ := s.settleKill_eq saved result
  rw [h]
  exact (List.prefix_append s.journal _).trans (giveBack_journal ((s.putBack saved).note n))

@[simp] theorem breakKill_cursor (saved : Option Span) :
    (s.breakKill saved).cursor = s.cursor := by
  rcases (s.putBack saved).giveBackOnDrop_eq with h | ⟨n, h⟩ <;> simp [breakKill, h]

@[simp] theorem breakKill_leased (saved : Option Span) : (s.breakKill saved).leased = false := by
  rcases (s.putBack saved).giveBackOnDrop_eq with h | ⟨n, h⟩ <;> simp [breakKill, h]

/-! ### Requests -/

/-- A request is needed only by an active cursor without a buffer that has a server's cursor. -/
theorem isSettled_eq_false_iff :
    s.isSettled = false ↔
      s.cursor.buffer = none ∧ s.cursor.phase = .active ∧ s.cursor.remote.isSome := by
  simp [isSettled, Cursor.buffered, Cursor.canFetch]

/-- A request that is sent: everything that has to hold, and all that it changes. -/
theorem beginFetch_ok {stop : Option Bool} {sending : Sending}
    (h : s.beginFetch stop = (t, .ok sending)) :
    s.leased = true ∧ ∃ remote left,
      s.cursor.remote = some remote ∧ s.deadline.remaining s.clock.read.1 = .ok left ∧
      sending.command = s.cursor.getMore remote left ∧
      t = { s with
        clock := s.clock.read.2.read.2
        cursor := { s.cursor with inFlight := true }
        journal := s.journal ++ [.sent sending] } := by
  unfold beginFetch Cursor.beginFetch at h
  cases hr : s.cursor.remote with
  | none => simp [hr] at h
  | some remote =>
    cases hd : s.deadline.remaining s.clock.read.1 with
    | error f => simp [hr, hd] at h
    | ok left =>
      cases hl : s.leased with
      | false => simp [hr, hd, hl] at h
      | true =>
        simp only [hr, hd, hl, if_true, Prod.mk.injEq, Except.ok.injEq] at h
        obtain ⟨rfl, rfl⟩ := h
        exact ⟨rfl, remote, left, rfl, rfl, by rw [← hr]; rfl, by rw [← hr]; rfl⟩

/-- A request that is not sent, because the deadline has passed. -/
theorem beginFetch_passed {stop : Option Bool} {remote : RemoteCursor} {f : Failure}
    (hr : s.cursor.remote = some remote) (hd : s.deadline.remaining s.clock.read.1 = .error f) :
    s.beginFetch stop = ({ s with clock := s.clock.read.2 }, .error f) := by
  simp only [beginFetch, Cursor.beginFetch, hr, hd]

/-- A request that is not sent while a server's cursor and the leases are held. -/
theorem beginFetch_error {stop : Option Bool} {f : Failure} (hr : s.cursor.remote.isSome)
    (hl : s.leased = true) (h : s.beginFetch stop = (t, .error f)) :
    t = { s with clock := s.clock.read.2 } ∧ s.deadline.remaining s.clock.read.1 = .error f := by
  obtain ⟨remote, hr⟩ := Option.isSome_iff_exists.mp hr
  unfold beginFetch Cursor.beginFetch at h
  cases hd : s.deadline.remaining s.clock.read.1 with
  | error g =>
    simp only [hr, hd, Prod.mk.injEq, Except.error.injEq] at h
    exact ⟨h.1.symm, by rw [h.2]⟩
  | ok left => simp [hr, hd, hl] at h

/-- Everything that a request can settle to: its reply is taken over, the cursor stays as it was,
or it is closed. -/
theorem settleFetch_cases {result : Except Failure Document} {outcome : Except Failure Unit}
    (h : s.settleFetch result = (t, outcome)) :
    (∃ r n, Cursor.readNext result = .ok r ∧ outcome = .ok () ∧
      t = ({ s with cursor := { s.cursor with inFlight := false }.absorb r } : Session).note n) ∨
    (∃ f n, Cursor.readNext result = .error f ∧ f.isCancellation = true ∧ outcome = .error f ∧
      t = ({ s with cursor := { s.cursor with inFlight := false } } : Session).note n) ∨
    (∃ f n, Cursor.readNext result = .error f ∧ f.isCancellation = false ∧
      outcome = .error (s.cursor.named f) ∧
      t = ({ s with cursor := { s.cursor with inFlight := false }.fail (s.cursor.named f) } :
        Session).note n) := by
  unfold settleFetch Cursor.settleFetch at h
  cases hr : Cursor.readNext result with
  | ok r =>
    simp only [hr, Prod.mk.injEq] at h
    exact .inl ⟨r, _, rfl, h.2.symm, h.1.symm⟩
  | error f =>
    cases hf : f.isCancellation with
    | true =>
      simp only [hr, hf, if_true, Prod.mk.injEq] at h
      exact .inr (.inl ⟨f, _, rfl, hf, h.2.symm, h.1.symm⟩)
    | false =>
      simp only [hr, hf, Bool.false_eq_true, if_false, Prod.mk.injEq] at h
      exact .inr (.inr ⟨f, _, rfl, hf, h.2.symm, h.1.symm⟩)

/-- A request that is needed but not sent: the deadline has passed, and the cursor is closed as
if the request had failed. -/
theorem refused {u : Session} {stop : Option Bool} {f g : Failure} (hr : s.cursor.remote.isSome)
    (hl : s.leased = true) (h : s.beginFetch stop = (t, .error f))
    (hs : t.settleFetch (.error f) = (u, .error g)) :
    ∃ since n, g = .timeout (.passed since) ∧
      s.deadline.remaining s.clock.read.1 = .error (.timeout (.passed since)) ∧
      u = ({ s with
        clock := s.clock.read.2
        cursor := { s.cursor with inFlight := false }.fail (.timeout (.passed since)) } :
        Session).note n := by
  obtain ⟨rfl, hd⟩ := beginFetch_error hr hl h
  obtain ⟨since, rfl⟩ := Deadline.remaining_error hd
  rcases settleFetch_cases hs with ⟨r, n, he, -⟩ | ⟨f, n, he, hf, -⟩ | ⟨f, n, he, -, hg, hu⟩
  · cases he
  · cases he
    cases hf
  · cases he
    cases hg
    exact ⟨since, n, rfl, hd, hu⟩

/-! ### Clean-ups -/

theorem takeKill_fst_cursor : s.takeKill.1.cursor = { s.cursor with remote := none } := by
  simp only [takeKill, noteAll_eq, Cursor.takeKill_fst]

theorem takeKill_fst (s : Session) :
    ∃ notes : List Note, s.takeKill.1 =
      { s with
        cursor := { s.cursor with remote := none }
        journal := s.journal ++ notes.map .noted } := by
  refine ⟨s.cursor.takeKill.2.1, ?_⟩
  simp only [takeKill, noteAll_eq, Cursor.takeKill_fst]

theorem takeKill_snd : s.takeKill.2 = s.cursor.takeKill.2.2 := rfl

theorem remote_isSome_of_takeKill (h : s.takeKill.2.isSome) : s.cursor.remote.isSome := by
  rw [takeKill_snd, Cursor.takeKill_kill] at h
  split at h
  · cases h
  · simpa using h

/-- A session that is ready to send a command that ends the server's cursor. -/
def underKillTime (s : Session) : Session :=
  { s with deadline := s.deadline.withOverride (some s.cursor.options.killTimeout) }

theorem sendKill_eq (s : Session) (command : Command) (stop : Option Bool) :
    s.sendKill command stop =
      ((s.underKillTime.send command stop).1,
        .killing (s.underKillTime.send command stop).2 s.deadline.override) := rfl

/-- A clean-up that is over at once has given the leases back. -/
theorem cleanUp_finished {kill : Option Command} {stop : Option Bool}
    (h : s.cleanUp kill stop = (t, .finished)) : t = s.giveBack := by
  cases kill with
  | none =>
    cases h
    rfl
  | some command =>
    cases hl : s.leased with
    | false =>
      simp only [cleanUp, hl, Bool.false_eq_true, if_false, Prod.mk.injEq, and_true] at h
      rw [giveBack_of_not_leased hl, h]
    | true => simp [cleanUp, hl, sendKill_eq] at h

/-- A clean-up that waits has sent its command, and still has the leases. -/
theorem cleanUp_killing {kill : Option Command} {stop : Option Bool} {sending : Sending}
    {saved : Option Span} (h : s.cleanUp kill stop = (t, .killing sending saved)) :
    s.leased = true ∧ ∃ command, kill = some command ∧
      t = (s.underKillTime.send command stop).1 := by
  cases kill with
  | none => cases h
  | some command =>
    cases hl : s.leased with
    | false => simp [cleanUp, hl] at h
    | true =>
      simp only [cleanUp, hl, if_true, sendKill_eq, Prod.mk.injEq] at h
      exact ⟨rfl, command, rfl, h.1.symm⟩

theorem cleanUp_cursor {kill : Option Command} {stop : Option Bool} {c : Cleanup}
    (h : s.cleanUp kill stop = (t, c)) : t.cursor = s.cursor := by
  cases c with
  | finished => rw [cleanUp_finished h, giveBack_cursor]
  | killing sending saved =>
    obtain ⟨-, command, -, rfl⟩ := cleanUp_killing h
    rfl

theorem beginRelease_eq (s : Session) (stop : Option Bool) :
    s.beginRelease stop = s.takeKill.1.cleanUp s.takeKill.2 stop := rfl

/-- A clean-up changes nothing of the cursor but that it lets go of the server's cursor. -/
theorem beginRelease_cursor {stop : Option Bool} {c : Cleanup} (h : s.beginRelease stop = (t, c)) :
    t.cursor = { s.cursor with remote := none } := by
  rw [beginRelease_eq] at h
  rw [cleanUp_cursor h, takeKill_fst_cursor]

end Session

end ResultCursor
