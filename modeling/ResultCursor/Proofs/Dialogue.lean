import ResultCursor.Proofs.Inquiry
import ResultCursor.Proofs.Leases

/-! What a journal says of the conversation with the server: which cursor the newest reply named,
how often the cursor was told to go, and whether a failed request showed that it is gone or out of
reach. A session always knows as much as its journal, and so each command that it sends is about
the cursor of the newest reply. -/

namespace ResultCursor

/-- The collection and the number of the server's cursor that a command is about. -/
def Command.target? (c : Command) : Option (Namespace × Int64) :=
  match c.body with
  | ("getMore", .int64 id) :: ("collection", .string collection) :: _ =>
    some (⟨c.database, collection⟩, id)
  | [("killCursors", .string collection), ("cursors", .array [.int64 id])] =>
    some (⟨c.database, collection⟩, id)
  | _ => none

/-- The failure shows that the connection is dead or that the server has no such cursor. -/
def Failure.spoils (f : Failure) : Bool :=
  f.breaksConnection || f.serverCode? = some notFoundCode

/-! ### Following the conversation -/

/-- What a journal says of the conversation with the server. -/
structure Dialogue where
  /-- The number of the server's cursor in the newest reply. -/
  newest : Int64
  /-- The newest command asks for a batch and has no result so far. -/
  asking : Bool := false
  /-- The number of commands to end the server's cursor. -/
  kills : Nat := 0
  /-- A request for a batch failed in a way that leaves nothing to end, or no way to end it. -/
  spoiled : Bool := false

namespace Dialogue

/-- The request for a batch has its result. -/
def settle (d : Dialogue) (result : Except Failure Document) : Dialogue :=
  match Cursor.readNext result with
  | .ok r => { d with newest := r.id, asking := false }
  | .error f => { d with asking := false, spoiled := d.spoiled || f.spoils }

def hear (d : Dialogue) : Event → Dialogue
  | .sent s =>
    { d with
      asking := s.command.isGetMore
      kills := d.kills + if s.command.isKill then 1 else 0 }
  | .delivered result => if d.asking then d.settle result else d
  | _ => d

theorem hear_quiet (d : Dialogue) (e : Event) (h : e.isQuiet = true) : d.hear e = d := by
  cases e with
  | sent s => cases h
  | delivered result => cases h
  | _ => rfl

theorem settle_ok {d : Dialogue} {result : Except Failure Document} {r : BatchReply}
    (hr : Cursor.readNext result = .ok r) :
    d.settle result = { d with newest := r.id, asking := false } := by
  simp [settle, hr]

theorem settle_error {d : Dialogue} {result : Except Failure Document} {f : Failure}
    (hr : Cursor.readNext result = .error f) :
    d.settle result = { d with asking := false, spoiled := d.spoiled || f.spoils } := by
  simp [settle, hr]

end Dialogue

/-- The conversation that events continue after the first reply. -/
def BatchReply.heard (first : BatchReply) (events : List Event) : Dialogue :=
  events.foldl Dialogue.hear ⟨first.id, false, 0, false⟩

/-- A command is sent while the leases are held, and is about the server's cursor of the newest
reply in the collection of the first, before that cursor was told to go. -/
structure Sending.Lawful (before : Counts) (first : BatchReply) (past : List Event)
    (sending : Sending) : Prop where
  leased : past.filter Event.isLease = Session.takings
  counts : sending.counts = before.raised
  target : sending.command.target? = some (first.ns, (first.heard past).newest)
  newest : (first.heard past).newest ≠ 0
  alive : (first.heard past).kills = 0
  known : sending.command.isGetMore = true ∨ sending.command.isKill = true

namespace Session

variable {s t : Session} {first : BatchReply} {before : Counts}

def dialogue (first : BatchReply) (s : Session) : Dialogue := first.heard s.journal

/-- Every command so far was sent as it should be. -/
def Lawful (before : Counts) (first : BatchReply) (s : Session) : Prop :=
  ∀ pre sending post, s.journal = pre ++ .sent sending :: post →
    sending.Lawful before first pre

theorem dialogue_append {events : List Event} (hj : t.journal = s.journal ++ events) :
    t.dialogue first = events.foldl Dialogue.hear (s.dialogue first) := by
  simp [dialogue, BatchReply.heard, hj]

theorem Quietly.dialogue (h : s.Quietly t) : t.dialogue first = s.dialogue first :=
  h.foldl_eq Dialogue.hear_quiet _

theorem deliver_dialogue (result : Except Failure Document) :
    (s.deliver result).dialogue first = (s.dialogue first).hear (.delivered result) :=
  dialogue_append (deliver_journal result)

/-- New events are lawful if the commands among them are. -/
theorem Lawful.append {events : List Event} (h : s.Lawful before first)
    (hj : t.journal = s.journal ++ events)
    (new : ∀ pre sending post, events = pre ++ .sent sending :: post →
      sending.Lawful before first (s.journal ++ pre)) :
    t.Lawful before first := by
  intro pre sending post hs
  rw [hj] at hs
  rcases List.append_eq_append_iff.mp hs with ⟨l, rfl, hl⟩ | ⟨l, hl, ht⟩
  · exact new l sending post hl
  · cases l with
    | nil =>
      rw [List.append_nil] at hl
      have hn := new [] sending post ht.symm
      rwa [List.append_nil, hl] at hn
    | cons e l =>
      obtain ⟨rfl, -⟩ := List.cons_eq_cons.mp ht
      exact h pre sending l hl

theorem Lawful.quietly (h : s.Lawful before first) (hq : s.Quietly t) :
    t.Lawful before first := by
  obtain ⟨events, hj, hq⟩ := hq
  refine h.append hj fun pre sending post he => ?_
  cases hq (.sent sending) (by simp [he])

theorem Lawful.deliver (h : s.Lawful before first) (result : Except Failure Document) :
    (s.deliver result).Lawful before first := by
  refine h.append (deliver_journal result) fun pre sending post he => ?_
  obtain ⟨-, he⟩ | ⟨-, he⟩ := List.singleton_eq_append_iff.mp he
  · cases he
  · cases he

theorem Lawful.sent {sending : Sending} (h : s.Lawful before first)
    (hj : t.journal = s.journal ++ [.sent sending])
    (hl : sending.Lawful before first s.journal) : t.Lawful before first := by
  refine h.append hj fun pre other post he => ?_
  obtain ⟨rfl, he⟩ | ⟨-, he⟩ := List.singleton_eq_append_iff.mp he
  · obtain ⟨he, -⟩ := List.cons_eq_cons.mp he.symm
    cases he
    rwa [List.append_nil]
  · cases he

end Session

/-! ### What failures and replies say of the server's cursor -/

theorem RemoteCursor.ofId?_eq_some {id : Int64} {address : Address} {remote : RemoteCursor}
    (h : ofId? id address = some remote) : remote.id = id := by
  unfold ofId? at h
  split at h
  · cases h
  · cases h
    rfl

theorem RemoteCursor.ofId?_isSome {id : Int64} {address : Address} (h : id ≠ 0) :
    (ofId? id address).isSome := by
  simp [ofId?, h]

theorem Command.isGetMore_getMore (c : Cursor) (remote : RemoteCursor) (left : Option Span) :
    (c.getMore remote left).isGetMore = true := rfl

theorem Command.isKill_getMore (c : Cursor) (remote : RemoteCursor) (left : Option Span) :
    (c.getMore remote left).isKill = false := rfl

theorem Command.target?_getMore (c : Cursor) (remote : RemoteCursor) (left : Option Span) :
    (c.getMore remote left).target? = some (c.ns, remote.id) := rfl

theorem Command.target?_kill (ns : Namespace) (remote : RemoteCursor) :
    (kill ns remote).target? = some (ns, remote.id) := rfl

theorem Failure.spoils_of_isCancellation {f : Failure} (h : f.isCancellation = true) :
    f.spoils = false := by
  cases f <;> first | rfl | cases h

/-- To name the server's cursor does not change what a failure says of it. -/
theorem Cursor.spoils_named {c : Cursor} (hr : c.remote.isSome) (f : Failure) :
    f.spoils = ((c.named f).breaksConnection || isNotFound (c.named f)) := by
  obtain ⟨remote, hr⟩ := Option.isSome_iff_exists.mp hr
  cases f with
  | command code name message =>
    by_cases hc : code = Failure.notFoundCode
    · simp [named, hr, hc, isNotFound, Failure.spoils, Failure.serverCode?]
    · simp [named, hr, hc, isNotFound, Failure.spoils, Failure.serverCode?,
        Failure.breaksConnection]
  | cursorNotFound id address =>
    simp [named, isNotFound, Failure.spoils, Failure.serverCode?]
  | _ => simp [named, isNotFound, Failure.spoils, Failure.serverCode?]

theorem Session.beginFetch_counts {s t : Session} {stop : Option Bool} {sending : Sending}
    (h : s.beginFetch stop = (t, .ok sending)) : sending.counts = s.counts := by
  unfold beginFetch at h
  cases hf : s.cursor.beginFetch s.deadline s.clock.read.1 with
  | error f => simp [hf] at h
  | ok started =>
    cases hl : s.leased with
    | false => simp [hf, hl] at h
    | true =>
      simp only [hf, hl, if_true, Prod.mk.injEq, Except.ok.injEq] at h
      rw [← h.2]
      rfl

/-- A clean-up that can send its command does. -/
theorem Session.cleanUp_spared {s t : Session} {kill : Option Command} {stop : Option Bool}
    (hk : kill.isSome → s.leased = true) (h : s.cleanUp kill stop = (t, .finished)) :
    kill = none := by
  cases kill with
  | none => rfl
  | some command => simp [cleanUp, hk rfl, sendKill_eq] at h

/-! ### A session knows what its journal says -/

/-- A clean-up is due that sends a command. -/
def Control.owes : Control → Bool
  | .cleaning (some _) _ => true
  | _ => false

def Control.asks : Control → Bool
  | .waiting (.batch _) => true
  | _ => false

/-- A command that is due is about the cursor of the newest reply, which was not told to go. -/
def Control.Informed (first : BatchReply) (d : Dialogue) : Control → Prop
  | .waiting (.batch _) => d.asking = true
  | .waiting (.kill ..) => d.asking = false
  | .cleaning (some command) _ =>
    command.isKill = true ∧ command.target? = some (first.ns, d.newest) ∧ d.newest ≠ 0 ∧
      d.spoiled = false ∧ d.kills = 0
  | _ => True

theorem Control.Informed.due (first : BatchReply) (d : Dialogue) (s : Session)
    (after : Aftermath) : (Control.due s after).Informed first d := by
  unfold Control.due
  split <;> trivial

/-- The cursor has nothing that it did not have before. -/
structure Cursor.Fades (c c' : Cursor) : Prop where
  ns : c'.ns = c.ns
  broken : c'.connectionBroken = c.connectionBroken
  remote : c'.remote = c.remote ∨ c'.remote = none
  active : c'.phase = .active → c.phase = .active
  inFlight : c'.inFlight = true → c.inFlight = true

theorem Cursor.Fades.refl (c : Cursor) : c.Fades c :=
  ⟨rfl, rfl, .inl rfl, id, id⟩

/-- The cursor knows what was said of the server's cursor. Where nothing breaks off, it holds on to
that one until a command to end it was sent. -/
structure Dialogue.Known (R : Rules) (first : BatchReply) (d : Dialogue) (c : Cursor)
    (k : Control) : Prop where
  ns : c.ns = first.ns
  control : k.Informed first d
  named : ∀ remote, c.remote = some remote → remote.id = d.newest ∧ d.kills = 0
  spoiled : d.spoiled = true → c.phase ≠ .active ∧ (c.remote = none ∨ c.connectionBroken = true)
  broken : c.connectionBroken = true → d.spoiled = true
  killed : d.kills ≠ 0 → d.kills = 1 ∧ d.newest ≠ 0 ∧ d.spoiled = false
  owed : ¬R .breakOff → d.newest ≠ 0 → d.spoiled = false →
    c.remote.isSome ∨ k.owes = true ∨ d.kills ≠ 0
  busy : ¬R .breakOff → c.inFlight = true → k.asks = true

namespace Dialogue.Known

variable {R : Rules} {first : BatchReply} {d : Dialogue} {c c' : Cursor} {k k' : Control}

/-- A cursor that fades knows enough, unless it forgets what it owes. -/
theorem fades (h : d.Known R first c k) (hc : c.Fades c') (hk : k'.Informed first d)
    (owed : ¬R .breakOff → d.spoiled = false → c.remote.isSome ∨ k.owes = true →
      c'.remote.isSome ∨ k'.owes = true)
    (busy : ¬R .breakOff → k.asks = true → k'.asks = true) : d.Known R first c' k' where
  ns := hc.ns.trans h.ns
  control := hk
  named remote hr := by
    rcases hc.remote with hs | hs
    · exact h.named remote (hs.symm.trans hr)
    · cases hs.symm.trans hr
  spoiled hs := by
    obtain ⟨hp, hr⟩ := h.spoiled hs
    refine ⟨fun ha => hp (hc.active ha), ?_⟩
    rcases hc.remote with hsame | hnone
    · rwa [hsame, hc.broken]
    · exact .inl hnone
  broken hb := h.broken (hc.broken.symm.trans hb)
  killed := h.killed
  owed hR hn hs := by
    rcases h.owed hR hn hs with hr | hk | hk
    · exact (owed hR hs (.inl hr)).imp_right .inl
    · exact (owed hR hs (.inr hk)).imp_right .inl
    · exact .inr (.inr hk)
  busy hR hf := busy hR (h.busy hR (hc.inFlight hf))

/-- The same where nothing is owed or asked for, and the server's cursor is kept. -/
theorem moves (h : d.Known R first c k) (hc : c.Fades c') (hr : c'.remote = c.remote)
    (ho : k.owes = false) (ha : k.asks = false) (hk : k'.Informed first d) :
    d.Known R first c' k' :=
  h.fades hc hk (fun _ _ h => .inl (by simpa [hr, ho] using h)) fun _ h => by simp [ha] at h

theorem unspoiled (h : d.Known R first c k) (active : c.phase = .active) : d.spoiled = false :=
  Bool.eq_false_iff.mpr fun hs => (h.spoiled hs).1 active

theorem alive (h : d.Known R first c k) (hr : c.remote.isSome) : d.kills = 0 := by
  obtain ⟨remote, hr⟩ := Option.isSome_iff_exists.mp hr
  exact (h.named remote hr).2

/-- A reply names the server's cursor anew, or says that there is none any more. -/
theorem absorbed {result : Except Failure Document} {r : BatchReply} (h : d.Known R first c k)
    (active : c.phase = .active) (hr : c.remote.isSome) (hn : Cursor.readNext result = .ok r)
    (hk : k'.Informed first (d.settle result)) :
    (d.settle result).Known R first ({ c with inFlight := false }.absorb r) k' := by
  have alive := h.alive hr
  rw [Dialogue.settle_ok hn] at hk ⊢
  exact
    { ns := h.ns
      control := hk
      named := fun remote hr => ⟨RemoteCursor.ofId?_eq_some hr, alive⟩
      spoiled := fun hs => by cases (h.unspoiled active).symm.trans hs
      broken := h.broken
      killed := fun hk => absurd alive hk
      owed := fun _ hn _ => .inl (RemoteCursor.ofId?_isSome hn)
      busy := fun _ hf => by cases hf }

/-- A request that was called off says nothing of the server's cursor. -/
theorem calledOff {result : Except Failure Document} {f : Failure} (h : d.Known R first c k)
    (hr : c.remote.isSome) (hn : Cursor.readNext result = .error f)
    (hf : f.isCancellation = true) (hk : k'.Informed first (d.settle result)) :
    (d.settle result).Known R first { c with inFlight := false } k' := by
  rw [Dialogue.settle_error hn, Failure.spoils_of_isCancellation hf, Bool.or_false] at hk ⊢
  exact
    { ns := h.ns
      control := hk
      named := h.named
      spoiled := h.spoiled
      broken := h.broken
      killed := h.killed
      owed := fun _ _ _ => .inl hr
      busy := fun _ hf => by cases hf }

/-- A failed request leaves the server's cursor to be ended, unless it is gone or out of reach. -/
theorem failed {result : Except Failure Document} {f : Failure} (h : d.Known R first c k)
    (active : c.phase = .active) (hr : c.remote.isSome) (hn : Cursor.readNext result = .error f)
    (hk : k'.Informed first (d.settle result)) :
    (d.settle result).Known R first ({ c with inFlight := false }.fail (c.named f)) k' := by
  have unspoiled := h.unspoiled active
  have unbroken : c.connectionBroken = false :=
    Bool.eq_false_iff.mpr fun hb => by cases unspoiled.symm.trans (h.broken hb)
  rw [Dialogue.settle_error hn, unspoiled, Bool.false_or, Cursor.spoils_named hr f] at hk ⊢
  refine
    { ns := h.ns
      control := hk
      named := fun remote hr => ?_
      spoiled := fun hs => ⟨by simp [Cursor.fail], ?_⟩
      broken := fun hb => ?_
      killed := fun hk => absurd (h.alive hr) hk
      owed := fun _ _ hs => .inl ?_
      busy := fun _ hf => by cases hf }
  · simp only [Cursor.fail] at hr
    split at hr
    · cases hr
    · exact h.named remote hr
  · rcases Bool.or_eq_true_iff.mp hs with hs | hs
    · exact .inr (by simp [Cursor.fail, hs])
    · exact .inl (by simp [Cursor.fail, hs])
  · simp only [Cursor.fail, unbroken, Bool.false_or] at hb
    simp only [hb, Bool.true_or]
  · have hf := (Bool.or_eq_false_iff.mp hs).2
    simpa [Cursor.fail, hf] using hr

end Dialogue.Known

/-- Every command was sent as it should be, and the cursor knows what the journal says. -/
structure Situation.Informed (R : Rules) (before : Counts) (first : BatchReply) (S : Situation) :
    Prop where
  lawful : S.session.Lawful before first
  known : (S.session.dialogue first).Known R first S.session.cursor S.control

namespace Situation

variable {R : Rules} {S T : Situation} {reply : Document} {setting : Setting} {before : Counts}
  {first : BatchReply}

section

variable {s t : Session} {c d : Control} {h h' : History}

theorem Informed.quietly (hS : Informed R before first ⟨s, c, h⟩) (hq : s.Quietly t)
    (hk : (s.dialogue first).Known R first t.cursor d) : Informed R before first ⟨t, d, h'⟩ := by
  have heard : t.dialogue first = s.dialogue first := hq.dialogue
  exact ⟨hS.lawful.quietly hq, heard ▸ hk⟩

/-- A step that says nothing and leaves the cursor as it is. -/
theorem Informed.same (hS : Informed R before first ⟨s, c, h⟩) (hq : s.Quietly t)
    (hc : t.cursor = s.cursor) (ho : c.owes = false) (ha : c.asks = false)
    (hd : d.Informed first (s.dialogue first)) : Informed R before first ⟨t, d, h'⟩ :=
  hS.quietly hq (hS.known.moves (hc ▸ .refl _) (by rw [hc]) ho ha hd)

theorem Informed.finish (hS : Informed R before first ⟨s, c, h⟩) (call : Call)
    (ho : c.owes = false) (ha : c.asks = false) :
    Informed R before first ⟨(s.finish call).1, .idle, h'⟩ := by
  rcases s.finish_cases call with ⟨batch, -, hf⟩ | ⟨a, hf, -⟩
  · rw [hf]
    exact hS.quietly (.of_eq rfl) (hS.known.moves ⟨rfl, rfl, .inl rfl, id, id⟩ rfl ho ha trivial)
  · rw [hf]
    exact hS.same (.of_eq rfl) rfl ho ha trivial

/-- A request for a batch is sent. -/
theorem Informed.asked {call call' : Call} {stop : Option Bool} {sending : Sending}
    (hS : Informed R before first ⟨s, .calling call, h⟩) (hl : s.lending.Fair before)
    (sent : s.beginFetch stop = (t, .ok sending)) :
    Informed R before first ⟨t, .waiting (.batch call'), h'⟩ := by
  have known : (s.dialogue first).Known R first s.cursor (.calling call) := hS.known
  have hcounts := Session.beginFetch_counts sent
  obtain ⟨leased, remote, left, hr, -, hcmd, ht⟩ := Session.beginFetch_ok sent
  have held := hl.of_leased leased
  have hcursor : t.cursor = { s.cursor with inFlight := true } := by rw [ht]
  have hj : t.journal = s.journal ++ [.sent sending] := by rw [ht]
  obtain ⟨hid, hk⟩ := known.named remote hr
  have asks : sending.command.isGetMore = true := by rw [hcmd, Command.isGetMore_getMore]
  have spares : sending.command.isKill = false := by rw [hcmd, Command.isKill_getMore]
  have lawful : sending.Lawful before first s.journal :=
    { leased := congrArg Lending.events held
      counts := hcounts.trans (congrArg Lending.counts held)
      target := by rw [hcmd, Command.target?_getMore, known.ns, hid]; rfl
      newest := hid ▸ remote.id_ne_zero
      alive := hk
      known := .inl asks }
  refine ⟨hS.lawful.sent hj lawful, ?_⟩
  rw [Session.dialogue_append hj, hcursor]
  simp only [List.foldl_cons, List.foldl_nil, Dialogue.hear, asks, spares]
  exact { known with control := rfl, busy := fun _ _ => rfl }

/-- A request for a batch has its result. -/
theorem Informed.settled {call : Call} {result : Except Failure Document}
    {outcome : Except Failure Unit} (hS : Informed R before first ⟨s, .waiting (.batch call), h⟩)
    (hc : Coherent ⟨s, .waiting (.batch call), h⟩)
    (settled : (s.deliver result).settleFetch result = (t, outcome)) :
    Informed R before first ⟨t, .due t (.ofFetch call outcome), h'⟩ := by
  have known : (s.dialogue first).Known R first s.cursor _ := hS.known
  have hr : s.cursor.remote.isSome := hc.fits.remote
  have active : s.cursor.phase = .active := hc.fits.active hr
  have asking : (s.dialogue first).asking = true := known.control
  have hq := Session.settleFetch_quietly settled
  have heard : t.dialogue first = (s.dialogue first).settle result := by
    rw [hq.dialogue, Session.deliver_dialogue]
    simp [Dialogue.hear, asking]
  have onward := Control.Informed.due first ((s.dialogue first).settle result) t
    (.ofFetch call outcome)
  refine ⟨(hS.lawful.deliver result).quietly hq, ?_⟩
  rw [heard]
  rcases Session.settleFetch_cases settled with
      ⟨r, n, hn, -, ht⟩ | ⟨f, n, hn, hf, -, ht⟩ | ⟨f, n, hn, -, -, ht⟩
  · have hcursor : t.cursor = { s.cursor with inFlight := false }.absorb r := by rw [ht]; rfl
    exact hcursor ▸ known.absorbed active hr hn onward
  · have hcursor : t.cursor = { s.cursor with inFlight := false } := by rw [ht]; rfl
    exact hcursor ▸ known.calledOff hr hn hf onward
  · have hcursor : t.cursor =
        { s.cursor with inFlight := false }.fail (s.cursor.named f) := by rw [ht]; rfl
    exact hcursor ▸ known.failed active hr hn onward

/-- The server's cursor is let go of, with a command to end it if that can and has to be sent. -/
theorem Informed.letGo {after : Aftermath} (hS : Informed R before first ⟨s, c, h⟩)
    (ho : c.owes = false) (ha : c.asks = false) (hq : s.Quietly t) (hc : s.cursor.Fades t.cursor) :
    Informed R before first ⟨t, .cleaning s.takeKill.2 after, h'⟩ := by
  have known : (s.dialogue first).Known R first s.cursor c := hS.known
  refine hS.quietly hq (known.fades hc ?_ ?_ fun _ h => by simp [ha] at h)
  · cases hk : s.takeKill.2 with
    | none => trivial
    | some command =>
      rw [Session.takeKill_snd, Cursor.takeKill_kill] at hk
      split at hk
      · cases hk
      · next hb =>
        simp only [Bool.or_eq_true, not_or, Bool.not_eq_true] at hb
        obtain ⟨remote, hr, rfl⟩ := Option.map_eq_some_iff.mp hk
        obtain ⟨hid, alive⟩ := known.named remote hr
        refine ⟨Command.isKill_kill _ _, ?_, hid ▸ remote.id_ne_zero, ?_, alive⟩
        · rw [Command.target?_kill, known.ns, hid]
        · refine Bool.eq_false_iff.mpr fun hs => ?_
          rcases (known.spoiled hs).2 with hn | hn
          · cases hr.symm.trans hn
          · cases hb.1.symm.trans hn
  · intro hR hs hr
    have unbroken : s.cursor.connectionBroken = false :=
      Bool.eq_false_iff.mpr fun hb => by cases hs.symm.trans (known.broken hb)
    have idle : s.cursor.inFlight = false :=
      Bool.eq_false_iff.mpr fun hf => by cases ha.symm.trans (known.busy hR hf)
    obtain ⟨remote, hr⟩ := Option.isSome_iff_exists.mp (by simpa [ho] using hr)
    refine .inr ?_
    simp [Session.takeKill_snd, Cursor.takeKill_kill, unbroken, idle, hr, Control.owes]

/-- The command that is due is sent. -/
theorem Informed.killing {kill : Option Command} {after : Aftermath} {stop : Option Bool}
    {sending : Sending} {saved : Option Span}
    (hS : Informed R before first ⟨s, .cleaning kill after, h⟩)
    (hc : Coherent ⟨s, .cleaning kill after, h⟩) (hl : s.lending.Fair before)
    (clean : s.cleanUp kill stop = (t, .killing sending saved)) :
    Informed R before first ⟨t, .waiting (.kill saved after), h'⟩ := by
  have known : (s.dialogue first).Known R first s.cursor (.cleaning kill after) := hS.known
  obtain ⟨leased, command, rfl, rfl⟩ := Session.cleanUp_killing clean
  have held := hl.of_leased leased
  obtain ⟨kills, target, newest, unspoiled, alive⟩ := known.control
  have spares := Command.isGetMore_of_isKill kills
  have lawful : (s.underKillTime.send command stop).2.Lawful before first s.journal :=
    { leased := congrArg Lending.events held
      counts := congrArg Lending.counts held
      target, newest, alive
      known := .inr kills }
  refine ⟨hS.lawful.sent rfl lawful, ?_⟩
  have heard : (s.underKillTime.send command stop).1.dialogue first =
      { s.dialogue first with asking := false, kills := 1 } := by
    have hj : (s.underKillTime.send command stop).1.journal =
        s.journal ++ [.sent (s.underKillTime.send command stop).2] := rfl
    rw [Session.dialogue_append hj]
    have hcmd : (s.underKillTime.send command stop).2.command = command := rfl
    simp only [List.foldl_cons, List.foldl_nil, Dialogue.hear, hcmd, kills, spares, alive, if_true]
  rw [heard]
  have gone : s.cursor.remote = none := hc.fits.1
  exact
    { ns := known.ns
      control := rfl
      named := fun remote hr => by cases gone.symm.trans hr
      spoiled := known.spoiled
      broken := known.broken
      killed := fun _ => ⟨rfl, newest, unspoiled⟩
      owed := fun _ _ _ => .inr (.inr Nat.one_ne_zero)
      busy := fun hR hf => by cases known.busy hR hf }

end

/-- Every step leaves a session that knows what its journal says. -/
theorem Step.informed (step : Step R S T) (hc : S.Coherent) (hl : S.session.lending.Fair before)
    (hS : S.Informed R before first) : T.Informed R before first := by
  cases step with
  | adjust deadline clock =>
    exact hS.quietly (.of_eq rfl)
      (hS.known.fades (.refl _) hS.known.control (fun _ _ => id) fun _ => id)
  | note n =>
    exact hS.quietly (Session.note_quietly n)
      (hS.known.fades (.refl _) hS.known.control (fun _ _ => id) fun _ => id)
  | setBatchSize n =>
    exact hS.quietly (.of_eq rfl)
      (hS.known.moves ⟨rfl, rfl, .inl rfl, id, id⟩ rfl rfl rfl trivial)
  | inspect => exact hS.same (.of_eq rfl) rfl rfl rfl trivial
  | enter call isOpen => exact hS.same Session.beginCall_quietly (by simp) rfl rfl trivial
  | stay closed ha => exact hS.same (.of_eq rfl) rfl rfl rfl trivial
  | finish settled => exact hS.finish _ rfl rfl
  | halt halt => exact hS.same (.of_eq rfl) rfl rfl rfl trivial
  | ask needed sent => exact hS.asked hl sent
  | refuse allowed needed refused settled =>
    obtain ⟨since, n, -, -, rfl⟩ := hc.refused needed refused settled
    exact hS.quietly (Session.note_quietly n)
      (hS.known.moves ⟨rfl, by simp [Cursor.fail, Failure.breaksConnection], .inl rfl,
        by simp [Cursor.fail], by simp [Cursor.fail]⟩ rfl rfl rfl (.due first _ _ _))
  | settle result settled => exact hS.settled hc settled
  | lose allowed =>
    exact hS.quietly (.of_eq rfl) (hS.known.fades (.refl _) trivial
      (fun hR => absurd allowed hR) fun hR => absurd allowed hR)
  | @takeKill s after h =>
    obtain ⟨notes, ht⟩ := Session.takeKill_fst s
    exact hS.letGo rfl rfl Session.takeKill_quietly
      (by rw [ht]; exact ⟨rfl, rfl, .inr rfl, id, id⟩)
  | spare clean =>
    cases Session.cleanUp_spared hc.fits.2.1 clean
    cases Session.cleanUp_finished clean
    exact hS.same Session.giveBack_quietly (by simp) rfl rfl trivial
  | sendKill clean => exact hS.killing hc hl clean
  | @settleKill s saved after h result =>
    have hd : (s.deliver result).dialogue first = s.dialogue first := by
      have asking : (s.dialogue first).asking = false := hS.known.control
      simp [Session.deliver_dialogue, Dialogue.hear, asking]
    have heard : Informed R before first ⟨s.deliver result, .waiting (.kill saved after), h⟩ :=
      ⟨hS.lawful.deliver result, hd.symm ▸ hS.known⟩
    exact heard.same (Session.settleKill_quietly saved result) (by simp) rfl rfl trivial
  | breakKill allowed =>
    exact hS.same (Session.breakKill_quietly _) (by simp) rfl rfl trivial
  | opened => exact hS.same (.of_eq rfl) rfl rfl rfl trivial
  | again more => exact hS.same (.of_eq rfl) rfl rfl rfl trivial
  | content => exact hS.finish .tryNext rfl rfl
  | fail => exact hS.same (.of_eq rfl) rfl rfl rfl trivial
  | relent returns => exact hS.same (.of_eq rfl) rfl rfl rfl trivial
  | shut allowed =>
    have gone := hc.fits.2.1 rfl
    exact hS.quietly (.of_eq rfl)
      (hS.known.moves ⟨rfl, rfl, .inr rfl, by simp [Cursor.close], by simp [Cursor.close]⟩
        gone.symm rfl rfl trivial)
  | close ha => exact hS.same (.of_eq rfl) rfl rfl rfl trivial
  | retire finished => exact hS.same (.of_eq rfl) rfl rfl rfl trivial
  | dropAndClose => exact hS.same (.of_eq rfl) rfl rfl rfl trivial
  | @dropAndLeave s h =>
    obtain ⟨notes, ht⟩ := Session.takeKill_fst s
    refine hS.letGo rfl rfl (Session.takeKill_quietly.trans (.of_eq rfl)) ?_
    simp only [Session.close_cursor, ht]
    exact ⟨rfl, rfl, .inr rfl, by simp [Cursor.close], by simp [Cursor.close]⟩
  | @forsake s kill h allowed =>
    refine hS.quietly Session.giveBack_quietly (hS.known.fades ?_ trivial ?_ fun _ => id)
    · rw [Session.giveBack_cursor]
      exact .refl _
    · intro hR _ hr
      have spared : kill = none := by
        cases kill with
        | none => rfl
        | some command => exact absurd (allowed (hc.fits.2.1 rfl)) hR
      subst spared
      exact .inl (by simpa [Control.owes] using hr)
  | bury ended returned =>
    have gone : _ = none := Option.not_isSome_iff_eq_none.mp
      (by rw [← hc.fits.leased, returned]; simp)
    exact hS.quietly (.of_eq rfl)
      (hS.known.moves ⟨rfl, rfl, .inr rfl, by simp [Cursor.close], by simp [Cursor.close]⟩
        gone.symm rfl rfl trivial)

theorem opening_informed {s : Session} (hs : Session.ofReply reply setting = .ok s) :
    ∃ first, BatchReply.ofDocument .first reply = .ok first ∧
      (opening reply setting s).Informed R setting.counts first := by
  obtain ⟨first, n, hr, hc, -⟩ := Session.ofReply_ok hs
  have quiet := Session.ofReply_quietly hs
  have hd : s.dialogue first = ⟨first.id, false, 0, false⟩ := quiet.dialogue
  refine ⟨first, hr, ?_, ?_⟩
  · refine Session.Lawful.quietly (fun pre sending post hj => ?_) quiet
    simp at hj
  · simp only [opening, hd, hc]
    exact
      { ns := rfl
        control := .due first _ _ _
        named := fun remote hr => ⟨RemoteCursor.ofId?_eq_some hr, rfl⟩
        spoiled := fun h => by cases h
        broken := fun h => by cases h
        killed := fun h => absurd rfl h
        owed := fun _ hn _ => .inl (RemoteCursor.ofId?_isSome hn)
        busy := fun _ h => by cases h }

theorem Course.kept_informed (course : Course R S T) (hc : S.Coherent)
    (hl : S.session.lending.Fair before) (hi : S.Informed R before first) :
    T.Coherent ∧ T.session.lending.Fair before ∧ T.Informed R before first := by
  induction course with
  | refl => exact ⟨hc, hl, hi⟩
  | tail course step ih =>
    obtain ⟨hc, hl, hi⟩ := ih
    exact ⟨step.coherent hc, step.fair hc hl, step.informed hc hl hi⟩

/-- Where the rules hold from the first reply on, sessions know what their journals say. -/
theorem Course.informed {s : Session} (hs : Session.ofReply reply setting = .ok s)
    (course : Course R (opening reply setting s) S) :
    ∃ first, BatchReply.ofDocument .first reply = .ok first ∧
      S.Informed R setting.counts first := by
  obtain ⟨first, hr, hi⟩ := opening_informed (R := R) hs
  exact ⟨first, hr, (Course.kept_informed course (.opening hs) (opening_fair hs) hi).2.2⟩

theorem Courses.informed (hS : Courses reply setting S) :
    ∃ first, BatchReply.ofDocument .first reply = .ok first ∧
      S.Informed (fun _ => True) setting.counts first := by
  obtain ⟨s, hs, course⟩ := hS
  exact Course.informed hs course

end Situation

end ResultCursor
