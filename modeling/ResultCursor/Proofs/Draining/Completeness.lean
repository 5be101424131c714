import ResultCursor.Proofs.Draining.Calls

/-! A cursor that is read to its end hands out the whole collection, as far as its cap allows, in
order and once. It leaves nothing behind: no cursor at the server and no lease. -/

namespace ResultCursor

open Peer (MemoryServer)
open Table (Current Lands)

namespace Reading

variable {r : Reading} {s : Session} {y : MemoryServer} {rest : List Document} {h : History}

/-! ### Opening -/

/-- A reply to the first query is taken over, whatever documents it holds. -/
theorem takes_first (r : Reading) {setting : Setting} (plain : setting.options.fault? = none)
    (unlimited : setting.deadline.overall = (none, none)) (counts : setting.counts = r.counts)
    (server : y.Calm r.collections) (id : Int64) (batch : List Document) :
    ∃ s, Session.ofReply (MemoryServer.replyBody "firstBatch" id r.ns batch) setting = .ok s ∧
      s.cursor = (Cursor.fresh r.name batch.isEmpty setting.address setting.options).absorb
        (r.reply id batch) ∧
      s.leased = s.cursor.remote.isSome ∧ r.Calm s y ∧ Current y 0 s := by
  have read := BatchReply.ofDocument_replyBody .first id r.named batch
  obtain ⟨s, hs⟩ : ∃ s, Session.ofReply
      (MemoryServer.replyBody "firstBatch" id r.ns batch) setting = .ok s := by
    have opened : ∃ c, Cursor.ofReply (MemoryServer.replyBody "firstBatch" id r.ns batch)
        setting.address setting.options = .ok c := by
      rw [Cursor.ofReply, plain]
      dsimp only
      rw [show BatchReply.ofDocument .first (MemoryServer.replyBody "firstBatch" id r.ns batch) = _
        from read]
      exact ⟨_, rfl⟩
    obtain ⟨c, hc⟩ := opened
    rw [Session.ofReply_eq, hc]
    exact ⟨_, rfl⟩
  obtain ⟨first, n, read', cursor, leased, lent⟩ := Session.ofReply_ok hs
  cases read.symm.trans read'
  have current := (Current.refl y { s with journal := [] }).quietly server.released_eq
    (Session.ofReply_quietly hs)
  refine ⟨s, hs, cursor, leased, ⟨server, ?_, ?_, by rw [cursor]; rfl, by rw [cursor]; rfl⟩,
    current⟩
  · rw [Session.ofReply_deadline hs, unlimited]
  · rcases lent with ⟨hl, hn, -⟩ | ⟨hl, hn, -⟩ <;> rw [hl, hn, counts] <;> rfl

/-- A cursor that was opened on the reply to the first query. -/
theorem opens (r : Reading) {setting : Setting} (plain : setting.options.fault? = none)
    (unlimited : setting.deadline.overall = (none, none)) (counts : setting.counts = r.counts)
    (capped : setting.options.quota.cap = r.cap) :
    ∃ y reply s, ({ collections := r.collections } : MemoryServer).find
        ⟨r.ns, setting.options.quota.initialBatchSize, false, false⟩ = (y, reply) ∧
      Session.ofReply reply setting = .ok s ∧ r.Took r.goal s y ∧ Current y 0 s := by
  let x : MemoryServer := { collections := r.collections }
  have documents : x.documents r.ns = r.documents := rfl
  have start : setting.options.quota.At r.cap 0 := capped ▸ Quota.at_zero rfl
  obtain ⟨n, inside, fits, found⟩ := MemoryServer.find_initial (q := setting.options.quota) rfl
    documents
  rw [capped] at fits found
  have size : (r.documents.take n).length = n := List.length_take_of_le inside
  have room : ∀ c, r.cap = some c → 0 + (r.documents.take n).length ≤ c := by
    simpa [size] using fits
  have split : r.goal = r.documents.take n ++ r.goal.drop n := by
    have part := take_drop_upTo (k := 0) (by simpa using fits) r.documents
    simp only [List.drop_zero] at part
    rw [← part]
    exact (List.take_append_drop n r.goal).symm
  rcases found with ⟨found, last⟩ | ⟨id, hid, single, pos, inner, found⟩
  · have server : x.Calm r.collections := ⟨rfl, rfl, rfl, rfl, rfl⟩
    obtain ⟨s, opened, cursor, leased, calm, current⟩ :=
      r.takes_first plain unlimited counts server 0 (r.documents.take n)
    refine ⟨x, _, s, found, opened, .last ?_, current⟩
    rw [split, goal, drop_upTo_eq_nil last, List.append_nil]
    exact spent_of_absorb calm cursor (start.admitted_eq room) (.inl rfl) (absurd rfl) rfl
  · let z : MemoryServer :=
      { x with opened := x.opened + 1, cursors := [⟨id, r.ns, n, false, false⟩] }
    have server : z.Calm r.collections := ⟨rfl, rfl, rfl, rfl, rfl⟩
    have named : id ≠ 0 := by
      rw [hid]
      exact (by decide : Int64.ofNat 1001 ≠ 0)
    obtain ⟨s, opened, cursor, leased, calm, current⟩ :=
      r.takes_first plain unlimited counts server id (r.documents.take n)
    have leased : s.leased = true := by
      rw [leased, cursor]
      simp [Cursor.absorb, RemoteCursor.ofId?, reply, named]
    refine ⟨z, _, s, found, opened, ?_, current⟩
    by_cases reached : r.cap = some n
    · rw [split, goal, drop_upTo_eq_nil (.inr reached), List.append_nil]
      have stops := (start.charge room).stopsAfterBatch_iff.mpr
        (.inr (by rwa [size, Nat.zero_add]))
      exact .last (spent_of_absorb calm cursor (start.admitted_eq room) (.inr stops)
        (fun _ => leased) (by simp [z, named]))
    · have more := open_of_absorb calm cursor rfl start single room
        (by rwa [size, Nat.zero_add]) (by rwa [size, Nat.zero_add]) named leased rfl
        (by rw [size, Nat.zero_add])
      rw [size, Nat.zero_add] at more
      exact .more more (List.ne_nil_of_length_pos (by omega)) split

/-! ### Draining -/

theorem Owes.done_of_nil (owes : r.Owes [] s y) : r.Done [] s y := by
  cases owes with
  | done done => exact done
  | more more hr => exact absurd (List.append_eq_nil_iff.mp hr.symm).2 more.goal_drop_ne_nil

/-- Whatever is to be handed out is handed out, in batches that are not empty. Every round hands out
a document at least. -/
theorem Owes.drain (owes : r.Owes rest s y) (he : h.ended = false) {sizes : Nat → List Int32}
    (hs : ∀ k, ∀ size ∈ sizes k, 0 ≤ size) {rounds : Nat} (hr : rest.length + 3 ≤ rounds) :
    ∃ batches t h' z,
      (Table.resting s h y).drain Blocking.usage rounds sizes =
        some (batches, Table.resting t h' z) ∧
      batches.flatten = rest ∧ r.Done [] t z := by
  induction rounds generalizing s h y rest sizes with
  | zero => omega
  | succ rounds ih =>
    obtain ⟨n, rfl⟩ : ∃ n, rounds = n + 2 := ⟨rounds - 2, by omega⟩
    obtain ⟨s₁, h₁, y₁, resized, he₁, owes₁, -⟩ := owes.resize (n := n + 2) he (hs 0)
    obtain ⟨s₂, h₂, y₂, a, asked, he₂, ha, rfl, owes₂, ready⟩ := owes₁.hasNext (n := n) he₁
    have answered :
        (Table.resting s₂ h₂ y₂).answer? Blocking.usage = some (.more (!rest.isEmpty)) := ha
    cases rest with
    | nil =>
      exact ⟨[], s₂, h₂, y₂, Table.drain_end resized asked answered, rfl, owes₂.done_of_nil⟩
    | cons d rest =>
      obtain ⟨s₃, h₃, y₃, resized', he₃, owes₃, hb⟩ := owes₂.resize (n := n + 2) he₂ (hs 1)
      have ready : s₃.cursor.buffered = true := by
        rw [Cursor.buffered, hb]
        exact ready (by simp)
      obtain ⟨s₄, h₄, y₄, a, asked', he₄, ha', batch, left, rfl, hn, split, owes₄⟩ :=
        owes₃.next (n := n + 2) ready he₃
      have handed : (Table.resting s₄ h₄ y₄).answer? Blocking.usage = some (.batch batch) := ha'
      have shorter : left.length < (d :: rest).length := by
        have := List.length_pos_iff.mpr hn
        rw [split, List.length_append]
        omega
      obtain ⟨batches, t, h', z, drained, flat, done⟩ :=
        ih owes₄ he₄ (fun k => hs (k + 2)) (by omega)
      exact ⟨batch :: batches, t, h', z,
        Table.drain_cons resized asked answered resized' asked' handed drained,
        by rw [List.flatten_cons, flat, split], done⟩

/-- The cursor is opened, and waits for nothing. -/
theorem Took.start (took : r.Took rest s y) (current : Current y 0 s) {reply : Document}
    {setting : Setting} (opened : Session.ofReply reply setting = .ok s) (n : Nat) :
    ∃ p, Blocking.start reply setting = .ok p ∧
      Lands (fun _ t z => r.Owes rest t z) (Table.settle Blocking.usage (n + 2) ⟨p, y, 0⟩) := by
  have ended : (History.ofReply reply setting).ended = false := by
    unfold History.ofReply
    split <;> rfl
  have lands := took.lands (b := ⟨s, {}⟩) (n := n) (a := .done) current rfl ended
    (fun b => show b.resumeAfter .opened = Blocking.opened b from rfl) fun _ _ _ _ => rfl
  have same : (if s.cursor.phase = .exhausted then
        Blocking.afterCleanup ⟨s, {}⟩ .opened Blocking.opened else Blocking.opened ⟨s, {}⟩) =
      if s.cursor.phase = .active then Blocking.opened ⟨s, {}⟩
        else Blocking.afterCleanup ⟨s, {}⟩ .opened Blocking.opened := by
    cases took with
    | last spent => simp [spent.phase]
    | more more nonempty hr => simp [more.phase]
  rw [← same] at lands
  refine ⟨_, ?_, lands.mono fun a t z h => h.2.1⟩
  simp only [Blocking.start, Blocking.ofReply_eq, opened]

end Reading

/-- A collection that does not change, read to its end by a cursor of either kind. Whatever the
limit and the batch size, and whatever batch sizes that are not negative are set between the calls,
`hasNext` and `next` in turn come to an end within three more rounds than there are documents. By
then the documents up to the cap that the cursor was opened with have been handed out in order, and
no others. The server has no cursor left and saw no rule broken, and the counts are as they were
before. -/
theorem read_completely {collections : List (String × List Document)} {ns : String}
    {name : Namespace} {setting : Setting} {sizes : Nat → List Int32} {rounds : Nat}
    (named : Namespace.ofText? ns = some name) (plain : setting.options.fault? = none)
    (unlimited : setting.deadline.overall = (none, none))
    (nonneg : ∀ k, ∀ size ∈ sizes k, 0 ≤ size)
    (enough : ((collections.lookup ns).getD []).length + 3 ≤ rounds) :
    ∃ batches b c,
      Table.readAll Blocking.usage rounds sizes { collections } ns setting = some (batches, b) ∧
      Table.readAll Shared.usage rounds sizes { collections } ns setting = some (batches, c) ∧
      batches.flatten = upTo setting.options.quota.cap ((collections.lookup ns).getD []) ∧
      b.server = c.server ∧ b.server.cursors = [] ∧ b.server.violations = [] ∧
      b.cursor.session.counts = setting.counts ∧ c.cursor.session.counts = setting.counts := by
  let r : Reading := ⟨collections, ns, name, named, setting.options.quota.cap, setting.counts⟩
  obtain ⟨y, reply, s, found, opened, took, current⟩ := r.opens plain unlimited rfl rfl
  obtain ⟨n, rfl⟩ : ∃ n, rounds = n + 2 := ⟨rounds - 2, by omega⟩
  obtain ⟨p, started, s', h, y', a, settled, inUse, -, owes⟩ := took.start current opened n
  have size : r.goal.length + 3 ≤ n + 2 := by
    refine Nat.le_trans (Nat.add_le_add_right ?_ 3) enough
    exact r.goal_length_le
  obtain ⟨batches, t, h', z, drained, flat, done⟩ := owes.drain inUse nonneg size
  have blocking : Table.readAll Blocking.usage (n + 2) sizes { collections } ns setting =
      some (batches, Table.resting t h' z) := by
    have start : Blocking.usage.start reply setting = .ok p := started
    simp only [Table.readAll]
    rw [found]
    simp only [start, settled, Option.bind_eq_bind, Option.bind_some]
    exact drained
  obtain ⟨c, shared, beside⟩ := Table.readAll_follows usages_match blocking
  have sight := congrArg (fun s : Sight => s.session.counts) (usages_match.sight beside.cursors)
  exact ⟨batches, _, c, blocking, shared, flat, beside.server.symm, done.no_cursors,
    done.server.violations, done.counts_eq, sight.trans done.counts_eq⟩

/-- A limit of five on six documents, of which the first batch holds two. Batch sizes of seven and
then of zero are set before it is handed out, so that the next request asks for what is left. -/
theorem read_completely_up_to_limit :
    let documents := [item 1, item 2, item 3, item 4, item 5, item 6]
    let setting : Setting :=
      { plainSetting .unlimited with options := { limit := 5, batchSize := 2 } }
    let sizes : Nat → List Int32 := fun k => if k = 1 then [7, 0] else []
    Namespace.ofText? "db.items" = some ⟨"db", "items"⟩ ∧ setting.options.fault? = none ∧
      setting.deadline.overall = (none, none) ∧ (∀ k, ∀ size ∈ sizes k, 0 ≤ size) ∧
      ∃ batches b c,
        Table.readAll Blocking.usage 9 sizes { collections := [("db.items", documents)] } "db.items"
          setting = some (batches, b) ∧
        Table.readAll Shared.usage 9 sizes { collections := [("db.items", documents)] } "db.items"
          setting = some (batches, c) ∧
        batches.flatten = [item 1, item 2, item 3, item 4, item 5] ∧
        b.server = c.server ∧ b.server.cursors = [] ∧ b.server.violations = [] ∧
        b.cursor.session.counts = ⟨1, 1⟩ ∧ c.cursor.session.counts = ⟨1, 1⟩ := by
  intro documents setting sizes
  have named : Namespace.ofText? "db.items" = some ⟨"db", "items"⟩ := by rfl
  have nonneg : ∀ k, ∀ size ∈ sizes k, 0 ≤ size := by
    intro k size hs
    simp only [sizes] at hs
    split at hs <;> simp at hs
    rcases hs with rfl | rfl <;> decide
  exact ⟨named, rfl, rfl, nonneg, read_completely named rfl rfl nonneg (by decide)⟩

end ResultCursor
