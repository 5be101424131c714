import ResultCursor.Proofs.Serving.Operations

/-! The batches that the server in memory hands out. Whatever happens at the server, and in whatever
order, each of its cursors stands inside its collection, and the batches that came from a cursor
are, one after the other, what the collection begins with. No number is given to two cursors, and a
reply has the number zero exactly if the cursor is gone with it. -/

namespace ResultCursor.Peer.MemoryServer

variable {s t : MemoryServer} {op : Operation} {reply : Option Document} {x : Exchange}
  {history : List Exchange} {id : Int64} {ns : String} {batch : List Document}

/-- The numbers that were given to cursors, and the collections of these. -/
def issued (history : List Exchange) : List (Int64 × String) := history.filterMap Exchange.issue?

/-- The batches that came from a cursor. -/
def batchesOf (id : Int64) (history : List Exchange) : List (List Document) :=
  history.filterMap fun x => x.delivery?.bind fun d => if d.1 = id then some d.2 else none

/-! ### Single exchanges -/

theorem delivery?_find (q : Query) (id : Int64) (ns : String) (batch : List Document) :
    Exchange.delivery? ⟨.find q, some (replyBody "firstBatch" id ns batch)⟩ = some (id, batch) :=
  contents?_replyBody .first id ns batch

theorem issue?_find (q : Query) (id : Int64) (ns : String) (batch : List Document) :
    Exchange.issue? ⟨.find q, some (replyBody "firstBatch" id ns batch)⟩ =
      if id = 0 then none else some (id, q.ns) := by
  have read := contents?_replyBody .first id ns batch
  simp only [BatchReply.Place.fieldName] at read
  simp only [Exchange.issue?, Option.bind_some, read, Option.bind_eq_bind]

theorem plain_of_request? {command : Command} (asks : op.request? = some command) :
    ∀ q, op ≠ .find q := by
  rintro q rfl
  cases asks

theorem issue?_of_plain (plain : ∀ q, op ≠ .find q) : Exchange.issue? ⟨op, reply⟩ = none := by
  cases op with
  | find q => exact absurd rfl (plain q)
  | _ => rfl

theorem delivery?_of_plain (plain : ∀ q, op ≠ .find q) :
    Exchange.delivery? ⟨op, reply⟩ = (op.request?.bind named?).bind fun id =>
      (reply.bind (contents? .next)).bind fun d => some (id, d.2) := by
  cases op with
  | find q => exact absurd rfl (plain q)
  | _ => rfl

theorem delivery?_hands {command : Command} {c : OpenCursor} (asks : op.request? = some command)
    (named : named? command = some c.id) :
    Exchange.delivery? ⟨op, some (s.batchReply c command)⟩ = some (c.id, s.taken c command) := by
  have read := contents?_replyBody .next (if s.finishes c command then 0 else c.id) c.ns
    (s.taken c command)
  rw [delivery?_of_plain (plain_of_request? asks), asks, Option.bind_some, named,
    Option.bind_some, Option.bind_some,
    show contents? .next (s.batchReply c command) = _ from read, Option.bind_some]

theorem delivery?_silent (plain : ∀ q, op ≠ .find q) (silent : op.request? = none ∨ reply = none) :
    Exchange.delivery? ⟨op, reply⟩ = none := by
  rw [delivery?_of_plain plain]
  rcases silent with none | none <;> simp [none]

/-! ### One more exchange -/

theorem issued_concat (history : List Exchange) (x : Exchange) :
    issued (history ++ [x]) = issued history ++ x.issue?.toList := by
  rw [issued, List.filterMap_append]
  cases hx : x.issue? <;> simp [issued, hx]

theorem batchesOf_concat (given : x.delivery? = some (id, batch)) :
    batchesOf id (history ++ [x]) = batchesOf id history ++ [batch] := by
  simp [batchesOf, given]

theorem batchesOf_concat_other (other : ∀ batch, x.delivery? ≠ some (id, batch)) :
    batchesOf id (history ++ [x]) = batchesOf id history := by
  have nothing : x.delivery?.bind (fun d => if d.1 = id then some d.2 else none) = none := by
    cases hx : x.delivery? with
    | none => rfl
    | some d =>
      refine if_neg fun same => other d.2 ?_
      rw [hx, ← same]
  simp [batchesOf, nothing]

theorem batchesOf_concat_ne {i : Int64} (given : x.delivery? = some (i, batch)) (apart : id ≠ i) :
    batchesOf id (history ++ [x]) = batchesOf id history := by
  refine batchesOf_concat_other fun other same => apart ?_
  cases given.symm.trans same
  rfl

theorem ne_zero_of_issued (known : (id, ns) ∈ issued history) : id ≠ 0 := by
  obtain ⟨⟨op, reply⟩, -, gives⟩ := List.mem_filterMap.mp known
  cases op with
  | find q =>
    obtain ⟨⟨i, given⟩, -, named⟩ := Option.bind_eq_some_iff.mp gives
    simp only [Option.ite_none_left_eq_some, Option.some.injEq, Prod.mk.injEq] at named
    exact named.2.1 ▸ named.1
  | _ => cases gives

/-! ### Numbers -/

theorem toInt_numberOf {k : Nat} (room : k < mostCursors) :
    (numberOf k).toInt = (1000 + (k + 1) : Nat) :=
  Int64.toInt_ofNat_of_lt (by unfold mostCursors at room; omega)

theorem freshId_ne_zero (room : s.opened < mostCursors) : s.freshId ≠ 0 := by
  intro zero
  have value := toInt_numberOf room
  rw [show numberOf s.opened = 0 from zero, Int64.toInt_zero] at value
  omega

theorem nodup_numbers {n : Nat} (room : n ≤ mostCursors) :
    ((List.range n).map numberOf).Nodup := by
  refine List.nodup_range.map_on fun i hi k hk same => ?_
  rw [List.mem_range] at hi hk
  have left := toInt_numberOf (k := i) (by omega)
  have right := toInt_numberOf (k := k) (by omega)
  rw [same] at left
  omega

/-! ### What every operation keeps -/

/-- The server stands as its history says. -/
structure Follows (history : List Exchange) (s : MemoryServer) : Prop where
  numbers : (issued history).map Prod.fst = (List.range s.opened).map numberOf
  room : s.opened ≤ mostCursors
  distinct : s.Distinct
  /-- An open cursor has its number from a query, and stands behind what it has handed out. -/
  known : ∀ c ∈ s.cursors, (c.id, c.ns) ∈ issued history ∧
    c.position = (batchesOf c.id history).flatten.length
  /-- What a cursor has handed out is what its collection begins with. -/
  begins : ∀ id ns, (id, ns) ∈ issued history → (batchesOf id history).flatten <+: s.documents ns
  /-- Nothing comes from a cursor that is yet to be opened. -/
  unread : ∀ id, id ≠ 0 → id ∉ (issued history).map Prod.fst → batchesOf id history = []

namespace Follows

theorem start (collections : List (String × List Document)) : Follows [] { collections } where
  numbers := rfl
  room := Nat.zero_le _
  distinct := List.nodup_nil
  known := nofun
  begins := nofun
  unread _ _ _ := rfl

theorem nodup_issued (h : Follows history s) : ((issued history).map Prod.fst).Nodup := by
  rw [h.numbers]
  exact nodup_numbers h.room

theorem length_issued (h : Follows history s) : (issued history).length = s.opened := by
  simpa using congrArg List.length h.numbers

theorem freshId_unissued (h : Follows history s) (room : s.opened < mostCursors) :
    s.freshId ∉ (issued history).map Prod.fst := by
  have all := nodup_numbers room
  rw [List.range_succ, List.map_append, List.nodup_append] at all
  rw [h.numbers]
  exact fun known => all.2.2 _ known _ (List.mem_singleton.mpr rfl) rfl

theorem handed_eq (h : Follows history s) {c : OpenCursor} (hc : c ∈ s.cursors) :
    (batchesOf c.id history).flatten = (s.documents c.ns).take c.position := by
  obtain ⟨known, stands⟩ := h.known c hc
  rw [stands]
  exact List.prefix_iff_eq_take.mp (h.begins _ _ known)

theorem in_range (h : Follows history s) {c : OpenCursor} (hc : c ∈ s.cursors) :
    c.position ≤ (s.documents c.ns).length := by
  obtain ⟨known, stands⟩ := h.known c hc
  rw [stands]
  exact (h.begins _ _ known).length_le

/-- An exchange that hands out nothing from the cursors that are open or were. -/
theorem rests (h : Follows history s) (idle : ∀ i, i ≠ 0 → ∀ batch, x.delivery? ≠ some (i, batch))
    (unissued : x.issue? = none) (grows : ∀ ns, s.documents ns <+: t.documents ns)
    (opened : t.opened = s.opened) (cursors : t.cursors.Sublist s.cursors) :
    Follows (history ++ [x]) t := by
  have same : issued (history ++ [x]) = issued history := by simp [issued_concat, unissued]
  have batches {i : Int64} (hi : i ≠ 0) : batchesOf i (history ++ [x]) = batchesOf i history :=
    batchesOf_concat_other (idle i hi)
  constructor
  case numbers => rw [same, opened, h.numbers]
  case room =>
    rw [opened]
    exact h.room
  case distinct => exact h.distinct.sublist (cursors.map _)
  case known =>
    intro c hc
    obtain ⟨known, stands⟩ := h.known c (cursors.subset hc)
    rw [same, batches (ne_zero_of_issued known)]
    exact ⟨known, stands⟩
  case begins =>
    intro i ns known
    rw [same] at known
    rw [batches (ne_zero_of_issued known)]
    exact (h.begins i ns known).trans (grows ns)
  case unread =>
    intro i hi new
    rw [same] at new
    rw [batches hi]
    exact h.unread i hi new

/-- An exchange that opens a cursor. -/
theorem opens (h : Follows history s) {q : Query}
    (gives : x.delivery? = some (s.freshId, s.firstBatch q))
    (numbered : x.issue? = some (s.freshId, q.ns)) (room : s.opened < mostCursors)
    (collections : t.collections = s.collections) (opened : t.opened = s.opened + 1)
    (cursors : t.cursors = s.cursors ++ [s.cursorFor q]) : Follows (history ++ [x]) t := by
  have fresh := h.freshId_unissued room
  have older {i : Int64} {ns : String} (known : (i, ns) ∈ issued history) : i ≠ s.freshId :=
    fun same => fresh (same ▸ List.mem_map_of_mem known)
  have first : (batchesOf s.freshId (history ++ [x])).flatten = s.firstBatch q := by
    rw [batchesOf_concat gives, h.unread _ (freshId_ne_zero room) fresh, List.nil_append,
      List.flatten_singleton]
  have all : issued (history ++ [x]) = issued history ++ [(s.freshId, q.ns)] := by
    rw [issued_concat, numbered]
    rfl
  constructor
  case numbers =>
    rw [all, opened, List.range_succ, List.map_append, List.map_append, h.numbers]
    rfl
  case room =>
    rw [opened]
    exact room
  case distinct =>
    have apart : s.freshId ∉ s.cursors.map (·.id) := by
      intro taken
      obtain ⟨c, hc, same⟩ := List.mem_map.mp taken
      exact older (h.known c hc).1 same
    rw [Distinct, cursors, List.map_append]
    refine List.nodup_append.mpr ⟨h.distinct, List.nodup_singleton _, fun i hi j hj same => ?_⟩
    cases List.mem_singleton.mp hj
    subst same
    exact apart hi
  case known =>
    intro c hc
    rw [all]
    rw [cursors, List.mem_append, List.mem_singleton] at hc
    rcases hc with old | rfl
    · obtain ⟨known, stands⟩ := h.known c old
      rw [batchesOf_concat_ne gives (older known)]
      exact ⟨List.mem_append_left _ known, stands⟩
    · -- the new cursor starts behind the first batch, which is all that came from it
      refine ⟨List.mem_append_right _ (List.mem_singleton.mpr rfl), ?_⟩
      exact congrArg List.length first.symm
  case begins =>
    intro i ns hi
    rw [documents_of_collections collections]
    rw [all, List.mem_append, List.mem_singleton] at hi
    rcases hi with known | new
    · rw [batchesOf_concat_ne gives (older known)]
      exact h.begins i ns known
    · cases new
      rw [first]
      exact List.take_prefix _ _
  case unread =>
    intro i hi new
    rw [all, List.map_append, List.mem_append, not_or] at new
    rw [batchesOf_concat_ne gives fun same => new.2 (List.mem_singleton.mpr same)]
    exact h.unread i hi new.1

/-- An exchange that hands out the next batch of a cursor. -/
theorem hands (h : Follows history s) {command : Command} {c : OpenCursor} (hc : c ∈ s.cursors)
    (gives : x.delivery? = some (c.id, s.taken c command)) (unissued : x.issue? = none)
    (collections : t.collections = s.collections) (opened : t.opened = s.opened)
    (cursors : t.cursors = s.cursorsAfter c command) : Follows (history ++ [x]) t := by
  have known := (h.known c hc).1
  have within := position_add_amount_le (h.in_range hc) command
  have handed : (batchesOf c.id (history ++ [x])).flatten =
      (s.documents c.ns).take (c.position + s.amount c command) := by
    rw [batchesOf_concat gives, List.flatten_append, List.flatten_singleton, h.handed_eq hc,
      take_append_taken]
  have same : issued (history ++ [x]) = issued history := by simp [issued_concat, unissued]
  constructor
  case numbers => rw [same, opened, h.numbers]
  case room =>
    rw [opened]
    exact h.room
  case distinct =>
    rw [Distinct, cursors]
    exact h.distinct.cursorsAfter c command
  case known =>
    intro d hd
    rw [same]
    rw [cursors] at hd
    rcases h.distinct.mem_cursorsAfter hc hd with ⟨old, other⟩ | rfl
    · rw [batchesOf_concat_ne gives other]
      exact h.known d old
    · refine ⟨known, ?_⟩
      rw [handed, List.length_take, Nat.min_eq_left within]
  case begins =>
    intro i ns hi
    rw [same] at hi
    rw [documents_of_collections collections]
    by_cases own : i = c.id
    · -- one number belongs to one collection, so this is the collection of the cursor
      subst own
      cases List.inj_on_of_nodup_map h.nodup_issued hi known rfl
      rw [handed]
      exact List.take_prefix _ _
    · rw [batchesOf_concat_ne gives own]
      exact h.begins i ns hi
  case unread =>
    intro i hi new
    rw [same] at new
    have other : i ≠ c.id := fun own => new (own ▸ List.mem_map_of_mem known)
    rw [batchesOf_concat_ne gives other]
    exact h.unread i hi new

/-- What an operation does leaves a server that stands as its history says. -/
theorem effect (h : Follows history s) (e : s.Effect x t) : Follows (history ++ [x]) t := by
  cases e with
  | opens q more room collections opened cursors =>
    refine h.opens (delivery?_find ..) ?_ room collections opened cursors
    rw [issue?_find, if_neg (freshId_ne_zero room)]
  | once q all =>
    refine h.rests (fun i hi batch other => hi ?_) ?_ (fun _ => List.prefix_rfl) rfl
      (List.Sublist.refl _)
    · cases (delivery?_find ..).symm.trans other
      rfl
    · rw [issue?_find, if_pos rfl]
  | hands c asks named found collections opened cursors =>
    exact h.hands (mem_of_cursor? found).1 (delivery?_hands asks named)
      (issue?_of_plain (plain_of_request? asks)) collections opened cursors
  | rests grows opened cursors plain silent =>
    refine h.rests (fun i _ batch other => ?_) (issue?_of_plain plain) grows opened cursors
    cases (delivery?_silent plain silent).symm.trans other

/-- A server stands as its history says, whatever has happened at it. -/
theorem performAll (h : Follows history s) {ops : List Operation} {later : List Exchange}
    (run : s.performAll ops = some (t, later)) : Follows (history ++ later) t := by
  induction ops generalizing s history later with
  | nil =>
    cases run
    rwa [List.append_nil]
  | cons op ops ih =>
    simp only [MemoryServer.performAll, Option.bind_eq_bind, Option.bind_eq_some_iff] at run
    obtain ⟨⟨u, reply⟩, does, ⟨w, rest⟩, run, same⟩ := run
    cases same
    rw [List.append_cons]
    exact ih (h.effect (perform_effect does)) run

end Follows

/-! ### Replies -/

/-- A query is replied to with the first documents of its collection. The number in the reply is
zero exactly if these are all that it is after, and no cursor is opened then. Any other number is a
new one, and belongs to the cursor that is opened. -/
def RepliesFirst (history : List Exchange) (s : MemoryServer) (q : Query) (t : MemoryServer)
    (reply : Option Document) : Prop :=
  ∃ id batch, reply = some (replyBody "firstBatch" id q.ns batch) ∧
    batch = (s.documents q.ns).take (firstBatchSize q.batchSize) ∧
    (id = 0 ↔ q.tailable = false ∧
      ((s.documents q.ns).length ≤ batch.length ∨ q.batchSize < 0)) ∧
    (id = 0 → t.cursors = s.cursors) ∧
    (id ≠ 0 → id ∉ (issued history).map Prod.fst ∧
      t.cursors = s.cursors ++ [⟨id, q.ns, batch.length, q.tailable, q.awaitData⟩])

/-- A request that is replied to names an open cursor, and gets as many of the documents that come
next after the position of the cursor as are there and are asked for. The number in the reply is
zero exactly if the cursor is gone with it, and that is exactly if the cursor does not tail and has
reached the end. Otherwise it is the number of the cursor, which has moved on by the batch. -/
def RepliesNext (s : MemoryServer) (command : Command) (t : MemoryServer) (answer : Document) :
    Prop :=
  ∃ c ∈ s.cursors, ∃ id batch, named? command = some c.id ∧
    answer = replyBody "nextBatch" id c.ns batch ∧
    batch = ((s.documents c.ns).drop c.position).take
      (min ((s.documents c.ns).length - c.position)
        (requestedSize command ((s.documents c.ns).length - c.position))) ∧
    c.position + batch.length ≤ (s.documents c.ns).length ∧
    (id = 0 ↔ t.cursor? c.id = none) ∧
    (id = 0 ↔ c.tailable = false ∧ c.position + batch.length = (s.documents c.ns).length) ∧
    (id ≠ 0 → id = c.id ∧
      t.cursor? c.id = some { c with position := c.position + batch.length })

theorem Follows.first (h : Follows history s) {q : Query}
    (does : s.perform (.find q) = some (t, reply)) : RepliesFirst history s q t reply := by
  cases perform_effect does with
  | opens q more room collections opened cursors =>
    have nonzero : s.freshId ≠ 0 := freshId_ne_zero room
    exact ⟨s.freshId, s.firstBatch q, rfl, rfl, iff_of_false nonzero more,
      fun zero => absurd zero nonzero, fun _ => ⟨h.freshId_unissued room, cursors⟩⟩
  | once q all =>
    exact ⟨0, s.firstBatch q, rfl, rfl, iff_of_true rfl all, fun _ => rfl, absurd rfl⟩
  | hands c asks => cases asks
  | rests grows opened cursors plain => exact absurd rfl (plain q)

theorem Follows.next (h : Follows history s) {command : Command} {answer : Document}
    (asks : op.request? = some command) (does : s.perform op = some (t, some answer)) :
    s.RepliesNext command t answer := by
  cases perform_effect does with
  | opens q => cases asks
  | once q all => cases asks
  | rests grows opened cursors plain silent => simp [asks] at silent
  | hands c asks' named found collections opened cursors =>
    cases asks.symm.trans asks'
    have hc := (mem_of_cursor? found).1
    have inside := h.in_range hc
    have nonzero := ne_zero_of_issued (h.known c hc).1
    have after := cursor?_after found cursors
    refine ⟨c, hc, _, s.taken c command, named, rfl, rfl, ?_⟩
    rw [length_taken, after, ← finishes_iff inside]
    refine ⟨position_add_amount_le inside command, ?_⟩
    cases s.finishes c command <;> simp [nonzero]

/-- After any run of operations at a server that had no cursor before, and for any operation that
follows. No two cursors have the same number, and none has the number zero. What a cursor handed
out, batch by batch, is what its collection begins with. An open cursor stands in its collection,
right behind what it has handed out. Collections only become longer. The server breaks only when all
numbers are given away. Queries and requests for batches are replied to accordingly. -/
theorem batches_are_consecutive {collections : List (String × List Document)}
    {ops : List Operation}
    (run : ({ collections } : MemoryServer).performAll ops = some (s, history)) :
    ((issued history).map Prod.fst).Nodup ∧
      (∀ id ns, (id, ns) ∈ issued history →
        id ≠ 0 ∧ (batchesOf id history).flatten <+: s.documents ns) ∧
      (∀ c ∈ s.cursors, (c.id, c.ns) ∈ issued history ∧
        c.position ≤ (s.documents c.ns).length ∧
        (batchesOf c.id history).flatten = (s.documents c.ns).take c.position) ∧
      (∀ op t reply, s.perform op = some (t, reply) → ∀ ns, s.documents ns <+: t.documents ns) ∧
      (∀ op, s.perform op = none → (issued history).length = mostCursors) ∧
      (∀ q t reply, s.perform (.find q) = some (t, reply) → RepliesFirst history s q t reply) ∧
      (∀ op command t answer, op.request? = some command →
        s.perform op = some (t, some answer) → s.RepliesNext command t answer) := by
  have h : Follows history s := (Follows.start collections).performAll run
  refine ⟨h.nodup_issued, fun id ns known => ⟨ne_zero_of_issued known, h.begins id ns known⟩,
    fun c hc => ⟨(h.known c hc).1, h.in_range hc, h.handed_eq hc⟩,
    fun op t reply does => (perform_effect does).grows, fun op breaks => ?_,
    fun q t reply => h.first, fun op command t answer => h.next⟩
  have full := full_of_perform breaks
  have room := h.room
  rw [h.length_issued]
  omega

/-- Two cursors on one collection that grows in between, a fault on the way, and a request to a
cursor that is gone. The one cursor is read to the end; the other tails. -/
theorem batches_are_consecutive_between_inserts :
    let ask (id : Int64) (size : Int32) : Operation :=
      .arrive (.getMore ⟨"db", "items"⟩ id size none none) (.ok .unlimited) { now := 0 }
    let ops : List Operation :=
      [.insert "db.items" 3, .find ⟨"db.items", 2, false, false⟩,
        .find ⟨"db.items", 0, true, true⟩, .insert "db.items" 2, ask 1001 2, .fault .timeout,
        ask 1002 1, ask 1002 1, .insert "db.items" 1, ask 1001 0, ask 1001 0]
    ∃ s history, ({ collections := [] } : MemoryServer).performAll ops = some (s, history) ∧
      issued history = [(1001, "db.items"), (1002, "db.items")] ∧
      (batchesOf 1001 history).map List.length = [2, 2, 2] ∧
      (batchesOf 1001 history).flatten <+: s.documents "db.items" ∧
      (batchesOf 1002 history).map List.length = [3, 1] ∧
      s.cursors.map (fun c => (c.id, c.position)) = [(1002, 4)] ∧
      ∀ c ∈ s.cursors, (batchesOf c.id history).flatten = (s.documents c.ns).take c.position := by
  intro ask ops
  obtain ⟨s, history, run⟩ :
      ∃ s history, ({ collections := [] } : MemoryServer).performAll ops = some (s, history) :=
    ⟨_, _, rfl⟩
  obtain ⟨-, begins, stands, -⟩ := batches_are_consecutive run
  cases run
  exact ⟨_, _, rfl, rfl, rfl, (begins 1001 "db.items" (List.mem_cons_self ..)).2, rfl, rfl,
    fun c hc => (stands c hc).2.2⟩

end ResultCursor.Peer.MemoryServer
