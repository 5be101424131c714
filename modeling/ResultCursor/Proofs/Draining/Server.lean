import ResultCursor.Peer.MemoryServer
import ResultCursor.Proofs.Draining.Batches
import ResultCursor.Proofs.Limits.Requests
import ResultCursor.Proofs.Replies

/-! The server in memory, as one cursor meets it that reads a collection to its end. No fault lies
ahead, so every command is answered at once: a request with the next documents from the position of
the server's cursor, and a command to end that one by removing it. -/

namespace ResultCursor

/-! ### Replies -/

/-- A reply of the server says what the server means. -/
theorem BatchReply.ofDocument_replyBody (place : Place) (id : Int64) {ns : String}
    {name : Namespace} (hns : Namespace.ofText? ns = some name) (batch : List Document) :
    ofDocument place (Peer.MemoryServer.replyBody place.fieldName id ns batch) =
      .ok ⟨name, id, batch, none, none⟩ := by
  cases place <;>
    simp [ofDocument, required, Document.field, Document.get?, Peer.MemoryServer.replyBody,
      Place.fieldName, cursorId, namespaceOf, hns, documentsOf_map, Bson.asDocument?,
      Bson.asString?, Bson.asArray?, List.lookup_cons, List.lookup_nil, bind, Except.bind, pure,
      Except.pure]

namespace Peer.MemoryServer

variable {s : MemoryServer} {collections : List (String × List Document)}

/-- Nothing goes wrong at the server, and nothing is under way. -/
structure Calm (collections : List (String × List Document)) (s : MemoryServer) : Prop where
  collections : s.collections = collections
  faults : s.faults = []
  killsFail : s.killsFail = false
  violations : s.violations = []
  busy : s.busy = 0

namespace Calm

/-- To give a lease back does no harm while no command is under way. -/
theorem released_eq (h : s.Calm collections) : s.released = s := by
  simp [released, h.busy]

/-- A command comes and goes at once. -/
theorem leave_enter (h : s.Calm collections) (command : Command)
    (allowance : Except Failure Allowance) (cursors : List OpenCursor) (o : Outcome) :
    ∃ t, ({ s.enter command allowance with cursors } : MemoryServer).leave o = (t, .answers o []) ∧
      t.Calm collections ∧ t.cursors = cursors := by
  refine ⟨_, rfl, ⟨h.collections, h.faults, h.killsFail, ?_, ?_⟩, rfl⟩
  · simp [enter, h.busy, h.violations]
  · simp [enter, h.busy]

end Calm

/-! ### The first query -/

/-- How many documents the query that opens a cursor asks for. -/
def firstSize (q : Quota) : Nat := firstBatchSize q.initialBatchSize

theorem firstSize_single {q : Quota} (single : q.singleBatch = true) (fresh : q.fetched = 0) :
    q.initialBatchSize < 0 ∧ q.cap = some (firstSize q) := by
  obtain ⟨c, hc, pos, hn⟩ := Quota.initialBatchSize_single single fresh
  have negative : q.initialBatchSize < 0 := by
    rw [Int32.lt_iff_toInt_lt, hn, Int32.toInt_zero]
    omega
  have nonzero : q.initialBatchSize ≠ 0 := fun he => Int32.lt_irrefl (he ▸ negative)
  refine ⟨negative, ?_⟩
  simp [firstSize, firstBatchSize, nonzero, hn, hc]

theorem firstSize_pos (q : Quota) : 0 < firstSize q := by
  unfold firstSize firstBatchSize
  split
  · exact Nat.zero_lt_succ _
  · next hn =>
    rw [Int.natAbs_pos]
    exact fun he => hn (Int32.toInt_inj.mp (he.trans Int32.toInt_zero.symm))

theorem firstSize_plain {q : Quota} (plain : q.singleBatch = false) (fresh : q.fetched = 0) :
    ¬q.initialBatchSize < 0 ∧ ∀ c, q.cap = some c → firstSize q ≤ c := by
  have hn := Quota.initialBatchSize_plain plain
  refine ⟨?_, fun c hc => ?_⟩
  · rw [Int32.lt_iff_toInt_lt, hn, Int32.toInt_zero]
    omega
  · have pos : 0 < c := by
      rw [Quota.cap_of_not_single plain] at hc
      split at hc
      · cases hc
      · next hz =>
        cases hc
        exact Quota.magnitude_pos hz
    obtain ⟨hpos, hle⟩ := (Quota.at_zero fresh).effectiveBatchSize hc pos
    have nonzero : q.initialBatchSize ≠ 0 := fun he => by
      rw [he, Int32.toInt_zero] at hn
      omega
    simp only [firstSize, firstBatchSize, nonzero, if_false, hn, Int.natAbs_natCast]
    omega

/-- A query with the batch size that a quota begins with. Either its reply holds all that there is,
or all that the cap allows, or the server keeps a cursor at the place where the reply ends. -/
theorem find_initial {q : Quota} {ns : String} {ds : List Document} (fresh : q.fetched = 0)
    (hd : s.documents ns = ds) :
    ∃ n, n ≤ ds.length ∧ (∀ c, q.cap = some c → n ≤ c) ∧
      ((s.find ⟨ns, q.initialBatchSize, false, false⟩ =
          (s, replyBody "firstBatch" 0 ns (ds.take n)) ∧ (ds.length ≤ n ∨ q.cap = some n)) ∨
        ∃ id, id = Int64.ofNat (1000 + (s.opened + 1)) ∧ q.singleBatch = false ∧ 0 < n ∧
          n < ds.length ∧ s.find ⟨ns, q.initialBatchSize, false, false⟩ =
            ({ s with opened := s.opened + 1, cursors := s.cursors ++ [⟨id, ns, n, false, false⟩] },
              replyBody "firstBatch" id ns (ds.take n))) := by
  have taken : ds.take (firstSize q) = ds.take (min (firstSize q) ds.length) :=
    List.take_eq_take_min
  have kept : (ds.take (firstSize q)).length = min (firstSize q) ds.length := List.length_take
  refine ⟨min (firstSize q) ds.length, by omega, fun c hc => ?_, ?_⟩
  · cases single : q.singleBatch with
    | true =>
      have := (firstSize_single single fresh).2.symm.trans hc
      cases this
      omega
    | false =>
      have := (firstSize_plain single fresh).2 c hc
      omega
  · rw [← taken]
    cases single : q.singleBatch with
    | true =>
      obtain ⟨negative, hc⟩ := firstSize_single single fresh
      refine .inl ⟨by simp [find, hd, negative, firstSize], ?_⟩
      rw [hc, Option.some.injEq]
      omega
    | false =>
      have negative := (firstSize_plain single fresh).1
      by_cases all : ds.length ≤ firstSize q
      · refine .inl ⟨?_, by omega⟩
        simp [find, hd, all, show firstBatchSize q.initialBatchSize = firstSize q from rfl]
      · have pos := firstSize_pos q
        refine .inr ⟨_, rfl, rfl, by omega, by omega, ?_⟩
        simp only [find, hd, show firstBatchSize q.initialBatchSize = firstSize q from rfl, kept]
        simp [negative, all, show min (firstSize q) ds.length = firstSize q by omega]

/-! ### Requests for a batch -/

/-- How many documents the server sends of those that are there. Zero leaves it to the server. -/
def portion (size available : Nat) : Nat := if size = 0 then available else min available size

theorem requestedSize_getMore {size : Nat} (hs : size ≤ Quota.most) (ns : Namespace) (id : Int64)
    (maxTime : Option Span) (comment : Option Bson) (available : Nat) :
    min available (requestedSize (.getMore ns id (Int32.ofNat size) maxTime comment) available) =
      portion size available := by
  have fits : (Int32.ofNat size).toInt = size :=
    Int32.toInt_ofNat_of_lt (by unfold Quota.most at hs; omega)
  rw [requestedSize, Command.batchSize_getMore, portion]
  by_cases hz : size = 0
  · subst hz
    simp
  · have positive : (0 : Int32) < Int32.ofNat size := by
      rw [Int32.lt_iff_toInt_lt, fits, Int32.toInt_zero]
      omega
    have nonzero : Int32.ofNat size ≠ 0 := fun he => by
      rw [he] at positive
      exact absurd positive Int32.lt_irrefl
    simp [nonzero, positive, fits, hz, Bson.asInt32?]

/-- The server's cursors after a request: the one that was asked is gone once it has reached the
end. -/
def moved (c : OpenCursor) (n length : Nat) : List OpenCursor :=
  if length ≤ c.position + n then [] else [{ c with position := c.position + n }]

section

variable {c : OpenCursor} {ds : List Document} {size n : Nat}

theorem nextBatch_getMore (hc : s.cursors = [c]) (plain : c.tailable = false)
    (hd : s.documents c.ns = ds) (hs : size ≤ Quota.most)
    (hn : portion size (ds.length - c.position) = n) (ns : Namespace) (maxTime : Option Span)
    (comment : Option Bson) (giveUp : Bool) :
    s.nextBatch (.getMore ns c.id (Int32.ofNat size) maxTime comment) giveUp =
      ({ s with cursors := moved c n ds.length },
        .ok (some (replyBody "nextBatch" (if ds.length ≤ c.position + n then 0 else c.id) c.ns
          ((ds.drop c.position).take n)))) := by
  have named : BatchReply.required
      (Command.getMore ns c.id (Int32.ofNat size) maxTime comment).body "getMore" Bson.asInt64? =
      .ok c.id := rfl
  have found : s.cursor? c.id = some c := by simp [cursor?, hc]
  have sized := requestedSize_getMore hs ns c.id maxTime comment (ds.length - c.position)
  rw [hn] at sized
  simp only [nextBatch, named, found, hd, plain, sized, moved]
  by_cases he : ds.length ≤ c.position + n
  · simp [he, removeCursor, hc]
  · simp [he, moveTo, hc, plain]

/-- A request for a batch is answered with the next documents. -/
theorem Calm.arrive_getMore (h : s.Calm collections) (hc : s.cursors = [c])
    (plain : c.tailable = false) (hd : s.documents c.ns = ds) (hs : size ≤ Quota.most)
    (hn : portion size (ds.length - c.position) = n) (ns : Namespace) (maxTime : Option Span)
    (comment : Option Bson) (allowance : Except Failure Allowance) (m : Moment) :
    ∃ t, s.arrive (.getMore ns c.id (Int32.ofNat size) maxTime comment) allowance m =
        (t, .answers (.reply (replyBody "nextBatch" (if ds.length ≤ c.position + n then 0 else c.id)
          c.ns ((ds.drop c.position).take n))) []) ∧
      t.Calm collections ∧ t.cursors = moved c n ds.length := by
  let command := Command.getMore ns c.id (Int32.ofNat size) maxTime comment
  have asked : command.name = "getMore" := rfl
  have faults : (s.enter command allowance).faults = [] := h.faults
  have next :=
    nextBatch_getMore (s := s.enter command allowance) hc plain hd hs hn ns maxTime comment
  let reply := replyBody "nextBatch" (if ds.length ≤ c.position + n then 0 else c.id) c.ns
    ((ds.drop c.position).take n)
  obtain ⟨t, left, calm, cursors⟩ :=
    h.leave_enter command allowance (moved c n ds.length) (.reply reply)
  refine ⟨t, ?_, calm, cursors⟩
  have served :
      (s.enter command allowance).getMore command m = (t, .answers (.reply reply) []) := by
    rw [getMore, faults]
    dsimp only
    rw [beginServe, serve, next]
    exact left
  rw [arrive, if_pos asked]
  exact served

/-- A command to end the server's cursor removes it. -/
theorem Calm.arrive_kill (h : s.Calm collections) (hc : s.cursors = [c]) (ns : Namespace)
    (remote : RemoteCursor) (hr : remote.id = c.id) (allowance : Except Failure Allowance)
    (m : Moment) :
    ∃ t reply, s.arrive (.kill ns remote) allowance m = (t, .answers (.reply reply) []) ∧
      t.Calm collections ∧ t.cursors = [] := by
  let command := Command.kill ns remote
  have name : command.name = "killCursors" := rfl
  have killsFail : (s.enter command allowance).killsFail = false := h.killsFail
  have named : BatchReply.required command.body "cursors" Bson.asArray? = .ok [.int64 c.id] := by
    rw [← hr]
    rfl
  have found : ((s.enter command allowance).cursor? c.id).isSome = true := by
    simp [cursor?, enter, hc]
  have removed : (s.enter command allowance).removeCursor c.id =
      { s.enter command allowance with cursors := [] } := by
    simp [removeCursor, enter, hc]
  let reply : Document :=
    [("cursorsKilled", .array [.int64 c.id]), ("cursorsNotFound", .array []), ("ok", .int32 1)]
  obtain ⟨t, left, calm, cursors⟩ :=
    h.leave_enter command allowance [] (.reply reply)
  refine ⟨t, reply, ?_, calm, cursors⟩
  have killed : (s.enter command allowance).killCursors command =
      ({ s.enter command allowance with cursors := [] }, .reply reply) := by
    rw [killCursors, killsFail, if_neg Bool.false_ne_true, named]
    simp only [killAll, killOne, found, if_true, removed]
    rfl
  have other : ¬command.name = "getMore" := by simp [name]
  rw [arrive, if_neg other, if_pos name]
  dsimp only
  rw [killed]
  exact left

end

end Peer.MemoryServer

end ResultCursor
