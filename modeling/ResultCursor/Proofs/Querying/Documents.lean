import ResultCursor.Proofs.Limits.Quota
import ResultCursor.Proofs.Querying.Moments
import ResultCursor.Proofs.ReplyFormat

/-! What a request for a batch tells the server. It is a document with two keys that are always
there and three that may be missing, in a fixed order, and can be read back. What it says is what
the cursor and its deadline are like at the moment at which it is sent. -/

namespace ResultCursor

/-- What a request for a batch tells the server. -/
structure BatchQuery where
  id : Int64
  collection : String
  batchSize : Option Int32
  /-- How long the server may take, in milliseconds. -/
  maxTime : Option Int64
  comment : Option Bson

namespace BatchQuery

open Command (optionalEntry)

def toDocument (q : BatchQuery) : Document :=
  [("getMore", .int64 q.id), ("collection", .string q.collection)] ++
    optionalEntry "batchSize" (q.batchSize.map .int32) ++
    optionalEntry "maxTimeMS" (q.maxTime.map .int64) ++
    optionalEntry "comment" q.comment

/-- What a server reads off a request. -/
def ofDocument? (d : Document) : Option BatchQuery := do
  let id ← (d.get? "getMore").bind Bson.asInt64?
  let collection ← (d.get? "collection").bind Bson.asString?
  return {
    id, collection
    batchSize := (d.get? "batchSize").bind Bson.asInt32?
    maxTime := (d.get? "maxTimeMS").bind Bson.asInt64?
    comment := d.get? "comment" }

theorem ofDocument?_toDocument (q : BatchQuery) : ofDocument? q.toDocument = some q := by
  obtain ⟨id, collection, batchSize, maxTime, comment⟩ := q
  cases batchSize <;> cases maxTime <;> cases comment <;> rfl

theorem toDocument_injective : Function.Injective toDocument := fun q r same =>
  Option.some.inj <| by rw [← ofDocument?_toDocument q, same, ofDocument?_toDocument]

/-- The query that a request with these parts poses. -/
def ofParts (id : Int64) (collection : String) (size : Int32) (maxTime : Option Span)
    (comment : Option Bson) : BatchQuery where
  id := id
  collection := collection
  batchSize := if size = 0 then none else some size
  maxTime := maxTime.map fun t => Int64.ofNat t.millis
  comment := comment

theorem toDocument_ofParts (id : Int64) (collection : String) (size : Int32)
    (maxTime : Option Span) (comment : Option Bson) :
    (ofParts id collection size maxTime comment).toDocument =
      Command.getMoreBody id collection size maxTime comment := by
  by_cases none : size = 0 <;>
    simp [ofParts, toDocument, Command.getMoreBody, none, Option.map_map, Function.comp_def]

end BatchQuery

/-! ### When a time is set -/

/-- What is left of a limit that lies ahead. -/
theorem Deadline.left_of_remaining {d : Deadline} {now : Instant} {left : Option Span}
    (h : d.remaining now = .ok left) : left = d.limit.map fun limit => ⟨limit - now⟩ := by
  unfold remaining at h
  split at h
  · next unlimited =>
    cases h
    rw [unlimited]
    rfl
  · next limit limited =>
    split at h
    · cases h
    · cases h
      rw [limited]
      rfl

/-- A cursor that awaits documents sets a time as soon as there is one to set. -/
theorem Cursor.maxTime_isSome (o : Options) (left : Option Span) :
    (Cursor.maxTime o left).isSome ↔ o.awaits = true ∧ (o.maxAwait.isSome ∨ left.isSome) := by
  unfold maxTime
  cases o.awaits <;> cases o.maxAwait <;> cases left <;> simp

/-! ### What a cursor asks for -/

/-- The query suits a cursor with these options where it stands. -/
structure BatchQuery.Suits (q : BatchQuery) (o : Options) (s : Session) : Prop where
  id : ∃ remote, s.cursor.remote = some remote ∧ q.id = remote.id
  unsized : q.batchSize = none ↔ s.cursor.quota.effectiveBatchSize = 0
  sized : ∀ n, q.batchSize = some n →
    0 < n ∧ n.toInt = s.cursor.quota.effectiveBatchSize
  timed : q.maxTime.isSome ↔
    (o.tailable = true ∧ o.awaitData = true) ∧ (o.maxAwait.isSome ∨ s.deadline.limit.isSome)
  comment : q.comment = o.comment

namespace Session

variable {s : Session} {c : Command} {now : Instant}

/-- A request says what its cursor is like, and nothing else. -/
theorem HasAsked.query (h : s.HasAsked c now) :
    ∃ q : BatchQuery, c.body = q.toDocument ∧ q.Suits s.cursor.options s ∧
      c.database = s.cursor.ns.database ∧ q.collection = s.cursor.ns.collection := by
  obtain ⟨remote, left, hr, hd, rfl⟩ := h.asks
  have size := s.cursor.quota.toInt_effectiveBatchSize
  have zero : Int32.ofNat s.cursor.quota.effectiveBatchSize = 0 ↔
      s.cursor.quota.effectiveBatchSize = 0 := by
    rw [← Int32.toInt_inj, size, Int32.toInt_zero]
    exact Int.natCast_eq_zero
  refine ⟨.ofParts remote.id s.cursor.ns.collection
    (Int32.ofNat s.cursor.quota.effectiveBatchSize) (Cursor.maxTime s.cursor.options left)
    s.cursor.options.comment, (BatchQuery.toDocument_ofParts _ _ _ _ _).symm, ?_, rfl, rfl⟩
  exact
    { id := ⟨remote, hr, rfl⟩
      unsized := by simp [BatchQuery.ofParts, zero]
      sized := fun n hn => by
        simp only [BatchQuery.ofParts, Option.ite_none_left_eq_some, Option.some.injEq] at hn
        obtain ⟨some, rfl⟩ := hn
        refine ⟨?_, size⟩
        rw [Int32.lt_iff_toInt_lt, size, Int32.toInt_zero]
        exact Int.natCast_pos.mpr (Nat.pos_of_ne_zero fun h => some (zero.mpr h))
      timed := by
        rw [BatchQuery.ofParts, Option.isSome_map, Cursor.maxTime_isSome,
          Deadline.left_of_remaining hd, Option.isSome_map, Options.awaits, Bool.and_eq_true]
      comment := rfl }

end Session

/-- A request for a batch is a document with the number of the server's cursor and the collection,
and then a batch size, a time and a comment, each of them where there is one to name. The server
can read all of these off it, so two requests that differ in any of them are different documents.
Each request of a run says what the cursor and its deadline are like at the moment at which it is
sent: it names the cursor that the server holds then and the batch size that the quota asks for,
and goes to the namespace of the first reply, cut in two at its first dot. -/
theorem requests_say_what_is_asked :
    (∀ q : BatchQuery, BatchQuery.ofDocument? q.toDocument = some q) ∧
    Function.Injective BatchQuery.toDocument ∧
    ∀ reply setting S earlier c later, Situation.Reached reply setting S →
      S.session.requests = earlier ++ c :: later →
      ∃ (Q T : Situation) (q : BatchQuery) (cursor : Document),
        Situation.Poses reply setting S earlier c Q T ∧ c.body = q.toDocument ∧
        q.Suits setting.options T.session ∧ reply.get? "cursor" = some (.document cursor) ∧
        cursor.get? "ns" = some (.string (c.database ++ "." ++ q.collection)) ∧
        '.' ∉ c.database.toList := by
  refine ⟨BatchQuery.ofDocument?_toDocument, BatchQuery.toDocument_injective,
    fun reply setting S earlier c later hS found => ?_⟩
  obtain ⟨Q, T, poses⟩ := hS.poses found
  obtain ⟨courses, now, asks⟩ := poses.asks
  obtain ⟨q, body, suits, database, collection⟩ := asks.asked.query
  obtain ⟨first, hr, informed⟩ := courses.informed
  obtain ⟨⟨cursor, part, shows⟩, -⟩ := BatchReply.ofDocument_eq_ok_iff.mp hr
  have ns := informed.known.ns
  rw [courses.options] at suits
  rw [ns] at database collection
  refine ⟨Q, T, q, cursor, poses, body, suits, part, ?_, ?_⟩
  · rw [database, collection]
    exact shows.ns
  · rw [database]
    exact shows.proper.undotted

/-- A cursor for tailing, with a batch size, a deadline of an hour and a comment that is null. -/
theorem requests_say_what_is_asked_when_tailing :
    ∃ S c Q T, Situation.Reached (BatchReply.Place.first.reply 7 [item 1])
        { plainSetting (.start (some (.ofMillis 3600000)) 0) with
          options :=
            { tailable := true, awaitData := true, batchSize := 2, comment := some .null } }
        S ∧
      Situation.Poses (BatchReply.Place.first.reply 7 [item 1])
        { plainSetting (.start (some (.ofMillis 3600000)) 0) with
          options :=
            { tailable := true, awaitData := true, batchSize := 2, comment := some .null } }
        S [] c Q T ∧
      c.body = [("getMore", .int64 7), ("collection", .string "items"), ("batchSize", .int32 2),
        ("maxTimeMS", .int64 1000), ("comment", .null)] := by
  have run : Shared.Comes (BatchReply.Place.first.reply 7 [item 1])
      { plainSetting (.start (some (.ofMillis 3600000)) 0) with
        options := { tailable := true, awaitData := true, batchSize := 2, comment := some .null } }
      [.start (.iterate .next), .start (.iterate .next)] _ :=
    ⟨_, rfl, rfl⟩
  obtain ⟨Q, T, -, -, poses, -⟩ :=
    requests_say_what_is_asked.2.2 _ _ _ [] _ [] (.shared run) rfl
  exact ⟨_, _, Q, T, .shared run, poses, by decide +kernel⟩

end ResultCursor
