import ResultCursor.Proofs.Serving.Requests

/-! What can happen at the server in memory, in any order: documents are inserted, queries open
cursors, requests for batches arrive or are taken up again after they were held, cursors are ended,
faults are put in line. Each operation does one of three things to what the server holds: it opens a
cursor, it moves one on by the batch that it hands out, or it does neither. -/

namespace ResultCursor.Peer.MemoryServer

inductive Operation where
  | insert (ns : String) (n : Nat)
  | find (q : Query)
  | fault (f : Fault)
  | failKills
  | arrive (command : Command) (allowance : Except Failure Allowance) (m : Moment)
  | poll (held : HeldRequest) (m : Moment)
  | abandon
  | released

/-- The request for a batch that an operation may answer. -/
def Operation.request? : Operation → Option Command
  | .arrive command _ _ => if command.name = "getMore" then some command else none
  | .poll held _ => some held.command
  | _ => none

/-- The server after an operation, and its reply. There is none after a query that breaks it. -/
def perform (s : MemoryServer) : Operation → Option (MemoryServer × Option Document)
  | .insert ns n => some (s.insert ns n, none)
  | .find q => (s.find? q).map fun (t, reply) => (t, some reply)
  | .fault f => some ({ s with faults := s.faults ++ [f] }, none)
  | .failKills => some ({ s with killsFail := true }, none)
  | .arrive command allowance m =>
    let (t, r) := s.arrive command allowance m
    some (t, r.reply?)
  | .poll held m =>
    let (t, r) := s.poll held m
    some (t, r.reply?)
  | .abandon => some (s.abandon, none)
  | .released => some (s.released, none)

/-! ### Histories -/

/-- What is read of a reply: the number of a cursor, and the documents of a batch. -/
def contents? (place : BatchReply.Place) (reply : Document) : Option (Int64 × List Document) := do
  let cursor ← (reply.get? "cursor").bind Bson.asDocument?
  let id ← (cursor.get? "id").bind Bson.asInt64?
  let items ← (cursor.get? place.fieldName).bind Bson.asArray?
  return (id, items.filterMap Bson.asDocument?)

theorem contents?_replyBody (place : BatchReply.Place) (id : Int64) (ns : String)
    (batch : List Document) :
    contents? place (replyBody place.fieldName id ns batch) = some (id, batch) := by
  have documents : (batch.map Bson.document).filterMap Bson.asDocument? = batch := by
    rw [List.filterMap_map]
    exact List.filterMap_some
  cases place <;>
    simp [contents?, replyBody, Document.get?, BatchReply.Place.fieldName, Bson.asDocument?,
      Bson.asInt64?, Bson.asArray?, List.lookup_cons, documents]

/-- An operation and the reply to it. -/
structure Exchange where
  operation : Operation
  reply : Option Document

/-- The cursor that gets a batch, and the batch. The last batch of a cursor comes under the number
zero, so the cursor is the one that was asked for. -/
def Exchange.delivery? (x : Exchange) : Option (Int64 × List Document) :=
  match x.operation with
  | .find _ => x.reply.bind (contents? .first)
  | op => do
    let id ← op.request?.bind named?
    let (_, batch) ← x.reply.bind (contents? .next)
    return (id, batch)

/-- The number that the reply to a query gives, unless it is zero, and the collection of the
query. -/
def Exchange.issue? (x : Exchange) : Option (Int64 × String) :=
  match x.operation with
  | .find q => do
    let (id, _) ← x.reply.bind (contents? .first)
    if id = 0 then none else some (id, q.ns)
  | _ => none

/-- Operations one after the other, with their replies. -/
def performAll (s : MemoryServer) : List Operation → Option (MemoryServer × List Exchange)
  | [] => some (s, [])
  | op :: rest => do
    let (t, reply) ← s.perform op
    let (u, later) ← t.performAll rest
    return (u, ⟨op, reply⟩ :: later)

/-- What an operation does to what the server holds. -/
inductive Effect (s : MemoryServer) : Exchange → MemoryServer → Prop where
  /-- A query opens a cursor. -/
  | opens {t : MemoryServer} (q : Query) (more : ¬s.TakesAll q) (room : s.opened < mostCursors)
      (collections : t.collections = s.collections) (opened : t.opened = s.opened + 1)
      (cursors : t.cursors = s.cursors ++ [s.cursorFor q]) :
      Effect s ⟨.find q, some (replyBody "firstBatch" s.freshId q.ns (s.firstBatch q))⟩ t
  /-- A query opens none. -/
  | once (q : Query) (all : s.TakesAll q) :
      Effect s ⟨.find q, some (replyBody "firstBatch" 0 q.ns (s.firstBatch q))⟩ s
  /-- A request for a batch is answered. -/
  | hands {t : MemoryServer} {op : Operation} {command : Command} (c : OpenCursor)
      (asks : op.request? = some command) (named : named? command = some c.id)
      (found : s.cursor? c.id = some c) (collections : t.collections = s.collections)
      (opened : t.opened = s.opened) (cursors : t.cursors = s.cursorsAfter c command) :
      Effect s ⟨op, some (s.batchReply c command)⟩ t
  /-- Documents may be added, and cursors taken away. -/
  | rests {t : MemoryServer} {op : Operation} {reply : Option Document}
      (grows : ∀ ns, s.documents ns <+: t.documents ns) (opened : t.opened = s.opened)
      (cursors : t.cursors.Sublist s.cursors) (plain : ∀ q, op ≠ .find q)
      (silent : op.request? = none ∨ reply = none) :
      Effect s ⟨op, reply⟩ t

variable {s t : MemoryServer} {op : Operation} {reply : Option Document}

/-- Collections become longer, if anything. -/
theorem Effect.grows {x : Exchange} (e : s.Effect x t) (ns : String) :
    s.documents ns <+: t.documents ns := by
  cases e with
  | opens q more room collections => exact grows_of_collections collections ns
  | once q all => exact List.prefix_rfl
  | hands c asks named found collections => exact grows_of_collections collections ns
  | rests grows => exact grows ns

theorem Keeps.rests (keeps : s.Keeps t) (plain : ∀ q, op ≠ .find q)
    (silent : op.request? = none ∨ reply = none) : s.Effect ⟨op, reply⟩ t :=
  .rests (grows_of_collections keeps.collections) keeps.opened keeps.cursors plain silent

theorem Responds.effect {command : Command} (h : s.Responds command t reply)
    (plain : ∀ q, op ≠ .find q) (asks : op.request? = some command) : s.Effect ⟨op, reply⟩ t := by
  cases h with
  | without keeps => exact keeps.rests plain (.inr rfl)
  | batch c named found collections opened cursors =>
    exact .hands c asks named found collections opened cursors

theorem perform_effect (does : s.perform op = some (t, reply)) : s.Effect ⟨op, reply⟩ t := by
  cases op with
  | insert ns n =>
    cases does
    exact .rests (s.documents_grow ns n) rfl (List.Sublist.refl _) nofun (.inl rfl)
  | find q =>
    obtain ⟨⟨u, answer⟩, within, same⟩ := Option.map_eq_some_iff.mp does
    cases same
    obtain ⟨found, room⟩ := find?_eq_some_iff.mp within
    rcases s.find_cases q with ⟨all, replied⟩ | ⟨more, replied⟩
    · cases replied.symm.trans found
      exact .once q all
    · cases replied.symm.trans found
      exact .opens q more room rfl rfl rfl
  | arrive command allowance m =>
    cases does
    by_cases asks : command.name = "getMore"
    · exact (arrive_responds command allowance m asks).effect nofun (if_pos asks)
    · exact (arrive_keeps command allowance m asks).rests nofun (.inl (if_neg asks))
  | poll held m =>
    cases does
    exact (s.poll_responds held m).effect nofun rfl
  | released =>
    cases does
    refine Keeps.rests ?_ nofun (.inl rfl)
    unfold released
    split
    · exact ⟨rfl, rfl, List.Sublist.refl _⟩
    · exact .refl s
  | _ =>
    cases does
    exact Keeps.rests ⟨rfl, rfl, List.Sublist.refl _⟩ nofun (.inl rfl)

/-- Only a query can break the server. -/
theorem full_of_perform (breaks : s.perform op = none) : mostCursors ≤ s.opened := by
  cases op with
  | find q => exact full_of_find? (Option.map_eq_none_iff.mp breaks)
  | _ => cases breaks

end ResultCursor.Peer.MemoryServer
