import ResultCursor.Proofs.ReplyFormat
import ResultCursor.Proofs.Serving.Stock

/-! What the server in memory makes of queries and of requests for a batch. A query opens a cursor,
unless its first batch is all that it is after. A request gets the documents that come next after
the position of the cursor that it names, or it gets no reply. -/

namespace ResultCursor.Peer

/-- The reply, if the reaction is one. -/
def Reaction.reply? {Held : Type} : Reaction Held → Option Document
  | .answers (.reply d) _ => some d
  | _ => none

def HeldRequest.command : HeldRequest → Command
  | delayed _ command => command
  | awaiting _ command => command

namespace MemoryServer

/-- The number of the cursor that a request for a batch names. -/
def named? (command : Command) : Option Int64 :=
  (command.body.get? "getMore").bind Bson.asInt64?

/-! ### Batches -/

/-- How many documents a request takes out of the collection of its cursor. -/
def amount (s : MemoryServer) (c : OpenCursor) (command : Command) : Nat :=
  let available := (s.documents c.ns).length - c.position
  min available (requestedSize command available)

/-- The documents themselves: those that come next after the cursor's position. -/
def taken (s : MemoryServer) (c : OpenCursor) (command : Command) : List Document :=
  ((s.documents c.ns).drop c.position).take (s.amount c command)

/-- The cursor has nothing more to look for after this request. -/
def finishes (s : MemoryServer) (c : OpenCursor) (command : Command) : Bool :=
  !c.tailable && (s.documents c.ns).length ≤ c.position + s.amount c command

/-- The open cursors after the request. -/
def cursorsAfter (s : MemoryServer) (c : OpenCursor) (command : Command) : List OpenCursor :=
  if s.finishes c command then (s.removeCursor c.id).cursors
  else (s.moveTo c.id (c.position + s.amount c command)).cursors

def batchReply (s : MemoryServer) (c : OpenCursor) (command : Command) : Document :=
  replyBody "nextBatch" (if s.finishes c command then 0 else c.id) c.ns (s.taken c command)

theorem amount_le (s : MemoryServer) (c : OpenCursor) (command : Command) :
    s.amount c command ≤ (s.documents c.ns).length - c.position :=
  Nat.min_le_left _ _

theorem length_taken (s : MemoryServer) (c : OpenCursor) (command : Command) :
    (s.taken c command).length = s.amount c command := by
  rw [taken, List.length_take, List.length_drop, Nat.min_eq_left (s.amount_le c command)]

/-- A request does not reach beyond the collection. -/
theorem position_add_amount_le {s : MemoryServer} {c : OpenCursor}
    (inside : c.position ≤ (s.documents c.ns).length) (command : Command) :
    c.position + s.amount c command ≤ (s.documents c.ns).length := by
  have within := s.amount_le c command
  omega

/-- What was handed out before and this batch are the documents up to the new position. -/
theorem take_append_taken (s : MemoryServer) (c : OpenCursor) (command : Command) :
    (s.documents c.ns).take c.position ++ s.taken c command =
      (s.documents c.ns).take (c.position + s.amount c command) := by
  rw [taken, List.take_add]

theorem finishes_iff {s : MemoryServer} {c : OpenCursor} {command : Command}
    (inside : c.position ≤ (s.documents c.ns).length) :
    s.finishes c command = true ↔
      c.tailable = false ∧ c.position + s.amount c command = (s.documents c.ns).length := by
  have within := position_add_amount_le inside command
  simp only [finishes, Bool.and_eq_true, Bool.not_eq_true', decide_eq_true_eq]
  exact and_congr_right fun _ =>
    ⟨fun beyond => Nat.le_antisymm within beyond, fun same => Nat.le_of_eq same.symm⟩

/-- The cursor after the request, if there still is one. -/
theorem cursor?_after {s t : MemoryServer} {c : OpenCursor} {command : Command}
    (found : s.cursor? c.id = some c) (cursors : t.cursors = s.cursorsAfter c command) :
    t.cursor? c.id = if s.finishes c command then none
      else some { c with position := c.position + s.amount c command } := by
  unfold cursorsAfter at cursors
  split at cursors
  · next ends =>
    rw [cursor?_of_cursors cursors, cursor?_removeCursor, if_pos rfl, if_pos ends]
  · next stays =>
    rw [cursor?_of_cursors cursors, cursor?_moveTo, found, if_neg stays, Option.map_some,
      if_pos rfl]

/-- A request leaves every other cursor as it is. -/
theorem Distinct.mem_cursorsAfter {s : MemoryServer} {c d : OpenCursor} {command : Command}
    (h : s.Distinct) (hc : c ∈ s.cursors) (hd : d ∈ s.cursorsAfter c command) :
    (d ∈ s.cursors ∧ d.id ≠ c.id) ∨ d = { c with position := c.position + s.amount c command } := by
  unfold cursorsAfter at hd
  split at hd
  · obtain ⟨old, other⟩ := List.mem_filter.mp hd
    exact .inl ⟨old, by simpa using other⟩
  · obtain ⟨e, he, rfl⟩ := List.mem_map.mp hd
    by_cases same : e.id = c.id
    · rw [List.inj_on_of_nodup_map h he hc same, if_pos rfl]
      exact .inr rfl
    · rw [if_neg same]
      exact .inl ⟨he, same⟩

theorem Distinct.cursorsAfter {s : MemoryServer} (h : s.Distinct) (c : OpenCursor)
    (command : Command) : ((s.cursorsAfter c command).map (·.id)).Nodup := by
  unfold MemoryServer.cursorsAfter
  split
  · exact h.sublist (List.filter_sublist.map _)
  · rw [ids_moveTo]
    exact h

/-! ### Requests for a batch -/

/-- What becomes of a request: it gets the next batch of the open cursor that it names, or it gets
no reply, be it that it fails or that it is held. -/
inductive Responds (s : MemoryServer) (command : Command) :
    MemoryServer → Option Document → Prop where
  | without {t : MemoryServer} (keeps : s.Keeps t) : Responds s command t none
  | batch {t : MemoryServer} (c : OpenCursor) (named : named? command = some c.id)
      (found : s.cursor? c.id = some c) (collections : t.collections = s.collections)
      (opened : t.opened = s.opened) (cursors : t.cursors = s.cursorsAfter c command) :
      Responds s command t (some (s.batchReply c command))

section

variable {s t u : MemoryServer} {command : Command} {reply : Option Document}

/-- Only the documents and the cursors count. -/
theorem Responds.of_same (h : t.Responds command u reply)
    (collections : t.collections = s.collections) (opened : t.opened = s.opened)
    (cursors : t.cursors = s.cursors) : s.Responds command u reply := by
  cases h with
  | without keeps => exact .without ⟨keeps.collections.trans collections,
      keeps.opened.trans opened, cursors ▸ keeps.cursors⟩
  | batch c named found collections' opened' cursors' =>
    have documents := documents_of_collections collections
    have amount : t.amount c command = s.amount c command := by
      rw [MemoryServer.amount, MemoryServer.amount, documents]
    have finishes : t.finishes c command = s.finishes c command := by
      rw [MemoryServer.finishes, MemoryServer.finishes, documents, amount]
    have replies : t.batchReply c command = s.batchReply c command := by
      rw [batchReply, batchReply, taken, taken, documents, finishes, amount]
    rw [replies]
    refine .batch c named ?_ (collections'.trans collections) (opened'.trans opened) ?_
    · rwa [cursor?, ← cursors]
    · rw [cursors', cursorsAfter, cursorsAfter, finishes, amount]
      simp only [removeCursor, moveTo, cursors]

theorem named?_of_required {id : Int64}
    (h : BatchReply.required command.body "getMore" Bson.asInt64? = .ok id) :
    named? command = some id := by
  obtain ⟨v, found, read⟩ := BatchReply.required_eq_ok_iff.mp h
  rw [named?, found]
  exact read

/-- A server asked for the next batch of a cursor either stays as it is, or hands it out. -/
theorem nextBatch_cases (s : MemoryServer) (command : Command) (giveUp : Bool) :
    (∃ f, s.nextBatch command giveUp = (s, .error f)) ∨
      s.nextBatch command giveUp = (s, .ok none) ∨
      ∃ t c, named? command = some c.id ∧ s.cursor? c.id = some c ∧
        t.collections = s.collections ∧ t.opened = s.opened ∧
        t.cursors = s.cursorsAfter c command ∧
        s.nextBatch command giveUp = (t, .ok (some (s.batchReply c command))) := by
  unfold nextBatch
  split
  · exact .inl ⟨_, rfl⟩
  · next id hid =>
    split
    · exact .inl ⟨_, rfl⟩
    · next c hc =>
      dsimp only
      split
      · exact .inr (.inl rfl)
      · obtain ⟨-, rfl⟩ := mem_of_cursor? hc
        refine .inr (.inr ⟨_, c, named?_of_required hid, hc, ?_, ?_, ?_, rfl⟩)
        · split <;> rfl
        · split <;> rfl
        · rw [cursorsAfter]
          exact apply_ite MemoryServer.cursors _ _ _

theorem serve_responds (s : MemoryServer) (due : Instant) (command : Command) (m : Moment) :
    s.Responds command (s.serve due command m).1 (s.serve due command m).2.reply? := by
  rcases s.nextBatch_cases command (due ≤ m.now) with
    ⟨f, failed⟩ | waits | ⟨t, c, named, found, collections, opened, cursors, handed⟩
  · rw [serve, failed]
    exact .without ⟨rfl, rfl, List.Sublist.refl _⟩
  · rw [serve, waits]
    dsimp only
    split
    · exact .without ⟨rfl, rfl, List.Sublist.refl _⟩
    · exact .without (.refl s)
  · rw [serve, handed]
    exact .batch c named found collections opened cursors

theorem poll_responds (s : MemoryServer) (held : HeldRequest) (m : Moment) :
    s.Responds held.command (s.poll held m).1 (s.poll held m).2.reply? := by
  cases held with
  | awaiting due command => exact s.serve_responds due command m
  | delayed due command =>
    unfold poll
    dsimp only
    split
    · exact s.serve_responds _ command m
    · split
      · exact .without ⟨rfl, rfl, List.Sublist.refl _⟩
      · exact .without (.refl s)

theorem getMore_responds (s : MemoryServer) (command : Command) (m : Moment) :
    s.Responds command (s.getMore command m).1 (s.getMore command m).2.reply? := by
  unfold getMore
  split
  · exact s.serve_responds _ command m
  · next time rest _ =>
    have taken := poll_responds { s with faults := rest } (.delayed (m.now + time.nanos) command) m
    exact taken.of_same rfl rfl rfl
  · next fault rest _ _ =>
    have keeps := faultFailure_keeps { s with faults := rest } command fault
    exact .without ⟨keeps.collections, keeps.opened, keeps.cursors⟩

theorem arrive_responds (command : Command) (allowance : Except Failure Allowance) (m : Moment)
    (asks : command.name = "getMore") :
    s.Responds command (s.arrive command allowance m).1
      (s.arrive command allowance m).2.reply? := by
  rw [arrive, if_pos asks]
  exact ((s.enter command allowance).getMore_responds command m).of_same rfl rfl rfl

/-- A command of another kind takes cursors away at most. -/
theorem arrive_keeps (command : Command) (allowance : Except Failure Allowance) (m : Moment)
    (other : command.name ≠ "getMore") : s.Keeps (s.arrive command allowance m).1 := by
  rw [arrive, if_neg other]
  dsimp only
  split
  · have keeps := (s.enter command allowance).killCursors_keeps command
    exact ⟨keeps.collections, keeps.opened, keeps.cursors⟩
  · exact ⟨rfl, rfl, List.Sublist.refl _⟩

end

/-! ### Queries -/

/-- The number of the `k`th cursor, counted from zero. -/
def numberOf (k : Nat) : Int64 := Int64.ofNat (1000 + (k + 1))

/-- The number of the next cursor. -/
def freshId (s : MemoryServer) : Int64 := numberOf s.opened

def firstBatch (s : MemoryServer) (q : Query) : List Document :=
  (s.documents q.ns).take (firstBatchSize q.batchSize)

/-- The cursor that a query opens, unless its first batch is all. -/
def cursorFor (s : MemoryServer) (q : Query) : OpenCursor :=
  ⟨s.freshId, q.ns, (s.firstBatch q).length, q.tailable, q.awaitData⟩

/-- The first batch is all that the query is after. -/
def TakesAll (s : MemoryServer) (q : Query) : Prop :=
  q.tailable = false ∧ ((s.documents q.ns).length ≤ (s.firstBatch q).length ∨ q.batchSize < 0)

theorem find_cases (s : MemoryServer) (q : Query) :
    (s.TakesAll q ∧ s.find q = (s, replyBody "firstBatch" 0 q.ns (s.firstBatch q))) ∨
      (¬s.TakesAll q ∧ s.find q =
        ({ s with opened := s.opened + 1, cursors := s.cursors ++ [s.cursorFor q] },
          replyBody "firstBatch" s.freshId q.ns (s.firstBatch q))) := by
  have test : s.TakesAll q ↔ (!q.tailable &&
      ((s.documents q.ns).length ≤ (s.firstBatch q).length || q.batchSize < 0)) = true := by
    simp [TakesAll]
  by_cases all : s.TakesAll q
  · exact .inl ⟨all, if_pos (test.mp all)⟩
  · exact .inr ⟨all, if_neg fun h => all (test.mpr h)⟩

theorem find?_eq_some_iff {s t : MemoryServer} {q : Query} {reply : Document} :
    s.find? q = some (t, reply) ↔ s.find q = (t, reply) ∧ t.opened ≤ mostCursors := by
  unfold find?
  cases s.find q with
  | mk u answer =>
    simp only [Option.ite_none_right_eq_some, Option.some.injEq, Prod.mk.injEq]
    constructor
    · rintro ⟨room, rfl, rfl⟩
      exact ⟨⟨rfl, rfl⟩, room⟩
    · rintro ⟨⟨rfl, rfl⟩, room⟩
      exact ⟨room, rfl, rfl⟩

/-- A query breaks the server only when the numbers of cursors have run out. -/
theorem full_of_find? {s : MemoryServer} {q : Query} (breaks : s.find? q = none) :
    mostCursors ≤ s.opened := by
  have beyond : ¬(s.find q).1.opened ≤ mostCursors := by
    intro room
    cases breaks.symm.trans (find?_eq_some_iff.mpr ⟨rfl, room⟩)
  have counted : (s.find q).1.opened ≤ s.opened + 1 := by
    rcases s.find_cases q with ⟨-, found⟩ | ⟨-, found⟩ <;> simp [found]
  omega

end MemoryServer

end ResultCursor.Peer
