import ResultCursor.Command
import ResultCursor.Proofs.Namespaces
import ResultCursor.Proofs.Replies

/-! The format of replies. A document is read as a reply exactly if the fields that count are there
with their types, and everything else in it is passed over. -/

namespace ResultCursor

namespace Bson

variable {v : Bson}

theorem asString?_eq_some_iff {s : String} : v.asString? = some s ↔ v = .string s := by
  cases v <;> simp [asString?]

theorem asDocument?_eq_some_iff {d : Document} : v.asDocument? = some d ↔ v = .document d := by
  cases v <;> simp [asDocument?]

theorem asArray?_eq_some_iff {items : List Bson} : v.asArray? = some items ↔ v = .array items := by
  cases v <;> simp [asArray?]

theorem asTimestamp?_eq_some_iff {t : Timestamp} : v.asTimestamp? = some t ↔ v = .timestamp t := by
  cases v <;> simp [asTimestamp?]

end Bson

namespace BatchReply

/-! ### What the parts of a reply are read from -/

theorem required_eq_ok_iff {α : Type} {d : Document} {name : String} {view : Bson → Option α}
    {a : α} : required d name view = .ok a ↔ ∃ v, d.get? name = some v ∧ view v = some a := by
  unfold required Document.field
  cases d.get? name with
  | none => simp
  | some v => cases hv : view v <;> simp [hv]

/-- The number of the server's cursor, in 32 or 64 bits. -/
def IsId (v : Bson) (id : Int64) : Prop :=
  v = .int64 id ∨ ∃ n : Int32, v = .int32 n ∧ id.toInt = n.toInt

theorem cursorId_eq_ok_iff {cursor : Document} {id : Int64} :
    cursorId cursor = .ok id ↔ ∃ v, cursor.get? "id" = some v ∧ IsId v id := by
  have widened (n : Int32) : n.toInt64 = id ↔ id.toInt = n.toInt := by
    rw [← Int64.toInt_inj, Int32.toInt_toInt64, eq_comm]
  unfold cursorId IsId
  split <;> simp_all

theorem namespaceOf_eq_ok_iff {text : String} {ns : Namespace} :
    namespaceOf text = .ok ns ↔ ns.Proper ∧ text = ns.text := by
  rw [← Namespace.ofText?_eq_some_iff, namespaceOf]
  cases Namespace.ofText? text <;> simp

theorem documentsOf_eq_ok_iff {items : List Bson} {ds : List Document} :
    documentsOf items = .ok ds ↔ items = ds.map .document := by
  constructor
  · intro h
    induction items generalizing ds with
    | nil =>
      cases h
      rfl
    | cons item rest ih =>
      unfold documentsOf at h
      split at h
      · next none =>
        cases none
      · next d rest' joined =>
        cases joined
        split at h
        · next found read =>
          cases h
          rw [List.map_cons, ih read]
        · cases h
      · cases h
  · rintro rfl
    exact documentsOf_map ds

/-! ### What a reply shows -/

/-- What the part about the server's cursor says. The token counts only if it is a document. -/
structure CursorShows (place : Place) (cursor : Document) (r : BatchReply) : Prop where
  id : ∃ v, cursor.get? "id" = some v ∧ IsId v r.id
  proper : r.ns.Proper
  ns : cursor.get? "ns" = some (.string r.ns.text)
  documents : cursor.get? place.fieldName = some (.array (r.documents.map .document))
  resumeToken : ∀ token, r.resumeToken = some token ↔
    cursor.get? "postBatchResumeToken" = some (.document token)

/-- What a document says as a reply with its batch in this place. The time counts only if it is a
timestamp. -/
structure Shows (place : Place) (d : Document) (r : BatchReply) : Prop where
  cursor : ∃ cursor, d.get? "cursor" = some (.document cursor) ∧ CursorShows place cursor r
  operationTime : ∀ t, r.operationTime = some t ↔ d.get? "operationTime" = some (.timestamp t)

/-- The fields that a reply cannot do without. -/
def IsReply (place : Place) (d : Document) : Prop :=
  ∃ cursor : Document, d.get? "cursor" = some (.document cursor) ∧
    (∃ v, cursor.get? "id" = some v ∧ ((∃ n, v = .int32 n) ∨ ∃ n, v = .int64 n)) ∧
    (∃ ns : Namespace, ns.Proper ∧ cursor.get? "ns" = some (.string ns.text)) ∧
    ∃ ds : List Document, cursor.get? place.fieldName = some (.array (ds.map .document))

/-- An optional field is read if it is there with its type. -/
theorem optional_eq_iff {α : Type} {found : Option Bson} {view : Bson → Option α} {con : α → Bson}
    (views : ∀ v a, view v = some a ↔ v = con a) {o : Option α} :
    found.bind view = o ↔ ∀ a, o = some a ↔ found = some (con a) := by
  have read (a : α) : found.bind view = some a ↔ found = some (con a) := by
    simp [Option.bind_eq_some_iff, views]
  constructor
  · rintro rfl a
    exact read a
  · intro h
    refine Option.ext fun a => ?_
    rw [read, h]

theorem documentIn_eq_iff {found : Option Bson} {o : Option Document} :
    found.bind Bson.asDocument? = o ↔ ∀ d, o = some d ↔ found = some (.document d) :=
  optional_eq_iff fun _ _ => Bson.asDocument?_eq_some_iff

theorem timestampIn_eq_iff {found : Option Bson} {o : Option Timestamp} :
    found.bind Bson.asTimestamp? = o ↔ ∀ t, o = some t ↔ found = some (.timestamp t) :=
  optional_eq_iff fun _ _ => Bson.asTimestamp?_eq_some_iff

/-! ### What is read -/

theorem ofDocument_eq_ok_iff {place : Place} {d : Document} {r : BatchReply} :
    ofDocument place d = .ok r ↔ Shows place d r := by
  unfold ofDocument
  simp only [Failure.bind_eq_ok_iff, required_eq_ok_iff, cursorId_eq_ok_iff, namespaceOf_eq_ok_iff,
    documentsOf_eq_ok_iff, Bson.asDocument?_eq_some_iff, Bson.asString?_eq_some_iff,
    Bson.asArray?_eq_some_iff, exists_eq_right]
  constructor
  · rintro ⟨cursor, found, id, hid, text, hns, ns, ⟨proper, rfl⟩, items, hitems, ds, rfl, built⟩
    cases built
    exact ⟨⟨cursor, found, hid, proper, hns, hitems, documentIn_eq_iff.mp rfl⟩,
      timestampIn_eq_iff.mp rfl⟩
  · rintro ⟨⟨cursor, found, shows⟩, stamped⟩
    refine ⟨cursor, found, r.id, shows.id, r.ns.text, shows.ns, r.ns, ⟨shows.proper, rfl⟩, _,
      shows.documents, r.documents, rfl, ?_⟩
    rw [documentIn_eq_iff.mpr shows.resumeToken, timestampIn_eq_iff.mpr stamped]
    rfl

theorem isReply_iff {place : Place} {d : Document} : IsReply place d ↔ ∃ r, Shows place d r := by
  constructor
  · rintro ⟨cursor, found, ⟨v, hid, whole⟩, ⟨ns, proper, hns⟩, ds, hds⟩
    obtain ⟨id, isId⟩ : ∃ id, IsId v id := by
      rcases whole with ⟨n, rfl⟩ | ⟨n, rfl⟩
      · exact ⟨n.toInt64, .inr ⟨n, rfl, Int32.toInt_toInt64 n⟩⟩
      · exact ⟨n, .inl rfl⟩
    let token := (cursor.get? "postBatchResumeToken").bind Bson.asDocument?
    let time := (d.get? "operationTime").bind Bson.asTimestamp?
    exact ⟨⟨ns, id, ds, token, time⟩, ⟨cursor, found, ⟨v, hid, isId⟩, proper, hns, hds,
      documentIn_eq_iff.mp rfl⟩, timestampIn_eq_iff.mp rfl⟩
  · rintro ⟨r, ⟨cursor, found, shows⟩, -⟩
    obtain ⟨v, hid, isId⟩ := shows.id
    refine ⟨cursor, found, ⟨v, hid, ?_⟩, ⟨r.ns, shows.proper, shows.ns⟩, r.documents,
      shows.documents⟩
    rcases isId with rfl | ⟨n, rfl, -⟩
    · exact .inr ⟨r.id, rfl⟩
    · exact .inl ⟨n, rfl⟩

/-- A reply as a document. -/
def toDocument (place : Place) (r : BatchReply) : Document :=
  [("cursor", .document
      ([("id", .int64 r.id), ("ns", .string r.ns.text),
          (place.fieldName, .array (r.documents.map .document))] ++
        Command.optionalEntry "postBatchResumeToken" (r.resumeToken.map .document)))] ++
    Command.optionalEntry "operationTime" (r.operationTime.map .timestamp)

theorem lookup_optionalEntry (name : String) (v : Option Bson) :
    (Command.optionalEntry name v).lookup name = v := by
  cases v <;> simp [Command.optionalEntry]

theorem toDocument_shows (place : Place) {r : BatchReply} (proper : r.ns.Proper) :
    Shows place (r.toDocument place) r := by
  obtain ⟨ns, id, ds, token, time⟩ := r
  refine ⟨⟨_, rfl, ⟨_, rfl, .inl rfl⟩, proper, ?_, ?_, ?_⟩, ?_⟩
  · cases place <;> rfl
  · cases place <;> rfl
  · cases place <;>
      simp [Document.get?, List.lookup_cons, Place.fieldName, lookup_optionalEntry]
  · simp [toDocument, Document.get?, List.lookup_cons, lookup_optionalEntry]

/-- A document is read as a reply just if it has the part about the server's cursor, and there a
whole number, a text with something on both sides of its first dot, and a batch of nothing but
documents. What it is read as is what it shows, and no other field has any say in it. A document
that is not a reply is refused as an invalid one. A reply that was written down is read back, unless
its namespace cannot be read off a text at all. -/
theorem reads_just_replies (place : Place) :
    (∀ d, IsReply place d ↔ ∃ r, ofDocument place d = .ok r) ∧
    (∀ d r, ofDocument place d = .ok r ↔ Shows place d r) ∧
    (∀ d, ¬IsReply place d ↔ ∃ fault, ofDocument place d = .error (.invalidReply fault)) ∧
    ∀ r : BatchReply, r.ns.Proper ↔ ofDocument place (r.toDocument place) = .ok r := by
  have accepted (d : Document) : IsReply place d ↔ ∃ r, ofDocument place d = .ok r := by
    simp only [isReply_iff, ofDocument_eq_ok_iff]
  refine ⟨accepted, fun d r => ofDocument_eq_ok_iff, fun d => ?_, fun r => ?_⟩
  · rw [accepted]
    constructor
    · intro refused
      cases read : ofDocument place d with
      | ok r => exact absurd ⟨r, read⟩ refused
      | error f =>
        obtain ⟨fault, rfl⟩ := ofDocument_onlyInvalid place d f read
        exact ⟨fault, rfl⟩
    · rintro ⟨fault, refused⟩ ⟨r, read⟩
      cases refused.symm.trans read
  · rw [ofDocument_eq_ok_iff]
    refine ⟨toDocument_shows place, fun shows => ?_⟩
    obtain ⟨cursor, -, part⟩ := shows.cursor
    exact part.proper

end BatchReply

end ResultCursor
