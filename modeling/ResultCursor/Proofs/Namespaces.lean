import ResultCursor.Namespace

/-! The text of a namespace. It is split at its first dot, so a pair can be read off its text just
if the database has no dot and neither name is empty; the collection may have dots anywhere. -/

namespace ResultCursor.Namespace

theorem splitFirstDot_eq_some_iff {cs before after : List Char} :
    splitFirstDot cs = some (before, after) ↔ '.' ∉ before ∧ cs = before ++ '.' :: after := by
  induction cs generalizing before with
  | nil => simp [splitFirstDot]
  | cons c rest ih =>
    by_cases dot : c = '.'
    · subst dot
      cases before with
      | nil => simp [splitFirstDot]
      | cons b before =>
        simp only [splitFirstDot, if_true, Option.some.injEq, Prod.mk.injEq, List.cons_append,
          List.cons.injEq, List.mem_cons, not_or]
        exact ⟨fun h => by simp at h, fun h => absurd h.2.1 h.1.1⟩
    · simp only [splitFirstDot, if_neg dot, Option.map_eq_some_iff, Prod.exists, Prod.mk.injEq]
      constructor
      · rintro ⟨front, back, split, rfl, rfl⟩
        obtain ⟨undotted, rfl⟩ := ih.mp split
        exact ⟨by simp [undotted, Ne.symm dot], rfl⟩
      · rintro ⟨undotted, joined⟩
        cases before with
        | nil => exact absurd (List.cons_eq_cons.mp joined).1 dot
        | cons b before =>
          obtain ⟨rfl, rfl⟩ := List.cons_eq_cons.mp joined
          exact ⟨before, after, ih.mpr ⟨fun h => undotted (.tail _ h), rfl⟩, rfl, rfl⟩

/-- The first dot of the text stands between the database and the collection, and both have a
name. -/
structure Proper (ns : Namespace) : Prop where
  undotted : '.' ∉ ns.database.toList
  database : ns.database ≠ ""
  collection : ns.collection ≠ ""

theorem toList_text (ns : Namespace) :
    ns.text.toList = ns.database.toList ++ '.' :: ns.collection.toList := by
  simp [text]

theorem ofText?_eq_some_iff {s : String} {ns : Namespace} :
    ofText? s = some ns ↔ ns.Proper ∧ s = ns.text := by
  have same : s = ns.text ↔ s.toList = ns.database.toList ++ '.' :: ns.collection.toList := by
    rw [← toList_text, String.toList_inj]
  rw [same, ofText?]
  constructor
  · intro h
    split at h
    · next database collection split =>
      obtain ⟨undotted, joined⟩ := splitFirstDot_eq_some_iff.mp split
      simp only [Option.ite_none_left_eq_some, Bool.or_eq_true, List.isEmpty_iff, not_or,
        Option.some.injEq] at h
      obtain ⟨⟨named, kept⟩, rfl⟩ := h
      refine ⟨⟨by simpa using undotted, by simpa using named, by simpa using kept⟩, ?_⟩
      simpa using joined
    · cases h
  · rintro ⟨proper, joined⟩
    rw [splitFirstDot_eq_some_iff.mpr ⟨proper.undotted, joined⟩]
    simp [proper.database, proper.collection]

/-- Where the first dot stands: behind all of a text without one. -/
def firstDot (s : String) : Nat := s.toList.idxOf '.'

theorem firstDot_text {ns : Namespace} (undotted : '.' ∉ ns.database.toList) :
    firstDot ns.text = ns.database.toList.length := by
  rw [firstDot, toList_text, List.idxOf_append, if_neg undotted, List.idxOf_cons_self, Nat.zero_add]

/-- A text is that of a proper namespace if its first dot stands neither first nor last. -/
theorem exists_proper_iff {s : String} : (∃ ns : Namespace, ns.Proper ∧ s = ns.text) ↔
    0 < firstDot s ∧ firstDot s + 1 < s.toList.length := by
  have named (t : String) : 0 < t.toList.length ↔ t ≠ "" := by
    rw [List.length_pos_iff, ne_eq, String.toList_eq_nil_iff]
  constructor
  · rintro ⟨ns, proper, rfl⟩
    have database := (named _).mpr proper.database
    have collection := (named _).mpr proper.collection
    rw [firstDot_text proper.undotted, toList_text]
    simp only [List.length_append, List.length_cons]
    omega
  · rintro ⟨front, back⟩
    have dotted : '.' ∈ s.toList := List.idxOf_lt_length_iff.mp (Nat.lt_of_succ_lt back)
    obtain ⟨before, after, cut, undotted⟩ := List.eq_append_cons_of_mem dotted
    have joined : s = text ⟨String.ofList before, String.ofList after⟩ :=
      String.toList_inj.mp (by simp [toList_text, cut])
    rw [joined, firstDot_text (by simpa using undotted)] at front back
    have collection : 0 < (String.ofList after).toList.length := by
      simp only [toList_text, List.length_append, List.length_cons, String.toList_ofList] at back ⊢
      omega
    exact ⟨_, ⟨by simpa using undotted, (named _).mp front, (named _).mp collection⟩, joined⟩

/-- A text is read as a namespace just if there is something on both sides of its first dot, and
then it is the text of what was read. A pair is read off its own text, as itself, just if the
database has a name without a dot and the collection has a name, which may have dots anywhere. -/
theorem read_off_text_iff :
    (∀ s, (∃ ns, ofText? s = some ns) ↔ 0 < firstDot s ∧ firstDot s + 1 < s.toList.length) ∧
    (∀ s ns, ofText? s = some ns → ns.text = s) ∧
    ∀ database collection, ofText? (text ⟨database, collection⟩) = some ⟨database, collection⟩ ↔
      database ≠ "" ∧ '.' ∉ database.toList ∧ collection ≠ "" := by
  refine ⟨fun s => ?_, fun s ns read => (ofText?_eq_some_iff.mp read).2.symm, fun d c => ?_⟩
  · simp only [ofText?_eq_some_iff, exists_proper_iff]
  · rw [ofText?_eq_some_iff]
    constructor
    · rintro ⟨proper, -⟩
      exact ⟨proper.database, proper.undotted, proper.collection⟩
    · rintro ⟨database, undotted, collection⟩
      exact ⟨⟨undotted, database, collection⟩, rfl⟩

end ResultCursor.Namespace
