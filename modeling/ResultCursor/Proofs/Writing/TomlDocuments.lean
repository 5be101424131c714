import ResultCursor.Proofs.Writing.TomlValues

/-! Documents of tables under headings. Their text is read back statement by statement, and the
statements fill the tables again, field by field in the written order. -/

namespace ResultCursor.Toml

open Text (takeWhile_append_of_ends)

/-- A name that needs no quotes. -/
structure IsBare (name : String) : Prop where
  chars : ∀ c ∈ name.toList, isBareKeyChar c = true
  some : name.toList ≠ []

instance (name : String) : Decidable (IsBare name) :=
  decidable_of_iff (name.toList.all isBareKeyChar = true ∧ name.toList ≠ [])
    ⟨fun h => ⟨List.all_eq_true.mp h.1, h.2⟩, fun h => ⟨List.all_eq_true.mpr h.1, h.2⟩⟩

/-- A section with bare names, none of which it has twice. -/
structure Section.IsPlain (s : Section) : Prop where
  name : IsBare s.name
  fields : ∀ f ∈ s.fields, IsBare f.1
  distinct : (s.fields.map Prod.fst).Nodup

/-! ### Statements -/

def Section.statements (s : Section) : List Statement :=
  .head [] s.name :: s.fields.map fun f => .assign [] f.1 f.2.toValue

variable {name : String} {rest : List Char}

/-- A bare name begins with a character that stands for nothing else. -/
theorem IsBare.front (bare : IsBare name) :
    ∃ c cs, name.toList = c :: cs ∧ isBareKeyChar c = true := by
  cases written : name.toList with
  | nil => exact absurd written bare.some
  | cons c cs => exact ⟨c, cs, rfl, bare.chars c (by simp [written])⟩

theorem solid_of_bare {c : Char} (bare : isBareKeyChar c = true) :
    c ≠ '\n' ∧ c ≠ '\r' ∧ c ≠ '#' ∧ c ≠ '[' ∧ isSpace c = false := by
  refine ⟨?_, ?_, ?_, ?_, Bool.eq_false_iff.mpr fun space => ?_⟩
  case refine_5 =>
    obtain rfl | rfl := eq_of_isSpace space <;> revert bare <;> decide
  all_goals
    rintro rfl
    revert bare
    decide

theorem skipSpaces_bare (bare : IsBare name) (rest : List Char) :
    skipSpaces (name.toList ++ rest) = name.toList ++ rest := by
  obtain ⟨c, cs, written, front⟩ := bare.front
  rw [written, List.cons_append, skipSpaces, List.dropWhile_cons_of_neg]
  simp [(solid_of_bare front).2.2.2.2]

theorem readKey_bare (bare : IsBare name) (fuel : Nat)
    (ends : ∀ c ∈ rest.head?, isBareKeyChar c = false)
    (last : ∀ more, skipSpaces rest ≠ '.' :: more) :
    readKey (fuel + 1) (name.toList ++ rest) = some (([], name), skipSpaces rest) := by
  obtain ⟨taken, left⟩ := takeWhile_append_of_ends bare.chars ends
  have read : readName (name.toList ++ rest) = some (name, rest) := by
    rw [readName, taken, left]
    split
    · next none => exact absurd none bare.some
    · rw [String.ofList_toList]
  rw [readKey, read]
  dsimp only
  split
  · next more same => exact absurd same (last more)
  · rfl

theorem readStatement_head (bare : IsBare name) (rest : List Char) :
    readStatement ('[' :: (name.toList ++ ']' :: rest)) = some (.head [] name, rest) := by
  have key : readKey maxNames (skipSpaces (name.toList ++ ']' :: rest)) =
      some (([], name), ']' :: rest) := by
    rw [skipSpaces_bare bare]
    exact readKey_bare bare 79 (by simp; decide) (by simp [skipSpaces, isSpace])
  obtain ⟨c, cs, written, front⟩ := bare.front
  rw [written, List.cons_append] at key ⊢
  rw [readStatement.eq_def]
  split
  · next same =>
    obtain ⟨rfl, -⟩ := List.cons_eq_cons.mp (List.cons_eq_cons.mp same).2
    exact absurd rfl (solid_of_bare front).2.2.2.1
  · next same =>
    obtain ⟨-, rfl⟩ := List.cons_eq_cons.mp same
    simp only [key]
  · next other => exact absurd rfl (other _)

theorem scalarChars_head (v : Scalar) :
    ∃ c cs, scalarChars v = c :: cs ∧ isSpace c = false := by
  cases v with
  | string s =>
    obtain ⟨c, cs, written, rfl | rfl⟩ := quotedChars_head s.toList
    · exact ⟨_, cs, written, rfl⟩
    · exact ⟨_, cs, written, rfl⟩
  | integer n =>
    obtain ⟨c, cs, written, front⟩ := Text.exists_cons_of_int n.toInt
    refine ⟨c, cs, written, Bool.eq_false_iff.mpr fun space => ?_⟩
    obtain rfl | rfl := eq_of_isSpace space <;> revert front <;> decide
  | boolean b => cases b <;> exact ⟨_, _, rfl, rfl⟩

theorem readStatement_assign (bare : IsBare name) (v : Scalar) (rest : List Char) :
    readStatement (name.toList ++ ' ' :: '=' :: ' ' :: (scalarChars v ++ '\n' :: rest)) =
      some (.assign [] name v.toValue, '\n' :: rest) := by
  obtain ⟨d, ds, begun, solid⟩ := scalarChars_head v
  have gap : skipSpaces (' ' :: (scalarChars v ++ '\n' :: rest)) =
      scalarChars v ++ '\n' :: rest := by
    rw [begun, List.cons_append, skipSpaces, List.dropWhile_cons_of_pos (by decide),
      List.dropWhile_cons_of_neg (by simp [solid])]
  have key :
      readKey maxNames (name.toList ++ ' ' :: '=' :: ' ' :: (scalarChars v ++ '\n' :: rest)) =
        some (([], name), '=' :: ' ' :: (scalarChars v ++ '\n' :: rest)) :=
    readKey_bare bare 79 (by simp; decide) (by simp [skipSpaces, isSpace])
  obtain ⟨c, cs, written, front⟩ := bare.front
  rw [written, List.cons_append] at key ⊢
  have bracket := (solid_of_bare front).2.2.2.1
  rw [readStatement.eq_def]
  split
  · next same => exact absurd (List.cons_eq_cons.mp same).1 bracket
  · next same => exact absurd (List.cons_eq_cons.mp same).1 bracket
  · have equals : skipSpaces ('=' :: ' ' :: (scalarChars v ++ '\n' :: rest)) =
        '=' :: ' ' :: (scalarChars v ++ '\n' :: rest) := by
      simp [skipSpaces, isSpace]
    simp [readPair, key, skipGap?, equals, gap, readValue_scalarChars]

/-! ### Lines -/

theorem skipVoid?_solid {c : Char} {cs : List Char}
    (solid : c ≠ '\n' ∧ c ≠ '\r' ∧ c ≠ '#' ∧ isSpace c = false) :
    skipVoid? false (c :: cs) = some (c :: cs) := by
  rw [skipVoid?.eq_def]
  split <;> simp_all

/-- One statement on a line of its own. -/
theorem readStatements_line {c : Char} {cs : List Char} {s : Statement} (fuel : Nat)
    (solid : c ≠ '\n' ∧ c ≠ '\r' ∧ c ≠ '#' ∧ isSpace c = false)
    (read : readStatement (c :: cs) = some (s, '\n' :: rest)) :
    readStatements (fuel + 1) (c :: cs) = (readStatements fuel rest).map (s :: ·) := by
  simp [readStatements, skipVoid?_solid solid, read, endLine?]

theorem readStatements_empty (fuel : Nat) (cs : List Char) :
    readStatements fuel ('\n' :: cs) = readStatements fuel cs := by
  cases fuel with
  | zero => rfl
  | succ fuel => simp [readStatements, skipVoid?]

/-- A text that is read as the statements, however many steps more than characters are allowed. -/
def ReadsAs (cs : List Char) (statements : List Statement) : Prop :=
  ∀ fuel, cs.length < fuel → readStatements fuel cs = some statements

theorem readsAs_nil : ReadsAs [] [] := by
  intro fuel enough
  obtain ⟨fuel, rfl⟩ := Nat.exists_eq_add_one.mpr enough
  simp [readStatements, skipVoid?]

theorem readsAs_line {c : Char} {cs : List Char} {s : Statement} {later : List Statement}
    (solid : c ≠ '\n' ∧ c ≠ '\r' ∧ c ≠ '#' ∧ isSpace c = false)
    (read : readStatement (c :: cs) = some (s, '\n' :: rest)) (shorter : rest.length ≤ cs.length)
    (tail : ReadsAs rest later) : ReadsAs (c :: cs) (s :: later) := by
  intro fuel enough
  obtain ⟨fuel, rfl⟩ := Nat.exists_eq_add_one.mpr (Nat.lt_of_le_of_lt (Nat.zero_le _) enough)
  rw [List.length_cons] at enough
  rw [readStatements_line fuel solid read, tail fuel (by omega)]
  rfl

variable {later : List Statement}

theorem readsAs_field {f : String × Scalar} (bare : IsBare f.1) (tail : ReadsAs rest later) :
    ReadsAs (fieldChars f ++ rest) (.assign [] f.1 f.2.toValue :: later) := by
  have read := readStatement_assign bare f.2 rest
  have text : fieldChars f ++ rest =
      f.1.toList ++ ' ' :: '=' :: ' ' :: (scalarChars f.2 ++ '\n' :: rest) := by
    simp [fieldChars]
  obtain ⟨c, cs, written, front⟩ := bare.front
  obtain ⟨feed, back, hash, -, space⟩ := solid_of_bare front
  rw [text]
  rw [written, List.cons_append] at read ⊢
  exact readsAs_line ⟨feed, back, hash, space⟩ read (by simp; omega) tail

theorem readsAs_section {s : Section} (plain : s.IsPlain) (tail : ReadsAs rest later) :
    ReadsAs (sectionChars s ++ rest) (s.statements ++ later) := by
  have fields : ReadsAs (s.fields.flatMap fieldChars ++ rest)
      (s.fields.map (fun f => .assign [] f.1 f.2.toValue) ++ later) := by
    have bare := plain.fields
    generalize s.fields = fields at bare
    induction fields with
    | nil => exact tail
    | cons f fields ih =>
      obtain ⟨first, others⟩ := List.forall_mem_cons.mp bare
      rw [List.flatMap_cons, List.append_assoc]
      exact readsAs_field first (ih others)
  have text : sectionChars s ++ rest =
      '[' :: (s.name.toList ++ ']' :: '\n' :: (s.fields.flatMap fieldChars ++ rest)) := by
    simp [sectionChars]
  rw [text]
  exact readsAs_line (by decide) (readStatement_head plain.name _) (by simp; omega) fields

theorem readsAs_sections {sections : List Section} (plain : ∀ s ∈ sections, s.IsPlain) :
    ReadsAs (sectionsChars sections) (sections.flatMap Section.statements) := by
  induction sections with
  | nil => exact readsAs_nil
  | cons s sections ih =>
    obtain ⟨first, others⟩ := List.forall_mem_cons.mp plain
    cases sections with
    | nil =>
      have single := readsAs_section first readsAs_nil
      simpa [sectionsChars] using single
    | cons t sections =>
      refine readsAs_section first fun fuel enough => ?_
      rw [readStatements_empty]
      exact ih others fuel (Nat.lt_of_succ_lt enough)

/-! ### Tables -/

def Section.toNode (s : Section) : String × Node :=
  (s.name, .table .headed (s.fields.map fun f => (f.1, .value f.2.toValue)))

theorem lookup_fresh {β : Type} {fields : List (String × β)} {name : String}
    (fresh : name ∉ fields.map Prod.fst) : fields.lookup name = none := by
  refine List.lookup_eq_none_iff.mpr fun f member => bne_iff_ne.mpr ?_
  rintro rfl
  exact fresh (List.mem_map_of_mem member)

theorem replace_last {fields : Node.Fields} (fresh : name ∉ fields.map Prod.fst) (old new : Node) :
    Node.replace name new (fields ++ [(name, old)]) = fields ++ [(name, new)] := by
  induction fields with
  | nil => simp [Node.replace]
  | cons f fields ih =>
    obtain ⟨other, fresh⟩ : name ≠ f.1 ∧ name ∉ fields.map Prod.fst := by simpa using fresh
    rw [List.cons_append, Node.replace, if_neg (Ne.symm other), ih fresh]
    rfl

theorem add?_head {d : Document} (fresh : name ∉ d.fields.map Prod.fst) :
    d.add? (.head [] name) = some ⟨d.fields ++ [(name, .table .headed [])], [name]⟩ := by
  simp [Document.add?, Node.head?, Node.within?, lookup_fresh fresh]

/-- A field goes to the end of the table under the last heading. -/
theorem add?_assign {before fields : Node.Fields} {key : String}
    (apart : name ∉ before.map Prod.fst) (fresh : key ∉ fields.map Prod.fst) (v : Value) :
    Document.add? ⟨before ++ [(name, .table .headed fields)], [name]⟩ (.assign [] key v) =
      some ⟨before ++ [(name, .table .headed (fields ++ [(key, .value v)]))], [name]⟩ := by
  have found : (before ++ [(name, Node.table .headed fields)]).lookup name =
      some (.table .headed fields) := by
    simp [List.lookup_append, lookup_fresh apart]
  have inner : Node.assign? [] key v fields = some (fields ++ [(key, .value v)]) := by
    simp [Node.assign?, Node.within?, lookup_fresh fresh]
  simp [Document.add?, Node.within?, found, inner, replace_last apart]

theorem foldlM_fields {before : Node.Fields} (apart : name ∉ before.map Prod.fst)
    {done : Node.Fields} {fields : List (String × Scalar)}
    (distinct : (done.map Prod.fst ++ fields.map Prod.fst).Nodup) :
    (fields.map fun f => Statement.assign [] f.1 f.2.toValue).foldlM Document.add?
        ⟨before ++ [(name, .table .headed done)], [name]⟩ =
      some ⟨before ++ [(name, .table .headed
        (done ++ fields.map fun f => (f.1, .value f.2.toValue)))], [name]⟩ := by
  induction fields generalizing done with
  | nil => simp
  | cons f fields ih =>
    have fresh : f.1 ∉ done.map Prod.fst := fun member =>
      (List.nodup_append.mp distinct).2.2 f.1 member f.1 (by simp) rfl
    have rest := @ih (done ++ [(f.1, .value f.2.toValue)]) (by simpa using distinct)
    rw [List.map_cons, List.foldlM_cons, add?_assign apart fresh]
    simpa using rest

theorem foldlM_section {d : Document} {s : Section} (plain : s.IsPlain)
    (fresh : s.name ∉ d.fields.map Prod.fst) :
    s.statements.foldlM Document.add? d = some ⟨d.fields ++ [s.toNode], [s.name]⟩ := by
  rw [Section.statements, List.foldlM_cons, add?_head fresh]
  exact foldlM_fields fresh (by simpa using plain.distinct)

theorem foldlM_sections {sections : List Section} (plain : ∀ s ∈ sections, s.IsPlain)
    {d : Document} (distinct : (d.fields.map Prod.fst ++ sections.map Section.name).Nodup) :
    ∃ place, (sections.flatMap Section.statements).foldlM Document.add? d =
      some ⟨d.fields ++ sections.map Section.toNode, place⟩ := by
  induction sections generalizing d with
  | nil => exact ⟨d.place, by simp⟩
  | cons s sections ih =>
    obtain ⟨first, others⟩ := List.forall_mem_cons.mp plain
    have fresh : s.name ∉ d.fields.map Prod.fst := fun member =>
      (List.nodup_append.mp distinct).2.2 s.name member s.name (by simp) rfl
    obtain ⟨place, rest⟩ := ih others (d := ⟨d.fields ++ [s.toNode], [s.name]⟩)
      (by simpa [Section.toNode] using distinct)
    refine ⟨place, ?_⟩
    rw [List.flatMap_cons, List.foldlM_append, foldlM_section first fresh]
    simpa using rest

theorem fieldValues_eq (fields : Node.Fields) :
    Node.fieldValues fields = fields.map fun f => (f.1, f.2.toValue) := by
  induction fields with
  | nil => rfl
  | cons f fields ih => rw [Node.fieldValues, ih, List.map_cons]

theorem toValue_toNode (s : Section) : (s.toNode.1, s.toNode.2.toValue) = s.toField := by
  simp [Section.toNode, Section.toField, Node.toValue, fieldValues_eq, Function.comp_def]

/-- What is written as sections is read back as their tables. -/
theorem ofText?_textOf {sections : List Section} (plain : ∀ s ∈ sections, s.IsPlain)
    (distinct : (sections.map Section.name).Nodup) :
    ofText? (textOf sections) = some (sections.map Section.toField) := by
  have unmarked : dropMark (sectionsChars sections) = sectionsChars sections := by
    obtain _ | ⟨s, _ | ⟨t, sections⟩⟩ := sections <;>
      simp [dropMark, sectionsChars, sectionChars]
  obtain ⟨place, tables⟩ := foldlM_sections plain (d := {}) (by simpa using distinct)
  have read := readsAs_sections plain _ (Nat.lt_succ_self _)
  simp [ofText?, textOf, tableOf?, unmarked, read, Document.ofStatements?, tables,
    Document.table, fieldValues_eq, toValue_toNode]

end ResultCursor.Toml
