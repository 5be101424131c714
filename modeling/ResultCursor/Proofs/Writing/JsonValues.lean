import ResultCursor.Proofs.Writing.JsonWords

/-! Whole JSON texts. The one reader accepts both layouts that values are written in: on one line,
and with one field a line. -/

namespace ResultCursor.Json

/-! ### Layouts -/

/-- What stands between the words of a written value, and all of it are blanks. -/
structure Layout where
  newLine : Nat → List Char
  afterColon : List Char
  newLine_blank : ∀ level, ∀ c ∈ newLine level, isSpace c = true
  afterColon_blank : ∀ c ∈ afterColon, isSpace c = true

namespace Layout

mutual

/-- The text of a value. -/
def chars (l : Layout) (level : Nat) : Value → List Char
  | .array [] => ['[', ']']
  | .array (v :: rest) =>
    '[' :: items l (level + 1) (v :: rest) ++ l.newLine level ++ [']']
  | .object [] => ['{', '}']
  | .object (f :: rest) => '{' :: fields l (level + 1) (f :: rest) ++ l.newLine level ++ ['}']
  | v => scalarChars v

def items (l : Layout) (level : Nat) : List Value → List Char
  | [] => []
  | [v] => l.newLine level ++ chars l level v
  | v :: w :: rest => l.newLine level ++ chars l level v ++ ',' :: items l level (w :: rest)

def fields (l : Layout) (level : Nat) : List (String × Value) → List Char
  | [] => []
  | [(name, v)] => l.newLine level ++ stringChars name ++ ':' :: l.afterColon ++ chars l level v
  | (name, v) :: f :: rest =>
    l.newLine level ++ stringChars name ++ ':' :: l.afterColon ++ chars l level v ++
      ',' :: fields l level (f :: rest)

end

def compact : Layout := ⟨fun _ => [], [], by simp, by simp⟩

def pretty : Layout := ⟨Json.newLine, [' '], by simp [Json.newLine, isSpace], by simp [isSpace]⟩

mutual

theorem compactChars_eq : ∀ (level : Nat) (v : Value), compactChars v = compact.chars level v
  | level, .array [] => by simp [compactChars, compactItems, chars]
  | level, .array (v :: rest) => by
    simp [compactChars, chars, compactItems_eq (level + 1) (v :: rest), compact]
  | level, .object [] => by simp [compactChars, compactFields, chars]
  | level, .object (f :: rest) => by
    simp [compactChars, chars, compactFields_eq (level + 1) (f :: rest), compact]
  | _, .null | _, .bool _ | _, .integer _ | _, .decimal _ | _, .string _ | _, .garbled => by
    simp [compactChars, chars]

theorem compactItems_eq : ∀ (level : Nat) (items : List Value),
    compactItems items = compact.items level items
  | _, [] => by simp [compactItems, items]
  | level, [v] => by simp [compactItems, items, compactChars_eq level v, compact]
  | level, v :: w :: rest => by
    simp [compactItems, items, compactChars_eq level v, compactItems_eq level (w :: rest), compact]

theorem compactFields_eq : ∀ (level : Nat) (fields : List (String × Value)),
    compactFields fields = compact.fields level fields
  | _, [] => by simp [compactFields, fields]
  | level, [(name, v)] => by simp [compactFields, fields, compactChars_eq level v, compact]
  | level, (name, v) :: f :: rest => by
    simp [compactFields, fields, compactChars_eq level v, compactFields_eq level (f :: rest),
      compact]

end

mutual

theorem prettyChars_eq : ∀ (level : Nat) (v : Value), prettyChars level v = pretty.chars level v
  | level, .array [] => by simp [prettyChars, chars]
  | level, .array (v :: rest) => by
    simp [prettyChars, chars, prettyItems_eq (level + 1) (v :: rest), pretty]
  | level, .object [] => by simp [prettyChars, chars]
  | level, .object (f :: rest) => by
    simp [prettyChars, chars, prettyFields_eq (level + 1) (f :: rest), pretty]
  | _, .null | _, .bool _ | _, .integer _ | _, .decimal _ | _, .string _ | _, .garbled => by
    simp [prettyChars, chars]

theorem prettyItems_eq : ∀ (level : Nat) (items : List Value),
    prettyItems level items = pretty.items level items
  | _, [] => by simp [prettyItems, items]
  | level, [v] => by simp [prettyItems, items, prettyChars_eq level v, pretty]
  | level, v :: w :: rest => by
    simp [prettyItems, items, prettyChars_eq level v, prettyItems_eq level (w :: rest), pretty]

theorem prettyFields_eq : ∀ (level : Nat) (fields : List (String × Value)),
    prettyFields level fields = pretty.fields level fields
  | _, [] => by simp [prettyFields, fields]
  | level, [(name, v)] => by simp [prettyFields, fields, prettyChars_eq level v, pretty]
  | level, (name, v) :: f :: rest => by
    simp [prettyFields, fields, prettyChars_eq level v, prettyFields_eq level (f :: rest), pretty]

end

end Layout

/-! ### Reading values -/

/-- All numbers of the value are whole and all its texts are texts. -/
inductive Value.Plain : Value → Prop where
  | null : Plain .null
  | bool (b : Bool) : Plain (.bool b)
  | integer (n : Int) : Plain (.integer n)
  | string (s : String) : Plain (.string s)
  | array {items : List Value} (all : ∀ v ∈ items, Plain v) : Plain (.array items)
  | object {fields : List (String × Value)} (all : ∀ f ∈ fields, Plain f.2) : Plain (.object fields)

theorem skipSpace_append {blanks : List Char} (blank : ∀ c ∈ blanks, isSpace c = true)
    (cs : List Char) : skipSpace (blanks ++ cs) = skipSpace cs :=
  List.dropWhile_append_of_pos blank

theorem skipSpace_cons {c : Char} (mark : isSpace c = false) (cs : List Char) :
    skipSpace (c :: cs) = c :: cs :=
  List.dropWhile_cons_of_neg (Bool.eq_false_iff.mp mark)

theorem readValue_skip {blanks : List Char} (blank : ∀ c ∈ blanks, isSpace c = true)
    (fuel : Nat) (cs : List Char) : readValue fuel (blanks ++ cs) = readValue fuel cs := by
  cases fuel with
  | zero => simp [readValue]
  | succ fuel => simp only [readValue, skipSpace_append blank]

theorem readValue_number {c : Char} (opens : c = '-' ∨ c.isDigit = true) (fuel : Nat)
    (cs : List Char) : readValue (fuel + 1) (c :: cs) = readNumber (c :: cs) := by
  rw [readValue, skipSpace_cons (isSpace_of_opens opens)]
  split
  case h_7 => rfl
  all_goals
    next same =>
    cases same
    rcases opens with absurd | absurd <;> cases absurd

theorem readValue_array {cs : List Char} (opens : ∀ rest, skipSpace cs ≠ ']' :: rest) (fuel : Nat) :
    readValue (fuel + 1) ('[' :: cs) =
      (readItems fuel cs).map fun (items, rest) => (.array items, rest) := by
  simp only [readValue, skipSpace_cons (c := '[') rfl]

theorem readValue_object {cs : List Char} (opens : ∀ rest, skipSpace cs ≠ '\x7d' :: rest)
    (fuel : Nat) : readValue (fuel + 1) ('\x7b' :: cs) =
      (readFields fuel cs).map fun (fields, rest) => (objectOf fields, rest) := by
  simp only [readValue, skipSpace_cons (c := '\x7b') rfl]

namespace Layout

variable {l : Layout}

/-- A written value does not begin with a closing bracket. -/
theorem skipSpace_chars {v : Value} (plain : v.Plain) (level : Nat) (tail cs : List Char) :
    skipSpace (l.chars level v ++ tail) ≠ ']' :: cs := by
  cases plain with
  | null => simp [chars, scalarChars, skipSpace, isSpace]
  | bool b => cases b <;> simp [chars, scalarChars, skipSpace, isSpace]
  | integer n =>
    obtain ⟨c, cs, written, opens⟩ := Text.exists_cons_of_int n
    have inWord : c ≠ ']' := by
      rintro rfl
      rcases opens with absurd | absurd <;> cases absurd
    rw [chars.eq_def]
    simp only [scalarChars]
    rw [written, List.cons_append, skipSpace,
      List.dropWhile_cons_of_neg (by simp [isSpace_of_opens opens])]
    simp [inWord]
  | string s => simp [chars, scalarChars, stringChars, skipSpace, isSpace]
  | @array items all => cases items <;> simp [chars, skipSpace, isSpace]
  | @object fields all => cases fields <;> simp [chars, skipSpace, isSpace]

theorem skipSpace_items {v : Value} (plain : v.Plain) (level : Nat) (vs : List Value)
    (tail cs : List Char) : skipSpace (l.items level (v :: vs) ++ tail) ≠ ']' :: cs := by
  cases vs <;>
    simp only [items, List.append_assoc, skipSpace_append (l.newLine_blank level)] <;>
    exact skipSpace_chars plain level _ cs

theorem skipSpace_fields (level : Nat) (f : String × Value) (fs : List (String × Value))
    (tail cs : List Char) : skipSpace (l.fields level (f :: fs) ++ tail) ≠ '\x7d' :: cs := by
  cases fs <;>
    simp only [fields, List.append_assoc, skipSpace_append (l.newLine_blank level)] <;>
    simp [stringChars, skipSpace, isSpace]

/-- The text of the value is read back, whatever follows it. -/
def Reads (l : Layout) (v : Value) : Prop :=
  ∀ (level fuel : Nat) (rest : List Char), EndsWord rest → 2 * (l.chars level v).length < fuel →
    readValue fuel (l.chars level v ++ rest) = some (v, rest)

theorem endsWord_gap (level : Nat) {c : Char} (mark : c = ',' ∨ c = ']' ∨ c = '}')
    (rest : List Char) : EndsWord (l.newLine level ++ c :: rest) := by
  intro d next
  cases gap : l.newLine level with
  | nil =>
    obtain rfl : c = d := by simpa [gap] using next
    exact .inr mark
  | cons b blanks =>
    obtain rfl : b = d := by simpa [gap] using next
    exact .inl (l.newLine_blank level b (by simp [gap]))

theorem readItems_items (level outer : Nat) (rest : List Char) {vs : List Value} (some : vs ≠ [])
    (each : ∀ v ∈ vs, l.Reads v) : ∀ fuel, 2 * (l.items level vs).length + 1 < fuel →
    readItems fuel (l.items level vs ++ (l.newLine outer ++ ']' :: rest)) = .some (vs, rest) := by
  induction vs with
  | nil => exact absurd rfl some
  | cons v vs ih =>
    intro fuel enough
    obtain ⟨fuel, rfl⟩ : ∃ n, fuel = n + 1 := ⟨fuel - 1, by omega⟩
    cases vs with
    | nil =>
      simp only [items, List.length_append] at enough
      simp only [items, List.append_assoc, readItems, readValue_skip (l.newLine_blank level)]
      rw [each v (by simp) level fuel _ (endsWord_gap outer (by simp) rest) (by omega)]
      simp only [skipSpace_append (l.newLine_blank outer)]
      rfl
    | cons w vs =>
      simp only [items, List.length_append, List.length_cons] at enough
      simp only [items, List.append_assoc, List.cons_append, readItems,
        readValue_skip (l.newLine_blank level)]
      rw [each v (by simp) level fuel _ (by simp [EndsWord]) (by omega)]
      have later := ih (by simp) (fun u member => each u (by simp_all)) fuel (by omega)
      simp [skipSpace, isSpace, later]

section

variable (level : Nat) {fuel : Nat} (name : String) {tail rest more : List Char} {v : Value}
  (value : readValue fuel tail = some (v, rest))

include value

/-- The last name, and its value. -/
theorem readFields_brace (mark : skipSpace rest = '\x7d' :: more) :
    readFields (fuel + 1) (l.newLine level ++ stringChars name ++ ':' :: l.afterColon ++ tail) =
      some ([(some name, v)], more) := by
  simp only [readFields, stringChars, List.append_assoc, List.cons_append, List.nil_append,
    skipSpace_append (l.newLine_blank level), skipSpace_cons (c := '"') rfl, scanString_escaped,
    skipSpace_cons (c := ':') rfl, readValue_skip l.afterColon_blank, joinedString?_map_toNat,
    value, mark]

/-- A name and its value, with others to follow. -/
theorem readFields_comma (mark : skipSpace rest = ',' :: more) :
    readFields (fuel + 1) (l.newLine level ++ stringChars name ++ ':' :: l.afterColon ++ tail) =
      (readFields fuel more).map fun (fs, rest) => ((some name, v) :: fs, rest) := by
  simp only [readFields, stringChars, List.append_assoc, List.cons_append, List.nil_append,
    skipSpace_append (l.newLine_blank level), skipSpace_cons (c := '"') rfl, scanString_escaped,
    skipSpace_cons (c := ':') rfl, readValue_skip l.afterColon_blank, joinedString?_map_toNat,
    value, mark]

end

theorem readFields_fields (level outer : Nat) (rest : List Char) {fs : List (String × Value)}
    (some : fs ≠ []) (each : ∀ f ∈ fs, l.Reads f.2) :
    ∀ fuel, 2 * (l.fields level fs).length + 1 < fuel →
    readFields fuel (l.fields level fs ++ (l.newLine outer ++ '\x7d' :: rest)) =
      .some (fs.map fun f => (.some f.1, f.2), rest) := by
  induction fs with
  | nil => exact absurd rfl some
  | cons f fs ih =>
    intro fuel enough
    obtain ⟨fuel, rfl⟩ : ∃ n, fuel = n + 1 := ⟨fuel - 1, by omega⟩
    obtain ⟨name, v⟩ := f
    have value : l.Reads v := each (name, v) (by simp)
    cases fs with
    | nil =>
      simp only [fields, List.length_append, List.length_cons] at enough
      have mark : skipSpace (l.newLine outer ++ '\x7d' :: rest) = '\x7d' :: rest := by
        rw [skipSpace_append (l.newLine_blank outer), skipSpace_cons rfl]
      rw [fields, List.append_assoc]
      exact readFields_brace level name
        (value level fuel _ (endsWord_gap outer (by simp) rest) (by omega)) mark
    | cons g fs =>
      simp only [fields, List.length_append, List.length_cons] at enough
      have later := ih (by simp) (fun f member => each f (by simp_all)) fuel (by omega)
      rw [fields, List.append_assoc _ _ (l.newLine outer ++ _),
        List.append_assoc _ (l.chars level v), List.cons_append,
        readFields_comma level name (value level fuel _ (by simp [EndsWord]) (by omega))
          (skipSpace_cons rfl _), later]
      rfl

theorem objectOf_fields (fields : List (String × Value)) :
    objectOf (fields.map fun f => (some f.1, f.2)) = .object fields := by
  have names : fields.mapM (fun f => some (f.1, f.2)) = some fields := by
    induction fields with
    | nil => rfl
    | cons f fields ih => simp [ih]
  simp only [objectOf, List.mapM_map, Function.comp_def, Option.map_some, names]

/-- Reading a written value, by induction on the value. -/
theorem reads_of_plain {v : Value} (plain : v.Plain) : l.Reads v := by
  induction plain with
  | null =>
    rintro level (_ | fuel) rest ends ⟨⟩ <;>
    simp [chars, scalarChars, readValue, skipSpace, isSpace]
  | bool b =>
    rintro level (_ | fuel) rest ends ⟨⟩ <;> cases b <;>
    simp [chars, scalarChars, readValue, skipSpace, isSpace]
  | integer n =>
    rintro level (_ | fuel) rest ends enough
    · simp at enough
    · rw [chars.eq_def]
      simp only [scalarChars]
      obtain ⟨c, cs, written, opens⟩ := Text.exists_cons_of_int n
      rw [written, List.cons_append, readValue_number opens, ← List.cons_append, ← written,
        readNumber_integer n ends]
  | string s =>
    rintro level (_ | fuel) rest ends ⟨⟩ <;>
    simp [chars, scalarChars, stringChars, readValue, skipSpace, isSpace, scanString_escaped,
      joinedString?_map_toNat]
  | @array items all ih =>
    rintro level (_ | fuel) rest ends enough
    · simp at enough
    · cases items with
      | nil => simp [chars, readValue, skipSpace, isSpace]
      | cons v vs =>
        simp only [chars, List.length_append, List.length_cons] at enough
        have read := readItems_items (level + 1) level rest (by simp) ih fuel (by omega)
        simp only [chars, List.append_assoc, List.cons_append, List.nil_append]
        rw [readValue_array (skipSpace_items (all v (by simp)) (level + 1) vs _), read]
        rfl
  | @object fields all ih =>
    rintro level (_ | fuel) rest ends enough
    · simp at enough
    · cases fields with
      | nil => simp [chars, readValue, skipSpace, isSpace]
      | cons f fs =>
        simp only [chars, List.length_append, List.length_cons] at enough
        have read := readFields_fields (level + 1) level rest (by simp) ih fuel (by omega)
        simp only [chars, List.append_assoc, List.cons_append, List.nil_append]
        rw [readValue_object (skipSpace_fields (level + 1) f fs _), read, ← objectOf_fields]
        rfl

end Layout

/-! ### Whole texts -/

theorem ofText?_of_reads {l : Layout} {v : Value} (reads : l.Reads v) :
    ofText? (String.ofList (l.chars 0 v)) = some v := by
  have read := reads 0 (2 * (l.chars 0 v).length + 2) [] (by simp [EndsWord]) (by omega)
  rw [List.append_nil] at read
  simp [ofText?, read?, read, skipSpace]

/-- A value is read back from its text on one line. -/
theorem ofText?_compact {v : Value} (plain : v.Plain) : ofText? v.compact = some v := by
  rw [Value.compact, Layout.compactChars_eq 0]
  exact ofText?_of_reads (Layout.reads_of_plain plain)

/-- A value is read back from its text on several lines. -/
theorem ofText?_pretty {v : Value} (plain : v.Plain) : ofText? v.pretty = some v := by
  rw [Value.pretty, Layout.prettyChars_eq]
  exact ofText?_of_reads (Layout.reads_of_plain plain)

end ResultCursor.Json
