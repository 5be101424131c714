import Mathlib.Data.List.Nodup
import ResultCursor.Failure.Message
import ResultCursor.Proofs.Writing.JsonValues

/-! Reports as JSON texts. A report is read back from either of its layouts, with the fields that it
had and no others. The layout on one line keeps to it whatever texts the report quotes, since line
ends are only ever written as escapes. -/

namespace ResultCursor

namespace Json

/-! ### Texts on one line -/

/-- Neither a line end nor any other control character before the blank. -/
def IsSmooth (c : Char) : Prop := 0x20 ≤ c.toNat

instance (c : Char) : Decidable (IsSmooth c) := inferInstanceAs (Decidable (0x20 ≤ c.toNat))

theorem isSmooth_digit {c : Char} (digit : c.isDigit = true) : IsSmooth c := by
  simp only [Char.isDigit, Bool.and_eq_true, decide_eq_true_eq, UInt32.le_iff_toNat_le] at digit
  have low : 48 ≤ c.toNat := digit.1
  unfold IsSmooth
  omega

theorem isSmooth_hexDigit : ∀ d < 16, 0x20 ≤ (Nat.digitChar d).toNat := by decide

theorem escapedChar_smooth (c : Char) : ∀ d ∈ escapedChar c, IsSmooth d := by
  unfold escapedChar
  split
  case h_8 =>
    by_cases low : c.toNat < 0x20
    · have high := isSmooth_hexDigit (c.toNat / 16) (by omega)
      have lower := isSmooth_hexDigit (c.toNat % 16) (by omega)
      simp [if_pos low, IsSmooth, high, lower]
    · simpa [if_neg low, IsSmooth] using low
  all_goals simp [IsSmooth]

theorem stringChars_smooth (s : String) : ∀ c ∈ stringChars s, IsSmooth c := by
  rw [stringChars, List.cons_append, List.forall_mem_cons, List.forall_mem_append]
  refine ⟨by decide, fun c member => ?_, List.forall_mem_singleton.mpr (by decide)⟩
  obtain ⟨d, -, inside⟩ := List.mem_flatMap.mp member
  exact escapedChar_smooth d c inside

theorem integer_smooth (n : Int) : ∀ c ∈ (toString n).toList, IsSmooth c := by
  rw [Text.toList_toString_int, List.forall_mem_append]
  refine ⟨?_, fun c digit => isSmooth_digit (Text.isDigit_of_mem_decimal digit)⟩
  split <;> simp [IsSmooth]

theorem compactItems_smooth {vs : List Value}
    (each : ∀ v ∈ vs, ∀ c ∈ compactChars v, IsSmooth c) : ∀ c ∈ compactItems vs, IsSmooth c := by
  induction vs with
  | nil => simp [compactItems]
  | cons v vs ih =>
    obtain ⟨first, others⟩ := List.forall_mem_cons.mp each
    cases vs with
    | nil => simpa only [compactItems] using first
    | cons w vs =>
      rw [compactItems, List.forall_mem_append, List.forall_mem_cons]
      exact ⟨first, by decide, ih others⟩

theorem compactFields_smooth {fs : List (String × Value)}
    (each : ∀ f ∈ fs, ∀ c ∈ compactChars f.2, IsSmooth c) :
    ∀ c ∈ compactFields fs, IsSmooth c := by
  induction fs with
  | nil => simp [compactFields]
  | cons f fs ih =>
    obtain ⟨value, others⟩ := List.forall_mem_cons.mp each
    obtain ⟨name, v⟩ := f
    have first : ∀ c ∈ stringChars name ++ ':' :: compactChars v, IsSmooth c := by
      rw [List.forall_mem_append, List.forall_mem_cons]
      exact ⟨stringChars_smooth name, by decide, value⟩
    cases fs with
    | nil => simpa only [compactFields] using first
    | cons g fs =>
      rw [compactFields, List.forall_mem_append, List.forall_mem_cons]
      exact ⟨first, by decide, ih others⟩

theorem compactChars_smooth {v : Value} (plain : v.Plain) :
    ∀ c ∈ compactChars v, IsSmooth c := by
  induction plain with
  | null => simp [compactChars, scalarChars, IsSmooth]
  | bool b => cases b <;> simp [compactChars, scalarChars, IsSmooth]
  | integer n => simpa only [compactChars, scalarChars] using integer_smooth n
  | string s => simpa only [compactChars, scalarChars] using stringChars_smooth s
  | array all ih =>
    rw [compactChars, List.cons_append, List.forall_mem_cons, List.forall_mem_append]
    exact ⟨by decide, compactItems_smooth ih, List.forall_mem_singleton.mpr (by decide)⟩
  | object all ih =>
    rw [compactChars, List.cons_append, List.forall_mem_cons, List.forall_mem_append]
    exact ⟨by decide, compactFields_smooth ih, List.forall_mem_singleton.mpr (by decide)⟩

end Json

namespace Report

open Json (Value)

/-! ### Fields that may be absent -/

/-- The fields that are there, by their names. -/
def present (named : List (String × Option Value)) : List (String × Value) :=
  named.flatMap fun f => optionalField f.1 f.2

theorem mem_present_iff {named : List (String × Option Value)} {f : String × Value} :
    f ∈ present named ↔ (f.1, some f.2) ∈ named := by
  obtain ⟨name, v⟩ := f
  constructor
  · intro member
    obtain ⟨⟨other, o⟩, there, inside⟩ := List.mem_flatMap.mp member
    cases o with
    | none => cases inside
    | some w =>
      cases List.mem_singleton.mp inside
      exact there
  · exact fun there => List.mem_flatMap.mpr ⟨_, there, List.mem_singleton.mpr rfl⟩

theorem names_sublist (named : List (String × Option Value)) :
    ((present named).map Prod.fst).Sublist (named.map Prod.fst) := by
  induction named with
  | nil => exact .slnil
  | cons f named ih =>
    obtain ⟨name, _ | v⟩ := f
    · exact ih.cons name
    · exact ih.cons_cons name

theorem lookup_of_mem {β : Type} {fields : List (String × β)}
    (distinct : (fields.map Prod.fst).Nodup) {f : String × β} (member : f ∈ fields) :
    fields.lookup f.1 = some f.2 := by
  induction fields with
  | nil => cases member
  | cons g fields ih =>
    obtain ⟨fresh, distinct⟩ := List.nodup_cons.mp distinct
    rcases List.mem_cons.mp member with rfl | member
    · exact List.lookup_cons_self
    · have other : (f.1 == g.1) = false := by
        refine beq_false_of_ne fun same => fresh (same ▸ List.mem_map_of_mem member)
      rw [List.lookup_cons, other]
      exact ih distinct member

theorem lookup_present {named : List (String × Option Value)}
    (distinct : (named.map Prod.fst).Nodup) {f : String × Option Value} (member : f ∈ named) :
    (present named).lookup f.1 = f.2 := by
  obtain ⟨name, o⟩ := f
  cases o with
  | some v =>
    exact lookup_of_mem (distinct.sublist (names_sublist named))
      (mem_present_iff (f := (name, v)).mpr member)
  | none =>
    refine List.lookup_eq_none_iff.mpr fun g inside => bne_iff_ne.mpr fun same => ?_
    have absurd := List.inj_on_of_nodup_map distinct member (mem_present_iff.mp inside) same
    cases absurd

/-- Of written fields each is found once, or not at all if it is absent. -/
theorem namedFields?_present (named : List (String × Option Value))
    (distinct : (named.map Prod.fst).Nodup) :
    namedFields? (named.map Prod.fst) (.object (present named)) = some (named.map Prod.snd) := by
  have once : ¬(named.map Prod.fst).any fun name =>
      1 < (present named).countP fun f => f.1 = name := by
    simp only [List.any_eq_true, decide_eq_true_eq, not_exists, not_and]
    intro name _
    have counted : ((present named).map Prod.fst).count name ≤ 1 :=
      List.nodup_iff_count_le_one.mp (distinct.sublist (names_sublist named)) name
    rw [List.count, List.countP_map] at counted
    exact Nat.not_lt.mpr counted
  rw [namedFields?, if_neg once, List.map_map]
  exact congrArg some (List.map_congr_left fun f member => lookup_present distinct member)

/-- What was written of an optional value is read as it. -/
theorem optionalOf?_map {α : Type} {view : Value → Option α} {con : α → Value}
    (reads : ∀ a, view (con a) = some a) (there : ∀ a, con a ≠ .null) (o : Option α) :
    optionalOf? view (o.map con) = some o := by
  cases o with
  | none => rfl
  | some a =>
    have found := reads a
    unfold optionalOf?
    split
    · next absent => cases absent
    · next null => exact absurd (Option.some.inj null) (there a)
    · next v present =>
      obtain rfl := Option.some.inj present
      rw [found]
      rfl

theorem optionalOf?_string (o : Option String) :
    optionalOf? Value.asString? (o.map .string) = some o := by
  cases o <;> rfl

theorem int64Of?_integer (n : Int64) : int64Of? (.integer n.toInt) = some n := by
  simp [int64Of?, Value.asInt?, Numeric.int64?_toInt]

theorem int32Of?_integer (n : Int32) : int32Of? (.integer n.toInt) = some n := by
  simp [int32Of?, Value.asInt?, Numeric.int32?_toInt]

theorem present_plain {named : List (String × Option Value)}
    (plain : ∀ f ∈ named, ∀ v, f.2 = some v → v.Plain) : Value.Plain (.object (present named)) :=
  .object fun f member => plain _ (mem_present_iff.mp member) f.2 rfl

/-! ### Reports and their details -/

def Details.fields (d : Details) : List (String × Option Value) :=
  [("cursorId", d.cursorId.map fun n => .integer n.toInt), ("address", d.address.map .string)]

theorem Details.toJson_eq (d : Details) : d.toJson = .object (present d.fields) := by
  simp [toJson, present, fields]

theorem Details.toJson_plain (d : Details) : d.toJson.Plain := by
  rw [toJson_eq]
  refine present_plain ?_
  simp only [fields, List.forall_mem_cons, Option.map_eq_some_iff]
  refine ⟨?_, ?_, by simp⟩
  · rintro _ ⟨n, -, rfl⟩
    exact .integer _
  · rintro _ ⟨s, -, rfl⟩
    exact .string s

theorem Details.ofJson?_toJson (d : Details) : Details.ofJson? d.toJson = some d := by
  have found : namedFields? ["cursorId", "address"] d.toJson = some (d.fields.map Prod.snd) := by
    rw [toJson_eq]
    exact namedFields?_present d.fields (by simp [fields])
  have id := optionalOf?_map int64Of?_integer (by simp) d.cursorId
  simp only [ofJson?, found, fields, List.map_cons, List.map_nil, id, optionalOf?_string]
  rfl

def fields (r : Report) : List (String × Option Value) :=
  [("type", r.kind.map .string), ("code", r.code.map fun n => .integer n.toInt),
    ("name", r.name.map .string), ("message", r.message.map .string),
    ("details", r.details.map Details.toJson)]

theorem toJson_eq (r : Report) : r.toJson = .object (present r.fields) := by
  simp [toJson, present, fields]

theorem toJson_plain (r : Report) : r.toJson.Plain := by
  rw [toJson_eq]
  refine present_plain ?_
  have text (o : Option String) : ∀ v, o.map Value.string = some v → v.Plain := by
    intro v written
    obtain ⟨s, -, rfl⟩ := Option.map_eq_some_iff.mp written
    exact .string s
  simp only [fields, List.forall_mem_cons]
  refine ⟨text _, ?_, text _, text _, ?_, by simp⟩
  · intro v written
    obtain ⟨n, -, rfl⟩ := Option.map_eq_some_iff.mp written
    exact .integer _
  · intro v written
    obtain ⟨d, -, rfl⟩ := Option.map_eq_some_iff.mp written
    exact d.toJson_plain

theorem ofJson?_toJson (r : Report) : ofJson? r.toJson = some r := by
  have found : namedFields? ["type", "code", "name", "message", "details"] r.toJson =
      some (r.fields.map Prod.snd) := by
    rw [toJson_eq]
    exact namedFields?_present r.fields (by simp [fields])
  have code := optionalOf?_map int32Of?_integer (by simp) r.code
  have details := optionalOf?_map Details.ofJson?_toJson (by simp [Details.toJson]) r.details
  simp only [ofJson?, found, fields, List.map_cons, List.map_nil, optionalOf?_string, code, details]
  rfl

/-- A report is read back from its text, in either layout, with the fields that it had and no
others. What is said of a failure in one line stays on it: the texts that it quotes may have any
number of lines, but neither a line end nor another control character gets into its summary. -/
theorem reads_back_in_both_layouts :
    (∀ r : Report, ofText? r.compact = some r ∧ ofText? r.pretty = some r) ∧
    ∀ f : Failure, ofText? f.summary = some f.report ∧ ∀ c ∈ f.summary.toList, 0x20 ≤ c.toNat := by
  have compact (r : Report) : ofText? r.compact = some r := by
    rw [ofText?, Report.compact, Json.ofText?_compact r.toJson_plain]
    exact r.ofJson?_toJson
  have pretty (r : Report) : ofText? r.pretty = some r := by
    rw [ofText?, Report.pretty, Json.ofText?_pretty r.toJson_plain]
    exact r.ofJson?_toJson
  refine ⟨fun r => ⟨compact r, pretty r⟩, fun f => ⟨compact f.report, ?_⟩⟩
  rw [Failure.summary, Report.compact, Value.compact, String.toList_ofList]
  exact Json.compactChars_smooth f.report.toJson_plain

end Report

end ResultCursor
