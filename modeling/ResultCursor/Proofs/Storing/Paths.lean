import ResultCursor.Files

/-! Paths and their parts. -/

namespace ResultCursor.Files

/-! ### Parts of a path -/

theorem splitParts_ne_nil (cs : List Char) : splitParts cs ≠ [] := by
  cases cs with
  | nil => exact List.cons_ne_nil _ _
  | cons c cs =>
    rw [splitParts]
    split
    · exact List.cons_ne_nil _ _
    · split <;> exact List.cons_ne_nil _ _

theorem splitParts_cons {c : Char} (other : c ≠ '/') (cs : List Char) :
    ∃ part parts, splitParts cs = part :: parts ∧ splitParts (c :: cs) = (c :: part) :: parts := by
  cases split : splitParts cs with
  | nil => exact absurd split (splitParts_ne_nil cs)
  | cons part parts => exact ⟨part, parts, rfl, by rw [splitParts, if_neg other, split]⟩

theorem intercalate_splitParts (cs : List Char) : ['/'].intercalate (splitParts cs) = cs := by
  induction cs with
  | nil => rfl
  | cons c cs ih =>
    by_cases slash : c = '/'
    · cases rest : splitParts cs with
      | nil => exact absurd rest (splitParts_ne_nil cs)
      | cons part parts =>
        rw [splitParts, if_pos slash, rest, List.intercalate_cons_cons, ← rest, ih, slash]
        rfl
    · obtain ⟨part, parts, rest, whole⟩ := splitParts_cons slash cs
      rw [rest] at ih
      rw [whole, ← ih]
      cases parts <;> simp [List.intercalate_cons_cons]

theorem mem_iff_of_ne_slash {c : Char} (other : c ≠ '/') (cs : List Char) :
    c ∈ cs ↔ ∃ part ∈ splitParts cs, c ∈ part := by
  induction cs with
  | nil => simp [splitParts]
  | cons d cs ih =>
    by_cases slash : d = '/'
    · simp [splitParts, slash, other, ih]
    · obtain ⟨part, parts, rest, whole⟩ := splitParts_cons slash cs
      rw [rest] at ih
      simp [whole, ih, or_assoc]

/-- The parts of a path with slashes between them are the path. -/
theorem intercalate_partsOf (path : String) : "/".intercalate (partsOf path) = path := by
  refine String.toList_inj.mp ?_
  have plain (parts : List (List Char)) :
      (parts.map String.ofList).map String.toList = parts := by
    simp [Function.comp_def]
  rw [String.toList_intercalate, partsOf, plain]
  exact intercalate_splitParts path.toList

theorem partsOf_ne_nil (path : String) : partsOf path ≠ [] := by
  simpa [partsOf] using splitParts_ne_nil path.toList

theorem partsOf_eq (path : String) :
    partsOf path = (partsOf path).dropLast ++ [nameOf path] := by
  have some_ := partsOf_ne_nil path
  rw [nameOf, List.getLast?_eq_some_getLast some_]
  exact (List.dropLast_concat_getLast some_).symm

/-- A path has a zero in it exactly if one of its parts has. -/
theorem hasZero_eq_any (path : String) : hasZero path = (partsOf path).any hasZero := by
  rw [Bool.eq_iff_iff]
  simp [hasZero, partsOf, mem_iff_of_ne_slash (c := '\x00') (by decide) path.toList]

/-! ### Lengths -/

theorem utf8ByteSize_intercalate_le (first more : List String) :
    ("/".intercalate first).utf8ByteSize ≤ ("/".intercalate (first ++ more)).utf8ByteSize := by
  induction first with
  | nil => simp
  | cons part first ih =>
    cases first with
    | nil => cases more <;> simp [String.intercalate_cons_cons, Nat.add_assoc]
    | cons next first =>
      simpa [String.intercalate_cons_cons, Nat.add_assoc] using ih

/-! ### Parents -/

/-- A path goes on behind its parent. -/
theorem exists_behind_parent (path : String) :
    ∃ more, more ≠ [] ∧ partsOf path = parentParts path ++ more := by
  let parts := (partsOf path).reverse.dropWhile fun part => !isStep part
  have tail : (parentParts path).reverse <:+ parts.tail := by
    rw [parentParts, List.reverse_reverse]
    exact List.dropWhile_suffix _
  have whole : parts <:+ (partsOf path).reverse := List.dropWhile_suffix _
  obtain ⟨more, same⟩ :=
    List.reverse_suffix.mp ((tail.trans (List.tail_suffix parts)).trans whole)
  refine ⟨more, ?_, same.symm⟩
  rintro rfl
  have lengths := tail.length_le
  have below := whole.length_le
  have some_ := partsOf_ne_nil path
  rw [List.append_nil] at same
  rw [same, List.length_reverse, List.length_tail] at lengths
  rw [List.length_reverse] at below
  have positive := List.length_pos_iff.mpr some_
  omega

/-- Between the parent of a path and its last step there is nothing that leads anywhere. -/
theorem exists_blanks (path : String) (step : isStep (nameOf path) = true) :
    ∃ blanks, (∀ part ∈ blanks, isStep part = false) ∧
      partsOf path = parentParts path ++ (blanks ++ [nameOf path]) := by
  have last := partsOf_eq path
  let before := (partsOf path).dropLast
  have parent : parentParts path = (before.reverse.dropWhile fun part => !isStep part).reverse := by
    rw [parentParts, last]
    simp [step, before]
  refine ⟨(before.reverse.takeWhile fun part => !isStep part).reverse, fun part member => ?_, ?_⟩
  · have blank := List.all_eq_true.mp List.all_takeWhile part (List.mem_reverse.mp member)
    simpa using blank
  · rw [parent, ← List.append_assoc, ← List.reverse_append, List.takeWhile_append_dropWhile,
      List.reverse_reverse]
    exact last

/-- The parent of a path is no longer than the path. -/
theorem parentOf_le (path : String) : (parentOf path).utf8ByteSize ≤ path.utf8ByteSize := by
  obtain ⟨more, -, whole⟩ := exists_behind_parent path
  have shorter := utf8ByteSize_intercalate_le (parentParts path) more
  rwa [← whole, intercalate_partsOf] at shorter

end ResultCursor.Files
