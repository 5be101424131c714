import ResultCursor.Proofs.Storing.Folders
import ResultCursor.Proofs.Storing.Paths

/-! The contents of files. What is written to a path is read back from it, and every other file
stays as it was. -/

namespace ResultCursor.Files

variable {f g h : Files} {here : List String} {path : String} {content : ByteArray}

/-- What can be read is the content of a file at the place that the path leads to. -/
theorem read_eq_ok_iff : f.read path = .ok content ↔
    path ≠ "" ∧ hasZero path = false ∧ isLong path = false ∧
      ∃ place, f.walk false [] (partsOf path) = (f, .ok place) ∧
        f.get? place = some (.file content) := by
  have walked : f.walk false [] (partsOf path) = (f, (f.walk false [] (partsOf path)).2) :=
    Prod.ext (walk_false f [] (partsOf path)) rfl
  rw [read, walked]
  generalize (f.walk false [] (partsOf path)).2 = result
  split
  · simp [*]
  · split
    · simp [*]
    · split
      · simp [*]
      · cases result with
        | error e => simp
        | ok place =>
          dsimp only
          split <;> simp_all

/-- The bytes of a text are read as the text. -/
theorem readText_of_read {text : String} (found : f.read path = .ok text.toUTF8) :
    f.readText path = .ok text := by
  have again : String.fromUTF8? text.toUTF8 = some text := dif_pos text.isValidUTF8
  simp only [readText, found, again]

theorem read_of_extends (grown : f.Extends g) (found : f.read path = .ok content) :
    g.read path = .ok content := by
  obtain ⟨nonempty, zero, long, place, way, file⟩ := read_eq_ok_iff.mp found
  exact read_eq_ok_iff.mpr
    ⟨nonempty, zero, long, place, walk_again way grown.keeps false, grown place _ file⟩

theorem makeWay_extends (f : Files) (path : String) : f.Extends (f.makeWay path).1 := by
  have grown := walk_extends true f [] (parentParts path)
  simp only [makeWay]
  split
  · exact .refl f
  · split
    · exact .refl f
    · split
      · next result => simpa [result] using grown
      · next result => split <;> simpa [result] using grown

/-- The way to a path leads to the folder that its parent is. -/
theorem makeWay_eq_ok_iff : f.makeWay path = (g, .ok here) ↔
    (parentParts path).any hasZero = false ∧ isLong (parentOf path) = false ∧
      f.walk true [] (parentParts path) = (g, .ok here) ∧ g.get? here = some .folder := by
  simp only [makeWay]
  split
  · simp [*]
  · next zero =>
    split
    · simp [*]
    · next long =>
      split
      · simp [*]
      · next walked =>
        split
        · next folder =>
          constructor
          · intro same
            cases same
            exact ⟨by simpa using zero, by simpa using long, walked, folder⟩
          · rintro ⟨-, -, same, -⟩
            exact walked.symm.trans same
        · next other =>
          constructor
          · intro same
            cases same
          · rintro ⟨-, -, same, folder⟩
            cases walked.symm.trans same
            exact absurd folder other

/-- The way to a file that is there is there too. -/
theorem makeWay_of_read (found : f.read path = .ok content) :
    ∃ here, f.makeWay path = (f, .ok here) := by
  obtain ⟨-, zero, long, place, way, -⟩ := read_eq_ok_iff.mp found
  obtain ⟨more, some_, whole⟩ := exists_behind_parent path
  rw [whole, walk_append_iff] at way
  obtain ⟨g, here, way, behind⟩ := way
  have still := walk_found (congrArg Prod.snd way) true
  have folder : g.get? here = some .folder := by
    obtain ⟨part, more, rfl⟩ := List.exists_cons_of_ne_nil some_
    obtain ⟨_, _, first, -⟩ := walk_cons behind
    exact (step_cases first).1
  have same : g = f := (congrArg Prod.fst way).symm.trans (walk_false f [] (parentParts path))
  refine ⟨here, makeWay_eq_ok_iff.mpr ⟨?_, ?_, still, same ▸ folder⟩⟩
  · rw [hasZero_eq_any, whole, List.any_append, Bool.or_eq_false_iff] at zero
    exact zero.1
  · have le := parentOf_le path
    simp only [isLong, decide_eq_false_iff_not] at long ⊢
    omega

/-- What a file is written over is no folder, and nothing else changes. -/
theorem write_cases (written : f.write here path content = .ok g) :
    hasZero (nameOf path) = false ∧ isLong path = false ∧
      nameOf path ≠ "" ∧ nameOf path ≠ "." ∧ nameOf path ≠ ".." ∧
      (nameOf path).utf8ByteSize ≤ 255 ∧ f.get? (here ++ [nameOf path]) ≠ some .folder ∧
      g = f.put (here ++ [nameOf path]) (.file content) := by
  simp only [write] at written
  split at written
  · cases written
  · cases written
  · split at written
    · cases written
    · split at written
      · cases written
      · split at written
        · cases written
        · split at written
          · cases written
          · split at written
            · cases written
            · cases written
              simp_all

/-- What is written is read back. -/
theorem read_of_write (way : f.makeWay path = (g, .ok here))
    (written : g.write here path content = .ok h) : h.read path = .ok content := by
  obtain ⟨noZero, -, walked, folder⟩ := makeWay_eq_ok_iff.mp way
  obtain ⟨zero, long, nonempty, point, up, short, free, rfl⟩ := write_cases written
  obtain ⟨blanks, blank, whole⟩ := exists_blanks path (by simp [isStep, nonempty, point])
  let there := here ++ [nameOf path]
  have found : (g.put there (.file content)).get? there = some (.file content) := by
    rw [get?_put g there _ (by simp [there]), if_pos rfl]
  have kept : g.Keeps (g.put there (.file content)) := keeps_put_file (by simp) free content
  have still := kept.folder here folder
  refine read_eq_ok_iff.mpr ⟨?_, ?_, long, there, ?_, found⟩
  · rintro rfl
    exact nonempty (by decide)
  · have silent : blanks.any hasZero = false := List.any_eq_false.mpr fun part member => by
      have given : part = "" ∨ part = "." := by
        simpa [isStep, Decidable.or_iff_not_imp_left] using blank part member
      rcases given with rfl | rfl <;> decide
    rw [hasZero_eq_any, whole]
    simp [noZero, silent, zero]
  · rw [whole, walk_append_iff]
    refine ⟨_, here, walk_again walked kept false, ?_⟩
    rw [walk_append_iff]
    refine ⟨_, here, walk_blanks false still blank, ?_⟩
    rw [walk, step_entry false still nonempty point up short (by simp [there, found])]
    rfl

end ResultCursor.Files
