import ResultCursor.Files

/-! Walks through a tree of folders. A walk that makes folders on its way leaves everything else as
it was, and the same walk leads to the same place afterwards. -/

namespace ResultCursor.Files

variable {f g h : Files} {here there place : List String} {part : String} {parts : List String}

@[simp] theorem get?_nil (f : Files) : f.get? [] = some .folder := rfl

theorem lookup_filter_ne {entries : List (List String × Entry)} {other : List String}
    (apart : other ≠ place) :
    (entries.filter fun old => old.1 ≠ place).lookup other = entries.lookup other := by
  induction entries with
  | nil => rfl
  | cons old entries ih =>
    by_cases same : old.1 = place
    · have differs : (other == old.1) = false := beq_false_of_ne (same ▸ apart)
      rw [List.filter_cons_of_neg (by simpa using same), ih, List.lookup_cons, differs]
    · rw [List.filter_cons_of_pos (by simpa using same), List.lookup_cons, List.lookup_cons, ih]

theorem get?_put (f : Files) (other : List String) (e : Entry) (below : place ≠ []) :
    (f.put place e).get? other = if other = place then some e else f.get? other := by
  by_cases top : other = []
  · subst top
    rw [if_neg (Ne.symm below), get?_nil, get?_nil]
  · rw [get?, get?, if_neg top, if_neg top, put]
    by_cases same : other = place
    · simp [same]
    · have differs : (other == place) = false := beq_false_of_ne same
      rw [if_neg same, List.lookup_cons, differs]
      exact lookup_filter_ne same

/-! ### What stays -/

/-- All entries are still there, and those that were folders still are. -/
structure Keeps (f g : Files) : Prop where
  folder : ∀ place, f.get? place = some .folder → g.get? place = some .folder
  entry : ∀ place, (f.get? place).isSome → (g.get? place).isSome

/-- All entries are still there as they were. -/
def Extends (f g : Files) : Prop := ∀ place e, f.get? place = some e → g.get? place = some e

theorem Extends.refl (f : Files) : f.Extends f := fun _ _ => id

theorem Extends.trans (first : f.Extends g) (second : g.Extends h) : f.Extends h :=
  fun place e found => second place e (first place e found)

theorem Extends.keeps (grown : f.Extends g) : f.Keeps g where
  folder place := grown place .folder
  entry place found := by
    obtain ⟨e, found⟩ := Option.isSome_iff_exists.mp found
    exact Option.isSome_iff_exists.mpr ⟨e, grown place e found⟩

theorem Keeps.trans (first : f.Keeps g) (second : g.Keeps h) : f.Keeps h where
  folder place found := second.folder place (first.folder place found)
  entry place found := second.entry place (first.entry place found)

/-- A file takes no folder's place. -/
theorem keeps_put_file (below : place ≠ []) (free : f.get? place ≠ some .folder)
    (content : ByteArray) : f.Keeps (f.put place (.file content)) where
  folder other found := by
    have apart : other ≠ place := by
      rintro rfl
      exact free found
    rw [get?_put f other _ below, if_neg apart, found]
  entry other found := by
    rw [get?_put f other _ below]
    split
    · rfl
    · exact found

theorem extends_put (below : place ≠ []) (free : f.get? place = none) (e : Entry) :
    f.Extends (f.put place e) := by
  intro other old found
  have apart : other ≠ place := by
    rintro rfl
    cases free.symm.trans found
  rw [get?_put f other e below, if_neg apart, found]

/-! ### One part -/

/-- Where a part leads from a folder. -/
theorem step_cases {create : Bool} (ok : f.step create here part = (g, .ok there)) :
    f.get? here = some .folder ∧
      ((part = "" ∨ part = ".") ∧ there = here ∧ g = f ∨
        part = ".." ∧ there = here.dropLast ∧ g = f ∨
        part ≠ "" ∧ part ≠ "." ∧ part ≠ ".." ∧ part.utf8ByteSize ≤ 255 ∧ there = here ++ [part] ∧
          ((f.get? there).isSome ∧ g = f ∨
            f.get? there = none ∧ create = true ∧ g = f.put there .folder)) := by
  rw [step] at ok
  split at ok
  · cases ok
  · cases ok
  · next folder =>
    refine ⟨folder, ?_⟩
    split at ok
    · next empty =>
      cases ok
      exact .inl ⟨by simpa using empty, rfl, rfl⟩
    · next solid =>
      obtain ⟨nonempty, point⟩ : part ≠ "" ∧ part ≠ "." := by simpa using solid
      split at ok
      · next up =>
        cases ok
        exact .inr (.inl ⟨up, rfl, rfl⟩)
      · next down =>
        split at ok
        · cases ok
        · next short =>
          refine .inr (.inr ⟨nonempty, point, down, Nat.not_lt.mp short, ?_⟩)
          dsimp only at ok
          split at ok
          · next found =>
            cases ok
            exact ⟨rfl, .inl ⟨by simp [found], rfl⟩⟩
          · next missing =>
            split at ok
            · next creates =>
              cases ok
              exact ⟨rfl, .inr ⟨missing, creates, rfl⟩⟩
            · cases ok

theorem step_extends (create : Bool) (f : Files) (here : List String) (part : String) :
    f.Extends (f.step create here part).1 := by
  unfold step
  split
  · exact .refl f
  · exact .refl f
  · split
    · exact .refl f
    · split
      · exact .refl f
      · split
        · exact .refl f
        · dsimp only
          split
          · exact .refl f
          · next missing =>
            split
            · exact extends_put (by simp) missing .folder
            · exact .refl f

/-- The name of an entry leads to the entry. -/
theorem step_entry (create : Bool) (folder : f.get? here = some .folder) (nonempty : part ≠ "")
    (point : part ≠ ".") (up : part ≠ "..") (short : part.utf8ByteSize ≤ 255)
    (found : (f.get? (here ++ [part])).isSome) :
    f.step create here part = (f, .ok (here ++ [part])) := by
  obtain ⟨e, found⟩ := Option.isSome_iff_exists.mp found
  simp [step, folder, nonempty, point, up, Nat.not_lt.mpr short, found]

/-- A part leads to the same place again, as long as the entries on the way stay. -/
theorem step_again {create : Bool} (ok : f.step create here part = (g, .ok there))
    (kept : g.Keeps h) (create' : Bool) : h.step create' here part = (h, .ok there) := by
  obtain ⟨folder, stays | up | down⟩ := step_cases ok
  · obtain ⟨solid, rfl, rfl⟩ := stays
    rw [step, kept.folder there folder]
    exact if_pos (by simpa using solid)
  · obtain ⟨rfl, rfl, rfl⟩ := up
    rw [step, kept.folder here folder]
    simp
  · obtain ⟨nonempty, point, notUp, short, rfl, found⟩ := down
    have there : (h.get? (here ++ [part])).isSome := by
      obtain ⟨found, rfl⟩ | ⟨-, -, rfl⟩ := found
      · exact kept.entry _ found
      · exact kept.entry _ (by rw [get?_put f _ _ (by simp), if_pos rfl]; rfl)
    have still : h.get? here = some .folder :=
      kept.folder here (by
        have grown := step_extends create f here part
        rw [ok] at grown
        exact grown here .folder folder)
    exact step_entry create' still nonempty point notUp short there

/-! ### Whole walks -/

theorem walk_cons {create : Bool} (ok : f.walk create here (part :: parts) = (g, .ok place)) :
    ∃ h there, f.step create here part = (h, .ok there) ∧
      h.walk create there parts = (g, .ok place) := by
  rw [walk] at ok
  split at ok
  · cases ok
  · next h there first => exact ⟨h, there, first, ok⟩

theorem walk_extends (create : Bool) (f : Files) (here : List String) (parts : List String) :
    f.Extends (f.walk create here parts).1 := by
  induction parts generalizing f here with
  | nil => exact .refl f
  | cons part parts ih =>
    have first := step_extends create f here part
    rw [walk]
    split
    · next h e result =>
      rw [result] at first
      exact first
    · next h there result =>
      rw [result] at first
      exact first.trans (ih h there)

/-- The same walk leads to the same place again, as long as the entries on the way stay. -/
theorem walk_again {create : Bool} (ok : f.walk create here parts = (g, .ok place))
    (kept : g.Keeps h) (create' : Bool) : h.walk create' here parts = (h, .ok place) := by
  induction parts generalizing f here with
  | nil =>
    cases ok
    rfl
  | cons part parts ih =>
    obtain ⟨middle, there, first, rest⟩ := walk_cons ok
    have grown := walk_extends create middle there parts
    rw [rest] at grown
    rw [walk, step_again first (grown.keeps.trans kept) create']
    exact ih rest

theorem walk_append_iff {create : Bool} {more : List String} :
    f.walk create here (parts ++ more) = (g, .ok place) ↔
      ∃ h there, f.walk create here parts = (h, .ok there) ∧
        h.walk create there more = (g, .ok place) := by
  induction parts generalizing f here with
  | nil => simp [walk, and_assoc]
  | cons part parts ih =>
    rw [List.cons_append, walk, walk]
    split
    · simp
    · exact ih

/-- A walk that makes no folders changes nothing. -/
theorem walk_false (f : Files) (here : List String) (parts : List String) :
    (f.walk false here parts).1 = f := by
  induction parts generalizing here with
  | nil => rfl
  | cons part parts ih =>
    have first : (f.step false here part).1 = f := by
      simp only [step, Bool.false_eq_true, if_false]
      repeat' split
      all_goals rfl
    rw [walk]
    split
    · next g e result => rw [← first, result]
    · next g there result =>
      rw [result] at first
      exact first ▸ ih there

/-- Where all entries on the way are there already, no folder needs to be made. -/
theorem walk_found (ok : (f.walk false here parts).2 = .ok place) (create : Bool) :
    f.walk create here parts = (f, .ok place) :=
  walk_again (Prod.ext (walk_false f here parts) ok) (Extends.refl f).keeps create

/-- A folder from which no step is taken stays where one is. -/
theorem walk_blanks (create : Bool) (folder : f.get? here = some .folder)
    (blank : ∀ part ∈ parts, isStep part = false) :
    f.walk create here parts = (f, .ok here) := by
  induction parts with
  | nil => rfl
  | cons part parts ih =>
    obtain ⟨first, others⟩ := List.forall_mem_cons.mp blank
    have stays : f.step create here part = (f, .ok here) := by
      rw [step, folder]
      exact if_pos (by simpa [isStep, Decidable.or_iff_not_imp_left] using first)
    rw [walk, stays]
    exact ih others

end ResultCursor.Files
