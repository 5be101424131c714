import ResultCursor.Proofs.Merging.Keys

/-! What the environment says. Each variable that is set changes the value under one key; the first
of them whose text does not fit is the one that is reported. -/

namespace ResultCursor

open Settings (Key)

/-- The key whose value a variable overrides. -/
def Variable.key : Variable → Key
  | batchSize => .batchSize
  | maxAwait => .maxAwait
  | killTimeout => .killTimeout
  | timeout => .timeout
  | mode => .mode
  | level => .level

theorem Variable.key_injective {v w : Variable} (same : v.key = w.key) : v = w := by
  cases v <;> cases w <;> first | rfl | cases same

namespace Settings

/-- The variable that overrides the value under a key. Nothing overrides the client's name, nor
whether notes have times. -/
def Key.overriding? : Key → Option Variable
  | batchSize => some .batchSize
  | maxAwait => some .maxAwait
  | killTimeout => some .killTimeout
  | timeout => some .timeout
  | mode => some .mode
  | client => none
  | level => some .level
  | timestamps => none

/-- The value that a text without the blanks around it stands for. -/
def Key.ofText? (text : String) : (k : Key) → Option k.Kind
  | batchSize => Text.readInt32? (Text.trim text)
  | maxAwait => Text.readWord64? (Text.trim text)
  | killTimeout => Text.readWord64? (Text.trim text)
  | timeout => (Text.readWord64? (Text.trim text)).map some
  | mode => TimeoutMode.ofText? text
  | client => none
  | level => Level.ofText? text
  | timestamps => none

variable {env : Environment} {s t : Settings} {k : Key} {v : Variable} {vs : List Variable}
  {fault : Option BadSetting}

theorem overriding?_eq_some_iff : k.overriding? = some v ↔ v.key = k := by
  cases k <;> cases v <;> decide

theorem override?_eq (s : Settings) (text : String) (v : Variable) :
    v.override? s text = (v.key.ofText? text).map (v.key.set s) := by
  cases v with
  | timeout =>
    rw [Variable.override?, Variable.word64Of?, Variable.key, Key.ofText?]
    cases Text.readWord64? (Text.trim text) <;> rfl
  | batchSize | maxAwait | killTimeout | mode | level => rfl

/-- One variable changes what stands under its key, and nothing else. -/
theorem overrideAll_cons (ends : overrideAll env (v :: vs) s = (t, fault)) :
    env v.name = none ∧ overrideAll env vs s = (t, fault) ∨
      ∃ text, env v.name = some text ∧
        ((∃ x, v.key.ofText? text = some x ∧ overrideAll env vs (v.key.set s x) = (t, fault)) ∨
          v.key.ofText? text = none ∧ t = s ∧ fault = some (.badValue v.name text)) := by
  rw [overrideAll] at ends
  cases given : env v.name with
  | none =>
    rw [given] at ends
    exact .inl ⟨rfl, ends⟩
  | some text =>
    rw [given] at ends
    simp only [override?_eq] at ends
    refine .inr ⟨text, rfl, ?_⟩
    cases read : v.key.ofText? text with
    | none =>
      rw [read] at ends
      cases ends
      exact .inr ⟨rfl, rfl, rfl⟩
    | some x =>
      rw [read] at ends
      exact .inl ⟨x, rfl, ends⟩

/-- What stands under a key stays if no variable for it is set. -/
theorem get_overrideAll_of_unset (ends : overrideAll env vs s = (t, fault))
    (unset : ∀ v ∈ vs, v.key = k → env v.name = none) : k.get t = k.get s := by
  induction vs generalizing s with
  | nil =>
    cases ends
    rfl
  | cons v vs ih =>
    obtain ⟨first, others⟩ := List.forall_mem_cons.mp unset
    rcases overrideAll_cons ends with ⟨-, rest⟩ | ⟨text, given, ⟨x, -, rest⟩ | ⟨-, rfl, -⟩⟩
    · exact ih rest others
    · have other : k ≠ v.key := by
        rintro rfl
        cases given.symm.trans (first rfl)
      rw [ih rest others, Key.get_set_other other]
    · rfl

/-- A variable that is set decides what stands under its key. -/
theorem get_overrideAll_of_set (ends : overrideAll env vs s = (t, none)) (distinct : vs.Nodup)
    (member : v ∈ vs) {text : String} (given : env v.name = some text) :
    v.key.ofText? text = some (v.key.get t) := by
  induction vs generalizing s with
  | nil => cases member
  | cons w vs ih =>
    obtain ⟨fresh, distinct⟩ := List.nodup_cons.mp distinct
    rcases List.mem_cons.mp member with rfl | member
    · rcases overrideAll_cons ends with ⟨unset, -⟩ | ⟨text', given', ⟨x, read, rest⟩ | ⟨-, -, bad⟩⟩
      · cases unset.symm.trans given
      · cases given.symm.trans given'
        have kept : v.key.get t = v.key.get (v.key.set s x) :=
          get_overrideAll_of_unset rest fun w inside same =>
            absurd (Variable.key_injective same ▸ inside) fresh
        rw [kept, Key.get_set, read]
      · cases bad
    · rcases overrideAll_cons ends with ⟨-, rest⟩ | ⟨text', -, ⟨x, -, rest⟩ | ⟨-, -, bad⟩⟩
      · exact ih rest distinct member
      · exact ih rest distinct member
      · cases bad

/-- A variable that is set to a text that stands for no value. -/
def isBad (env : Environment) (v : Variable) : Bool :=
  (env v.name).any fun text => (v.key.ofText? text).isNone

/-- The first bad variable ends the work. -/
theorem fault_overrideAll (ends : overrideAll env vs s = (t, fault)) :
    (fault = none ∧ ∀ v ∈ vs, isBad env v = false) ∨
      ∃ v text, vs.find? (isBad env) = some v ∧ env v.name = some text ∧
        fault = some (.badValue v.name text) := by
  induction vs generalizing s with
  | nil =>
    cases ends
    exact .inl ⟨rfl, by simp⟩
  | cons v vs ih =>
    rcases overrideAll_cons ends with
      ⟨unset, rest⟩ | ⟨text, given, ⟨x, read, rest⟩ | ⟨bad, -, same⟩⟩
    · have fine : isBad env v = false := by simp [isBad, unset]
      simpa [List.find?_cons, fine] using ih rest
    · have fine : isBad env v = false := by simp [isBad, given, read]
      simpa [List.find?_cons, fine] using ih rest
    · have found : isBad env v = true := by simp [isBad, given, bad]
      exact .inr ⟨v, text, by simp [found], given, same⟩

end Settings

end ResultCursor
