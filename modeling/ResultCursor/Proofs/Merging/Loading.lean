import ResultCursor.Proofs.Merging.Documents
import ResultCursor.Proofs.Merging.Variables
import ResultCursor.Proofs.Storing.Contents
import ResultCursor.Settings.Storage

/-! Loading settings. What holds under a key is decided key by key, by the environment before the
file and by the file before the defaults; only then the whole is checked. -/

namespace ResultCursor.Settings

/-! ### The file -/

/-- The table in the file at a path. Where nothing is, it is empty. -/
def tableAt? (f : Files) (path : String) : Option Toml.Table :=
  if f.holds path then (f.readText path).toOption.bind Toml.ofText? else some []

/-- A document from which settings can be read. -/
structure IsWellTyped (t : Toml.Table) : Prop where
  records : HasRecords t
  values : ∀ k : Key, ∀ v ∈ k.given? t, (k.ofValue? v).isSome

/-- Settings with the given values under their keys. -/
def ofKeys (value : (k : Key) → k.Kind) : Settings where
  cursor := {
    batchSize := value .batchSize
    maxAwaitMillis := value .maxAwait
    killTimeoutMillis := value .killTimeout
    timeoutMillis := value .timeout
    mode := value .mode
    client := value .client }
  logging := { level := value .level, timestamps := value .timestamps }

theorem get_ofKeys (value : (k : Key) → k.Kind) (k : Key) : k.get (ofKeys value) = value k := by
  cases k <;> rfl

variable {client path : String} {f : Files} {t : Toml.Table} {env : Environment} {s : Settings}
  {k : Key}

/-- Values for all keys make settings. -/
theorem exists_get_eq {value : (k : Key) → Option k.Kind} (all : ∀ k, (value k).isSome) :
    ∃ s, ∀ k : Key, value k = some (k.get s) :=
  ⟨ofKeys fun k => (value k).get (all k), fun k => by rw [get_ofKeys, Option.some_get]⟩

theorem isSome_stated (typed : IsWellTyped t) (client : String) (k : Key) :
    (k.stated client t).isSome := by
  rw [Key.stated]
  cases given : k.given? t with
  | none => rfl
  | some v => exact typed.values k v given

theorem exists_ofTable?_iff (client : String) :
    (∃ s, ofTable? client t = some s) ↔ IsWellTyped t := by
  constructor
  · rintro ⟨s, read⟩
    obtain ⟨records, stated⟩ := ofTable?_eq_some_iff.mp read
    refine ⟨records, fun k v given => ?_⟩
    have right := stated k
    rw [Key.stated, Option.mem_def.mp given] at right
    exact Option.isSome_iff_exists.mpr ⟨_, right⟩
  · intro typed
    obtain ⟨s, same⟩ := exists_get_eq (isSome_stated typed client)
    exact ⟨s, ofTable?_eq_some_iff.mpr ⟨typed.records, same⟩⟩

theorem ofTable?_nil (client : String) : ofTable? client [] = some (initial client) := rfl

theorem ofFile_eq_ok_iff : ofFile client f path = .ok s ↔
    ∃ text, f.readText path = .ok text ∧ ofText? client text = some s := by
  rw [ofFile]
  cases f.readText path with
  | error e => cases e <;> simp
  | ok text =>
    generalize read : ofText? client text = result
    cases result <;> simp [read]

/-- The settings of the file, or the defaults where there is none. -/
theorem first_eq_ok_iff :
    (if f.holds path then ofFile client f path else .ok (initial client)) = .ok s ↔
      ∃ t, tableAt? f path = some t ∧ ofTable? client t = some s := by
  rw [tableAt?]
  split
  · rw [ofFile_eq_ok_iff]
    cases f.readText path with
    | error e => simp [Except.toOption]
    | ok text => simp [Except.toOption, ofText?, Option.bind_eq_some_iff]
  · simp [ofTable?_nil]

/-! ### The environment -/

/-- The text of the variable for a key, if there is one and it is set. -/
def Key.text? (env : Environment) (k : Key) : Option String :=
  k.overriding?.bind fun v => env v.name

/-- The value that holds under a key: what the environment says if a variable for the key is set,
else what the document says if the key is there, else the default. -/
def Key.chosen (client : String) (t : Toml.Table) (env : Environment) (k : Key) : Option k.Kind :=
  match k.text? env with
  | some text => k.ofText? text
  | none => k.stated client t

theorem mem_all (v : Variable) : v ∈ Variable.all := by cases v <;> decide

theorem find?_isBad_eq_none_iff :
    Variable.all.find? (isBad env) = none ↔ ∀ v, isBad env v = false := by
  simp [mem_all]

/-- Settings that are overridden have under each key what the variable says, if it is set. -/
theorem get_overridden {first : Settings} (ok : first.overridden env = .ok s) (k : Key) :
    (match k.text? env with
      | some text => k.ofText? text
      | none => some (k.get first)) = some (k.get s) := by
  have ends : overrideAll env Variable.all first = (s, none) := by
    rw [overridden, override] at ok
    split at ok
    · next same =>
      cases ok
      exact same
    · cases ok
  cases given : k.text? env with
  | none =>
    refine congrArg some (get_overrideAll_of_unset ends fun v _ same => ?_).symm
    have mine := overriding?_eq_some_iff.mpr same
    simpa [Key.text?, mine] using given
  | some text =>
    obtain ⟨v, mine, set⟩ := Option.bind_eq_some_iff.mp given
    obtain rfl := overriding?_eq_some_iff.mp mine
    exact get_overrideAll_of_set ends (by decide) (mem_all v) set

/-- Either no variable is bad, or the first bad one is reported. -/
theorem overridden_cases (first : Settings) (env : Environment) :
    (∃ s, first.overridden env = .ok s ∧ ∀ v, isBad env v = false) ∨
      ∃ v text, Variable.all.find? (isBad env) = some v ∧ env v.name = some text ∧
        first.overridden env = .error (.setting (.badValue v.name text)) := by
  cases ends : overrideAll env Variable.all first with
  | mk s fault =>
    rcases fault_overrideAll ends with ⟨rfl, good⟩ | ⟨v, text, found, given, rfl⟩
    · exact .inl ⟨s, by rw [overridden, override, ends], fun v => good v (mem_all v)⟩
    · exact .inr ⟨v, text, found, given, by rw [overridden, override, ends]⟩

/-! ### The whole -/

theorem checked_eq_ok_iff {kept : Settings} : s.checked = .ok kept ↔
    kept = s ∧ 0 ≤ s.cursor.batchSize ∧ s.cursor.killTimeoutMillis ≠ 0 := by
  rw [checked, fault?]
  by_cases negative : s.cursor.batchSize < 0
  · simp [negative, Int32.not_le.mpr negative]
  · by_cases zero : s.cursor.killTimeoutMillis = 0
    · simp [negative, zero]
    · simp [negative, zero, Int32.not_lt.mp negative, eq_comm]

theorem load_eq (client : String) (f : Files) (path : String) (env : Environment) :
    load client f path env =
      (if f.holds path then ofFile client f path else .ok (initial client)) >>= fun first =>
        first.overridden env >>= checked := by
  rw [load]
  split <;> rfl

/-- What the environment leaves as it is, is what the document states. -/
theorem chosen_of_overridden {first : Settings} (read : ofTable? client t = some first)
    (ok : first.overridden env = .ok s) (k : Key) : k.chosen client t env = some (k.get s) := by
  have result := get_overridden ok k
  rwa [← (ofTable?_eq_some_iff.mp read).2 k] at result

theorem load_eq_ok_iff : load client f path env = .ok s ↔
    ∃ t, tableAt? f path = some t ∧ IsWellTyped t ∧ (∀ v, isBad env v = false) ∧
      (∀ k : Key, k.chosen client t env = some (k.get s)) ∧
      0 ≤ s.cursor.batchSize ∧ s.cursor.killTimeoutMillis ≠ 0 := by
  rw [load_eq, Failure.bind_eq_ok_iff]
  constructor
  · rintro ⟨first, file, rest⟩
    obtain ⟨t, table, read⟩ := first_eq_ok_iff.mp file
    obtain ⟨merged, overrides, valid⟩ := Failure.bind_eq_ok_iff.mp rest
    obtain ⟨rfl, size, time⟩ := checked_eq_ok_iff.mp valid
    obtain ⟨_, -, good⟩ | ⟨_, _, -, -, bad⟩ := overridden_cases first env
    · exact ⟨t, table, (exists_ofTable?_iff client).mp ⟨first, read⟩, good,
        chosen_of_overridden read overrides, size, time⟩
    · cases overrides.symm.trans bad
  · rintro ⟨t, table, typed, good, chosen, size, time⟩
    obtain ⟨first, read⟩ := (exists_ofTable?_iff client).mpr typed
    obtain ⟨merged, overrides, -⟩ | ⟨_, _, found, -, -⟩ := overridden_cases first env
    · have same : merged = s := Key.ext fun k =>
        Option.some.inj ((chosen_of_overridden read overrides k).symm.trans (chosen k))
      subst same
      exact ⟨first, first_eq_ok_iff.mpr ⟨t, table, read⟩, Failure.bind_eq_ok_iff.mpr
        ⟨merged, overrides, checked_eq_ok_iff.mpr ⟨rfl, size, time⟩⟩⟩
    · cases (find?_isBad_eq_none_iff.mpr good).symm.trans found

/-- The options of good settings have no fault, and ask for more than a single batch. -/
theorem options_of_valid (size : 0 ≤ s.cursor.batchSize) (time : s.cursor.killTimeoutMillis ≠ 0) :
    s.cursor.options.fault? = none ∧ s.cursor.options.quota.singleBatch = false := by
  have lasting : Span.ofMillis s.cursor.killTimeoutMillis.toNat ≠ .zero := by
    intro none_
    have zero : s.cursor.killTimeoutMillis.toNat = 0 := by
      have nanos := congrArg Span.nanos none_
      simp only [Span.ofMillis, Span.zero] at nanos
      omega
    exact time (UInt64.toNat_inj.mp zero)
  constructor
  · simp [CursorSettings.options, Options.fault?, CursorSettings.killTimeout, lasting]
  · simp [CursorSettings.options, Options.quota, Quota.singleBatch, Int32.not_lt.mpr size]

/-- The first bad variable is reported, whatever the others say. -/
theorem load_of_bad {v : Variable} (table : tableAt? f path = some t) (typed : IsWellTyped t)
    (found : Variable.all.find? (isBad env) = some v) :
    ∃ text, env v.name = some text ∧
      load client f path env = .error (.setting (.badValue v.name text)) := by
  obtain ⟨first, read⟩ := (exists_ofTable?_iff client).mpr typed
  have file := first_eq_ok_iff.mpr ⟨t, table, read⟩
  obtain ⟨_, -, good⟩ | ⟨w, text, found', given, bad⟩ := overridden_cases first env
  · cases (find?_isBad_eq_none_iff.mpr good).symm.trans found
  · cases found.symm.trans found'
    refine ⟨text, given, ?_⟩
    rw [load_eq, file]
    simp [bind, Except.bind, bad]

/-- A file from which no settings can be read is reported, whatever the variables say. -/
theorem load_of_bad_file (client : String)
    (bad : ¬∃ t, tableAt? f path = some t ∧ IsWellTyped t) :
    ∃ e, ∀ env, load client f path env = .error e := by
  cases file : (if f.holds path then ofFile client f path else .ok (initial client)) with
  | error e => exact ⟨e, fun env => by rw [load_eq, file]; rfl⟩
  | ok first =>
    obtain ⟨t, table, read⟩ := first_eq_ok_iff.mp file
    exact absurd ⟨t, table, (exists_ofTable?_iff client).mp ⟨first, read⟩⟩ bad

/-- Settings are loaded exactly if the file, where there is one, holds a document with values of
the right types, each variable that is set to a text is set to a good one, and what holds then can
be worked with. Under each key there is what its variable says, else what the file says, else the
default, and no other variable counts; cursors with these settings take their options and are not
limited to a single batch. Of bad variables the first is reported, unless the file is bad. -/
theorem loaded_settings_are_merged (client : String) (f : Files) (path : String)
    (raw : String → Option ByteArray) :
    let env := Environment.ofBytes raw
    (∀ s, load client f path env = .ok s ↔
      ∃ t, tableAt? f path = some t ∧ IsWellTyped t ∧ (∀ v, isBad env v = false) ∧
        (∀ k : Key, k.chosen client t env = some (k.get s)) ∧
        0 ≤ s.cursor.batchSize ∧ s.cursor.killTimeoutMillis ≠ 0) ∧
    (∀ t, tableAt? f path = some t → IsWellTyped t → (∀ v, isBad env v = false) →
      ∃ s, ∀ k : Key, k.chosen client t env = some (k.get s)) ∧
    (∀ s, load client f path env = .ok s →
      s.cursor.options.fault? = none ∧ s.cursor.options.quota.singleBatch = false ∧
        ∀ raw' s', load client f path (.ofBytes raw') = .ok s' →
          ∀ k : Key, (∀ v ∈ k.overriding?, raw v.name = raw' v.name) → k.get s = k.get s') ∧
    (∀ t v, tableAt? f path = some t → IsWellTyped t →
      Variable.all.find? (isBad env) = some v →
        ∃ text, env v.name = some text ∧
          load client f path env = .error (.setting (.badValue v.name text))) ∧
    ((¬∃ t, tableAt? f path = some t ∧ IsWellTyped t) →
      ∃ e, ∀ raw', load client f path (.ofBytes raw') = .error e) := by
  intro env
  refine ⟨fun s => load_eq_ok_iff, fun t table typed good => ?_, fun s loaded => ?_,
    fun t v table typed found => load_of_bad table typed found, fun bad => ?_⟩
  · obtain ⟨first, read⟩ := (exists_ofTable?_iff client).mpr typed
    obtain ⟨s, overrides, -⟩ | ⟨_, _, found, -, -⟩ := overridden_cases first env
    · exact ⟨s, chosen_of_overridden read overrides⟩
    · cases (find?_isBad_eq_none_iff.mpr good).symm.trans found
  · obtain ⟨t, table, -, -, chosen, size, time⟩ := load_eq_ok_iff.mp loaded
    obtain ⟨takes, many⟩ := options_of_valid size time
    refine ⟨takes, many, fun raw' s' loaded' k same => ?_⟩
    obtain ⟨t', table', -, -, chosen', -, -⟩ := load_eq_ok_iff.mp loaded'
    cases table.symm.trans table'
    have text : k.text? env = k.text? (.ofBytes raw') := by
      cases mine : k.overriding? with
      | none => simp [Key.text?, mine]
      | some v => simp [Key.text?, mine, env, Environment.ofBytes, same v mine]
    have agree : k.chosen client t env = k.chosen client t (.ofBytes raw') := by
      rw [Key.chosen, Key.chosen, text]
    exact Option.some.inj ((chosen k).symm.trans (agree.trans (chosen' k)))
  · obtain ⟨e, always⟩ := load_of_bad_file client bad
    exact ⟨e, fun raw' => always (.ofBytes raw')⟩

/-- The environment repairs a batch size in the file that no cursor can work with. -/
theorem bad_size_in_the_file_is_repaired :
    let document := [⟨"cursor", [("default_batch_size", .integer (-1))]⟩]
    let f : Files := ⟨[(["c.toml"], .file (Toml.textOf document).toUTF8)]⟩
    let raw : String → Option ByteArray :=
      fun name => if name = "MONGOSH_CURSOR_BATCH_SIZE" then some " 7 ".toUTF8 else none
    let s : Settings := { cursor := { batchSize := 7, client := "host" } }
    load "host" f "c.toml" (.ofBytes raw) = .ok s ∧ s.cursor.options.quota.singleBatch = false := by
  intro document f raw s
  have stored : f.read "c.toml" = .ok (Toml.textOf document).toUTF8 := rfl
  have table : tableAt? f "c.toml" = some (document.map Toml.Section.toField) := by
    have plain : ∀ part ∈ document, part.IsPlain := by
      have bare : Toml.IsBare "cursor" ∧ Toml.IsBare "default_batch_size" := by decide
      simpa [document] using Toml.Section.IsPlain.mk bare.1 (by simpa using bare.2) (by simp)
    have held : f.holds "c.toml" = true := by simp only [Files.holds, stored]
    rw [tableAt?, if_pos held, Files.readText_of_read stored]
    exact Toml.ofText?_textOf plain (by simp [document])
  have typed : IsWellTyped (document.map Toml.Section.toField) :=
    (exists_ofTable?_iff "host").mp ⟨{ cursor := { batchSize := -1, client := "host" } }, by decide⟩
  have merged := loaded_settings_are_merged "host" f "c.toml" raw
  have loaded : load "host" f "c.toml" (.ofBytes raw) = .ok s := by
    refine (merged.1 s).mpr ⟨_, table, typed, fun v => ?_, fun k => ?_, by decide, by decide⟩
    · cases v <;> decide
    · cases k <;> decide
  exact ⟨loaded, (merged.2.2.1 s loaded).2.1⟩

/-- The variable for the batch size, and no other, is set to these bytes. -/
def sizeSetTo (bytes : ByteArray) (name : String) : Option ByteArray :=
  if name = Variable.batchSize.name then some bytes else none

/-- Not every bad variable is reported: not one that is set to bytes which are no text, and none
where the file is no document. -/
theorem bad_variables_pass_unreported :
    (sizeSetTo ⟨#[0xff]⟩ Variable.batchSize.name = some ⟨#[0xff]⟩ ∧
      String.fromUTF8? ⟨#[0xff]⟩ = none ∧
      load "host" {} usualPath (.ofBytes (sizeSetTo ⟨#[0xff]⟩)) = .ok (initial "host")) ∧
    Variable.all.find? (isBad (.ofBytes (sizeSetTo "x".toUTF8))) = some .batchSize ∧
    load "host" {} "c.toml" (.ofBytes (sizeSetTo "x".toUTF8)) =
      .error (.setting (.badValue "MONGOSH_CURSOR_BATCH_SIZE" "x")) ∧
    load "host" ⟨[(["c.toml"], .file "[".toUTF8)]⟩ "c.toml" (.ofBytes (sizeSetTo "x".toUTF8)) =
      .error (.setting (.badFormat "TOML parse error")) := by
  exact ⟨⟨rfl, rfl, rfl⟩, by decide, rfl, rfl⟩

end ResultCursor.Settings
