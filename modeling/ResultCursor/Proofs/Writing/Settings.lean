import ResultCursor.Proofs.Writing.TomlDocuments
import ResultCursor.Settings.Document

/-! Settings as texts. All settings are read back from the text that is written for them, and a
text is written unless a time is too long for it. -/

namespace ResultCursor

open Toml (Scalar Value)

theorem TimeoutMode.ofName?_name (m : TimeoutMode) : TimeoutMode.ofName? m.name = some m := by
  cases m <;> decide

theorem Level.ofName?_name (l : Level) : Level.ofName? l.name = some l := by
  cases l <;> decide

namespace Settings

@[simp] theorem valueOr?_some {α : Type} (view : Value → Option α) (fallback : α) (v : Value) :
    valueOr? view fallback (some v) = view v := rfl

@[simp] theorem valueOr?_none {α : Type} (view : Value → Option α) (fallback : α) :
    valueOr? view fallback none = some fallback := rfl

/-- A number has a place in a text if it fits in 63 bits. -/
def Fits (n : UInt64) : Prop := n.toNat < 0x8000000000000000

instance (n : UInt64) : Decidable (Fits n) := inferInstanceAs (Decidable (_ < _))

/-- A text can be written for settings with such times only. -/
structure IsWritable (s : Settings) : Prop where
  maxAwait : Fits s.cursor.maxAwaitMillis
  killTimeout : Fits s.cursor.killTimeoutMillis
  timeout : ∀ n ∈ s.cursor.timeoutMillis, Fits n

theorem scalarOf?_isSome_iff {n : UInt64} : (scalarOf? n).isSome ↔ Fits n := by
  simp only [scalarOf?, Option.isSome_map, Numeric.int64?, Fits]
  split <;> simp <;> omega

theorem word64Of?_scalarOf? {n : UInt64} {v : Scalar} (written : scalarOf? n = some v) :
    word64Of? v.toValue = some n := by
  obtain ⟨m, fits, rfl⟩ := Option.map_eq_some_iff.mp written
  have same : m.toInt = n.toNat := by
    rw [Numeric.int64?] at fits
    split at fits
    case isTrue bounds =>
      have low : -2 ^ 63 ≤ (n.toNat : Int) := by omega
      have high : (n.toNat : Int) < 2 ^ 63 := by omega
      rw [← Option.some.inj fits]
      exact Int64.toInt_ofInt_of_le low high
    case isFalse => cases fits
  rw [Scalar.toValue, word64Of?, Value.asInteger?, same, Option.bind_some,
    Numeric.word64?_toNat]

theorem int32Of?_integer (n : Int32) :
    int32Of? (Scalar.toValue (.integer n.toInt64)) = some n := by
  rw [Scalar.toValue, int32Of?, Value.asInteger?, Int32.toInt_toInt64, Option.bind_some,
    Numeric.int32?_toInt]

/-- The fields of a table for cursors, whose times are given as they are written. -/
def cursorFields (s : CursorSettings) (maxAwait killTimeout : Scalar) (timeout : Option Scalar) :
    List (String × Scalar) :=
  [("default_batch_size", .integer s.batchSize.toInt64), ("max_await_time_ms", maxAwait),
    ("kill_cursors_timeout_ms", killTimeout)] ++ (timeout.map fun v => ("timeout_ms", v)).toList ++
    [("timeout_mode", .string s.mode.name), ("client_id", .string s.client)]

theorem exists_cursorFields {s : CursorSettings} {written : Toml.Section}
    (h : cursorSection? s = some written) :
    ∃ maxAwait killTimeout timeout, scalarOf? s.maxAwaitMillis = some maxAwait ∧
      scalarOf? s.killTimeoutMillis = some killTimeout ∧
      s.timeoutMillis.map scalarOf? = timeout.map some ∧
      written = ⟨"cursor", cursorFields s maxAwait killTimeout timeout⟩ := by
  cases limit : s.timeoutMillis with
  | none =>
    simp only [cursorSection?, limit, Option.bind_eq_bind, Option.bind_eq_some_iff] at h
    obtain ⟨maxAwait, first, killTimeout, second, _, empty, same⟩ := h
    cases empty
    exact ⟨maxAwait, killTimeout, none, first, second, rfl, (Option.some.inj same).symm⟩
  | some n =>
    simp only [cursorSection?, limit, Option.bind_eq_bind, Option.bind_eq_some_iff,
      Option.map_eq_some_iff] at h
    obtain ⟨maxAwait, first, killTimeout, second, _, ⟨timeout, third, rfl⟩, same⟩ := h
    exact ⟨maxAwait, killTimeout, some timeout, first, second, congrArg some third,
      (Option.some.inj same).symm⟩

/-- The names in a table for cursors. -/
def cursorNames : List String :=
  ["default_batch_size", "max_await_time_ms", "kill_cursors_timeout_ms", "timeout_ms",
    "timeout_mode", "client_id"]

theorem names_cursorFields (s : CursorSettings) (maxAwait killTimeout : Scalar)
    (timeout : Option Scalar) :
    ((cursorFields s maxAwait killTimeout timeout).map Prod.fst).Sublist cursorNames := by
  cases timeout with
  | none => exact .cons_cons _ (.cons_cons _ (.cons_cons _ (.cons _ (.refl _))))
  | some v => exact .refl _

theorem isPlain_cursorFields (s : CursorSettings) (maxAwait killTimeout : Scalar)
    (timeout : Option Scalar) :
    Toml.Section.IsPlain ⟨"cursor", cursorFields s maxAwait killTimeout timeout⟩ where
  name := show Toml.IsBare "cursor" by decide
  fields := by
    have bare : ∀ name ∈ cursorNames, Toml.IsBare name := by decide
    intro f member
    exact bare f.1 ((names_cursorFields s _ _ _).subset (List.mem_map_of_mem member))
  distinct := (show cursorNames.Nodup by decide).sublist (names_cursorFields s _ _ _)

/-- Every written field is found under its name. -/
theorem namedFields?_cursorFields (s : CursorSettings) (maxAwait killTimeout : Scalar)
    (timeout : Option Scalar) :
    namedFields? cursorNames
        (Toml.Section.toField ⟨"cursor", cursorFields s maxAwait killTimeout timeout⟩).2 =
      some [some (Scalar.toValue (.integer s.batchSize.toInt64)), some maxAwait.toValue,
        some killTimeout.toValue, timeout.map Scalar.toValue, some (.string s.mode.name),
        some (.string s.client)] := by
  cases timeout <;>
    simp [namedFields?, cursorNames, Toml.Section.toField, cursorFields, List.lookup_cons,
      Scalar.toValue]

theorem ofValue?_cursorFields {s : CursorSettings} {maxAwait killTimeout : Scalar}
    {timeout : Option Scalar} (first : scalarOf? s.maxAwaitMillis = some maxAwait)
    (second : scalarOf? s.killTimeoutMillis = some killTimeout)
    (third : s.timeoutMillis.map scalarOf? = timeout.map some) (client : String) :
    CursorSettings.ofValue? client
        (Toml.Section.toField ⟨"cursor", cursorFields s maxAwait killTimeout timeout⟩).2 =
      some s := by
  have named := namedFields?_cursorFields s maxAwait killTimeout timeout
  have limit : valueOr? (fun v => (word64Of? v).map some) none (timeout.map Scalar.toValue) =
      some s.timeoutMillis := by
    cases known : s.timeoutMillis with
    | none =>
      rw [known] at third
      cases timeout with
      | none => rfl
      | some v => cases third
    | some n =>
      rw [known] at third
      cases timeout with
      | none => cases third
      | some v => simp [word64Of?_scalarOf? (Option.some.inj third)]
  simp only [cursorNames] at named
  simp [CursorSettings.ofValue?, named, limit, int32Of?_integer, word64Of?_scalarOf? first,
    word64Of?_scalarOf? second, choiceOf?, TimeoutMode.ofName?_name, Value.asString?]

/-! ### Logging -/

/-- The names in a table for notes. -/
def logNames : List String := ["level", "timestamps"]

theorem isPlain_logSection (s : LogSettings) : (logSection s).IsPlain where
  name := show Toml.IsBare "logging" by decide
  fields := by
    have bare : ∀ name ∈ logNames, Toml.IsBare name := by decide
    simpa [logSection, logNames] using bare
  distinct := show logNames.Nodup by decide

theorem ofValue?_logSection (s : LogSettings) :
    LogSettings.ofValue? (logSection s).toField.2 = some s := by
  simp [LogSettings.ofValue?, namedFields?, Toml.Section.toField, logSection, List.lookup_cons,
    Scalar.toValue, choiceOf?, Level.ofName?_name, Value.asBoolean?]

/-! ### Whole texts -/

variable {s : Settings} {text : String}

theorem ofTable?_pair {client : String} {v w : Value} {cursor : CursorSettings}
    {logging : LogSettings} (cursors : CursorSettings.ofValue? client v = some cursor)
    (logs : LogSettings.ofValue? w = some logging) :
    ofTable? client [("cursor", v), ("logging", w)] = some { cursor, logging } := by
  simp [ofTable?, List.lookup_cons, cursors, logs]

/-- The settings in a written text are those that it was written for; the default for the client's
name plays no part. -/
theorem ofText?_of_toText? (written : s.toText? = some text) (client : String) :
    ofText? client text = some s := by
  obtain ⟨sections, whole, rfl⟩ := Option.map_eq_some_iff.mp written
  obtain ⟨cursor, front, rfl⟩ := Option.map_eq_some_iff.mp whole
  obtain ⟨maxAwait, killTimeout, timeout, first, second, third, rfl⟩ := exists_cursorFields front
  have plain : ∀ section_ ∈ [⟨"cursor", cursorFields s.cursor maxAwait killTimeout timeout⟩,
      logSection s.logging], Toml.Section.IsPlain section_ := by
    simpa using ⟨isPlain_cursorFields s.cursor maxAwait killTimeout timeout,
      isPlain_logSection s.logging⟩
  have read := Toml.ofText?_textOf plain (show ["cursor", "logging"].Nodup by decide)
  rw [ofText?, read, Option.bind_some]
  exact ofTable?_pair (ofValue?_cursorFields first second third client)
    (ofValue?_logSection s.logging)

/-- A text is written exactly for settings whose times all fit. -/
theorem toText?_isSome_iff : s.toText?.isSome ↔ s.IsWritable := by
  rw [toText?, sections?, Option.isSome_map, Option.isSome_map]
  constructor
  · intro written
    obtain ⟨cursor, front⟩ := Option.isSome_iff_exists.mp written
    obtain ⟨_, _, timeout, first, second, third, -⟩ := exists_cursorFields front
    refine ⟨scalarOf?_isSome_iff.mp (by simp [first]), scalarOf?_isSome_iff.mp (by simp [second]),
      fun n known => scalarOf?_isSome_iff.mp ?_⟩
    rw [Option.mem_def.mp known] at third
    obtain ⟨v, -, same⟩ := Option.map_eq_some_iff.mp third.symm
    simp [← same]
  · rintro ⟨maxAwait, killTimeout, timeout⟩
    obtain ⟨_, first⟩ := Option.isSome_iff_exists.mp (scalarOf?_isSome_iff.mpr maxAwait)
    obtain ⟨_, second⟩ := Option.isSome_iff_exists.mp (scalarOf?_isSome_iff.mpr killTimeout)
    cases known : s.cursor.timeoutMillis with
    | none => simp [cursorSection?, first, second, known]
    | some n =>
      obtain ⟨_, third⟩ := Option.isSome_iff_exists.mp (scalarOf?_isSome_iff.mpr (timeout n known))
      simp [cursorSection?, first, second, known, third]

end Settings

end ResultCursor
