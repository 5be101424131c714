import ResultCursor.Proofs.Merging.Keys
import ResultCursor.Proofs.Writing.Settings

/-! What a document says. Under each key there is a value of the right type or nothing; where there
is nothing, the default holds. -/

namespace ResultCursor.Settings

open Toml (Value)

/-- Something that can have values under names. -/
def IsRecord : Value → Prop
  | .table _ => True
  | .array _ => True
  | .moment _ => True
  | _ => False

/-- The value under one of the names. Where there are no names, the values stand in their order. -/
def fieldOf? (names : List String) (name : String) : Value → Option Value
  | .table fields => fields.lookup name
  | .array items => items[names.idxOf name]?
  | _ => none

theorem namedFields?_of_isRecord (names : List String) (distinct : names.Nodup) {v : Value}
    (isRecord : IsRecord v) :
    namedFields? names v = some (names.map fun name => fieldOf? names name v) := by
  cases v with
  | table fields => rfl
  | moment literal => rfl
  | array items =>
    refine congrArg some (List.ext_getElem (by simp) fun i bound _ => ?_)
    rw [List.length_map, List.length_range] at bound
    simp [fieldOf?, distinct.idxOf_getElem i bound]
  | string | integer | float | boolean => cases isRecord

theorem namedFields?_of_not_isRecord (names : List String) {v : Value} (bare : ¬IsRecord v) :
    namedFields? names v = none := by
  cases v with
  | table | moment | array => exact absurd trivial bare
  | string | integer | float | boolean => rfl

namespace Key

def heading : Key → String
  | level => "logging"
  | timestamps => "logging"
  | _ => "cursor"

def name : Key → String
  | batchSize => "default_batch_size"
  | maxAwait => "max_await_time_ms"
  | killTimeout => "kill_cursors_timeout_ms"
  | timeout => "timeout_ms"
  | mode => "timeout_mode"
  | client => "client_id"
  | level => "level"
  | timestamps => "timestamps"

/-- The names under the heading of a key. -/
def names : Key → List String
  | level => logNames
  | timestamps => logNames
  | _ => cursorNames

/-- The value that a document has under a key. -/
def given? (t : Toml.Table) (k : Key) : Option Value :=
  (t.lookup k.heading).bind (fieldOf? k.names k.name)

/-- A value of a document as one of the type that belongs to the key. -/
def ofValue? (v : Value) : (k : Key) → Option k.Kind
  | batchSize => int32Of? v
  | maxAwait => word64Of? v
  | killTimeout => word64Of? v
  | timeout => (word64Of? v).map some
  | mode => (choiceOf? v).bind TimeoutMode.ofName?
  | client => v.asString?
  | level => (choiceOf? v).bind Level.ofName?
  | timestamps => v.asBoolean?

end Key

/-- What a document says in place of the defaults. -/
def Key.stated (client : String) (t : Toml.Table) (k : Key) : Option k.Kind :=
  valueOr? (fun v => k.ofValue? v) (k.get (initial client)) (k.given? t)

variable {client : String} {v : Value} {t : Toml.Table} {s : Settings}

theorem cursor_ofValue?_eq_some_iff {c : CursorSettings} :
    CursorSettings.ofValue? client v = some c ↔ IsRecord v ∧
      valueOr? int32Of? 0 (fieldOf? cursorNames "default_batch_size" v) = some c.batchSize ∧
      valueOr? word64Of? 1000 (fieldOf? cursorNames "max_await_time_ms" v) =
        some c.maxAwaitMillis ∧
      valueOr? word64Of? 1000 (fieldOf? cursorNames "kill_cursors_timeout_ms" v) =
        some c.killTimeoutMillis ∧
      valueOr? (fun v => (word64Of? v).map some) none (fieldOf? cursorNames "timeout_ms" v) =
        some c.timeoutMillis ∧
      valueOr? (fun v => (choiceOf? v).bind TimeoutMode.ofName?) .lifetime
        (fieldOf? cursorNames "timeout_mode" v) = some c.mode ∧
      valueOr? Value.asString? client (fieldOf? cursorNames "client_id" v) = some c.client := by
  obtain ⟨batchSize, maxAwait, killTimeout, timeout, mode, name⟩ := c
  by_cases record : IsRecord v
  · have named := namedFields?_of_isRecord cursorNames (by decide) record
    simp only [cursorNames, List.map_cons, List.map_nil] at named
    simp only [CursorSettings.ofValue?, named, record, cursorNames, Option.bind_eq_bind,
      Option.bind_eq_some_iff, Option.pure_def, Option.some.injEq, CursorSettings.mk.injEq,
      true_and]
    constructor
    · rintro ⟨_, first, _, second, _, third, _, fourth, _, fifth, _, sixth, rfl, rfl, rfl, rfl, rfl,
        rfl⟩
      exact ⟨first, second, third, fourth, fifth, sixth⟩
    · rintro ⟨first, second, third, fourth, fifth, sixth⟩
      exact ⟨_, first, _, second, _, third, _, fourth, _, fifth, _, sixth, rfl, rfl, rfl, rfl, rfl,
        rfl⟩
  · have none_ := namedFields?_of_not_isRecord cursorNames record
    simp only [cursorNames] at none_
    simp [CursorSettings.ofValue?, none_, record]

theorem log_ofValue?_eq_some_iff {l : LogSettings} :
    LogSettings.ofValue? v = some l ↔ IsRecord v ∧
      valueOr? (fun v => (choiceOf? v).bind Level.ofName?) .warn (fieldOf? logNames "level" v) =
        some l.level ∧
      valueOr? Value.asBoolean? true (fieldOf? logNames "timestamps" v) = some l.timestamps := by
  obtain ⟨level, timestamps⟩ := l
  by_cases record : IsRecord v
  · have named := namedFields?_of_isRecord logNames (by decide) record
    simp only [logNames, List.map_cons, List.map_nil] at named
    simp [LogSettings.ofValue?, named, Option.bind_eq_some_iff, record, logNames]
  · have none_ := namedFields?_of_not_isRecord logNames record
    simp only [logNames] at none_
    simp [LogSettings.ofValue?, none_, record]

theorem cursor_valueOr?_iff {c : CursorSettings} {o : Option Value} :
    valueOr? (CursorSettings.ofValue? client) { client } o = some c ↔ (∀ v ∈ o, IsRecord v) ∧
      valueOr? int32Of? 0 (o.bind (fieldOf? cursorNames "default_batch_size")) =
        some c.batchSize ∧
      valueOr? word64Of? 1000 (o.bind (fieldOf? cursorNames "max_await_time_ms")) =
        some c.maxAwaitMillis ∧
      valueOr? word64Of? 1000 (o.bind (fieldOf? cursorNames "kill_cursors_timeout_ms")) =
        some c.killTimeoutMillis ∧
      valueOr? (fun v => (word64Of? v).map some) none
        (o.bind (fieldOf? cursorNames "timeout_ms")) = some c.timeoutMillis ∧
      valueOr? (fun v => (choiceOf? v).bind TimeoutMode.ofName?) .lifetime
        (o.bind (fieldOf? cursorNames "timeout_mode")) = some c.mode ∧
      valueOr? Value.asString? client (o.bind (fieldOf? cursorNames "client_id")) =
        some c.client := by
  cases o with
  | none =>
    obtain ⟨batchSize, maxAwait, killTimeout, timeout, mode, name⟩ := c
    simp
  | some v => simpa using cursor_ofValue?_eq_some_iff

theorem log_valueOr?_iff {l : LogSettings} {o : Option Value} :
    valueOr? LogSettings.ofValue? {} o = some l ↔ (∀ v ∈ o, IsRecord v) ∧
      valueOr? (fun v => (choiceOf? v).bind Level.ofName?) .warn
        (o.bind (fieldOf? logNames "level")) = some l.level ∧
      valueOr? Value.asBoolean? true (o.bind (fieldOf? logNames "timestamps")) =
        some l.timestamps := by
  cases o with
  | none =>
    obtain ⟨level, timestamps⟩ := l
    simp
  | some v => simpa using log_ofValue?_eq_some_iff

/-- Under a heading there is, if anything, something that can have values under names. -/
def HasRecords (t : Toml.Table) : Prop :=
  ∀ k : Key, ∀ v ∈ t.lookup k.heading, IsRecord v

/-- Settings are read off a document exactly if under each heading there are values under names,
and under each key one of the right type or none. -/
theorem ofTable?_eq_some_iff :
    ofTable? client t = some s ↔ HasRecords t ∧ ∀ k : Key, k.stated client t = some (k.get s) := by
  have parts : ofTable? client t = some s ↔
      valueOr? (CursorSettings.ofValue? client) { client } (t.lookup "cursor") = some s.cursor ∧
        valueOr? LogSettings.ofValue? {} (t.lookup "logging") = some s.logging := by
    obtain ⟨cursor, logging⟩ := s
    simp [ofTable?, Option.bind_eq_some_iff]
  rw [parts, cursor_valueOr?_iff, log_valueOr?_iff]
  constructor
  · rintro ⟨⟨cursors, batchSize, maxAwait, killTimeout, timeout, mode, name⟩, logs, level, times⟩
    refine ⟨fun k => ?_, fun k => ?_⟩
    · cases k with
      | level | timestamps => exact logs
      | batchSize | maxAwait | killTimeout | timeout | mode | client => exact cursors
    · cases k with
      | batchSize => exact batchSize
      | maxAwait => exact maxAwait
      | killTimeout => exact killTimeout
      | timeout => exact timeout
      | mode => exact mode
      | client => exact name
      | level => exact level
      | timestamps => exact times
  · rintro ⟨records, stated⟩
    exact ⟨⟨records .batchSize, stated .batchSize, stated .maxAwait, stated .killTimeout,
      stated .timeout, stated .mode, stated .client⟩, records .level, stated .level,
      stated .timestamps⟩

end ResultCursor.Settings
