import ResultCursor.Numeric.Word
import ResultCursor.Settings.Basic
import ResultCursor.Toml.Printer

/-! Settings as TOML documents. A value that is missing keeps its default, and keys without a
meaning are passed over; a value of the wrong type or out of its range is refused. -/

namespace ResultCursor

open Toml (Value Scalar)

/-! ### Reading -/

namespace Settings

def int32Of? (v : Value) : Option Int32 := v.asInteger?.bind Numeric.int32?

def word64Of? (v : Value) : Option UInt64 := v.asInteger?.bind Numeric.word64?

/-- The name of a choice: a text, or the single key of a table that has nothing under it. -/
def choiceOf? : Value → Option String
  | .string s => some s
  | .table [(name, .table [])] => some name
  | .table [(name, .array [])] => some name
  | _ => none

/-- The values of the named fields, in the order of the names. They can also be given without their
names; a moment has none of them. -/
def namedFields? (names : List String) : Value → Option (List (Option Value))
  | .table fields => some (names.map fun name => fields.lookup name)
  | .array items => some ((List.range names.length).map fun i => items[i]?)
  | .moment _ => some (names.map fun _ => none)
  | _ => none

/-- The value, if there is one, must be of the type; without one the default holds. -/
def valueOr? (view : Value → Option α) (fallback : α) : Option Value → Option α
  | some v => view v
  | none => some fallback

end Settings

open Settings

def CursorSettings.ofValue? (client : String) (v : Value) : Option CursorSettings :=
  let names := ["default_batch_size", "max_await_time_ms", "kill_cursors_timeout_ms", "timeout_ms",
    "timeout_mode", "client_id"]
  let defaults : CursorSettings := { client }
  match namedFields? names v with
  | some [batchSize, maxAwait, killTimeout, timeout, mode, name] => do
    let batchSize ← valueOr? int32Of? defaults.batchSize batchSize
    let maxAwaitMillis ← valueOr? word64Of? defaults.maxAwaitMillis maxAwait
    let killTimeoutMillis ← valueOr? word64Of? defaults.killTimeoutMillis killTimeout
    let timeoutMillis ← valueOr? (fun v => (word64Of? v).map some) defaults.timeoutMillis timeout
    let mode ← valueOr? (fun v => (choiceOf? v).bind TimeoutMode.ofName?) defaults.mode mode
    let client ← valueOr? Value.asString? defaults.client name
    return { batchSize, maxAwaitMillis, killTimeoutMillis, timeoutMillis, mode, client }
  | _ => none

def LogSettings.ofValue? (v : Value) : Option LogSettings :=
  let defaults : LogSettings := {}
  match namedFields? ["level", "timestamps"] v with
  | some [level, timestamps] => do
    let level ← valueOr? (fun v => (choiceOf? v).bind Level.ofName?) defaults.level level
    let timestamps ← valueOr? Value.asBoolean? defaults.timestamps timestamps
    return { level, timestamps }
  | _ => none

namespace Settings

/-- The settings of a table; `client` is the default for the client's name. -/
def ofTable? (client : String) (t : Toml.Table) : Option Settings := do
  let cursor ← valueOr? (CursorSettings.ofValue? client) { client } (t.lookup "cursor")
  let logging ← valueOr? LogSettings.ofValue? {} (t.lookup "logging")
  return { cursor, logging }

def ofText? (client s : String) : Option Settings := (Toml.ofText? s).bind (ofTable? client)

/-! ### Writing -/

/-- Whole numbers of a document have 63 bits and a sign. -/
def scalarOf? (n : UInt64) : Option Scalar := (Numeric.int64? n.toNat).map .integer

def cursorSection? (s : CursorSettings) : Option Toml.Section := do
  let maxAwait ← scalarOf? s.maxAwaitMillis
  let killTimeout ← scalarOf? s.killTimeoutMillis
  let timeout ← match s.timeoutMillis with
    | some n => (scalarOf? n).map fun v => [("timeout_ms", v)]
    | none => some []
  return {
    name := "cursor"
    fields := [("default_batch_size", .integer s.batchSize.toInt64),
      ("max_await_time_ms", maxAwait), ("kill_cursors_timeout_ms", killTimeout)] ++ timeout ++
      [("timeout_mode", .string s.mode.name), ("client_id", .string s.client)] }

def logSection (s : LogSettings) : Toml.Section where
  name := "logging"
  fields := [("level", .string s.level.name), ("timestamps", .boolean s.timestamps)]

def sections? (s : Settings) : Option (List Toml.Section) :=
  (cursorSection? s.cursor).map fun c => [c, logSection s.logging]

/-- The document of the settings, if all their numbers can be written. -/
def toText? (s : Settings) : Option String := s.sections?.map Toml.textOf

end Settings

end ResultCursor
