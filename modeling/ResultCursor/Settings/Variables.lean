import ResultCursor.Settings.Basic
import ResultCursor.Text.Decimal

/-! Environment variables that override settings. They are looked at in a fixed order, and the first
bad value ends the work; what the variables before it said stays. -/

namespace ResultCursor

inductive Variable where
  | batchSize
  | maxAwait
  | killTimeout
  | timeout
  | mode
  | level
  deriving DecidableEq, Repr

namespace Variable

def all : List Variable := [batchSize, maxAwait, killTimeout, timeout, mode, level]

def name : Variable → String
  | batchSize => "MONGOSH_CURSOR_BATCH_SIZE"
  | maxAwait => "MONGOSH_CURSOR_MAX_AWAIT_TIME_MS"
  | killTimeout => "MONGOSH_CURSOR_KILL_CURSORS_TIMEOUT_MS"
  | timeout => "MONGOSH_CURSOR_TIMEOUT_MS"
  | mode => "MONGOSH_CURSOR_TIMEOUT_MODE"
  | level => "MONGOSH_CURSOR_LOG_LEVEL"

def word64Of? (value : String) : Option UInt64 :=
  Text.readWord64? (Text.trim value)

/-- The settings with the variable's value in their place, if it is one of the right type. -/
def override? (s : Settings) (value : String) : Variable → Option Settings
  | batchSize => (Text.readInt32? (Text.trim value)).map fun n =>
      { s with cursor := { s.cursor with batchSize := n } }
  | maxAwait => (word64Of? value).map fun n =>
      { s with cursor := { s.cursor with maxAwaitMillis := n } }
  | killTimeout => (word64Of? value).map fun n =>
      { s with cursor := { s.cursor with killTimeoutMillis := n } }
  | timeout => (word64Of? value).map fun n =>
      { s with cursor := { s.cursor with timeoutMillis := some n } }
  | mode => (TimeoutMode.ofText? value).map fun m =>
      { s with cursor := { s.cursor with mode := m } }
  | level => (Level.ofText? value).map fun l =>
      { s with logging := { s.logging with level := l } }

end Variable

/-- The values of the variables that are set. -/
abbrev Environment := String → Option String

/-- The variables of a process, whose values are bytes. A value that is no text counts as none. -/
def Environment.ofBytes (raw : String → Option ByteArray) : Environment :=
  fun name => (raw name).bind String.fromUTF8?

namespace Settings

def overrideAll (env : Environment) : List Variable → Settings → Settings × Option BadSetting
  | [], s => (s, none)
  | v :: rest, s =>
    match env v.name with
    | none => overrideAll env rest s
    | some value =>
      match v.override? s value with
      | some s => overrideAll env rest s
      | none => (s, some (.badValue v.name value))

/-- The settings after the environment, and the first bad value in it. -/
def override (s : Settings) (env : Environment) : Settings × Option BadSetting :=
  overrideAll env Variable.all s

/-- The settings after the environment, if there is no bad value in it. -/
def overridden (s : Settings) (env : Environment) : Except Failure Settings :=
  match s.override env with
  | (s, none) => .ok s
  | (_, some e) => .error (.setting e)

end Settings

end ResultCursor
