import ResultCursor.Files
import ResultCursor.Settings.Document
import ResultCursor.Settings.Variables

/-! Settings in files. The file at the usual place counts less than the environment and more than
the defaults. -/

namespace ResultCursor.Settings

/-- The usual place of the file, counted from the user's home. -/
def usualPath : String := ".mongosh/cursor.toml"

/-- The settings of the file at a path. -/
def ofFile (client : String) (f : Files) (path : String) : Except Failure Settings :=
  match f.readText path with
  | .error .missing => .error (.setting (.fileMissing path))
  | .error e => .error (.files e.message)
  | .ok content =>
    match ofText? client content with
    | some s => .ok s
    | none => .error (.setting (.badFormat "TOML parse error"))

/-- The defaults and what the environment says. -/
def ofEnvironment (client : String) (env : Environment) : Except Failure Settings :=
  (initial client).overridden env

/-- The settings, unless a value of them is of no use. -/
def checked (s : Settings) : Except Failure Settings :=
  match s.fault? with
  | none => .ok s
  | some e => .error (.setting e)

/-- The settings that hold: of the file at the path, if there is one, and of the environment. -/
def load (client : String) (f : Files) (path : String) (env : Environment) :
    Except Failure Settings := do
  let s ← if f.holds path then ofFile client f path else .ok (initial client)
  (← s.overridden env).checked

/-- Writes the settings to a path. A file that is there already stays as it is when they cannot be
written. -/
def save (s : Settings) (f : Files) (path : String) : Files × Except Failure Unit :=
  match f.makeWay path with
  | (f, .error e) => (f, .error (.files e.message))
  | (f, .ok here) =>
    match s.toText? with
    | none => (f, .error (.setting (.badFormat "out-of-range value for u64 type")))
    | some content =>
      match f.write here path content.toUTF8 with
      | .error e => (f, .error (.files e.message))
      | .ok f => (f, .ok ())

end ResultCursor.Settings
