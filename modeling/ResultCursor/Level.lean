import ResultCursor.Text.Blank

/-! How urgent a note is. -/

namespace ResultCursor

inductive Level where
  | error
  | warn
  | info
  | debug
  | trace
  deriving DecidableEq, Repr

namespace Level

def all : List Level := [error, warn, info, debug, trace]

/-- The name in small letters. -/
def name : Level → String
  | error => "error"
  | warn => "warn"
  | info => "info"
  | debug => "debug"
  | trace => "trace"

/-- Levels that let more through have greater ranks; rank zero lets nothing through. -/
def rank : Level → Nat
  | error => 1
  | warn => 2
  | info => 3
  | debug => 4
  | trace => 5

/-- The level of exactly this name. -/
def ofName? (name : String) : Option Level := all.find? fun l => l.name = name

/-- The level of a name in any case and with blanks around it; `warn` has a second name. -/
def ofText? (s : String) : Option Level :=
  let name := Text.lowerAscii (Text.trim s)
  if name = "warning" then some warn else ofName? name

end Level

end ResultCursor
