import ResultCursor.Correlation
import ResultCursor.Level
import ResultCursor.Options

/-! Settings that a program can keep in a file: what its cursors are given where their callers say
nothing else, and which notes are shown. -/

namespace ResultCursor

/-- The version of the library. -/
def version : String := "0.9.0"

structure CursorSettings where
  batchSize : Int32 := 0
  maxAwaitMillis : UInt64 := 1000
  killTimeoutMillis : UInt64 := 1000
  /-- The time for a whole operation; without it there is no limit. -/
  timeoutMillis : Option UInt64 := none
  mode : TimeoutMode := .lifetime
  /-- The name of the client in the comments of its operations. -/
  client : String
  deriving DecidableEq, Repr

structure LogSettings where
  level : Level := .warn
  timestamps : Bool := true
  deriving DecidableEq, Repr

structure Settings where
  cursor : CursorSettings
  logging : LogSettings := {}
  deriving DecidableEq, Repr

namespace CursorSettings

def maxAwait (s : CursorSettings) : Span := .ofMillis s.maxAwaitMillis.toNat

def killTimeout (s : CursorSettings) : Span := .ofMillis s.killTimeoutMillis.toNat

def timeout (s : CursorSettings) : Option Span := s.timeoutMillis.map fun ms => .ofMillis ms.toNat

/-- The deadline of an operation that starts now. -/
def deadline (s : CursorSettings) (now : Instant) : Deadline := .start s.timeout now

/-- The options of a cursor for which nothing else is asked. -/
def options (s : CursorSettings) : Options where
  batchSize := s.batchSize
  maxAwait := some s.maxAwait
  mode := s.mode
  killTimeout := s.killTimeout

end CursorSettings

namespace Settings

/-- The settings where there are neither a file nor variables. -/
def initial (client : String) : Settings := { cursor := { client } }

/-- The first value that no cursor can work with, if there is one. -/
def fault? (s : Settings) : Option BadSetting :=
  if s.cursor.batchSize < 0 then
    some (.badValue "cursor.default_batch_size" (toString s.cursor.batchSize.toInt))
  else if s.cursor.killTimeoutMillis = 0 then
    some (.badValue "cursor.kill_cursors_timeout_ms" "0")
  else none

end Settings

end ResultCursor
