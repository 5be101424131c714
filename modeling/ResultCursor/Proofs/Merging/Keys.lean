import ResultCursor.Settings.Variables

/-! The values that settings consist of, each under a key of its own. A value can be taken out of
settings and put into them; what stands under the other keys is not touched. -/

namespace ResultCursor.Settings

inductive Key where
  | batchSize
  | maxAwait
  | killTimeout
  | timeout
  | mode
  | client
  | level
  | timestamps
  deriving DecidableEq, Repr

namespace Key

/-- The type of the value under a key. -/
abbrev Kind : Key → Type
  | batchSize => Int32
  | maxAwait => UInt64
  | killTimeout => UInt64
  | timeout => Option UInt64
  | mode => TimeoutMode
  | client => String
  | level => Level
  | timestamps => Bool

def get (s : Settings) : (k : Key) → k.Kind
  | batchSize => s.cursor.batchSize
  | maxAwait => s.cursor.maxAwaitMillis
  | killTimeout => s.cursor.killTimeoutMillis
  | timeout => s.cursor.timeoutMillis
  | mode => s.cursor.mode
  | client => s.cursor.client
  | level => s.logging.level
  | timestamps => s.logging.timestamps

def set (s : Settings) : (k : Key) → k.Kind → Settings
  | batchSize, n => { s with cursor := { s.cursor with batchSize := n } }
  | maxAwait, n => { s with cursor := { s.cursor with maxAwaitMillis := n } }
  | killTimeout, n => { s with cursor := { s.cursor with killTimeoutMillis := n } }
  | timeout, n => { s with cursor := { s.cursor with timeoutMillis := n } }
  | mode, m => { s with cursor := { s.cursor with mode := m } }
  | client, name => { s with cursor := { s.cursor with client := name } }
  | level, l => { s with logging := { s.logging with level := l } }
  | timestamps, b => { s with logging := { s.logging with timestamps := b } }

variable {s t : Settings} {k l : Key}

theorem get_set (s : Settings) (k : Key) (x : k.Kind) : k.get (k.set s x) = x := by
  cases k <;> rfl

theorem get_set_other (other : k ≠ l) (s : Settings) (x : l.Kind) :
    k.get (l.set s x) = k.get s := by
  cases k <;> cases l <;> first | rfl | exact absurd rfl other

/-- Settings are no more than what stands under their keys. -/
theorem ext (same : ∀ k : Key, k.get s = k.get t) : s = t := by
  obtain ⟨⟨batchSize, maxAwait, killTimeout, timeout, mode, client⟩, ⟨level, timestamps⟩⟩ := s
  cases same .batchSize
  cases same .maxAwait
  cases same .killTimeout
  cases same .timeout
  cases same .mode
  cases same .client
  cases same .level
  cases same .timestamps
  rfl

end Key

end ResultCursor.Settings
