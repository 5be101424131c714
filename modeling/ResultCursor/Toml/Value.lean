/-! Values of TOML documents. A table keeps the order of its keys and has none of them twice. -/

namespace ResultCursor.Toml

inductive Value where
  | string (s : String)
  | integer (n : Int)
  /-- A binary floating-point number, as a word of 64 bits. -/
  | float (word : UInt64)
  | boolean (b : Bool)
  /-- A date, a time of the day or both, as it was written. -/
  | moment (literal : String)
  | array (items : List Value)
  | table (fields : List (String × Value))
  deriving Repr, Inhabited

abbrev Table := List (String × Value)

namespace Value

def asString? : Value → Option String
  | string s => some s
  | _ => none

def asBoolean? : Value → Option Bool
  | boolean b => some b
  | _ => none

def asInteger? : Value → Option Int
  | integer n => some n
  | _ => none

end Value

end ResultCursor.Toml
