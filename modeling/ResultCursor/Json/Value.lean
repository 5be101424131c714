/-! JSON values. Objects keep the order of their fields, and whole numbers keep all their digits. -/

namespace ResultCursor.Json

inductive Value where
  | null
  | bool (b : Bool)
  | integer (n : Int)
  /-- A number with a point or a power of ten, or a negative zero, as it was written. -/
  | decimal (literal : String)
  | string (s : String)
  /-- A text that is no sequence of characters, since a surrogate in it has no partner, or an
  object with such a name in it. -/
  | garbled
  | array (items : List Value)
  | object (fields : List (String × Value))
  deriving Repr, Inhabited

namespace Value

/-- The first field with the name; `none` for anything but an object. -/
def get? (name : String) : Value → Option Value
  | object fields => fields.lookup name
  | _ => none

def asString? : Value → Option String
  | string s => some s
  | _ => none

def asInt? : Value → Option Int
  | integer n => some n
  | _ => none

def asNat? (v : Value) : Option Nat := v.asInt?.bind fun n => if 0 ≤ n then some n.toNat else none

def asBool? : Value → Option Bool
  | bool b => some b
  | _ => none

def asArray? : Value → Option (List Value)
  | array items => some items
  | _ => none

def asObject? : Value → Option (List (String × Value))
  | object fields => some fields
  | _ => none

/-- The field, unless it is missing or null. -/
def field? (name : String) (v : Value) : Option Value :=
  match v.get? name with
  | some null => none
  | found => found

end Value

end ResultCursor.Json
