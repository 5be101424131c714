/-! BSON values. A document is the list of its fields in order. -/

namespace ResultCursor

structure Timestamp where
  time : UInt32
  increment : UInt32
  deriving DecidableEq, Repr, Inhabited

inductive Bson where
  /-- A floating-point number by its word, so that every bit of it counts. -/
  | double (word : UInt64)
  | int32 (n : Int32)
  | int64 (n : Int64)
  | string (s : String)
  | array (items : List Bson)
  | document (fields : List (String × Bson))
  | bool (b : Bool)
  | null
  | undefined
  | minKey
  | maxKey
  | symbol (s : String)
  | code (s : String)
  | objectId (hex : String)
  | timestamp (t : Timestamp)
  /-- A value of any other type, of which only the text in diagnostics is looked at: binary data, a
  date, a regular expression, a decimal number, code with a scope, a pointer. -/
  | other (shown : String)
  deriving Repr, Inhabited

abbrev Document := List (String × Bson)

/-- Why a field could not be read as the type asked for. -/
inductive FieldFault where
  | missing
  | mistyped
  deriving DecidableEq, Repr

namespace Document

def get? (d : Document) (name : String) : Option Bson := d.lookup name

/-- Gives a field its value: in its old place if there is one, at the end otherwise. -/
def insert (d : Document) (name : String) (v : Bson) : Document :=
  if (d.get? name).isSome then d.map fun f => if f.1 = name then (name, v) else f
  else d ++ [(name, v)]

/-- The field as read by `view`. -/
def field (d : Document) (name : String) (view : Bson → Option α) : Except FieldFault α :=
  match d.get? name with
  | none => .error .missing
  | some v =>
    match view v with
    | none => .error .mistyped
    | some a => .ok a

end Document

namespace Bson

def asString? : Bson → Option String
  | string s => some s
  | _ => none

def asDocument? : Bson → Option Document
  | document d => some d
  | _ => none

def asArray? : Bson → Option (List Bson)
  | array items => some items
  | _ => none

def asInt32? : Bson → Option Int32
  | int32 n => some n
  | _ => none

def asInt64? : Bson → Option Int64
  | int64 n => some n
  | _ => none

def asTimestamp? : Bson → Option Timestamp
  | timestamp t => some t
  | _ => none

end Bson

end ResultCursor
