import ResultCursor.Bson.Value
import ResultCursor.Json.Value
import ResultCursor.Numeric.DecimalText
import ResultCursor.Numeric.Shortest

/-! BSON written as JSON. Plain JSON values stand for themselves, a whole number being of 32 bits
if it fits; an object with the single field `$long`, `$double`, `$ts`, `$oid`, `$undefined`,
`$minKey`, `$maxKey`, `$symbol` or `$code` stands for a scalar. A value of any other type is shown
with the field `$other` and cannot be read. -/

namespace ResultCursor.Bson

open Json (Value)

/-- A whole number, of 32 bits if it fits. -/
def ofInt (n : Int) : Bson :=
  match Numeric.int32? n with
  | some n => int32 n
  | none => int64 (Int64.ofInt n)

def timestampOf? : Value → Option Timestamp
  | .array [t, i] => do
    let t ← t.asNat?
    let i ← i.asNat?
    return ⟨UInt32.ofNat t, UInt32.ofNat i⟩
  | _ => none

/-- The scalar that an object with a single field stands for. -/
def scalarOf? (name : String) (v : Value) : Option Bson :=
  match name with
  | "$long" => do
    let s ← v.asString?
    let n ← Text.readInt? s.toList
    return int64 (Int64.ofInt n)
  | "$double" => v.asString?.bind fun s => (Numeric.readBinary64? s).map double
  | "$ts" => (timestampOf? v).map timestamp
  | "$oid" => v.asString?.map fun s => objectId (s.map Char.toLower)
  | "$undefined" => some undefined
  | "$minKey" => some minKey
  | "$maxKey" => some maxKey
  | "$symbol" => v.asString?.map symbol
  | "$code" => v.asString?.map code
  | _ => none

mutual

def ofJson? : Value → Option Bson
  | .null => some null
  | .bool b => some (bool b)
  | .integer n => some (ofInt n)
  | .decimal literal => (Numeric.readBinary64? literal).map double
  | .string s => some (string s)
  | .garbled => none
  | .array items => (itemsOfJson? items).map array
  | .object [(name, v)] =>
    match scalarOf? name v with
    | some b => some b
    | none => (ofJson? v).map fun b => document [(name, b)]
  | .object fields => (fieldsOfJson? fields).map document

def itemsOfJson? : List Value → Option (List Bson)
  | [] => some []
  | v :: rest => do
    let b ← ofJson? v
    let bs ← itemsOfJson? rest
    return b :: bs

def fieldsOfJson? : List (String × Value) → Option (List (String × Bson))
  | [] => some []
  | (name, v) :: rest => do
    let b ← ofJson? v
    let bs ← fieldsOfJson? rest
    return (name, b) :: bs

end

def marked (name : String) (v : Value) : Value := .object [(name, v)]

def timestampJson (t : Timestamp) : Value :=
  .array [.integer t.time.toNat, .integer t.increment.toNat]

mutual

def toJson : Bson → Value
  | double word => marked "$double" (.string (Numeric.binary64Text word))
  | int32 n => .integer n.toInt
  | int64 n => marked "$long" (.string (toString n.toInt))
  | string s => .string s
  | array items => .array (itemsToJson items)
  | document fields => .object (fieldsToJson fields)
  | bool b => .bool b
  | null => .null
  | undefined => marked "$undefined" (.bool true)
  | minKey => marked "$minKey" (.bool true)
  | maxKey => marked "$maxKey" (.bool true)
  | symbol s => marked "$symbol" (.string s)
  | code s => marked "$code" (.string s)
  | objectId hex => marked "$oid" (.string hex)
  | timestamp t => marked "$ts" (timestampJson t)
  | other shown => marked "$other" (.string shown)

def itemsToJson : List Bson → List Value
  | [] => []
  | b :: rest => toJson b :: itemsToJson rest

def fieldsToJson : List (String × Bson) → List (String × Value)
  | [] => []
  | (name, b) :: rest => (name, toJson b) :: fieldsToJson rest

end

/-- The document that a JSON object stands for. -/
def documentOf? (v : Value) : Option Document := (ofJson? v).bind asDocument?

end ResultCursor.Bson
