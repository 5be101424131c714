import ResultCursor.Failure
import ResultCursor.Json.Printer
import ResultCursor.Json.Reader
import ResultCursor.Numeric.Word

/-! Failures as structured reports. A report is written as a JSON object without its absent
fields, and read back from one. -/

namespace ResultCursor

structure Report.Details where
  cursorId : Option Int64
  address : Option String
  deriving DecidableEq, Repr

structure Report where
  kind : Option String := none
  code : Option Int32 := none
  name : Option String := none
  message : Option String := none
  details : Option Report.Details := none
  deriving DecidableEq, Repr

namespace Report

open Json (Value)

/-! ### Written form -/

def optionalField (name : String) (v : Option Value) : List (String × Value) :=
  match v with
  | some v => [(name, v)]
  | none => []

def Details.toJson (d : Details) : Value :=
  .object (optionalField "cursorId" (d.cursorId.map fun n => .integer n.toInt) ++
    optionalField "address" (d.address.map .string))

def toJson (r : Report) : Value :=
  .object (optionalField "type" (r.kind.map .string) ++
    optionalField "code" (r.code.map fun n => .integer n.toInt) ++
    optionalField "name" (r.name.map .string) ++
    optionalField "message" (r.message.map .string) ++
    optionalField "details" (r.details.map Details.toJson))

def compact (r : Report) : String := r.toJson.compact

def pretty (r : Report) : String := r.toJson.pretty

/-! ### Reading -/

/-- A missing or null value is absent; any other must have the type. -/
def optionalOf? (view : Value → Option α) : Option Value → Option (Option α)
  | none => some none
  | some .null => some none
  | some v => (view v).map some

def int32Of? (v : Value) : Option Int32 := v.asInt?.bind Numeric.int32?

def int64Of? (v : Value) : Option Int64 := v.asInt?.bind Numeric.int64?

/-- The values of the named fields, in the order of the names. An object may lack some of them and
have others, but none twice; an array has exactly these values. -/
def namedFields? (names : List String) : Value → Option (List (Option Value))
  | .object fields =>
    if names.any fun name => 1 < fields.countP fun f => f.1 = name then none
    else some (names.map fun name => fields.lookup name)
  | .array items => if items.length = names.length then some (items.map some) else none
  | _ => none

def Details.ofJson? (v : Value) : Option Details :=
  match namedFields? ["cursorId", "address"] v with
  | some [cursorId, address] => do
    let cursorId ← optionalOf? int64Of? cursorId
    let address ← optionalOf? Value.asString? address
    return ⟨cursorId, address⟩
  | _ => none

def ofJson? (v : Value) : Option Report :=
  match namedFields? ["type", "code", "name", "message", "details"] v with
  | some [kind, code, name, message, details] => do
    let kind ← optionalOf? Value.asString? kind
    let code ← optionalOf? int32Of? code
    let name ← optionalOf? Value.asString? name
    let message ← optionalOf? Value.asString? message
    let details ← optionalOf? Details.ofJson? details
    return ⟨kind, code, name, message, details⟩
  | _ => none

def ofText? (s : String) : Option Report := (Json.ofText? s).bind ofJson?

/-! ### Names of codes -/

/-- The server's names for the codes that concern a running cursor. -/
def knownName? (code : Int32) : Option String :=
  if code = 43 then some "CursorNotFound"
  else if code = 50 then some "MaxTimeMSExpired"
  else if code = 96 then some "OperationFailed"
  else if code = 136 then some "CappedPositionLost"
  else if code = 175 then some "QueryPlanKilled"
  else if code = 237 then some "CursorKilled"
  else none

/-- The known name of the code, or else the name given with it. -/
def nameOfCode (code : Int32) (given : String) : Option String :=
  match knownName? code with
  | some name => some name
  | none => if given.isEmpty then none else some given

end Report

end ResultCursor
