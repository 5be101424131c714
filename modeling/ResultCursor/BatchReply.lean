import ResultCursor.Bson.Equality
import ResultCursor.Failure
import ResultCursor.Namespace

/-! What the server answers to a query or to a request for the next batch. -/

namespace ResultCursor

structure BatchReply where
  ns : Namespace
  id : Int64
  documents : List Document
  resumeToken : Option Document
  operationTime : Option Timestamp
  deriving DecidableEq, Repr

namespace BatchReply

/-- Whether a batch opens a result or continues it. -/
inductive Place where
  | first
  | next
  deriving DecidableEq, Repr

def Place.fieldName : Place → String
  | first => "firstBatch"
  | next => "nextBatch"

def required (d : Document) (name : String) (view : Bson → Option α) : Except Failure α :=
  match d.field name view with
  | .ok a => .ok a
  | .error fault => .error (.ofFieldFault fault)

def cursorId (cursor : Document) : Except Failure Int64 :=
  match cursor.get? "id" with
  | some (.int64 n) => .ok n
  | some (.int32 n) => .ok n.toInt64
  | some found => .error (.invalidReply (.idType found))
  | none => .error (.invalidReply .idMissing)

def namespaceOf (text : String) : Except Failure Namespace :=
  match Namespace.ofText? text with
  | some ns => .ok ns
  | none => .error (.invalidReply (.namespaceText text))

/-- The elements as documents; the first that is none is the fault. -/
def documentsOf : List Bson → Except Failure (List Document)
  | [] => .ok []
  | .document d :: rest =>
    match documentsOf rest with
    | .ok ds => .ok (d :: ds)
    | .error f => .error f
  | found :: _ => .error (.invalidReply (.element found))

/-- Reads a reply. The fields are looked at in the order in which they are bound here. -/
def ofDocument (place : Place) (reply : Document) : Except Failure BatchReply := do
  let cursor ← required reply "cursor" Bson.asDocument?
  let id ← cursorId cursor
  let ns ← namespaceOf (← required cursor "ns" Bson.asString?)
  let documents ← documentsOf (← required cursor place.fieldName Bson.asArray?)
  return {
    ns, id, documents
    resumeToken := (cursor.get? "postBatchResumeToken").bind Bson.asDocument?
    operationTime := (reply.get? "operationTime").bind Bson.asTimestamp? }

end BatchReply

end ResultCursor
