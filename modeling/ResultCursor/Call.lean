import ResultCursor.Session

/-! The calls on a cursor, their answers, and what a call is waiting for when it stops half-way. -/

namespace ResultCursor

/-- The calls that hand out batches. -/
inductive Call where
  | next
  | hasNext
  | tryNext
  deriving DecidableEq, Repr

/-- As what the call uses a cursor that turns out to be closed. -/
def Call.closure : Call → Closure
  | next => .iterator
  | _ => .cursor

inductive Request where
  | iterate (call : Call)
  | close
  | setBatchSize (n : Int32)
  | inspect
  deriving DecidableEq, Repr

/-- What can be read off a cursor without changing it. -/
structure View where
  phase : Phase
  available : Nat
  remote : Option RemoteCursor
  reachable : Except Failure Address
  ns : Namespace
  limit : Int32
  batchSize : Int32
  comment : Option Bson
  firstBatchEmpty : Bool
  resumeToken : Option Document
  operationTime : Option Timestamp

def Cursor.view (c : Cursor) : View where
  phase := c.phase
  available := c.available
  remote := c.remote
  reachable := c.reachable
  ns := c.ns
  limit := c.quota.limit
  batchSize := c.quota.batchSize
  comment := c.options.comment
  firstBatchEmpty := c.firstBatchEmpty
  resumeToken := c.resumeToken
  operationTime := c.operationTime

inductive Answer where
  | batch (documents : List Document)
  /-- No batch so far, though there may be one later. -/
  | nothing
  | more (b : Bool)
  | done
  | seen (v : View)
  | failed (f : Failure)

/-- What follows a clean-up. -/
inductive Aftermath where
  | opened
  | fetched (call : Call)
  | failing (call : Call) (f : Failure)
  | closing (answer : Answer)

/-- What a call waits for. -/
inductive Wait where
  | batch (call : Call)
  | kill (saved : Option Span) (after : Aftermath)

inductive Progress where
  | answered (a : Answer)
  | waiting (sending : Sending) (wait : Wait)
  | crashed (text : String)

namespace Session

/-- Ends a call with what the buffer holds. -/
def finish (s : Session) (call : Call) : Session × Answer :=
  match call, s.cursor.buffer with
  | .hasNext, buffer => (s, .more buffer.isSome)
  | .next, some batch => ({ s with cursor := s.cursor.take.1 }, .batch batch)
  | .next, none => (s, .failed .noMoreElements)
  | .tryNext, some batch => ({ s with cursor := s.cursor.take.1 }, .batch batch)
  | .tryNext, none => (s, .nothing)

/-- No request is needed, or none is possible. -/
def isSettled (s : Session) : Bool := s.cursor.buffered || !s.cursor.canFetch

def setBatchSize (s : Session) (n : Int32) : Session :=
  { s with cursor := { s.cursor with quota := s.cursor.quota.withBatchSize n } }

end Session

end ResultCursor
