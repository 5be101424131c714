import ResultCursor.BatchReply
import ResultCursor.Failure.Message
import ResultCursor.Journal
import ResultCursor.Options

/-! The state of a cursor, and how replies and failures change it. Nothing here waits, sends or
looks at a clock; what a change has to say is returned as notes. -/

namespace ResultCursor

inductive Phase where
  /-- There may be more to fetch. -/
  | active
  /-- Nothing more will be fetched; a batch may still be waiting. -/
  | exhausted
  | closed
  deriving DecidableEq, Repr

structure Cursor where
  ns : Namespace
  address : Address
  remote : Option RemoteCursor
  buffer : Option (List Document)
  quota : Quota
  options : Options
  phase : Phase
  firstBatchEmpty : Bool
  resumeToken : Option Document
  operationTime : Option Timestamp
  /-- A failure showed that the connection is dead. -/
  connectionBroken : Bool
  /-- A request for a batch was started and has not been settled. -/
  inFlight : Bool
  deriving DecidableEq, Repr

namespace Cursor

def buffered (c : Cursor) : Bool := c.buffer.isSome

def canFetch (c : Cursor) : Bool := c.phase = .active && c.remote.isSome

def isClosed (c : Cursor) : Bool := c.phase = .closed

/-- The number of documents that the next call hands out without asking the server. -/
def available (c : Cursor) : Nat :=
  match c.phase, c.buffer with
  | .closed, _ => 0
  | _, none => 0
  | _, some batch => batch.length

def reachable (c : Cursor) : Except Failure Address :=
  if c.isClosed then .error (.closed .cursor) else .ok c.address

def debugNote (text : String) : Note := { level := .debug, text }

/-! ### Replies -/

def receivedNote (kept : Nat) (id : Int64) (address : Address) : Note :=
  debugNote ("Received batch of " ++ toString kept ++ " documents with cursor id " ++
    toString id.toInt ++ " from server " ++ address.text)

/-- A batch worth keeping: one with documents. -/
def bufferOf (batch : List Document) : Option (List Document) :=
  if batch.isEmpty then none else some batch

/-- Takes over the batch of a reply as far as the quota allows, and what the reply says about the
server's cursor. -/
def absorb (c : Cursor) (r : BatchReply) : Cursor :=
  let quota := c.quota.charge r.documents
  let remote := RemoteCursor.ofId? r.id c.address
  { c with
    quota, remote
    buffer := bufferOf (c.quota.admitted r.documents)
    resumeToken := r.resumeToken
    operationTime := r.operationTime.or c.operationTime
    phase := if remote.isNone || quota.stopsAfterBatch then .exhausted else c.phase }

def absorbNote (c : Cursor) (r : BatchReply) : Note :=
  receivedNote (c.quota.admitted r.documents).length r.id c.address

/-- A cursor that has not seen any reply. -/
def fresh (ns : Namespace) (firstBatchEmpty : Bool) (address : Address) (options : Options) :
    Cursor where
  ns := ns
  address := address
  remote := none
  buffer := none
  quota := options.quota
  options := options
  phase := .active
  firstBatchEmpty := firstBatchEmpty
  resumeToken := none
  operationTime := none
  connectionBroken := false
  inFlight := false

/-- The cursor of a first reply, for options without a fault. -/
def ofReply (reply : Document) (address : Address) (options : Options) :
    Except Failure (Cursor × Note) :=
  match options.fault? with
  | some fault => .error (.invalidArgument fault)
  | none =>
    match BatchReply.ofDocument .first reply with
    | .error f => .error f
    | .ok first =>
      let c := fresh first.ns first.documents.isEmpty address options
      .ok (c.absorb first, c.absorbNote first)

/-! ### Requests for the next batch -/

/-- How long the server may wait for documents: a wait is asked for only by an awaiting cursor,
and it ends with the time left at the latest. -/
def maxTime (o : Options) (left : Option Span) : Option Span :=
  if o.awaits then
    match o.maxAwait, left with
    | some await, some left => some (min await left)
    | some await, none => some await
    | none, left => left
  else none

def getMore (c : Cursor) (remote : RemoteCursor) (left : Option Span) : Command :=
  .getMore c.ns remote.id (Int32.ofNat c.quota.effectiveBatchSize) (maxTime c.options left)
    c.options.comment

/-- Starts a request at an instant. Past the deadline there is none. -/
def beginFetch (c : Cursor) (d : Deadline) (now : Instant) : Except Failure (Cursor × Command) :=
  match c.remote with
  | none => .error (.closed .cursor)
  | some remote =>
    match d.remaining now with
    | .error f => .error f
    | .ok left => .ok ({ c with inFlight := true }, c.getMore remote left)

/-- A server's answer that it does not know the cursor names the cursor and the server. -/
def named (c : Cursor) (f : Failure) : Failure :=
  match f, c.remote with
  | .command code name message, some remote =>
    if code = Failure.notFoundCode then .cursorNotFound remote.id remote.address
    else .command code name message
  | f, _ => f

def isNotFound : Failure → Bool
  | .cursorNotFound .. => true
  | _ => false

/-- A failed request closes the cursor. The server's cursor is forgotten if the server does not
know it; a dead connection is remembered. -/
def fail (c : Cursor) (f : Failure) : Cursor :=
  { c with
    remote := if isNotFound f then none else c.remote
    connectionBroken := c.connectionBroken || f.breaksConnection
    buffer := none
    phase := .closed }

def readNext : Except Failure Document → Except Failure BatchReply
  | .ok reply => BatchReply.ofDocument .next reply
  | .error f => .error f

/-- Settles a request. A cancelled one leaves the cursor as it was. -/
def settleFetch (c : Cursor) (result : Except Failure Document) :
    Cursor × Note × Except Failure Unit :=
  let c := { c with inFlight := false }
  match readNext result with
  | .ok r => (c.absorb r, c.absorbNote r, .ok ())
  | .error f =>
    if f.isCancellation then
      (c, debugNote ("getMore on " ++ c.ns.text ++ " cancelled by the caller"), .error f)
    else
      let f := c.named f
      (c.fail f, debugNote ("getMore on " ++ c.ns.text ++ " failed, closing cursor: " ++ f.message),
        .error f)

/-! ### The end -/

def skippedNote (remote : RemoteCursor) : Note :=
  debugNote ("Skipping killCursors for cursor " ++ toString remote.id.toInt ++ " on " ++
    remote.address.text ++ ": connection presumed unusable")

/-- Lets go of the server's cursor, with the command that ends it. No command is sent on a dead
connection, nor on one that may still have a request under way. -/
def takeKill (c : Cursor) : Cursor × List Note × Option Command :=
  match c.remote with
  | none => (c, [], none)
  | some remote =>
    let forgotten := { c with remote := none }
    if c.connectionBroken || c.inFlight then (forgotten, [skippedNote remote], none)
    else (forgotten, [], some (.kill c.ns remote))

def close (c : Cursor) : Cursor :=
  { c with phase := .closed, buffer := none, remote := none, inFlight := false }

/-- Hands out the buffer. -/
def take (c : Cursor) : Cursor × Option (List Document) := ({ c with buffer := none }, c.buffer)

end Cursor

end ResultCursor
