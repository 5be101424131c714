import ResultCursor.BatchReply
import ResultCursor.Peer.Basic

/-! A server in memory. Collections only grow; each cursor keeps its position in one of them. An
awaiting cursor holds a request while there is nothing new, until its time is up. Faults wait in
line for the requests to come. -/

namespace ResultCursor.Peer

inductive Fault where
  | network
  | timeout
  | timeoutDuringNetwork
  | notFound
  | command (code : Int32) (name : String)
  | delay (time : Span)
  deriving DecidableEq, Repr

structure OpenCursor where
  id : Int64
  ns : String
  position : Nat
  tailable : Bool
  awaitData : Bool
  deriving DecidableEq, Repr

structure LogEntry where
  connection : Nat
  command : Command
  allowance : Allowance

structure MemoryServer where
  collections : List (String × List Document) := []
  cursors : List OpenCursor := []
  /-- The number of cursors opened so far. -/
  opened : Nat := 0
  log : List LogEntry := []
  faults : List Fault := []
  killsFail : Bool := false
  violations : List String := []
  /-- The number of the connection that the commands come over. -/
  connection : Nat := 1
  /-- The number of commands under way on it. -/
  busy : Nat := 0

/-- A request for a batch that is being held. -/
inductive HeldRequest where
  | delayed (due : Instant) (command : Command)
  | awaiting (due : Instant) (command : Command)

namespace MemoryServer

def documents (s : MemoryServer) (ns : String) : List Document := (s.collections.lookup ns).getD []

def setDocuments (cs : List (String × List Document)) (ns : String) (ds : List Document) :
    List (String × List Document) :=
  if (cs.lookup ns).isSome then cs.map fun c => if c.1 = ns then (ns, ds) else c
  else cs ++ [(ns, ds)]

/-- Documents numbered from `start` on. -/
def numberedFrom (start n : Nat) : List Document :=
  (List.range n).map fun k => [("_id", .int64 (Int64.ofNat (start + k)))]

def insert (s : MemoryServer) (ns : String) (n : Nat) : MemoryServer :=
  let ds := s.documents ns
  { s with collections := setDocuments s.collections ns (ds ++ numberedFrom ds.length n) }

def cursor? (s : MemoryServer) (id : Int64) : Option OpenCursor :=
  s.cursors.find? fun c => c.id = id

def removeCursor (s : MemoryServer) (id : Int64) : MemoryServer :=
  { s with cursors := s.cursors.filter fun c => c.id != id }

def openCursors (s : MemoryServer) : Nat := s.cursors.length

/-! ### Queries -/

/-- The documents of a first batch when the query names no size. -/
def defaultFirstBatch : Nat := 101

structure Query where
  ns : String
  batchSize : Int32
  tailable : Bool
  awaitData : Bool
  deriving DecidableEq, Repr

def firstBatchSize (n : Int32) : Nat :=
  if n = 0 then defaultFirstBatch else n.toInt.natAbs

def replyBody (field : String) (id : Int64) (ns : String) (batch : List Document) : Document :=
  [("cursor", .document
      [("id", .int64 id), ("ns", .string ns), (field, .array (batch.map .document))]),
    ("ok", .int32 1)]

/-- Answers a query. A cursor stays open unless everything was sent or one batch was all that was
wanted; a tailable one always does. -/
def find (s : MemoryServer) (q : Query) : MemoryServer × Document :=
  let ds := s.documents q.ns
  let batch := ds.take (firstBatchSize q.batchSize)
  if !q.tailable && (ds.length ≤ batch.length || q.batchSize < 0) then
    (s, replyBody "firstBatch" 0 q.ns batch)
  else
    let id := Int64.ofNat (1000 + (s.opened + 1))
    let c : OpenCursor := ⟨id, q.ns, batch.length, q.tailable, q.awaitData⟩
    ({ s with opened := s.opened + 1, cursors := s.cursors ++ [c] },
      replyBody "firstBatch" id q.ns batch)

/-- How many cursors can be opened: their numbers count on from 1001, and are signed words of 64
bits. -/
def mostCursors : Nat := 0x7fffffffffffffff - 1000

/-- A query breaks the server if there is no number left for its cursor. -/
def find? (s : MemoryServer) (q : Query) : Option (MemoryServer × Document) :=
  let (t, reply) := s.find q
  if t.opened ≤ mostCursors then some (t, reply) else none

/-! ### Requests for the next batch -/

def notFound (id : Int64) : Failure :=
  .command Failure.notFoundCode "CursorNotFound"
    ("cursor id " ++ toString id.toInt ++ " not found")

def requestedSize (command : Command) (available : Nat) : Nat :=
  match (command.body.get? "batchSize").bind Bson.asInt32? with
  | some n => if 0 < n then n.toInt.toNat else available
  | none => available

def moveTo (s : MemoryServer) (id : Int64) (position : Nat) : MemoryServer :=
  { s with cursors := s.cursors.map fun c => if c.id = id then { c with position } else c }

/-- The next batch of a cursor, unless it is to wait for documents. A cursor that is not tailable
is gone once it has reached the end. -/
def nextBatch (s : MemoryServer) (command : Command) (giveUp : Bool) :
    MemoryServer × Except Failure (Option Document) :=
  match BatchReply.required command.body "getMore" Bson.asInt64? with
  | .error f => (s, .error f)
  | .ok id =>
    match s.cursor? id with
    | none => (s, .error (notFound id))
    | some c =>
      let ds := s.documents c.ns
      let available := ds.length - c.position
      if available = 0 && c.tailable && c.awaitData && !giveUp then (s, .ok none)
      else
        let n := min available (requestedSize command available)
        let batch := (ds.drop c.position).take n
        let atEnd := !c.tailable && ds.length ≤ c.position + n
        let s := if atEnd then s.removeCursor id else s.moveTo id (c.position + n)
        (s, .ok (some (replyBody "nextBatch" (if atEnd then 0 else id) c.ns batch)))

/-- How long a request waits for documents when it does not say. -/
def defaultAwait : Span := Span.ofMillis 1000

def awaitTime (s : MemoryServer) (command : Command) : Span :=
  match (command.body.get? "getMore").bind Bson.asInt64? with
  | none => .zero
  | some id =>
    match s.cursor? id with
    | none => .zero
    | some c =>
      if c.tailable && c.awaitData then
        match (command.body.get? "maxTimeMS").bind Bson.asInt64? with
        | some ms => .ofMillis ms.toUInt64.toNat
        | none => defaultAwait
      else .zero

def faultFailure (s : MemoryServer) (command : Command) : Fault → MemoryServer × Failure
  | .network => (s, .network "connection reset by peer" none)
  | .timeout => (s, .timeout (.stated "socket read timed out"))
  | .timeoutDuringNetwork =>
    (s, .timeoutDuring (.stated "socket read timed out")
      (.network "connection reset by peer" none))
  | .notFound =>
    let id := ((command.body.get? "getMore").bind Bson.asInt64?).getD 0
    (s.removeCursor id, notFound id)
  | .command code name => (s, .command code name "injected failure")
  | .delay _ => (s, .invalidArgument (.stated "delay is not an error"))

/-- The command leaves the connection with its answer. -/
def leave (s : MemoryServer) (o : Outcome) : MemoryServer × Reaction HeldRequest :=
  ({ s with busy := s.busy - 1 }, .answers o [])

/-- Answers a request, or holds it until its time is up. -/
def serve (s : MemoryServer) (due : Instant) (command : Command) (m : Moment) :
    MemoryServer × Reaction HeldRequest :=
  match s.nextBatch command (due ≤ m.now) with
  | (s, .error f) => s.leave (.failure f)
  | (s, .ok (some reply)) => s.leave (.reply reply)
  | (s, .ok none) =>
    if m.mustStop then s.leave waitInterrupted
    else (s, .holds (.awaiting due command) (some due))

/-- A request has no delay before it any more. -/
def beginServe (s : MemoryServer) (command : Command) (m : Moment) :
    MemoryServer × Reaction HeldRequest :=
  s.serve (m.now + (s.awaitTime command).nanos) command m

def poll (s : MemoryServer) (held : HeldRequest) (m : Moment) :
    MemoryServer × Reaction HeldRequest :=
  match held with
  | .delayed due command =>
    if due ≤ m.now then s.beginServe command m
    else if m.mustStop then s.leave waitInterrupted
    else (s, .holds held (some due))
  | .awaiting due command => s.serve due command m

def getMore (s : MemoryServer) (command : Command) (m : Moment) :
    MemoryServer × Reaction HeldRequest :=
  match s.faults with
  | [] => s.beginServe command m
  | .delay time :: rest => { s with faults := rest }.poll (.delayed (m.now + time.nanos) command) m
  | fault :: rest =>
    let (s, f) := { s with faults := rest }.faultFailure command fault
    s.leave (.failure f)

/-! ### Other commands -/

def killOne (s : MemoryServer) (killed missing : List Bson) (id : Int64) :
    MemoryServer × List Bson × List Bson :=
  if (s.cursor? id).isSome then (s.removeCursor id, killed ++ [.int64 id], missing)
  else (s, killed, missing ++ [.int64 id])

def killAll (s : MemoryServer) (killed missing : List Bson) :
    List Bson → MemoryServer × List Bson × List Bson
  | [] => (s, killed, missing)
  | .int64 id :: rest =>
    let (s, killed, missing) := s.killOne killed missing id
    s.killAll killed missing rest
  | _ :: rest => s.killAll killed missing rest

def killCursors (s : MemoryServer) (command : Command) : MemoryServer × Outcome :=
  if s.killsFail then (s, .failure (.network "connection closed during killCursors" none))
  else
    match BatchReply.required command.body "cursors" Bson.asArray? with
    | .error f => (s, .failure f)
    | .ok ids =>
      let (s, killed, missing) := s.killAll [] [] ids
      (s, .reply
        [("cursorsKilled", .array killed), ("cursorsNotFound", .array missing), ("ok", .int32 1)])

def unknownCommand (name : String) : Failure :=
  .command 59 "CommandNotFound" ("no such command: " ++ name)

/-- The time a command was given, as far as it was still to be had. -/
def loggedAllowance : Except Failure Allowance → Allowance
  | .ok a => a
  | .error _ => .unlimited

/-- The command comes over the connection, which may carry one at a time. -/
def enter (s : MemoryServer) (command : Command) (allowance : Except Failure Allowance) :
    MemoryServer :=
  { s with
    busy := s.busy + 1
    log := s.log ++ [⟨s.connection, command, loggedAllowance allowance⟩]
    violations :=
      if 0 < s.busy then s.violations ++ ["overlapping commands on one connection"]
      else s.violations }

def arrive (s : MemoryServer) (command : Command) (allowance : Except Failure Allowance)
    (m : Moment) : MemoryServer × Reaction HeldRequest :=
  let s := s.enter command allowance
  if command.name = "getMore" then s.getMore command m
  else if command.name = "killCursors" then
    let (s, o) := s.killCursors command
    s.leave o
  else s.leave (.failure (unknownCommand command.name))

/-- A held command is given up. -/
def abandon (s : MemoryServer) : MemoryServer := { s with busy := s.busy - 1 }

/-- A lease on the connection is given back, which must not happen during a command. -/
def released (s : MemoryServer) : MemoryServer :=
  if 0 < s.busy then
    { s with
      violations := s.violations ++ ["connection released while a command was in flight"] }
  else s

def commandsNamed (s : MemoryServer) (name : String) : Nat :=
  s.log.countP fun e => e.command.name = name

end MemoryServer

end ResultCursor.Peer
