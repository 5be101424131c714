import ResultCursor.Bson.Extended
import ResultCursor.Peer.Basic

/-! A peer that follows a script. Requests for batches and commands that end the cursor have a
list of answers each. Documents that the script only counts are numbered through; when the script
is used up, a server may go on with as many as are left. -/

namespace ResultCursor.Peer

inductive SignalAction where
  | interrupt
  | requestClose
  deriving DecidableEq, Repr

def SignalAction.apply (s : Signal) : SignalAction → Signal
  | interrupt => s.interrupt
  | requestClose => s.requestClose

inductive Documents where
  | numbered (n : Nat)
  | given (ds : List Bson)

inductive ScriptAnswer where
  | reply (d : Document)
  | batch (documents : Documents) (id : Int64) (ns : String)
  | failure (f : Failure)
  | crash (text : String)

structure ScriptStep where
  answer : ScriptAnswer
  /-- What happens to the signal while the command runs. -/
  during : List SignalAction := []
  /-- The command waits for data and can be stopped. -/
  waits : Bool := false
  /-- The answer waits for the barrier. -/
  barred : Bool := false

/-- Documents up to a total number, under a cursor id as long as some are left. -/
structure Serve where
  total : Nat
  id : Int64

structure Script where
  steps : List ScriptStep
  kills : List ScriptStep
  serve : Option Serve
  ns : String
  /-- How many documents have been numbered. -/
  numbered : Nat := 0

namespace Script

def numberedDocuments (start n : Nat) : List Bson :=
  (List.range n).map fun k => .document [("_id", .ofInt (start + k : Nat))]

def batchBody (field : String) (id : Int64) (ns : String) (batch : List Bson) : Document :=
  [("cursor", .document [("id", .int64 id), ("ns", .string ns), (field, .array batch)]),
    ("ok", .int32 1)]

/-- The documents of a batch; counted ones take the next numbers. -/
def documents (s : Script) : Documents → Script × List Bson
  | .numbered n => ({ s with numbered := s.numbered + n }, numberedDocuments s.numbered n)
  | .given ds => (s, ds)

def answer (s : Script) (field : String) : ScriptAnswer → Script × Outcome
  | .reply d => (s, .reply d)
  | .batch ds id ns =>
    let (s, batch) := s.documents ds
    (s, .reply (batchBody field id ns batch))
  | .failure f => (s, .failure f)
  | .crash text => (s, .crash text)

def positiveBatchSize? (command : Command) : Option Nat :=
  match (command.body.get? "batchSize").bind Bson.asInt32? with
  | some n => if 0 < n then some n.toInt.toNat else none
  | none => none

/-- Serves as many of the documents that are left as were asked for. -/
def serveMore (s : Script) (serve : Serve) (command : Command) : Script × Outcome :=
  let left := serve.total - s.numbered
  let n := ((positiveBatchSize? command).map (min left)).getD left
  let (t, batch) := s.documents (.numbered n)
  let id := if t.numbered < serve.total then serve.id else 0
  (t, .reply (batchBody "nextBatch" id s.ns batch))

/-- The answer to a command for which the script has no step. -/
def unscripted (s : Script) (command : Command) : Script × Outcome :=
  if command.name = "killCursors" then (s, .reply [("ok", .int32 1)])
  else
    match s.serve with
    | some serve => s.serveMore serve command
    | none => (s, .failure (.network "no scripted reply" none))

/-- Takes the next step of the script for the command. -/
def nextStep? (s : Script) (command : Command) : Script × Option ScriptStep :=
  if command.name = "killCursors" then ({ s with kills := s.kills.tail }, s.kills.head?)
  else ({ s with steps := s.steps.tail }, s.steps.head?)

/-- A command arrives. The signal comes back as the step leaves it. -/
def arrive (s : Script) (command : Command) (m : Moment) :
    Script × Option Signal × Reaction ScriptAnswer :=
  match s.nextStep? command with
  | (s, none) =>
    let (s, o) := s.unscripted command
    (s, m.signal, .answers o [])
  | (s, some step) =>
    let signal := m.signal.map fun sig => step.during.foldl SignalAction.apply sig
    if step.waits && { m with signal }.mustStop then (s, signal, .answers waitInterrupted [])
    else if step.barred && !m.barrierOpen then (s, signal, .holds step.answer none)
    else
      let (s, o) := s.answer "nextBatch" step.answer
      (s, signal, .answers o [])

def poll (s : Script) (held : ScriptAnswer) (m : Moment) : Script × Reaction ScriptAnswer :=
  if m.barrierOpen then
    let (s, o) := s.answer "nextBatch" held
    (s, .answers o [])
  else (s, .holds held none)

end Script

end ResultCursor.Peer
