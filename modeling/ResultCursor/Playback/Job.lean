import ResultCursor.Peer
import ResultCursor.Playback.Routine

/-! The operations of a playback, and the record that each of them leaves. -/

namespace ResultCursor.Playback

/-- Changes at the server in memory, and questions to it. -/
inductive ServerJob where
  | insert (ns : String) (n : Nat)
  | failKills
  | find (q : Peer.MemoryServer.Query)
  | count (name : String)
  | fault (f : Peer.Fault)
  /-- A command over the cursor's connection, outside the cursor. -/
  | command (c : Command)
  /-- Commands over one connection at the same time. -/
  | overlap (cs : List Command)

/-- One operation, as far as it can stand by itself. -/
inductive Job where
  | routine (r : Routine)
  | restart
  | sleep (time : Span)
  | interrupt
  | requestClose
  | flags
  /-- Another thread uses the signal after some time. -/
  | signalIn (time : Span) (a : Peer.SignalAction)
  | server (j : ServerJob)
  /-- Another operation under an override. -/
  | within (limit : Span) (inner : Job)

/-- The operation inside all overrides, and these from the outside in. -/
def Job.flat : Job → List Span × Job
  | within limit inner =>
    let (limits, core) := inner.flat
    (limit :: limits, core)
  | job => ([], job)

/-- How things stand after an operation. -/
structure Record where
  label : String
  result : Result
  view : Option View
  counts : Counts
  override : Option Span
  /-- What happened during the operation. -/
  events : List Event
  /-- What the server in memory saw during it. -/
  logged : List Peer.LogEntry
  openCursors : Nat
  violations : List String

/-- The record of an operation between two states of affairs. -/
def recordOf (label : String) (result : Result) (view : Option View) (before after : Session)
    (peerBefore peerAfter : Peer) : Record where
  label := label
  result := result
  view := view
  counts := after.counts
  override := after.deadline.override
  events := after.journal.drop before.journal.length
  logged :=
    match peerBefore, peerAfter with
    | .memory s, .memory t => t.log.drop s.log.length
    | _, _ => []
  openCursors := (peerAfter.memory?.map (·.openCursors)).getD 0
  violations := (peerAfter.memory?.map (·.violations)).getD []

/-- The number of steps after which a playback gives up. -/
def patience : Nat := 1000000

/-! ### Commands outside the cursor -/

/-- Waits for the answer to a command that is being held. -/
def awaitReaction :
    Nat → Peer → Clock → Peer.Reaction Peer.Held → Peer × Clock × Outcome × List Note
  | _, p, clock, .answers o notes => (p, clock, o, notes)
  | 0, p, clock, .holds _ _ => (p, clock, .crash "", [])
  | fuel + 1, p, clock, .holds h wake =>
    let clock := clock.advanceTo (wake.getD clock.now)
    let (p, r) := p.poll h { now := clock.now }
    awaitReaction fuel p clock r

/-- Sends a command with its allowance and waits for the answer. -/
def roundTrip (p : Peer) (clock : Clock) (command : Command)
    (allowance : Except Failure Allowance) : Peer × Clock × Outcome × List Note :=
  let (p, _, r) := p.arrive command allowance { now := clock.now }
  awaitReaction patience p clock r

/-- Commands that arrive one after the other without waiting for answers. -/
def arriveAll (p : Peer) (deadline : Deadline) (clock : Clock) :
    List Command → Peer × Clock × List (Peer.Reaction Peer.Held)
  | [] => (p, clock, [])
  | c :: rest =>
    let (now, clock) := clock.read
    let (p, _, r) := p.arrive c (deadline.allowance now) { now := clock.now }
    let (p, clock, rs) := arriveAll p deadline clock rest
    (p, clock, r :: rs)

def awaitAll (p : Peer) (clock : Clock) :
    List (Peer.Reaction Peer.Held) → Peer × Clock × List Outcome
  | [] => (p, clock, [])
  | r :: rest =>
    let (p, clock, o, _) := awaitReaction patience p clock r
    let (p, clock, os) := awaitAll p clock rest
    (p, clock, o :: os)

/-- Overlapping commands. While they wait, a lease on the connection is taken and given back. -/
def overlap (p : Peer) (deadline : Deadline) (clock : Clock) (cs : List Command) :
    Peer × Clock × List Outcome :=
  let (p, clock, rs) := arriveAll p deadline clock cs
  awaitAll (p.overMemory Peer.MemoryServer.released) clock rs

def outcomeResult : Outcome → Result
  | .reply d => .reply d
  | .failure f => .answer (.failed f)
  | .crash text => .crashed text

/-- Does something at the server in memory. -/
def ServerJob.perform (j : ServerJob) (p : Peer) (deadline : Deadline) (clock : Clock) :
    Peer × Clock × Result :=
  match j with
  | insert ns n => (p.overMemory fun s => s.insert ns n, clock, .nothing)
  | failKills => (p.overMemory fun s => { s with killsFail := true }, clock, .nothing)
  | fault f => (p.overMemory fun s => { s with faults := s.faults ++ [f] }, clock, .nothing)
  | count name => (p, clock, .count ((p.memory?.map fun s => s.commandsNamed name).getD 0))
  | find q =>
    match p with
    | .memory s =>
      match s.find? q with
      | some (s, d) => (.memory s, clock, .reply d)
      | none => (.memory s, clock, .crashed "attempt to add with overflow")
    | p => (p, clock, .nothing)
  | command c =>
    let (now, clock) := clock.read
    let (p, clock, o, _) := roundTrip p clock c (deadline.allowance now)
    (p, clock, outcomeResult o)
  | overlap cs =>
    let (p, clock, os) := Playback.overlap p deadline clock cs
    (p, clock, .outcomes os)

end ResultCursor.Playback
