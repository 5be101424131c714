import ResultCursor.Playback.Crowd

/-! Playing with a connection through a client library: commands over it, leases on it and on its
source, and a shared cursor that reads through it. -/

namespace ResultCursor.Playback

/-- A connection, which a cursor may have taken into use. -/
inductive Link where
  | bare (peer : Peer) (deadline : Deadline) (clock : Clock) (counts : Counts) (notes : List Note)
  | cursor (c : Crowd) (notes : List Note)

namespace Link

inductive Action where
  | command (c : Command)
  | show
  /-- Takes a lease on the connection and one on its source. -/
  | retain
  | release
  /-- Makes another connection and takes a lease on it. -/
  | again
  | open (reply : Document) (options : Options)
  | job (j : Job)

inductive Result where
  | played (r : Playback.Result)
  | texts (ts : List String)
  | counts (c : Counts)
  /-- The count of a new connection, before and after a lease is taken on it. -/
  | fresh (before after : Nat)

/-- How things stand after an action. -/
structure Record where
  result : Result
  phase : Option Phase
  counts : Counts

def counts : Link → Counts
  | bare _ _ _ counts _ => counts
  | cursor c _ => c.session.counts

def phase? : Link → Option Phase
  | bare .. => none
  | cursor c _ => some c.session.cursor.phase

def notedIn (events : List Event) : List Note :=
  events.filterMap fun
    | .noted n => some n
    | _ => none

/-- All notes so far. -/
def notes : Link → List Note
  | bare _ _ _ _ notes => notes
  | cursor c notes => notes ++ notedIn c.session.journal

def withCounts (l : Link) (counts : Counts) : Link :=
  match l with
  | bare peer deadline clock _ notes => .bare peer deadline clock counts notes
  | cursor c notes => .cursor (c.withSession { c.session with counts }) notes

def deadline : Link → Deadline
  | bare _ deadline _ _ _ => deadline
  | cursor c _ => c.session.deadline

def withDeadline (l : Link) (deadline : Deadline) : Link :=
  match l with
  | bare peer _ clock counts notes => .bare peer deadline clock counts notes
  | cursor c notes => .cursor (c.withSession { c.session with deadline }) notes

/-- A command over the connection, outside any cursor. -/
def command (l : Link) (command : Command) : Link × Result :=
  match l with
  | bare peer deadline clock counts notes =>
    let (now, clock) := clock.read
    let (peer, clock, o, more) := roundTrip peer clock command (deadline.allowance now)
    (.bare peer deadline clock counts (notes ++ more), .played (outcomeResult o))
  | cursor c notes =>
    let (now, clock) := c.clock.read
    let (peer, clock, o, more) :=
      roundTrip c.peer clock command (c.session.deadline.allowance now)
    let c := ({ c with peer } : Crowd).withClock clock
    (.cursor (c.withSession (c.session.noteAll more)) notes, .played (outcomeResult o))

def handleText (kind : String) (address : Address) (count : Int) : String :=
  kind ++ " \x7b address: " ++ address.inspect ++ ", refs: " ++ toString count ++ " \x7d"

/-- The two handles, and the addresses that they give. -/
def texts (l : Link) (address : Address) : List String :=
  [handleText "DriverConnection" address l.counts.connection,
    handleText "DriverConnectionSource" address l.counts.source, address.text, address.text]

/-- Leaves the cursor behind and keeps the connection. -/
def bareOf : Link → Link
  | cursor c notes =>
    .bare c.peer c.session.deadline c.clock c.session.counts (notes ++ notedIn c.session.journal)
  | l => l

def openCursor (l : Link) (address : Address) (reply : Document) (options : Options) :
    Link × Result :=
  match l.bareOf with
  | bare peer deadline clock counts notes =>
    match Shared.ofReply reply { address, options, deadline, clock, counts } with
    | .error f => (.bare peer deadline clock counts notes, .played (.answer (.failed f)))
    | .ok (shared, progress) =>
      match Crowd.settleDown patience { calls := { shared }, peer } progress with
      | (c, none) => (.cursor c notes, .played .nothing)
      | (c, some text) => ((cursor c notes).bareOf, .played (.crashed text))
  | l => (l, .played .nothing)

def job (l : Link) (j : Job) : Link × Result :=
  match l with
  | cursor c notes =>
    let (c, r) := c.perform j
    (.cursor c notes, .played r)
  | l => (l, .played .nothing)

def perform (l : Link) (address : Address) : Action → Link × Result
  | .command c => l.command c
  | .show => (l, .texts (l.texts address))
  | .retain =>
    let l := l.withCounts ((l.counts.change .connection 1).change .source 1)
    (l, .counts l.counts)
  | .release =>
    (l.withCounts ((l.counts.change .connection (-1)).change .source (-1)), .played .nothing)
  | .again => (l, .fresh 1 2)
  | .open reply options => l.openCursor address reply options
  | .job j => l.job j

/-- An action, under an override if one is given. -/
def performWithin (l : Link) (address : Address) (limit : Option Span) (a : Action) :
    Link × Result :=
  match limit with
  | none => l.perform address a
  | some limit =>
    let saved := l.deadline.override
    let (l, r) := (l.withDeadline (l.deadline.withOverride (some limit))).perform address a
    (l.withDeadline (l.deadline.withOverride saved), r)

def record (l : Link) (result : Result) : Record := ⟨result, l.phase?, l.counts⟩

def play (l : Link) (address : Address) : List (Option Span × Action) → Link × List Record
  | [] => (l, [])
  | (limit, a) :: rest =>
    let (l, r) := l.performWithin address limit a
    let (t, records) := l.play address rest
    (t, l.record r :: records)

/-- Closes the cursor, if there is one. -/
def close? (l : Link) : Option Link :=
  match l with
  | cursor .. => some (l.job (.routine .close)).1
  | bare .. => none

/-- The records of the actions, and the link with its cursor closed. -/
def run (gateway : Peer.Gateway) (deadline : Deadline) (clock : Clock)
    (actions : List (Option Span × Action)) : Link × List Record × Option Counts :=
  let (l, records) :=
    (bare (.gateway gateway) deadline clock ⟨1, 1⟩ []).play gateway.address actions
  match l.close? with
  | some closed => (closed, records, some closed.counts)
  | none => (l, records, none)

end Link

end ResultCursor.Playback
