import ResultCursor.Blocking
import ResultCursor.Playback.Job

/-! Playing a blocking cursor against a peer. Each operation runs to its end before the next one
begins; while it waits the clock moves on to whatever comes first, the peer or another thread. -/

namespace ResultCursor.Playback

structure Solo where
  cursor : Blocking
  peer : Peer
  /-- What other threads are going to do to the signal, and when. -/
  timers : List (Instant × Peer.SignalAction) := []

namespace Solo

def clock (s : Solo) : Clock := s.cursor.session.clock

def withSession (s : Solo) (session : Session) : Solo :=
  { s with cursor := { s.cursor with session } }

def withClock (s : Solo) (clock : Clock) : Solo :=
  s.withSession { s.cursor.session with clock }

def withSignal (s : Solo) (signal : Signal) : Solo := { s with cursor := { s.cursor with signal } }

/-- Lets the threads act whose time has come. -/
def fireTimers (s : Solo) : Solo :=
  let due := s.timers.filter fun t => t.1 ≤ s.clock.now
  let signal := due.foldl (fun sig t => t.2.apply sig) s.cursor.signal
  { s.withSignal signal with timers := s.timers.filter fun t => s.clock.now < t.1 }

/-- The next time at which something happens. -/
def nextTime (s : Solo) (wake : Option Instant) : Instant :=
  (wake.toList ++ s.timers.map Prod.fst).min?.getD s.clock.now

/-- A clean-up has a signal of its own, which nobody else can reach. -/
def signalFor (s : Solo) : Wait → Signal
  | .batch _ => s.cursor.signal
  | .kill .. => {}

def keepSignal (s : Solo) (wait : Wait) (signal : Option Signal) : Solo :=
  match wait, signal with
  | .batch _, some signal => s.withSignal signal
  | _, _ => s

def moment (s : Solo) (wait : Wait) : Peer.Moment :=
  { now := s.clock.now, signal := some (s.signalFor wait) }

/-- Waits for the answer to a command that the peer is holding. -/
def await (wait : Wait) : Nat → Solo → Peer.Reaction Peer.Held → Solo × Outcome
  | _, s, .answers o notes => (s.withSession (s.cursor.session.noteAll notes), o)
  | 0, s, .holds _ _ => (s, .crash "")
  | fuel + 1, s, .holds h wake =>
    let s := (s.withClock (s.clock.advanceTo (s.nextTime wake))).fireTimers
    let (peer, r) := s.peer.poll h (s.moment wait)
    await wait fuel { s with peer } r

/-- Sends a command and waits for the outcome. -/
def exchange (s : Solo) (sending : Sending) (wait : Wait) : Solo × Outcome :=
  let (peer, signal, r) := s.peer.arrive sending.command sending.allowance (s.moment wait)
  await wait patience (({ s with peer } : Solo).keepSignal wait signal) r

/-- Runs a call to its end. -/
def complete : Nat → Solo → Progress → Solo × Except String Answer
  | _, s, .answered a => (s, .ok a)
  | _, s, .crashed text => (s, .error text)
  | 0, s, .waiting _ _ => (s, .error "")
  | fuel + 1, s, .waiting sending wait =>
    let (s, o) := s.exchange sending wait
    let (cursor, progress) := s.cursor.resume wait o
    complete fuel { s with cursor } progress

def call (s : Solo) (r : Request) : Solo × Except String Answer :=
  let (cursor, progress) := s.cursor.request r
  complete patience { s with cursor } progress

/-- Runs a routine to its end. -/
def routine (r : Routine) : Nat → Solo → List Answer → Solo × Result
  | 0, s, _ => (s, .nothing)
  | fuel + 1, s, history =>
    match r.next? history with
    | none => (s, r.result history none)
    | some request =>
      match s.call request with
      | (s, .ok a) => routine r fuel s (a :: history)
      | (s, .error text) => (s, r.crashResult text)

/-- Starts the deadline anew and says whether it is over already. -/
def restart (s : Solo) : Solo × Result :=
  let (now, clock) := s.clock.read
  let deadline := s.cursor.session.deadline.restart now
  let (now, clock) := clock.read
  (s.withSession { s.cursor.session with deadline, clock }, .flag (deadline.isExpired now))

def performCore (s : Solo) : Job → Solo × Result
  | .routine r => routine r patience s []
  | .restart => s.restart
  | .sleep time => ((s.withClock (s.clock.advance time)).fireTimers, .nothing)
  | .interrupt => (s.withSignal s.cursor.signal.interrupt, .nothing)
  | .requestClose => (s.withSignal s.cursor.signal.requestClose, .nothing)
  | .flags => (s, .signal s.cursor.signal)
  | .signalIn time a =>
    ({ s with timers := s.timers ++ [(s.clock.now + time.nanos, a)] }, .nothing)
  | .server j =>
    let (peer, clock, r) := j.perform s.peer s.cursor.session.deadline s.clock
    ({ s with peer }.withClock clock, r)
  | .within .. => (s, .nothing)

def perform (s : Solo) (job : Job) : Solo × Result :=
  let (limits, core) := job.flat
  match limits.getLast? with
  | none => s.performCore core
  | some innermost =>
    let saved := s.cursor.session.deadline.override
    let inside :=
      s.withSession
        { s.cursor.session with
          deadline := s.cursor.session.deadline.withOverride (some innermost) }
    let (s, r) := inside.performCore core
    (s.withSession (s.cursor.session.putBack saved), r)

/-! ### Whole playbacks -/

inductive Step where
  | job (label : String) (j : Job)
  /-- The cursor goes out of use. -/
  | drop (label : String)

def record (label : String) (before after : Solo) (r : Result) (alive : Bool) : Record :=
  recordOf label r (if alive then some after.cursor.session.cursor.view else none)
    before.cursor.session after.cursor.session before.peer after.peer

def dropNow (s : Solo) (label : String) : Record :=
  let (cursor, progress) := s.cursor.drop
  let (t, ended) := complete patience { s with cursor } progress
  let r := match ended with
    | .ok _ => .nothing
    | .error text => .crashed text
  s.record label t r false

/-- The records of the steps; a cursor that is left at the end is dropped. -/
def play (s : Solo) : List Step → List Record
  | [] => [s.dropNow "drop"]
  | .drop label :: _ => [s.dropNow label]
  | .job label j :: rest =>
    let (t, r) := s.perform j
    s.record label t r true :: t.play rest

/-- Opens a cursor and plays the steps. A failure to open it ends the playback. -/
def run (reply : Document) (setting : Setting) (peer : Peer) (steps : List Step) :
    Except Failure (List Record) :=
  match Blocking.ofReply reply setting with
  | .error f => .error f
  | .ok (cursor, progress) =>
    let (s, ended) := complete patience { cursor, peer } progress
    let new (r : Result) (alive : Bool) : Record :=
      let blank := { s with cursor := { s.cursor with session.journal := [] } }
      record "new" { blank with peer } s r alive
    match ended with
    | .ok _ => .ok (new .nothing true :: s.play steps)
    | .error text => .ok [new (.crashed text) false]

end Solo

end ResultCursor.Playback
