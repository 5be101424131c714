import ResultCursor.Playback.Job
import ResultCursor.Shared.Calls

/-! Playing a shared cursor against a peer. Operations are polled: each runs as far as it can and
stops where it waits for its turn or for the peer. Operations side by side are polled in order,
round after round; when a whole round brings nothing the clock moves on to the next time that a
peer has named. -/

namespace ResultCursor.Playback

structure Crowd where
  calls : Calls
  peer : Peer
  barrierOpen : Bool := true

/-- Where the current call of an operation has stopped. -/
inductive Place where
  | idle
  | inLine (i : Nat)
  | sending (i : Nat) (s : Sending)
  | held (i : Nat) (h : Peer.Held) (wake : Option Instant)
  | settled (i : Nat) (o : Outcome)

/-- An operation on its way. -/
structure Running where
  limits : List Span
  job : Job
  /-- The override to be put back, once the operation has put its own in place. -/
  saved : Option (Option Span) := none
  begun : Bool := false
  history : List Answer := []
  place : Place := .idle
  result : Option Result := none

def Running.ofJob (job : Job) : Running :=
  let (limits, job) := job.flat
  { limits, job }

namespace Crowd

def session (c : Crowd) : Session := c.calls.shared.session

def withSession (c : Crowd) (session : Session) : Crowd :=
  { c with calls := { c.calls with shared := { c.calls.shared with session } } }

def clock (c : Crowd) : Clock := c.session.clock

def withClock (c : Crowd) (clock : Clock) : Crowd := c.withSession { c.session with clock }

def moment (c : Crowd) : Peer.Moment := { now := c.clock.now, barrierOpen := c.barrierOpen }

/-- Ends an operation: its override goes and the one before it comes back. -/
def conclude (c : Crowd) (r : Running) (result : Result) : Crowd × Running :=
  let c := match r.saved with
    | some saved => c.withSession (c.session.putBack saved)
    | none => c
  (c, { r with result := some result, place := .idle, saved := none })

/-- Takes note of how far a call came. -/
def follow (c : Crowd) (r : Running) (i : Nat) : Calls.Status → Crowd × Running
  | .answered a => (c, { r with history := a :: r.history, place := .idle })
  | .inLine => (c, { r with place := .inLine i })
  | .waiting s => (c, { r with place := .sending i s })
  | .crashed text =>
    let result := match r.job with
      | .routine routine => routine.crashResult text
      | _ => .crashed text
    c.conclude r result

def react (c : Crowd) (r : Running) (i : Nat) : Peer.Reaction Peer.Held → Crowd × Running
  | .answers o notes => (c.withSession (c.session.noteAll notes), { r with place := .settled i o })
  | .holds h wake => (c, { r with place := .held i h wake })

def restart (c : Crowd) : Crowd × Result :=
  let (now, clock) := c.clock.read
  let deadline := c.session.deadline.restart now
  let (now, clock) := clock.read
  (c.withSession { c.session with deadline, clock }, .flag (deadline.isExpired now))

/-- Does what needs no call. -/
def performPlain (c : Crowd) : Job → Crowd × Result
  | .restart => c.restart
  | .sleep time => (c.withClock (c.clock.advance time), .nothing)
  | .server j =>
    let (peer, clock, r) := j.perform c.peer c.session.deadline c.clock
    ({ c with peer }.withClock clock, r)
  | _ => (c, .nothing)

/-- Makes the next call of an operation, or ends it. -/
def nextCall (c : Crowd) (r : Running) : Crowd × Running :=
  match r.job with
  | .routine routine =>
    match routine.next? r.history with
    | none => c.conclude r (routine.result r.history (some c.calls.shared.closeRequested))
    | some request =>
      let (calls, i, status) := c.calls.start request
      { c with calls }.follow r i status
  | job =>
    let (c, result) := c.performPlain job
    c.conclude r result

/-- Puts the overrides of an operation in place, the innermost of which counts. -/
def enter (c : Crowd) (r : Running) : Crowd × Running :=
  match r.limits.getLast? with
  | none => (c, { r with begun := true })
  | some innermost =>
    let session := c.session
    (c.withSession { session with deadline := session.deadline.withOverride (some innermost) },
      { r with begun := true, saved := some session.deadline.override })

/-- One step of an operation, and whether it brought anything. -/
def step (c : Crowd) (r : Running) : Crowd × Running × Bool :=
  match r.place with
  | .idle =>
    let (c, r) := c.nextCall r
    (c, r, true)
  | .inLine i =>
    if c.calls.turns.isTurnOf i then
      let (calls, status) := c.calls.turn i
      let (c, r) := { c with calls }.follow r i status
      (c, r, true)
    else (c, r, false)
  | .sending i s =>
    let (peer, _, reaction) := c.peer.arrive s.command s.allowance c.moment
    let (c, r) := { c with peer }.react r i reaction
    (c, r, true)
  | .held i h _ =>
    let (peer, reaction) := c.peer.poll h c.moment
    let (c, r) := { c with peer }.react r i reaction
    match r.place with
    | .held .. => (c, r, false)
    | _ => (c, r, true)
  | .settled i o =>
    let (calls, status) := c.calls.deliver i o
    let (c, r) := { c with calls }.follow r i status
    (c, r, true)

/-- Runs an operation until it ends or stops, and says whether that brought anything. -/
def advance : Nat → Crowd → Running → Bool → Crowd × Running × Bool
  | 0, c, r, moved => (c, r, moved)
  | fuel + 1, c, r, moved =>
    if r.result.isSome then (c, r, moved)
    else
      match c.step r with
      | (c, r, true) => advance fuel c r true
      | (c, r, false) => (c, r, moved)

def poll (c : Crowd) (r : Running) : Crowd × Running × Bool :=
  let (c, r) := if r.begun then (c, r) else c.enter r
  advance patience c r false

/-- Gives an operation up. -/
def abandon (c : Crowd) (r : Running) : Crowd :=
  let c := match r.place with
    | .inLine i => { c with calls := c.calls.abandon i }
    | .held i _ _ => { c with calls := c.calls.abandon i, peer := c.peer.abandon }
    | _ => c
  (c.conclude r .abandoned).1

/-! ### Operations side by side -/

structure Group where
  crowd : Crowd
  members : List Running
  /-- The members that have ended, in the order in which they did. -/
  ended : List Nat := []

/-- Polls the members in order, the first of which has the number `i`. -/
def pollMembers (i : Nat) (c : Crowd) : List Running → Crowd × List Running × List Nat × Bool
  | [] => (c, [], [], false)
  | r :: rest =>
    if r.result.isSome then
      let (c, rs, ended, moved) := pollMembers (i + 1) c rest
      (c, r :: rs, ended, moved)
    else
      let (c, r, here) := c.poll r
      let (c, rs, ended, moved) := pollMembers (i + 1) c rest
      (c, r :: rs, if r.result.isSome then i :: ended else ended, here || moved)

/-- One round, and whether it brought anything. -/
def Group.round (g : Group) : Group × Bool :=
  let (crowd, members, ended, moved) := pollMembers 0 g.crowd g.members
  ({ crowd, members, ended := g.ended ++ ended }, moved)

def Running.wake? (r : Running) : Option Instant :=
  match r.place with
  | .held _ _ wake => wake
  | _ => none

/-- Moves the clock on to the next time that a peer has named. -/
def Group.wait (g : Group) : Option Group :=
  (g.members.filterMap Running.wake?).min?.map fun t =>
    { g with crowd := g.crowd.withClock (g.crowd.clock.advanceTo t) }

/-- Rounds until all members have ended. -/
def Group.finish : Nat → Group → Group
  | 0, g => g
  | fuel + 1, g =>
    if g.members.all fun r => r.result.isSome then g
    else
      match g.round with
      | (g, true) => finish fuel g
      | (g, false) =>
        match g.wait with
        | some g => finish fuel g
        | none => g

def resultOf (r : Running) : Result := r.result.getD .nothing

/-- Starts the operations while the barrier is shut, then opens it and lets them all end. -/
def together (c : Crowd) (jobs : List Job) : Crowd × Result :=
  let start : Group := { crowd := { c with barrierOpen := false }, members := jobs.map .ofJob }
  let (g, _) := start.round
  let g := Group.finish patience { g with crowd := { g.crowd with barrierOpen := true } }
  (g.crowd, .together (g.members.map resultOf) g.ended)

/-- One operation alone, to its end. -/
def perform (c : Crowd) (job : Job) : Crowd × Result :=
  let g := Group.finish patience { crowd := c, members := [.ofJob job] }
  (g.crowd, (g.members.head?.map resultOf).getD .nothing)

/-- Polls an operation once while the barrier is shut and then gives it up, unless it has ended. -/
def tryOnce (c : Crowd) (job : Job) : Crowd × Result :=
  let (c, r, _) := { c with barrierOpen := false }.poll (.ofJob job)
  match r.result with
  | some result => ({ c with barrierOpen := true }, .finished result)
  | none => ({ c.abandon r with barrierOpen := true }, .abandoned)

/-! ### Whole playbacks -/

/-- How the handle of a cursor goes. -/
inductive Manner where
  /-- Tasks run, and do so until all have ended. -/
  | inside
  /-- No task can be started. -/
  | outside
  /-- Tasks can be started, but none of them runs any more. -/
  | shutdown
  deriving DecidableEq, Repr

inductive Move where
  | job (j : Job)
  | together (js : List Job)
  | tryOnce (j : Job)
  | clone
  | drop (manner : Manner)

structure Step where
  label : String
  handle : Nat
  move : Move

def withShared (c : Crowd) (shared : Shared) : Crowd :=
  { c with calls := { c.calls with shared } }

/-- Runs to its end what is no call of its own, the opening or the clean-up; the text is that of a
crash. -/
def settleDown : Nat → Crowd → Progress → Crowd × Option String
  | _, c, .answered _ => (c, none)
  | _, c, .crashed text => (c, some text)
  | 0, c, .waiting _ _ => (c, some "")
  | fuel + 1, c, .waiting sending wait =>
    let (peer, _, reaction) := c.peer.arrive sending.command sending.allowance c.moment
    let (peer, clock, o, notes) := awaitReaction patience peer c.clock reaction
    let c := ({ c with peer } : Crowd).withClock clock
    let c := c.withSession (c.session.noteAll notes)
    let (shared, progress) := c.calls.shared.resume wait o
    settleDown fuel (c.withShared shared) progress

/-- The last handle goes, and the task that it leaves behind runs. -/
def dropInside (c : Crowd) : Crowd :=
  match c.calls.shared.drop true with
  | (shared, .finished) => c.withShared shared
  | (shared, .task kill) =>
    let (shared, progress) := shared.cleanUp kill
    (settleDown patience (c.withShared shared) progress).1

def dropOutside (c : Crowd) : Crowd := c.withShared (c.calls.shared.drop false).1

/-- A playback with the handles that are left. -/
structure Handles where
  crowd : Crowd
  alive : List Bool

namespace Handles

def isAlive (h : Handles) (i : Nat) : Bool := (h.alive[i]?).getD false

def anyAlive (h : Handles) : Bool := h.alive.any id

def record (label : String) (before after : Handles) (r : Result) : Record :=
  recordOf label r
    (if after.anyAlive then some after.crowd.session.cursor.view else none)
    before.crowd.session after.crowd.session before.crowd.peer after.crowd.peer

/-- A handle goes; only the last one has any effect. -/
def dropHandle (h : Handles) (i : Nat) (f : Crowd → Crowd) : Handles :=
  let left := { h with alive := h.alive.set i false }
  if left.anyAlive then left else { left with crowd := f left.crowd }

def dropAll (h : Handles) : Handles :=
  { crowd := h.crowd.dropInside, alive := h.alive.map fun _ => false }

/-- The task of the last handle is started but does not run. -/
def dropUnrun (h : Handles) (i : Nat) : Handles × Bool :=
  let left := { h with alive := h.alive.set i false }
  if left.anyAlive then (left, false)
  else
    match left.crowd.calls.shared.drop true with
    | (shared, .finished) => ({ left with crowd := left.crowd.withShared shared }, false)
    | (shared, .task _) => ({ left with crowd := left.crowd.withShared shared }, true)

/-- The end of everything: a task that has not run gives the leases back. -/
def shutdown (h : Handles) (pending : Bool) : Handles :=
  let crowd :=
    if pending then h.crowd.withShared h.crowd.calls.shared.discard else h.crowd
  { crowd, alive := h.alive.map fun _ => false }

def shutdownRecords (h : Handles) (i : Nat) (label : String) : List Record :=
  let (left, pending) := h.dropUnrun i
  let ended := left.shutdown pending
  [record label h left .nothing, record "shutdown" left ended .nothing]

/-- A move that leaves the handles in use. -/
def perform (h : Handles) (i : Nat) : Move → Handles × Result
  | .job j =>
    let (crowd, r) := h.crowd.perform j
    ({ h with crowd }, r)
  | .together js =>
    let (crowd, r) := h.crowd.together js
    ({ h with crowd }, r)
  | .tryOnce j =>
    let (crowd, r) := h.crowd.tryOnce j
    ({ h with crowd }, r)
  | .clone => ({ h with alive := h.alive ++ [true] }, .count (h.alive.length + 1))
  | .drop .outside => (h.dropHandle i dropOutside, .nothing)
  | .drop _ => (h.dropHandle i dropInside, .nothing)

def finish (h : Handles) : List Record :=
  if h.anyAlive then [record "drop" h h.dropAll .nothing] else []

/-- The records of the steps. A step on a handle that is gone ends the list. -/
def play (h : Handles) : List Step → List Record
  | [] => h.finish
  | s :: rest =>
    if !h.isAlive s.handle then h.finish
    else
      match s.move with
      | .drop .shutdown => h.shutdownRecords s.handle s.label
      | move =>
        let (t, r) := h.perform s.handle move
        record s.label h t r :: t.play rest

end Handles

/-- Opens a cursor and plays the steps. A failure to open it ends the playback. -/
def run (reply : Document) (setting : Setting) (peer : Peer) (steps : List Step) :
    Except Failure (List Record) :=
  match Shared.ofReply reply setting with
  | .error f => .error f
  | .ok (shared, progress) =>
    let opened := settleDown patience { calls := { shared }, peer } progress
    let h : Handles := ⟨opened.1, [true]⟩
    let blank : Handles :=
      ⟨{ opened.1.withSession { opened.1.session with journal := [] } with peer }, [true]⟩
    match opened.2 with
    | none => .ok (Handles.record "new" blank h .nothing :: h.play steps)
    | some text =>
      .ok [Handles.record "new" blank { h with alive := [] } (.crashed text)]

end Crowd

end ResultCursor.Playback
