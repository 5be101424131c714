import ResultCursor.Cursor

/-! A cursor with what it holds and uses: its leases, the deadline and the clock. Each step that
touches the world is written down in the journal. Blocking and shared cursors are built from the
same steps and differ in what they do between them. -/

namespace ResultCursor

structure Session where
  cursor : Cursor
  /-- Both resources are leased. -/
  leased : Bool
  deadline : Deadline
  clock : Clock
  counts : Counts
  journal : List Event

/-- The surroundings of a new cursor. -/
structure Setting where
  address : Address
  options : Options
  deadline : Deadline
  clock : Clock
  counts : Counts

/-- What a cursor shares with others, and what was done there so far. -/
structure World where
  deadline : Deadline
  clock : Clock
  counts : Counts
  journal : List Event

def Setting.world (s : Setting) : World := ⟨s.deadline, s.clock, s.counts, []⟩

namespace Session

def world (s : Session) : World := ⟨s.deadline, s.clock, s.counts, s.journal⟩

def record (s : Session) (e : Event) : Session := { s with journal := s.journal ++ [e] }

def note (s : Session) (n : Note) : Session := s.record (.noted n)

def noteAll (s : Session) (notes : List Note) : Session := notes.foldl note s

def retain (s : Session) (r : Resource) : Session :=
  { s.record (.retained r) with counts := s.counts.change r 1 }

def release (s : Session) (r : Resource) : Session :=
  { s.record (.released r) with counts := s.counts.change r (-1) }

/-- Leases the connection, then its source. -/
def acquire (s : Session) : Session :=
  { (s.retain .connection).retain .source with leased := true }

/-- Gives both leases back in the order in which they were taken. -/
def giveBack (s : Session) : Session :=
  if s.leased then { (s.release .connection).release .source with leased := false } else s

/-- Gives the leases back when nobody is left to do it in the regular way. -/
def giveBackOnDrop (s : Session) : Session :=
  if s.leased then (s.note (Cursor.debugNote "Releasing cursor resources on drop")).giveBack
  else s

/-- Hands a command to the connection, which looks at the clock for the time it may take. -/
def send (s : Session) (command : Command) (stop : Option Bool) : Session × Sending :=
  let (now, clock) := s.clock.read
  let sending : Sending := ⟨command, s.deadline.allowance now, s.counts, stop⟩
  ({ s with clock }.record (.sent sending), sending)

/-- Starts the deadline anew if it is to span single calls. -/
def beginCall (s : Session) : Session :=
  match s.cursor.options.mode with
  | .lifetime => s
  | .iteration =>
    let (now, clock) := s.clock.read
    { s with clock, deadline := s.deadline.restart now }

/-- A session without leases. -/
def inWorld (w : World) (cursor : Cursor) : Session :=
  { cursor, leased := false, deadline := w.deadline, clock := w.clock, counts := w.counts,
    journal := w.journal }

/-- Opens a session with a first reply, and leaves the world as it then is. Leases are taken only
if the server holds a cursor. -/
def openIn (w : World) (reply : Document) (address : Address) (options : Options) :
    World × Except Failure Session :=
  match Cursor.ofReply reply address options with
  | .error f => (w, .error f)
  | .ok (cursor, n) =>
    let s := (inWorld w cursor).note n
    let s := if cursor.remote.isSome then s.acquire else s
    (s.world, .ok s)

/-- The session of a first reply. -/
def ofReply (reply : Document) (setting : Setting) : Except Failure Session :=
  (openIn setting.world reply setting.address setting.options).2

theorem ofReply_eq (reply : Document) (setting : Setting) :
    ofReply reply setting =
      match Cursor.ofReply reply setting.address setting.options with
      | .error f => .error f
      | .ok (cursor, n) =>
        let s := (inWorld setting.world cursor).note n
        .ok (if cursor.remote.isSome then s.acquire else s) := by
  unfold ofReply openIn
  cases Cursor.ofReply reply setting.address setting.options <;> rfl

/-! ### Requests for the next batch -/

/-- Starts a request and sends it over the leased connection. -/
def beginFetch (s : Session) (stop : Option Bool) : Session × Except Failure Sending :=
  let (now, clock) := s.clock.read
  match s.cursor.beginFetch s.deadline now with
  | .error f => ({ s with clock }, .error f)
  | .ok (cursor, command) =>
    let s := { s with clock, cursor }
    if s.leased then
      let (s, sending) := s.send command stop
      (s, .ok sending)
    else (s, .error (.closed .cursor))

/-- Settles a request with its result, or with the failure that kept it from being sent. -/
def settleFetch (s : Session) (result : Except Failure Document) : Session × Except Failure Unit :=
  let (cursor, n, outcome) := s.cursor.settleFetch result
  ({ s with cursor }.note n, outcome)

/-! ### Cleaning up -/

/-- Whether a clean-up waits for the command that it has sent. -/
inductive Cleanup where
  | finished
  /-- The command is under way, under an override that replaced the saved one. -/
  | killing (sending : Sending) (saved : Option Span)

/-- Sends a command under the time limit for ending the server's cursor. -/
def sendKill (s : Session) (command : Command) (stop : Option Bool) : Session × Cleanup :=
  let saved := s.deadline.override
  let s := { s with deadline := s.deadline.withOverride (some s.cursor.options.killTimeout) }
  let (s, sending) := s.send command stop
  (s, .killing sending saved)

/-- Ends the server's cursor if the connection allows it and gives the leases back. -/
def cleanUp (s : Session) (kill : Option Command) (stop : Option Bool) : Session × Cleanup :=
  match kill with
  | some command => if s.leased then s.sendKill command stop else (s, .finished)
  | none => (s.giveBack, .finished)

/-- Lets go of the server's cursor. -/
def takeKill (s : Session) : Session × Option Command :=
  let (cursor, notes, kill) := s.cursor.takeKill
  ({ s with cursor }.noteAll notes, kill)

def beginRelease (s : Session) (stop : Option Bool) : Session × Cleanup :=
  let (s, kill) := s.takeKill
  s.cleanUp kill stop

def putBack (s : Session) (saved : Option Span) : Session :=
  { s with deadline := s.deadline.withOverride saved }

def killedNote (ns : Namespace) : Note := Cursor.debugNote ("Killed cursor on " ++ ns.text)

def killFailedNote (ns : Namespace) (f : Failure) : Note :=
  { level := .debug, text := "killCursors on " ++ ns.text ++ " failed",
    details := [("error", f.summary)] }

/-- Ends a clean-up with the answer to its command. A failure is noted and goes no further. -/
def settleKill (s : Session) (saved : Option Span) (result : Except Failure Document) : Session :=
  let ns := s.cursor.ns
  let n := match result with
    | .ok _ => killedNote ns
    | .error f => killFailedNote ns f
  ((s.putBack saved).note n).giveBack

/-- Ends a clean-up that broke off. -/
def breakKill (s : Session) (saved : Option Span) : Session := (s.putBack saved).giveBackOnDrop

/-- Nothing is left to clean up. -/
def isFinished (s : Session) : Bool := s.cursor.isClosed && !s.leased

def closedNote (ns : Namespace) : Note := { level := .info, text := "Closed cursor on " ++ ns.text }

def close (s : Session) : Session := { s with cursor := s.cursor.close }

/-- The end of an orderly close. -/
def finishClose (s : Session) : Session := s.close.note (closedNote s.cursor.ns)

def deliver (s : Session) (result : Except Failure Document) : Session :=
  s.record (.delivered result)

end Session

end ResultCursor
