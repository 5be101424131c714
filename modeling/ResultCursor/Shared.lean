import ResultCursor.Call

/-! A cursor that several handles share. Its calls run one at a time, and each can be given up
while it waits for the connection. Asking for a close stops all further requests for batches at
once, before the close has its turn. -/

namespace ResultCursor

structure Shared where
  session : Session
  closeRequested : Bool

namespace Shared

def answered (c : Shared) (a : Answer) : Shared × Progress := (c, .answered a)

def failed (c : Shared) (f : Failure) : Shared × Progress := c.answered (.failed f)

def finish (c : Shared) (call : Call) : Shared × Progress :=
  let (session, a) := c.session.finish call
  { c with session }.answered a

/-! ### Closing -/

/-- Goes on with `after` once the clean-up has finished, or leaves it for later. -/
def afterCleanup (c : Shared) (after : Aftermath)
    (go : Shared → Shared × Progress) : Shared × Progress :=
  match c.session.beginRelease none with
  | (session, .finished) => go { c with session }
  | (session, .killing sending saved) => ({ c with session }, .waiting sending (.kill saved after))

def finishClose (answer : Answer) (c : Shared) : Shared × Progress :=
  { c with session := c.session.finishClose }.answered answer

/-- Closes the cursor; a finished one stays as it is. -/
def close (c : Shared) : Shared × Progress :=
  if c.session.isFinished then c.answered .done
  else c.afterCleanup (.closing .done) (finishClose .done)

def requestClose (c : Shared) : Shared := { c with closeRequested := true }

/-! ### Handing out batches -/

def failing (f : Failure) (c : Shared) : Shared × Progress := c.failed f

/-- A call whose request failed: the leases go back unless the cursor stayed active. -/
def failWith (c : Shared) (call : Call) (f : Failure) : Shared × Progress :=
  if c.session.cursor.phase = .active then failing f c
  else c.afterCleanup (.failing call f) (failing f)

def fetch (c : Shared) (call : Call) : Shared × Progress :=
  match c.session.beginFetch none with
  | (session, .ok sending) => ({ c with session }, .waiting sending (.batch call))
  | (session, .error f) =>
    match session.settleFetch (.error f) with
    | (session, .ok ()) => { c with session }.finish call
    | (session, .error f) => { c with session }.failWith call f

/-- Looks for a batch, and asks the server for one if none is there and it may have more. -/
def proceed (c : Shared) (call : Call) : Shared × Progress :=
  if c.session.isSettled then c.finish call
  else if c.closeRequested then c.failed (.cancelled .closeRequested)
  else c.fetch call

/-- A request went well. Only `tryNext` is content with an empty batch. -/
def fetched (call : Call) (c : Shared) : Shared × Progress :=
  if call = .tryNext then c.finish call else c.proceed call

def iterate (c : Shared) (call : Call) : Shared × Progress :=
  if c.session.cursor.isClosed then c.failed (.closed call.closure)
  else { c with session := c.session.beginCall }.proceed call

/-! ### Calls -/

/-- A call whose turn has come. -/
def request (c : Shared) : Request → Shared × Progress
  | .iterate call => c.iterate call
  | .close => c.close
  | .setBatchSize n => { c with session := c.session.setBatchSize n }.answered .done
  | .inspect => c.answered (.seen c.session.cursor.view)

def opened (c : Shared) : Shared × Progress := c.answered .done

/-- Opens a cursor. One that needs no more batches gives its leases back at once. -/
def openIn (w : World) (reply : Document) (address : Address) (options : Options) :
    World × Except Failure (Shared × Progress) :=
  match Session.openIn w reply address options with
  | (w, .error f) => (w, .error f)
  | (_, .ok session) =>
    let c : Shared := ⟨session, false⟩
    let r := if session.cursor.phase = .exhausted then c.afterCleanup .opened opened else c.opened
    (r.1.session.world, .ok r)

def ofReply (reply : Document) (setting : Setting) : Except Failure (Shared × Progress) :=
  (openIn setting.world reply setting.address setting.options).2

theorem ofReply_eq (reply : Document) (setting : Setting) :
    ofReply reply setting =
      match Session.ofReply reply setting with
      | .error f => .error f
      | .ok session =>
        let c : Shared := ⟨session, false⟩
        .ok (if session.cursor.phase = .exhausted then c.afterCleanup .opened opened
          else c.opened) := by
  unfold ofReply openIn Session.ofReply
  obtain ⟨w, opened⟩ := Session.openIn setting.world reply setting.address setting.options
  cases opened <;> rfl

def resumeAfter (c : Shared) : Aftermath → Shared × Progress
  | .opened => c.opened
  | .fetched call => fetched call c
  | .failing _ f => failing f c
  | .closing answer => finishClose answer c

/-- A batch was asked for and this is the result. -/
def settleBatch (c : Shared) (call : Call) (result : Except Failure Document) : Shared × Progress :=
  match (c.session.deliver result).settleFetch result with
  | (session, .error f) => { c with session }.failWith call f
  | (session, .ok ()) =>
    let c := { c with session }
    if session.cursor.phase = .active then fetched call c
    else c.afterCleanup (.fetched call) (fetched call)

def settle (c : Shared) (result : Except Failure Document) : Wait → Shared × Progress
  | .batch call => c.settleBatch call result
  | .kill saved after =>
    { c with session := (c.session.deliver result).settleKill saved result }.resumeAfter after

/-! ### Dropping -/

/-- What becomes of a cursor when its last handle goes. -/
inductive Leftover where
  | finished
  /-- A task of its own cleans up, now or never. -/
  | task (kill : Option Command)

def dropNote : Note := Cursor.debugNote "AsyncBatchCursor dropped without explicit close"

def noTaskNote (ns : Namespace) : Note :=
  Cursor.debugNote
    ("No runtime available to kill cursor on " ++ ns.text ++ ", releasing resources only")

/-- The last handle goes. Where tasks can run, one is left to clean up; otherwise the leases are
given back and no command is sent. -/
def drop (c : Shared) (tasksRun : Bool) : Shared × Leftover :=
  if c.session.isFinished then (c, .finished)
  else
    let (session, kill) := (c.session.note dropNote).takeKill
    let session := session.close
    if !session.leased then ({ c with session }, .finished)
    else if tasksRun then ({ c with session }, .task kill)
    else ({ c with session := (session.note (noTaskNote session.cursor.ns)).giveBack }, .finished)

/-- Runs the task that was left to clean up. -/
def cleanUp (c : Shared) (kill : Option Command) : Shared × Progress :=
  match c.session.cleanUp kill none with
  | (session, .finished) => { c with session }.answered .done
  | (session, .killing sending saved) =>
    ({ c with session }, .waiting sending (.kill saved .opened))

/-- The task that was left to clean up never runs. -/
def discard (c : Shared) : Shared := { c with session := c.session.giveBackOnDrop }

/-! ### Interrupted calls -/

/-- A call is given up while it waits: a request for a batch stays unsettled, a clean-up gives the
leases back. -/
def abandon (c : Shared) : Wait → Shared
  | .batch _ => c
  | .kill saved _ => { c with session := c.session.breakKill saved }

/-- The command broke off. A cursor that was still being opened is dropped. -/
def crash (c : Shared) (text : String) (wait : Wait) : Shared × Progress :=
  let c := c.abandon wait
  match wait with
  | .kill _ .opened => ((c.drop true).1, .crashed text)
  | _ => (c, .crashed text)

/-- Goes on with a call that was waiting. -/
def resume (c : Shared) (wait : Wait) : Outcome → Shared × Progress
  | .reply d => c.settle (.ok d) wait
  | .failure f => c.settle (.error f) wait
  | .crash text => c.crash text wait

end Shared

end ResultCursor
