import ResultCursor.Call
import ResultCursor.Signal

/-! A cursor whose calls block until the connection answers. Other threads can stop it through its
signal: an interrupt ends the call that it meets and loses no batch; a close request closes the
cursor at the next look at the signal. -/

namespace ResultCursor

structure Blocking where
  session : Session
  signal : Signal

namespace Blocking

def answered (b : Blocking) (a : Answer) : Blocking × Progress := (b, .answered a)

def failed (b : Blocking) (f : Failure) : Blocking × Progress := b.answered (.failed f)

def finish (b : Blocking) (call : Call) : Blocking × Progress :=
  let (session, a) := b.session.finish call
  { b with session }.answered a

/-! ### Closing -/

/-- Goes on with `after` once the clean-up has finished, or leaves it for later. -/
def afterCleanup (b : Blocking) (after : Aftermath)
    (go : Blocking → Blocking × Progress) : Blocking × Progress :=
  match b.session.beginRelease (some false) with
  | (session, .finished) => go { b with session }
  | (session, .killing sending saved) => ({ b with session }, .waiting sending (.kill saved after))

def finishClose (answer : Answer) (b : Blocking) : Blocking × Progress :=
  { b with session := b.session.finishClose }.answered answer

/-- Closes the cursor and gives the answer; a finished one stays as it is. -/
def closeWith (b : Blocking) (answer : Answer) : Blocking × Progress :=
  if b.session.isFinished then b.answered answer
  else b.afterCleanup (.closing answer) (finishClose answer)

def closedAnswer (call : Call) : Answer := .failed (.closed call.closure)

/-! ### Handing out batches -/

/-- A call that failed. A cancelled one uses up the interrupt and heeds a close request. -/
def failing (call : Call) (f : Failure) (b : Blocking) : Blocking × Progress :=
  if f.isCancellation then
    let b := { b with signal := b.signal.acknowledge }
    if b.signal.closeRequested then b.closeWith (closedAnswer call) else b.failed f
  else b.failed f

/-- A call whose request failed: the leases go back unless the cursor stayed active. -/
def failWith (b : Blocking) (call : Call) (f : Failure) : Blocking × Progress :=
  if b.session.cursor.phase = .active then failing call f b
  else b.afterCleanup (.failing call f) (failing call f)

def fetch (b : Blocking) (call : Call) : Blocking × Progress :=
  match b.session.beginFetch (some b.signal.shouldStop) with
  | (session, .ok sending) => ({ b with session }, .waiting sending (.batch call))
  | (session, .error f) =>
    match session.settleFetch (.error f) with
    | (session, .ok ()) => { b with session }.finish call
    | (session, .error f) => { b with session }.failWith call f

/-- Uses up an interrupt in place of the rest of the call. -/
def unlessInterrupted (b : Blocking) (go : Blocking → Blocking × Progress) :
    Blocking × Progress :=
  if b.signal.interrupted then
    { b with signal := b.signal.acknowledge }.failed (.cancelled .interrupted)
  else go b

/-- Looks for a batch, and asks the server for one if none is there and it may have more. -/
def proceed (b : Blocking) (call : Call) : Blocking × Progress :=
  if b.session.isSettled then b.finish call else b.unlessInterrupted fun b => b.fetch call

/-- A request went well. Only `tryNext` is content with an empty batch; a batch that comes with an
interrupt stays for the next call. -/
def fetched (call : Call) (b : Blocking) : Blocking × Progress :=
  if b.signal.closeRequested then b.closeWith (closedAnswer call)
  else if call = .tryNext then b.finish call
  else b.unlessInterrupted fun b => b.proceed call

def iterate (b : Blocking) (call : Call) : Blocking × Progress :=
  if b.signal.closeRequested then b.closeWith (closedAnswer call)
  else if b.session.cursor.isClosed then b.answered (closedAnswer call)
  else { b with session := b.session.beginCall }.proceed call

/-! ### Calls -/

def request (b : Blocking) : Request → Blocking × Progress
  | .iterate call => b.iterate call
  | .close => b.closeWith .done
  | .setBatchSize n => { b with session := b.session.setBatchSize n }.answered .done
  | .inspect => b.answered (.seen b.session.cursor.view)

def opened (b : Blocking) : Blocking × Progress := b.answered .done

/-- Opens a cursor. One that needs no more batches gives its leases back at once. -/
def openIn (w : World) (reply : Document) (address : Address) (options : Options) :
    World × Except Failure (Blocking × Progress) :=
  match Session.openIn w reply address options with
  | (w, .error f) => (w, .error f)
  | (_, .ok session) =>
    let b : Blocking := ⟨session, {}⟩
    let r := if session.cursor.phase = .exhausted then b.afterCleanup .opened opened else b.opened
    (r.1.session.world, .ok r)

def ofReply (reply : Document) (setting : Setting) : Except Failure (Blocking × Progress) :=
  (openIn setting.world reply setting.address setting.options).2

theorem ofReply_eq (reply : Document) (setting : Setting) :
    ofReply reply setting =
      match Session.ofReply reply setting with
      | .error f => .error f
      | .ok session =>
        let b : Blocking := ⟨session, {}⟩
        .ok (if session.cursor.phase = .exhausted then b.afterCleanup .opened opened
          else b.opened) := by
  unfold ofReply openIn Session.ofReply
  obtain ⟨w, opened⟩ := Session.openIn setting.world reply setting.address setting.options
  cases opened <;> rfl

def dropNote : Note := Cursor.debugNote "BatchCursor dropped without explicit close"

/-- The cursor goes out of use; one that was not closed is closed now. -/
def drop (b : Blocking) : Blocking × Progress :=
  if b.session.isFinished then b.answered .done
  else { b with session := b.session.note dropNote }.closeWith .done

def resumeAfter (b : Blocking) : Aftermath → Blocking × Progress
  | .opened => b.opened
  | .fetched call => fetched call b
  | .failing call f => failing call f b
  | .closing answer => finishClose answer b

/-- A batch was asked for and this is the result. -/
def settleBatch (b : Blocking) (call : Call) (result : Except Failure Document) :
    Blocking × Progress :=
  match (b.session.deliver result).settleFetch result with
  | (session, .error f) => { b with session }.failWith call f
  | (session, .ok ()) =>
    let b := { b with session }
    if session.cursor.phase = .active then fetched call b
    else b.afterCleanup (.fetched call) (fetched call)

def settle (b : Blocking) (result : Except Failure Document) : Wait → Blocking × Progress
  | .batch call => b.settleBatch call result
  | .kill saved after =>
    { b with session := (b.session.deliver result).settleKill saved result }.resumeAfter after

/-- The command broke off. A request for a batch stays unsettled; a clean-up gives the leases
back. A cursor that was still being opened is dropped. -/
def crash (b : Blocking) (text : String) : Wait → Blocking × Progress
  | .batch _ => (b, .crashed text)
  | .kill saved after =>
    let b := { b with session := b.session.breakKill saved }
    match after with
    | .opened => ({ b with session := (b.session.note dropNote).finishClose }, .crashed text)
    | _ => (b, .crashed text)

/-- Goes on with a call that was waiting. -/
def resume (b : Blocking) (wait : Wait) : Outcome → Blocking × Progress
  | .reply d => b.settle (.ok d) wait
  | .failure f => b.settle (.error f) wait
  | .crash text => b.crash text wait

end Blocking

end ResultCursor
