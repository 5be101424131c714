import ResultCursor.Shared.Calls

/-! Where a cursor stands in the middle of a run: its session, what it is doing or waiting for,
and what happened before that the session does not show. Both kinds of cursors come to
situations. -/

namespace ResultCursor

/-- An answer that says that there are no more batches. -/
def Answer.isEnd : Answer → Bool
  | .more b => !b
  | .failed .noMoreElements => true
  | _ => false

def Answer.batch? : Answer → Option (List Document)
  | .batch ds => some ds
  | _ => none

def Aftermath.isClosing : Aftermath → Bool
  | .closing _ => true
  | _ => false

def Aftermath.isOpened : Aftermath → Bool
  | .opened => true
  | _ => false

def Progress.wait? : Progress → Option Wait
  | .waiting _ wait => some wait
  | _ => none

/-- What happened to a cursor so far. -/
structure History where
  /-- The replies that were taken over, each with the quota that it met. -/
  arrivals : List (Quota × BatchReply) := []
  answers : List Answer := []
  /-- The number of requests for a batch that were sent and never got a result. -/
  lost : Nat := 0
  /-- What was to follow the clean-ups that broke off. -/
  broken : List Aftermath := []
  /-- The cursor has gone out of use. -/
  ended : Bool := false

namespace History

/-- The history of a cursor that was just opened. -/
def ofReply (reply : Document) (setting : Setting) : History :=
  match BatchReply.ofDocument .first reply with
  | .ok first => { arrivals := [(setting.options.quota, first)] }
  | .error _ => {}

/-! ### What a history says -/

/-- The batches handed out, in order. -/
def handed (h : History) : List (List Document) := h.answers.filterMap Answer.batch?

/-- The documents taken over: those of each reply, up to what its quota still allowed. -/
def admitted (h : History) : List Document :=
  h.arrivals.flatMap fun a => a.1.admitted a.2.documents

/-- No batch is to follow a reply: the server has no more, or the quota wants no more. -/
def isLast (q : Quota) (r : BatchReply) : Bool :=
  r.id = 0 || (q.charge r.documents).stopsAfterBatch

/-- No batch is to follow the newest reply. -/
def complete (h : History) : Bool := h.arrivals.getLast?.any fun a => isLast a.1 a.2

/-- A close broke off while its clean-up was under way. -/
def closeCutOff (h : History) : Bool := h.broken.any Aftermath.isClosing

/-! ### What is added to a history -/

def answer (h : History) (a : Answer) : History := { h with answers := h.answers ++ [a] }

/-- Takes note of the answer of a call that came to one. -/
def follow (h : History) : Progress → History
  | .answered a => h.answer a
  | _ => h

/-- A request has its result, which met the quota. -/
def settle (h : History) (q : Quota) (result : Except Failure Document) : History :=
  match Cursor.readNext result with
  | .ok r => { h with arrivals := h.arrivals ++ [(q, r)] }
  | .error _ => h

def lose (h : History) : History := { h with lost := h.lost + 1 }

/-- A clean-up broke off. A cursor that was still being opened goes out of use with it. -/
def breakOff (h : History) (after : Aftermath) : History :=
  { h with broken := h.broken ++ [after], ended := h.ended || after.isOpened }

def retire (h : History) : History := { h with ended := true }

/-- What was waited for never comes. -/
def giveUp (h : History) : Wait → History
  | .batch _ => h.lose
  | .kill _ after => h.breakOff after

/-- What was waited for comes to an outcome. -/
def hear (h : History) (q : Quota) (wait : Wait) : Outcome → History
  | .reply d =>
    match wait with
    | .batch _ => h.settle q (.ok d)
    | .kill .. => h
  | .failure f =>
    match wait with
    | .batch _ => h.settle q (.error f)
    | .kill .. => h
  | .crash _ => h.giveUp wait

end History

/-- What a cursor does, or waits for. Between two moves of a run it is idle, waits, or is left
with a clean-up. -/
inductive Control where
  | idle
  | waiting (wait : Wait)
  /-- The server's cursor was let go of and the clean-up is due. -/
  | cleaning (kill : Option Command) (after : Aftermath)
  /-- A call looks for a batch. -/
  | calling (call : Call)
  /-- The server's cursor is to be let go of. -/
  | leaving (after : Aftermath)
  | resuming (after : Aftermath)

/-- Between two moves of a run a cursor waits or is idle. -/
def Control.ofWait : Option Wait → Control
  | some wait => .waiting wait
  | none => .idle

structure Situation where
  session : Session
  control : Control
  history : History

end ResultCursor
