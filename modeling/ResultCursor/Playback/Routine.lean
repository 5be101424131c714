import ResultCursor.Call
import ResultCursor.Signal

/-! Routines on a cursor: series of requests in which the answers so far decide the next one. -/

namespace ResultCursor.Playback

inductive Routine where
  | iterate (call : Call)
  | close
  /-- Sets the batch size and looks at it. -/
  | setBatchSize (n : Int32)
  /-- Takes batches as long as there are more. -/
  | drain
  /-- Takes at most so many batches; the first failure is the last item. -/
  | stream (most : Nat)
  | info
  /-- Hands the next batch to a callback in a task of its own. -/
  | callback
  deriving DecidableEq, Repr

/-- The number of looks that a complete description takes. -/
def infoLooks : Nat := 8

/-- The next request after the answers so far, which come newest first. -/
def Routine.next? (history : List Answer) : Routine → Option Request
  | iterate call => if history.isEmpty then some (.iterate call) else none
  | close => if history.isEmpty then some .close else none
  | callback => if history.isEmpty then some (.iterate .next) else none
  | setBatchSize n =>
    match history with
    | [] => some (.setBatchSize n)
    | [_] => some .inspect
    | _ => none
  | drain =>
    match history with
    | [] => some (.iterate .hasNext)
    | .more true :: _ => some (.iterate .next)
    | .batch _ :: _ => some (.iterate .hasNext)
    | _ => none
  | stream most =>
    if history.length < most then
      match history with
      | [] => some (.iterate .next)
      | .batch _ :: _ => some (.iterate .next)
      | _ => none
    else none
  | info => if history.length < infoLooks then some .inspect else none

/-- A description of a cursor, each part of it from a look of its own. -/
structure Portrait where
  batchSize : Int32
  limit : Int32
  comment : Option Bson
  firstBatchEmpty : Bool
  remote : Option RemoteCursor
  reachable : Except Failure Address
  ns : Namespace
  resumeToken : Option Document
  operationTime : Option Timestamp
  /-- Whether a close was asked for; only a shared cursor says. -/
  closeRequested : Option Bool

/-- What an operation of a playback comes to. -/
inductive Result where
  | nothing
  | answer (a : Answer)
  | flag (b : Bool)
  | size (n : Int32)
  | count (n : Nat)
  | drained (batches : List (List Document)) (ending : Option Failure)
  | streamed (items : List Answer)
  | portrait (p : Portrait)
  | called (times : Nat) (joined : Bool) (got : Option Answer)
  | signal (s : Signal)
  | reply (d : Document)
  | outcomes (os : List Outcome)
  | crashed (text : String)
  | abandoned
  | finished (r : Result)
  /-- Results of operations side by side, and the order in which they ended. -/
  | together (results : List Result) (order : List Nat)

def batchesOf (answers : List Answer) : List (List Document) :=
  answers.filterMap fun
    | .batch ds => some ds
    | _ => none

def failureOf : List Answer → Option Failure
  | .failed f :: _ => some f
  | _ => none

/-- What a stream passes on: the end of the batches is no item. -/
def itemsOf (answers : List Answer) : List Answer :=
  answers.filter fun
    | .failed .noMoreElements => false
    | _ => true

def viewsOf (answers : List Answer) : List View :=
  answers.filterMap fun
    | .seen v => some v
    | _ => none

def portraitOf (closeRequested : Option Bool) : List View → Option Portrait
  | [batchSize, comment, empty, remote, reachable, other, token, time] =>
    some
      { batchSize := batchSize.batchSize, limit := other.limit, comment := comment.comment,
        firstBatchEmpty := empty.firstBatchEmpty, remote := remote.remote,
        reachable := reachable.reachable, ns := other.ns, resumeToken := token.resumeToken,
        operationTime := time.operationTime, closeRequested }
  | _ => none

/-- What a routine comes to once it has made its last request. -/
def Routine.result (history : List Answer) (closeRequested : Option Bool) : Routine → Result
  | iterate _ => (history.head?.map .answer).getD .nothing
  | close => .nothing
  | callback => .called 1 true history.head?
  | setBatchSize _ =>
    match history with
    | .seen v :: _ => .size v.batchSize
    | _ => .nothing
  | drain => .drained (batchesOf history.reverse) (failureOf history)
  | stream _ => .streamed (itemsOf history.reverse)
  | info => ((portraitOf closeRequested (viewsOf history.reverse)).map .portrait).getD .nothing

/-- What a routine comes to when a command broke off. -/
def Routine.crashResult (text : String) : Routine → Result
  | callback => .called 0 false none
  | _ => .crashed text

end ResultCursor.Playback
