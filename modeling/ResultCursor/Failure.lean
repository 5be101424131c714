import ResultCursor.Address
import ResultCursor.Bson.Value
import ResultCursor.Time.Span

/-! What can go wrong, by cause. The cause decides whether the connection can still be used and
whether the server still holds the cursor; the wording is in `Failure.message`. -/

namespace ResultCursor

/-- How a time limit was missed. -/
inductive Lapse where
  | passed (since : Span)
  | overran (command : String) (limit : Span)
  | stated (text : String)
  deriving DecidableEq, Repr

/-- Why a wait was given up. -/
inductive Halt where
  | interrupted
  | closeRequested
  | waitInterrupted
  | stated (text : String)
  deriving DecidableEq, Repr

/-- As what a closed cursor was used. -/
inductive Closure where
  | cursor
  | iterator
  | stated (text : String)
  deriving DecidableEq, Repr

inductive BadArgument where
  | awaitWithoutTail
  | noKillTime
  | tailSingleBatch
  | stated (text : String)
  deriving DecidableEq, Repr

inductive BadReply where
  | field (fault : FieldFault)
  | idMissing
  | idType (found : Bson)
  | namespaceText (text : String)
  | element (found : Bson)
  | stated (text : String)
  deriving Repr

inductive BadSetting where
  | fileMissing (path : String)
  | badFormat (text : String)
  | badValue (field value : String)
  deriving DecidableEq, Repr

/-- What the client library below the connection reports. -/
inductive DriverFault where
  | socket (text : String)
  | command (code : Int32) (name message : String)
  | serverSelection (text : String)
  | custom
  | noSessions
  | noResumeToken
  | shutDown
  /-- Any other fault, by its text; it may be marked as one of the network. -/
  | other (text : String) (ofNetwork : Bool)
  deriving DecidableEq, Repr

inductive Failure where
  | network (message : String) (address : Option Address)
  | command (code : Int32) (name message : String)
  | cursorNotFound (id : Int64) (address : Address)
  | timeout (lapse : Lapse)
  /-- A time limit was missed while the other failure was under way. -/
  | timeoutDuring (lapse : Lapse) (cause : Failure)
  | cancelled (halt : Halt)
  | closed (closure : Closure)
  | noMoreElements
  | invalidArgument (fault : BadArgument)
  | invalidReply (fault : BadReply)
  | setting (fault : BadSetting)
  | files (text : String)
  | driver (fault : DriverFault)
  deriving Repr

namespace Failure

/-- The server's code for a cursor it does not hold. -/
def notFoundCode : Int32 := 43

def isNetwork : Failure → Bool
  | network .. => true
  | _ => false

/-- The connection must be taken for dead: a network failure, or a timeout directly during one. -/
def breaksConnection : Failure → Bool
  | network .. => true
  | timeoutDuring _ cause => cause.isNetwork
  | _ => false

def isTimeout : Failure → Bool
  | timeout _ => true
  | timeoutDuring .. => true
  | _ => false

def isCancellation : Failure → Bool
  | cancelled _ => true
  | _ => false

def serverCode? : Failure → Option Int32
  | command code .. => some code
  | cursorNotFound .. => some notFoundCode
  | _ => none

/-- A fault of the library below as a failure of its own kind where there is one. -/
def ofDriverFault : DriverFault → Failure
  | .socket text => network text none
  | .command code name message => command code name message
  | fault => driver fault

def ofFieldFault (fault : FieldFault) : Failure := invalidReply (.field fault)

theorem bind_eq_ok_iff {α β : Type} {x : Except Failure α} {g : α → Except Failure β} {b : β} :
    x >>= g = .ok b ↔ ∃ a, x = .ok a ∧ g a = .ok b := by
  cases x with
  | error f => simp [bind, Except.bind]
  | ok a => simp [bind, Except.bind]

end Failure

end ResultCursor
