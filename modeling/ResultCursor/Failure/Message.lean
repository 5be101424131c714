import ResultCursor.Bson.Inspect
import ResultCursor.Failure.Report

/-! The wording of failures, and the reports made from them. -/

namespace ResultCursor

def Lapse.text : Lapse → String
  | passed since => "Operation exceeded its deadline by " ++ since.text
  | overran command limit => "Command '" ++ command ++ "' did not complete within " ++ limit.text
  | stated text => text

def Halt.text : Halt → String
  | interrupted => "Interrupted while waiting for the next batch"
  | closeRequested => "Cursor close requested while waiting for the next batch"
  | waitInterrupted => "wait for data interrupted"
  | stated text => text

def Closure.text : Closure → String
  | cursor => "Cursor has been closed"
  | iterator => "Iterator has been closed"
  | stated text => text

def BadArgument.text : BadArgument → String
  | awaitWithoutTail => "await_data requires a tailable cursor"
  | noKillTime => "kill_cursors_timeout must be greater than zero"
  | tailSingleBatch => "a tailable cursor cannot return a single batch"
  | stated text => text

def FieldFault.text : FieldFault → String
  | missing => "field is not present"
  | mistyped => "field does not have the expected type"

def BadReply.text : BadReply → String
  | field fault => fault.text
  | idMissing => "Missing cursor id"
  | idType found => "Unexpected type for cursor id: " ++ found.inspect
  | namespaceText text => "Invalid namespace '" ++ text ++ "'"
  | element found => "Batch element is not a document: " ++ found.inspect
  | stated text => text

def BadSetting.text : BadSetting → String
  | fileMissing path => "Config file not found: " ++ path
  | badFormat text => "Invalid config format: " ++ text
  | badValue field value => "Invalid value '" ++ value ++ "' for field '" ++ field ++ "'"

namespace DriverFault

def detail : DriverFault → String
  | socket text => "I/O error: " ++ text
  | command code name message =>
    "Command failed: Error code " ++ toString code.toInt ++ " (" ++ name ++ "): " ++ message
  | serverSelection text => text
  | custom => "Custom user error"
  | noSessions => "Attempted to start a session on a deployment that does not support sessions"
  | noResumeToken => "Cannot provide resume functionality when the resume token is missing"
  | shutDown => "Client has been shut down"
  | other text _ => text

def text : DriverFault → String
  | other text _ => text
  | fault => "Kind: " ++ fault.detail ++ ", labels: \x7b\x7d"

end DriverFault

def Report.ofDriverFault (fault : DriverFault) : Report :=
  match fault with
  | .command code name message =>
    { kind := some "mongo.command_error", code := some code, name := nameOfCode code name,
      message := some message }
  | .socket text => { kind := some "mongo.network_error", message := some text }
  | .serverSelection text =>
    { kind := some "mongo.server_selection_error", message := some text }
  | .other text ofNetwork =>
    { kind := if ofNetwork then some "mongo.network_error" else none, message := some text }
  | _ => { message := some fault.text }

namespace Failure

def commandText (code : Int32) (name message : String) : String :=
  if name.isEmpty then message ++ " (code " ++ toString code.toInt ++ ")"
  else message ++ " (" ++ name ++ ", code " ++ toString code.toInt ++ ")"

def message : Failure → String
  | network text (some address) => "Network error: " ++ text ++ " (" ++ address.text ++ ")"
  | network text none => "Network error: " ++ text
  | command code name text => "Command failed: " ++ commandText code name text
  | cursorNotFound id address =>
    "Cursor " ++ toString id.toInt ++ " not found on server " ++ address.text
  | timeout lapse => "Timeout: " ++ lapse.text
  | timeoutDuring lapse cause => "Timeout: " ++ lapse.text ++ ": caused by " ++ cause.message
  | cancelled halt => "Cancelled: " ++ halt.text
  | closed closure => closure.text
  | noMoreElements => "No more elements"
  | invalidArgument fault => "Invalid argument: " ++ fault.text
  | invalidReply fault => "Invalid reply: " ++ fault.text
  | setting fault => "Configuration error: " ++ fault.text
  | files text => "I/O error: " ++ text
  | driver fault =>
    "\n" ++ (Json.Value.object [("error", (Report.ofDriverFault fault).toJson)]).pretty

/-- The texts of the failures behind a failure, nearest first. -/
def causes : Failure → List String
  | timeoutDuring _ cause => cause.message :: cause.causes
  | files text => [text]
  | driver fault => [fault.text]
  | _ => []

def report : Failure → Report
  | network text address =>
    { kind := some "cursor.network_error", message := some text,
      details := address.map fun a => ⟨none, some a.text⟩ }
  | command code name text =>
    { kind := some "cursor.command_error", code := some code,
      name := Report.nameOfCode code name, message := some text }
  | cursorNotFound id address =>
    { kind := some "cursor.cursor_not_found", code := some notFoundCode,
      name := Report.knownName? notFoundCode,
      message := some (cursorNotFound id address).message,
      details := some ⟨some id, some address.text⟩ }
  | timeout lapse => { kind := some "cursor.timeout", message := some lapse.text }
  | timeoutDuring lapse cause =>
    { kind := some "cursor.timeout",
      message := some (lapse.text ++ ": caused by " ++ cause.message) }
  | cancelled halt => { kind := some "cursor.cancelled", message := some halt.text }
  | driver fault => Report.ofDriverFault fault
  | failure => { kind := some "cursor.client_error", message := some failure.message }

/-- The report on one line. -/
def summary (f : Failure) : String := f.report.compact

end Failure

end ResultCursor
