import ResultCursor.Peer.Basic

/-! A connection through a client library. The library first has to find a server; a round trip
that is not over when the time for the command is up is cut off. -/

namespace ResultCursor.Peer

/-- What comes of one command at the server. -/
inductive ServerAnswer where
  | reply (d : Document)
  | closes
  | silent
  /-- The library gives the command up for a reason of its own. -/
  | fails (fault : DriverFault)

structure Gateway where
  address : Address
  /-- The answers of the server; without a server there is no list. -/
  answers : Option (List ServerAnswer)
  /-- How long the library looks for a server. -/
  selection : Span
  /-- The commands that the library was given to run. -/
  ran : List Command := []

/-- A command that is held until it fails. -/
structure Doomed where
  due : Option Instant
  failure : Failure
  note : Option Note

namespace Gateway

def isOne : Bson → Bool
  | .int32 n => n = 1
  | .int64 n => n = 1
  | .double word => word = 0x3ff0000000000000
  | .bool b => b
  | _ => false

/-- A server's answer that is not in order is an error of its own. -/
def readReply (d : Document) : Except DriverFault Document :=
  if ((d.get? "ok").map isOne).getD false then .ok d
  else
    let code := ((d.get? "code").bind Bson.asInt32?).getD 0
    let name := ((d.get? "codeName").bind Bson.asString?).getD ""
    let message := ((d.get? "errmsg").bind Bson.asString?).getD ""
    .error (.command code name message)

/-- A fault of the library as a failure; a broken connection is named by its address. -/
def failureOf (g : Gateway) (fault : DriverFault) : Failure :=
  match Failure.ofDriverFault fault with
  | .network text _ => .network text (some g.address)
  | f => f

/-- What the library made of a command, as an outcome for the cursor. -/
def outcome (g : Gateway) : Except DriverFault Document → Outcome
  | .ok d => .reply d
  | .error fault => .failure (g.failureOf fault)

def endOfFile : DriverFault := .socket "unexpected end of file"

def noServer : DriverFault :=
  .serverSelection "Server selection timeout: No available servers."

def cutOffNote (g : Gateway) (name : String) (limit : Span) : Note :=
  { level := .debug,
    text := "Command '" ++ name ++ "' on " ++ g.address.text ++ " exceeded " ++ limit.text }

/-- The command is held until its own limit, if it has one. -/
def cutOff (g : Gateway) (name : String) (now : Instant) (limit : Option Span) : Doomed :=
  match limit with
  | some limit =>
    ⟨some (now + limit.nanos), .timeout (.overran name limit), some (g.cutOffNote name limit)⟩
  | none => ⟨none, .timeout (.stated ""), none⟩

/-- No server is found: whichever of the two limits is over first decides. -/
def unserved (g : Gateway) (name : String) (now : Instant) (limit : Option Span) : Doomed :=
  let notFound : Doomed :=
    ⟨some (now + g.selection.nanos), g.failureOf noServer, none⟩
  match limit with
  | some l => if l.nanos ≤ g.selection.nanos then g.cutOff name now limit else notFound
  | none => notFound

def poll (g : Gateway) (held : Doomed) (m : Moment) : Gateway × Reaction Doomed :=
  match held.due with
  | some t =>
    if t ≤ m.now then (g, .answers (.failure held.failure) held.note.toList)
    else (g, .holds held held.due)
  | none => (g, .holds held none)

/-- The library runs a command, within its limit if it has one. -/
def run (g : Gateway) (command : Command) (limit : Option Span) (m : Moment) :
    Gateway × Reaction Doomed :=
  let g := { g with ran := g.ran ++ [command] }
  match g.answers with
  | none => g.poll (g.unserved command.name m.now limit) m
  | some [] => (g, .answers (.reply [("ok", .int32 1)]) [])
  | some (first :: rest) =>
    let g := { g with answers := some rest }
    match first with
    | .reply d => (g, .answers (g.outcome (readReply d)) [])
    | .closes => (g, .answers (g.outcome (.error endOfFile)) [])
    | .fails fault => (g, .answers (g.outcome (.error fault)) [])
    | .silent => g.poll (g.cutOff command.name m.now limit) m

/-- A command arrives. Without any time left it is not sent at all. -/
def arrive (g : Gateway) (command : Command) (allowance : Except Failure Allowance) (m : Moment) :
    Gateway × Reaction Doomed :=
  match allowance with
  | .error f => (g, .answers (.failure f) [])
  | .ok a => g.run command a.span? m

end Gateway

end ResultCursor.Peer
