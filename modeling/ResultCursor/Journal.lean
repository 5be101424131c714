import ResultCursor.Command
import ResultCursor.Level
import ResultCursor.Time.Deadline

/-! What a cursor does to the world, in order: the leases it takes and gives back, the commands it
sends, the answers it gets, and the notes it leaves for whoever follows its work. -/

namespace ResultCursor

structure Note where
  level : Level
  text : String
  details : List (String × String) := []
  deriving DecidableEq, Repr

/-- The two resources that a cursor leases while the server holds its cursor. -/
inductive Resource where
  | connection
  | source
  deriving DecidableEq, Repr

/-- The reference counts of the two resources. -/
structure Counts where
  connection : Int
  source : Int
  deriving DecidableEq, Repr

namespace Counts

def change (c : Counts) (r : Resource) (n : Int) : Counts :=
  match r with
  | .connection => { c with connection := c.connection + n }
  | .source => { c with source := c.source + n }

end Counts

/-- What a connection answers to a command. -/
inductive Outcome where
  | reply (d : Document)
  | failure (f : Failure)
  /-- The command broke off without an answer. -/
  | crash (text : String)
  deriving Repr

/-- A command on its way, with the state of things at that moment. -/
structure Sending where
  command : Command
  allowance : Except Failure Allowance
  counts : Counts
  /-- Whether a stop was asked for already; only a blocking cursor can tell. -/
  stop : Option Bool

inductive Event where
  | retained (r : Resource)
  | released (r : Resource)
  | sent (s : Sending)
  | delivered (result : Except Failure Document)
  | noted (n : Note)

end ResultCursor
