import ResultCursor.Namespace
import ResultCursor.RemoteCursor
import ResultCursor.Bson.Value
import ResultCursor.Time.Span

/-! The commands that a cursor sends. -/

namespace ResultCursor

structure Command where
  database : String
  body : Document
  deriving Repr

namespace Command

/-- The first key of the body. -/
def name (c : Command) : String := (c.body.head?.map Prod.fst).getD ""

def optionalEntry (name : String) (v : Option Bson) : Document :=
  match v with
  | some v => [(name, v)]
  | none => []

def getMoreBody (id : Int64) (collection : String) (batchSize : Int32) (maxTime : Option Span)
    (comment : Option Bson) : Document :=
  [("getMore", .int64 id), ("collection", .string collection)] ++
    optionalEntry "batchSize" (if batchSize = 0 then none else some (.int32 batchSize)) ++
    optionalEntry "maxTimeMS" (maxTime.map fun t => .int64 (Int64.ofNat t.millis)) ++
    optionalEntry "comment" comment

/-- Asks for the next batch. A batch size of zero, a missing time and a missing comment are left
out. -/
def getMore (ns : Namespace) (id : Int64) (batchSize : Int32) (maxTime : Option Span)
    (comment : Option Bson) : Command :=
  ⟨ns.database, getMoreBody id ns.collection batchSize maxTime comment⟩

/-- Ends the server's cursor. -/
def kill (ns : Namespace) (remote : RemoteCursor) : Command :=
  ⟨ns.database,
    [("killCursors", .string ns.collection), ("cursors", .array [.int64 remote.id])]⟩

end Command

end ResultCursor
