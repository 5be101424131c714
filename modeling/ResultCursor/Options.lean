import ResultCursor.Bson.Equality
import ResultCursor.Quota
import ResultCursor.Time.Deadline

/-! What a caller may ask of a cursor. -/

namespace ResultCursor

structure Options where
  limit : Int32 := 0
  batchSize : Int32 := 0
  tailable : Bool := false
  awaitData : Bool := false
  /-- How long the server may wait for new documents. -/
  maxAwait : Option Span := some (Span.ofMillis 1000)
  comment : Option Bson := none
  mode : TimeoutMode := .lifetime
  /-- How long closing the server's cursor may take. -/
  killTimeout : Span := Span.ofMillis 1000
  deriving DecidableEq, Repr

namespace Options

/-- Keeps the cursor open at the end of the collection. -/
def tail (o : Options) (awaitData : Bool) : Options := { o with tailable := true, awaitData }

def quota (o : Options) : Quota := { limit := o.limit, batchSize := o.batchSize }

/-- The server waits for new documents instead of answering with an empty batch. -/
def awaits (o : Options) : Bool := o.tailable && o.awaitData

/-- The first fault of the options, if they have one. -/
def fault? (o : Options) : Option BadArgument :=
  if o.awaitData && !o.tailable then some .awaitWithoutTail
  else if o.killTimeout = .zero then some .noKillTime
  else if o.tailable && o.limit < 0 then some .tailSingleBatch
  else none

end Options

end ResultCursor
