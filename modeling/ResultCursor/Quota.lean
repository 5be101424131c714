import ResultCursor.Bson.Value

/-! How many documents a cursor may hand out. A negative limit or batch size asks for a single
batch and no more; a limit of zero is none. -/

namespace ResultCursor

structure Quota where
  limit : Int32
  batchSize : Int32
  /-- The documents kept so far, counted up to `Quota.most`. -/
  fetched : Nat := 0
  deriving DecidableEq, Repr

namespace Quota

/-- The largest number that a command can carry. -/
def most : Nat := 0x7fffffff

/-- The absolute value, cut off at `most`. -/
def magnitude (n : Int32) : Nat := min n.toInt.natAbs most

def singleBatch (q : Quota) : Bool := q.limit < 0 || q.batchSize < 0

/-- The number of documents at which the cursor stops, if there is one. -/
def cap (q : Quota) : Option Nat :=
  if q.limit < 0 then some (magnitude q.limit)
  else if q.batchSize < 0 then
    some (if q.limit = 0 then magnitude q.batchSize
      else min (magnitude q.limit) (magnitude q.batchSize))
  else if q.limit = 0 then none
  else some (magnitude q.limit)

def remaining (q : Quota) : Option Nat := q.cap.map fun cap => cap - q.fetched

/-- The batch size of the next request; zero leaves it to the server. -/
def effectiveBatchSize (q : Quota) : Nat :=
  match q.remaining with
  | none => magnitude q.batchSize
  | some left =>
    if q.singleBatch || q.batchSize = 0 then left else min (magnitude q.batchSize) left

def reached (q : Quota) : Bool := q.remaining = some 0

/-- No request follows the batch just admitted. -/
def stopsAfterBatch (q : Quota) : Bool := q.singleBatch || q.reached

/-- The documents of a batch that the quota still allows. -/
def admitted (q : Quota) (batch : List Document) : List Document :=
  match q.remaining with
  | some left => batch.take left
  | none => batch

/-- Counts the admitted documents of a batch. -/
def charge (q : Quota) (batch : List Document) : Quota :=
  { q with fetched := min (q.fetched + (q.admitted batch).length) most }

def withBatchSize (q : Quota) (n : Int32) : Quota := { q with batchSize := n }

end Quota

end ResultCursor
