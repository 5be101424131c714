import ResultCursor.Journal
import ResultCursor.Text.Quoted

/-! Leases on one counted resource. Every lease raises the count by one while it lasts. It is meant
to be released; one that is dropped instead gives its share back all the same, with a warning, and
breaks off the task that dropped it unless that task is breaking off already. -/

namespace ResultCursor

structure Lease where
  label : String
  held : Bool := true
  deriving DecidableEq, Repr

/-- A resource with all leases that were ever taken on it. -/
structure Loan where
  count : Nat
  leases : List Lease := []
  notes : List Note := []
  deriving DecidableEq, Repr

namespace Loan

inductive Action where
  | acquire (label : String)
  /-- Another lease, taken through one that lasts. -/
  | renew (i : Nat)
  | look (i : Nat)
  | release (i : Nat)
  | drop (i : Nat)
  | dropWhileBreaking (i : Nat)
  deriving DecidableEq, Repr

inductive Result where
  | nothing
  | index (i : Nat)
  | seen (label : String) (count : Nat) (text : String)
  | crashed (text : String)
  deriving DecidableEq, Repr

def leaseText (label : String) (count : Nat) : String :=
  "Lease \x7b label: " ++ Text.quoted label ++ ", ref_count: Some(" ++ toString count ++ ") \x7d"

def unreleasedText (label : String) : String := label ++ " lease dropped without release"

def acquire (l : Loan) (label : String) : Loan × Result :=
  ({ l with count := l.count + 1, leases := l.leases ++ [{ label }] }, .index l.leases.length)

/-- The lease with the number, if it still lasts. -/
def held? (l : Loan) (i : Nat) : Option Lease := l.leases[i]?.filter (·.held)

/-- Ends a lease that lasts. -/
def settle (l : Loan) (i : Nat) (lease : Lease) : Loan :=
  { l with count := l.count - 1, leases := l.leases.set i { lease with held := false } }

/-- Ends a lease without releasing it. -/
def abandon (l : Loan) (i : Nat) (lease : Lease) : Loan :=
  let l := l.settle i lease
  { l with notes := l.notes ++ [{ level := .warn, text := unreleasedText lease.label }] }

/-- What an action on a lease that lasts does; on any other it does nothing. -/
def onHeld (l : Loan) (i : Nat) (f : Lease → Loan × Result) : Loan × Result :=
  match l.held? i with
  | some lease => f lease
  | none => (l, .nothing)

def perform (l : Loan) : Action → Loan × Result
  | .acquire label => l.acquire label
  | .renew i => l.onHeld i fun _ => l.acquire "alias"
  | .look i =>
    l.onHeld i fun lease => (l, .seen lease.label l.count (leaseText lease.label l.count))
  | .release i => l.onHeld i fun lease => (l.settle i lease, .nothing)
  | .drop i =>
    l.onHeld i fun lease => (l.abandon i lease, .crashed (unreleasedText lease.label))
  | .dropWhileBreaking i => l.onHeld i fun lease => (l.abandon i lease, .crashed "unwinding")

def performAll (l : Loan) : List Action → Loan × List (Result × Nat)
  | [] => (l, [])
  | a :: rest =>
    let (l, r) := l.perform a
    let (t, steps) := l.performAll rest
    (t, (r, l.count) :: steps)

/-- Releases all leases that last. -/
def releaseAll (l : Loan) : Loan :=
  { l with
    count := l.count - l.leases.countP (·.held)
    leases := l.leases.map fun lease => { lease with held := false } }

end Loan

end ResultCursor
