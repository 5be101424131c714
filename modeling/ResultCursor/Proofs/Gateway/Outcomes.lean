import ResultCursor.Peer.Gateway
import ResultCursor.Proofs.Dialogue

/-! What comes of a command that goes through a client library. Without time for it the library is
not asked at all. Otherwise it answers, reports a fault, or is cut off when the time is up; a fault
reaches the cursor as a failure, and the cursor may put its own name to it. -/

namespace ResultCursor

/-! ### Faults -/

namespace DriverFault

/-- The fault shows that the connection is dead or that the server has no such cursor. -/
def spares : DriverFault → Bool
  | socket _ => true
  | command code _ _ => code = Failure.notFoundCode
  | _ => false

end DriverFault

namespace Peer.Gateway

variable {g g' : Gateway}

/-- What can come of a command that the library runs: what the library makes of it, or the end of
its time. -/
inductive Ends (g : Gateway) (name : String) (limit : Option Span) : Outcome → Prop where
  | library (result : Except DriverFault Document) : Ends g name limit (g.outcome result)
  | cutOff (l : Span) (limited : limit = some l) :
      Ends g name limit (.failure (.timeout (.overran name l)))

/-- A command that is held fails as it should, if it ever does. -/
def Awaits (g : Gateway) (name : String) (limit : Option Span) (held : Doomed) : Prop :=
  held.due.isSome → g.Ends name limit (.failure held.failure)

/-- What a gateway does with a command that it has given to the library. -/
inductive Runs (g : Gateway) (name : String) (limit : Option Span) : Reaction Doomed → Prop where
  | answers {o : Outcome} (notes : List Note) (ends : g.Ends name limit o) :
      Runs g name limit (.answers o notes)
  | holds {held : Doomed} (wake : Option Instant) (awaits : g.Awaits name limit held) :
      Runs g name limit (.holds held wake)

section

variable {name : String} {limit : Option Span} {held : Doomed}

theorem awaits_cutOff (g : Gateway) (name : String) (now : Instant) (limit : Option Span) :
    g.Awaits name limit (g.cutOff name now limit) := by
  cases limit with
  | none => exact fun due => by cases due
  | some l => exact fun _ => .cutOff l rfl

theorem awaits_unserved (g : Gateway) (name : String) (now : Instant) (limit : Option Span) :
    g.Awaits name limit (g.unserved name now limit) := by
  have notFound : g.Ends name limit (.failure (g.failureOf noServer)) := .library (.error noServer)
  unfold unserved
  split
  · split
    · exact awaits_cutOff g name now _
    · exact fun _ => notFound
  · exact fun _ => notFound

/-- Asked again, a gateway goes on to hold a command, or lets it fail. It does not change. -/
theorem poll_runs (g' : Gateway) (awaits : g.Awaits name limit held) (m : Moment) :
    (g'.poll held m).1 = g' ∧ g.Runs name limit (g'.poll held m).2 := by
  unfold poll
  split
  · next due =>
    split
    · exact ⟨rfl, .answers _ (awaits (by simp [due]))⟩
    · exact ⟨rfl, .holds _ awaits⟩
  · exact ⟨rfl, .holds _ awaits⟩

/-- The library is asked once. -/
theorem run_runs (g : Gateway) (command : Command) (limit : Option Span) (m : Moment) :
    (g.run command limit m).1.ran = g.ran ++ [command] ∧
      g.Runs command.name limit (g.run command limit m).2 := by
  obtain ⟨address, answers, selection, ran⟩ := g
  match answers with
  | none =>
    obtain ⟨same, runs⟩ := poll_runs ⟨address, none, selection, ran ++ [command]⟩
      (awaits_unserved ⟨address, none, selection, ran⟩ command.name m.now limit) m
    exact ⟨congrArg Gateway.ran same, runs⟩
  | some [] => exact ⟨rfl, .answers _ (.library (.ok [("ok", .int32 1)]))⟩
  | some (.reply d :: rest) => exact ⟨rfl, .answers _ (.library (readReply d))⟩
  | some (.closes :: rest) => exact ⟨rfl, .answers _ (.library (.error endOfFile))⟩
  | some (.fails fault :: rest) => exact ⟨rfl, .answers _ (.library (.error fault))⟩
  | some (.silent :: rest) =>
    obtain ⟨same, runs⟩ := poll_runs ⟨address, some rest, selection, ran ++ [command]⟩
      (awaits_cutOff ⟨address, some (.silent :: rest), selection, ran⟩ command.name m.now limit) m
    exact ⟨congrArg Gateway.ran same, runs⟩

end

/-! ### From a command to its outcome -/

/-- The gateway was given a command and holds it, however often it was asked again. -/
inductive Holds (g : Gateway) (sending : Sending) : Gateway → Doomed → Prop where
  | arrived {g' : Gateway} {held : Doomed} {wake : Option Instant} (m : Moment)
      (stalled : g.arrive sending.command sending.allowance m = (g', .holds held wake)) :
      Holds g sending g' held
  | polled {g' g'' : Gateway} {held held' : Doomed} {wake : Option Instant} (m : Moment)
      (before : Holds g sending g' held) (stalled : g'.poll held m = (g'', .holds held' wake)) :
      Holds g sending g'' held'

section

variable {sending : Sending} {held : Doomed} {o : Outcome}

theorem arrive_of_ok {a : Allowance} (h : sending.allowance = .ok a) (m : Moment) :
    g.arrive sending.command sending.allowance m = g.run sending.command a.span? m := by
  rw [h]
  rfl

theorem arrive_of_error {f : Failure} (h : sending.allowance = .error f) (m : Moment) :
    g.arrive sending.command sending.allowance m = (g, .answers (.failure f) []) := by
  rw [h]
  rfl

/-- Only a command that was given to the library is held. -/
theorem Holds.runs (h : g.Holds sending g' held) :
    ∃ a, sending.allowance = .ok a ∧ g'.ran = g.ran ++ [sending.command] ∧
      g.Awaits sending.command.name a.span? held := by
  induction h with
  | arrived m stalled =>
    cases allowance : sending.allowance with
    | error f => cases (arrive_of_error allowance m).symm.trans stalled
    | ok a =>
      obtain ⟨ran, runs⟩ := g.run_runs sending.command a.span? m
      rw [← arrive_of_ok allowance m, stalled] at ran runs
      cases runs with
      | holds wake awaits => exact ⟨a, rfl, ran, awaits⟩
  | @polled g' g'' held held' wake m before stalled ih =>
    obtain ⟨a, allowance, ran, awaits⟩ := ih
    obtain ⟨same, runs⟩ := poll_runs g' awaits m
    rw [stalled] at same runs
    cases runs with
    | holds wake awaits => exact ⟨a, allowance, (congrArg Gateway.ran same).trans ran, awaits⟩

end

end Peer.Gateway

end ResultCursor
