import ResultCursor.Proofs.Course.Deadlines
import ResultCursor.Proofs.Scopes.Courses

/-! Scopes that end newest first. The live scopes of a course are a stack of limits, which a scope
that begins is put on and a scope that ends is taken off. The innermost one is the override, and
what an open scope will put back is what the scopes around it have made of the override. Scopes
never move the limit of the whole operation. -/

namespace ResultCursor.Scope

/-! ### Live scopes -/

/-- The limits of the live scopes, innermost first. -/
def Change.onLive (scopes : List Span) : Change → List Span
  | .begins limit => limit :: scopes
  | .ends => scopes.tail
  | .restarts | .passes _ => scopes

/-- The live scopes after these changes, with these ones live before. -/
def liveFrom (scopes : List Span) (changes : List Change) : List Span :=
  changes.foldl Change.onLive scopes

/-- The live scopes after these changes. -/
def live (changes : List Change) : List Span := liveFrom [] changes

theorem live_append (cs ds : List Change) : live (cs ++ ds) = liveFrom (live cs) ds :=
  List.foldl_append

/-- The scope with this limit, inside these others, ends on the way: up to there it is live,
whatever scopes begin and end inside it, and then only the others are. -/
def EndsWithin (limit : Span) (outer scopes : List Span) (cs : List Change) : Prop :=
  ∃ body later, cs = body ++ .ends :: later ∧
    (∀ part, part <+: body → limit :: outer <:+ liveFrom scopes part) ∧
    liveFrom scopes (body ++ [.ends]) = outer

theorem EndsWithin.cons {limit : Span} {outer scopes : List Span} {c : Change} {cs : List Change}
    (lives : limit :: outer <:+ scopes) (h : EndsWithin limit outer (c.onLive scopes) cs) :
    EndsWithin limit outer scopes (c :: cs) := by
  obtain ⟨body, later, rfl, onward, ends⟩ := h
  refine ⟨c :: body, later, rfl, fun part begins => ?_, ends⟩
  rcases List.prefix_cons_iff.mp begins with rfl | ⟨rest, rfl, onBody⟩
  · exact lives
  · exact onward rest onBody

/-- Where no more than the outer scopes are live in the end, the scope inside them has ended. -/
theorem endsWithin_of_length_le {limit : Span} {outer : List Span} {cs : List Change}
    (inside : List Span)
    (few : (liveFrom (inside ++ limit :: outer) cs).length ≤ outer.length) :
    EndsWithin limit outer (inside ++ limit :: outer) cs := by
  have lives (inside : List Span) : limit :: outer <:+ inside ++ limit :: outer :=
    List.suffix_append inside _
  induction cs generalizing inside with
  | nil =>
    simp only [liveFrom, List.foldl_nil, List.length_append, List.length_cons] at few
    omega
  | cons c cs ih =>
    cases c with
    | begins l => exact .cons (lives inside) (ih (l :: inside) few)
    | restarts => exact .cons (lives inside) (ih inside few)
    | passes time => exact .cons (lives inside) (ih inside few)
    | ends =>
      cases inside with
      | nil => exact ⟨[], cs, rfl, by simp [liveFrom], rfl⟩
      | cons l inside => exact .cons (lives (l :: inside)) (ih inside few)

/-! ### What the scopes have made of the override -/

/-- What the open scopes will put back, oldest first: each what the scopes around it have made of
the override, and the oldest the override from before. -/
def saved (before : Option Span) : List Span → List (Option (Option Span))
  | [] => []
  | _ :: outer => saved before outer ++ [some (outer.head?.or before)]

theorem length_saved (before : Option Span) (scopes : List Span) :
    (saved before scopes).length = scopes.length := by
  induction scopes with
  | nil => rfl
  | cons limit outer ih => simp [saved, ih]

namespace State

/-- The override is that of the innermost live scope, or the one from before all of them. -/
structure Stands (before : Option Span) (scopes : List Span) (s : State) : Prop where
  override : s.deadline.override = scopes.head?.or before
  slots : s.slots = saved before scopes

variable {before : Option Span} {scopes : List Span} {s t : State}

/-- Starting the deadline anew and time passing leave the scopes and the override alone. -/
theorem change_other {c : Change} (other : c.isOfScope = false) (s : State) :
    (s.change c).deadline.override = s.deadline.override ∧ (s.change c).slots = s.slots := by
  cases c with
  | begins | ends => contradiction
  | passes => exact ⟨rfl, rfl⟩
  | restarts => exact ⟨Deadline.restart_override _ _, rfl⟩

theorem Stands.change (h : s.Stands before scopes) (c : Change) :
    (s.change c).Stands before (c.onLive scopes) := by
  cases c with
  | begins limit => exact ⟨by simp [State.change, enter, Deadline.withOverride, Change.onLive],
      by simp [State.change, enter, Change.onLive, saved, h.slots, h.override]⟩
  | restarts =>
    obtain ⟨override, slots⟩ := change_other (c := .restarts) rfl s
    exact ⟨override.trans h.override, slots.trans h.slots⟩
  | passes time => exact ⟨h.override, h.slots⟩
  | ends =>
    cases scopes with
    | nil =>
      have none_open : s.slots = [] := h.slots
      simpa [State.change, leaveNewest, none_open, Change.onLive] using h
    | cons limit outer =>
      rw [State.change, leaveNewest_concat h.slots]
      exact ⟨rfl, rfl⟩

theorem Stands.after (h : s.Stands before scopes) (cs : List Change) :
    (s.after cs).Stands before (liveFrom scopes cs) := by
  induction cs generalizing s scopes with
  | nil => exact h
  | cons c cs ih => exact ih (h.change c)

/-! ### The limit of the whole operation -/

/-- The same limit for the whole operation, at the same time. -/
structure Keeps (s t : State) : Prop where
  overall : s.deadline.overall = t.deadline.overall
  clock : s.clock = t.clock

theorem keeps_leaveAll (s : State) (ending : List (Option (Option Span))) :
    (s.leaveAll ending).Keeps s := by
  induction ending generalizing s with
  | nil => exact ⟨rfl, rfl⟩
  | cons slot rest ih =>
    cases slot with
    | none => exact ih s
    | some o => exact ⟨(ih (s.putBack o)).overall, (ih (s.putBack o)).clock⟩

theorem keeps_change {c : Change} (scope : c.isOfScope = true) (s : State) :
    (s.change c).Keeps s := by
  cases c with
  | begins limit => exact ⟨rfl, rfl⟩
  | ends =>
    simp only [State.change, leaveNewest]
    split
    · exact ⟨rfl, rfl⟩
    · have ended := s.keeps_leaveAll
      exact ⟨(ended _).overall, (ended _).clock⟩
  | restarts | passes => contradiction

theorem Keeps.change (h : s.Keeps t) {c : Change} (other : c.isOfScope = false) :
    (s.change c).Keeps (t.change c) := by
  cases c with
  | begins | ends => contradiction
  | restarts =>
    obtain ⟨timeout, limit⟩ := Prod.mk.inj h.overall
    refine ⟨?_, h.clock⟩
    simp only [State.change, Deadline.restart_overall, timeout, limit, h.clock]
  | passes time => exact ⟨h.overall, by simp [State.change, h.clock]⟩

/-- The limit of the whole operation is what it is without any scope. -/
theorem Keeps.after (h : s.Keeps t) (cs : List Change) :
    (s.after cs).Keeps (t.after (cs.filter fun c => !c.isOfScope)) := by
  induction cs generalizing s t with
  | nil => exact h
  | cons c cs ih =>
    cases hc : c.isOfScope with
    | false => simpa [hc] using ih (h.change hc)
    | true =>
      have still : (s.change c).Keeps t :=
        ⟨((keeps_change hc s).overall).trans h.overall, ((keeps_change hc s).clock).trans h.clock⟩
      simpa [hc] using ih still

end State

/-! ### Courses of nested scopes -/

/-- What the live scopes, innermost first, mean for the next command. Nothing is asked of the limit
of the whole operation, which may have passed. -/
structure Governs (before : Option Span) (scopes : List Span) (d : Deadline) : Prop where
  override : d.override = scopes.head?.or before
  inside : ∀ limit, scopes.head? = some limit → ∀ now, d.allowance now = .ok (.granted limit)
  outside : scopes = [] → before = none →
    ∀ now, (d.allowance now).map Allowance.span? = d.remaining now

theorem Governs.of_override {before : Option Span} {scopes : List Span} {d : Deadline}
    (h : d.override = scopes.head?.or before) : Governs before scopes d where
  override := h
  inside limit innermost now := by simp [Deadline.allowance, h, innermost]
  outside none_live none_before now := by
    have bare : d.override = none := by simp [h, none_live, none_before]
    simp only [Deadline.allowance, bare]
    cases d.remaining now with
    | error f => rfl
    | ok left => cases left <;> rfl

/-- Of a course of changes: the innermost live scope governs at each of its points, the scopes do
nothing to the limit of the whole operation, each scope that begins ends and leaves the override as
it was, and no scope is live in the end. -/
structure Orderly (start : State) (course : List Change) : Prop where
  governs : ∀ part, part <+: course →
    Governs start.deadline.override (live part) (start.after part).deadline
  keeps : ∀ part, part <+: course →
    (start.after part).Keeps (start.after (part.filter fun c => !c.isOfScope))
  ends : ∀ earlier limit rest, course = earlier ++ .begins limit :: rest →
    ∃ body later, rest = body ++ .ends :: later ∧
      (∀ part, part <+: body →
        limit :: live earlier <:+ live (earlier ++ .begins limit :: part)) ∧
      live (earlier ++ .begins limit :: body ++ [.ends]) = live earlier ∧
      (start.after (earlier ++ .begins limit :: body ++ [.ends])).deadline.override =
        (start.after earlier).deadline.override
  closed : live course = []

theorem Orderly.of_closed {start : State} {course : List Change} (fresh : start.slots = [])
    (closed : (start.after course).slots = []) : Orderly start course := by
  have stands (part : List Change) :
      (start.after part).Stands start.deadline.override (live part) :=
    State.Stands.after ⟨by simp, fresh⟩ part
  have done : live course = [] := by
    rw [← List.length_eq_zero_iff, ← length_saved start.deadline.override, ← (stands _).slots,
      closed, List.length_nil]
  refine ⟨fun part _ => .of_override (stands part).override,
    fun part _ => State.Keeps.after ⟨rfl, rfl⟩ part, ?_, done⟩
  rintro earlier limit rest rfl
  have ended : EndsWithin limit (live earlier) (limit :: live earlier) rest := by
    have none_left : liveFrom (limit :: live earlier) rest = [] := by rwa [live_append] at done
    exact endsWithin_of_length_le [] (by simp [none_left])
  obtain ⟨body, later, rfl, lives, ends⟩ := ended
  have back : live (earlier ++ .begins limit :: body ++ [.ends]) = live earlier := by
    rw [List.append_assoc, live_append]
    exact ends
  refine ⟨body, later, rfl, fun part begins => ?_, back, ?_⟩
  · rw [live_append]
    exact lives part begins
  · rw [(stands _).override, back, ← (stands _).override]

/-- A program of scopes that end newest first, or with the bodies that they surround, however
these end and however many of them end at once, with the deadline started anew and time passing at
any points in between. Its run shows the deadline at the marks of the program, one after another and
each just as the changes that lie behind it have left the deadline. The course on which the marks
lie is orderly, and the override that the run leaves is the one that it found. -/
theorem nested_scopes_are_orderly (deadline : Deadline) (clock : Clock) {program : List Action}
    (nested : areNested program = true) :
    let start : State := ⟨deadline, clock, []⟩
    (run deadline clock program).shown = (marks program).map start.sight ∧
      ((marks program).map Prod.snd ++ [course program]).Pairwise (· <+: ·) ∧
      Orderly start (course program) ∧
      (run deadline clock program).last.deadline.override = deadline.override := by
  intro start
  have leads := outline_leads deadline clock nested
  have orderly : Orderly start (course program) :=
    .of_closed rfl (by rw [course, leads.after]; rfl)
  have last := (orderly.governs _ List.prefix_rfl).override
  rw [orderly.closed, course, leads.after] at last
  exact ⟨leads.shown.symm, outline_ordered program, orderly, last⟩

/-- A guard, and two bodies inside each other. The inner one starts the deadline anew and crashes
with a guard of its own in hand, and the crash goes through the outer one as well. -/
def unwinding : List Action :=
  [.enter (.ofMillis 2000),
    .within (.ofMillis 50)
      [.sleep (.ofMillis 1),
        .within (.ofMillis 10) [.enter (.ofMillis 3), .restart, .quit .crashed 1] .finished,
        .restart]
      .finished,
    .sleep (.ofMillis 1)]

/-- On a deadline that has passed, the crash ends three scopes at once, and the first guard is the
innermost scope again. -/
theorem nested_scopes_are_orderly_when_unwound :
    areNested unwinding = true ∧
      course unwinding =
        [.begins (.ofMillis 2000), .begins (.ofMillis 50), .passes (.ofMillis 1),
          .begins (.ofMillis 10), .begins (.ofMillis 3), .restarts, .ends, .ends, .ends,
          .passes (.ofMillis 1), .ends] ∧
      (run ⟨some .zero, some 5, none⟩ ⟨10, []⟩ unwinding).shown.map
          (fun seen => (seen.1, seen.2.deadline.override)) =
        [(.opened, none), (.done, some (.ofMillis 2000)),
          (.opened, some (.ofMillis 50)), (.done, some (.ofMillis 50)),
          (.opened, some (.ofMillis 10)), (.done, some (.ofMillis 3)), (.done, some (.ofMillis 3)),
          (.done, some (.ofMillis 3)), (.closed .crashed, some (.ofMillis 10)),
          (.done, some (.ofMillis 50)), (.closed .crashed, some (.ofMillis 50)),
          (.done, some (.ofMillis 2000)), (.done, some (.ofMillis 2000)), (.done, none)] ∧
      Orderly ⟨⟨some .zero, some 5, none⟩, ⟨10, []⟩, []⟩ (course unwinding) ∧
      (run ⟨some .zero, some 5, none⟩ ⟨10, []⟩ unwinding).last.deadline.override = none := by
  have nested : areNested unwinding = true := rfl
  obtain ⟨shown, -, orderly⟩ :=
    nested_scopes_are_orderly ⟨some .zero, some 5, none⟩ ⟨10, []⟩ nested
  refine ⟨nested, rfl, ?_, orderly⟩
  rw [shown]
  rfl

end ResultCursor.Scope
