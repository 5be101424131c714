import Mathlib.Data.List.Basic
import ResultCursor.Time.Scope

/-! The course of a program of scopes: where its scopes begin and end, and where in between the
deadline starts anew and time passes, as one list that only the program decides. It says how far an
exit unwinds. The program also decides at which points of its course it shows the deadline, and on
what occasion. What it does to a deadline is what the changes of its course do, one after another,
and all that it shows, at whatever depth, is the deadline at these points. -/

namespace ResultCursor.Scope

/-- What may happen to a deadline on which scopes begin and end. -/
inductive Change where
  | begins (limit : Span)
  /-- Ends the newest scope. -/
  | ends
  | restarts
  | passes (time : Span)
  deriving DecidableEq, Repr

/-- Whether a scope begins or ends. -/
def Change.isOfScope : Change → Bool
  | .begins _ | .ends => true
  | .restarts | .passes _ => false

mutual

/-- Scopes end newest first: none is ended by the slot that it has. -/
def Action.isNested : Action → Bool
  | .leave _ => false
  | .within _ body _ => areNested body
  | _ => true

def areNested : List Action → Bool
  | [] => true
  | a :: rest => a.isNested && areNested rest

end

/-! ### Courses -/

/-- On what occasion the deadline is shown. -/
inductive Notice where
  /-- A body begins, or the whole program. -/
  | opened
  /-- An action is over, or the whole program. -/
  | done
  /-- The same of an action that ends a scope, if there is one to be ended. -/
  | wasHeld (b : Bool)
  /-- The scopes that a body held have ended. -/
  | closed (ending : Ending)
  deriving DecidableEq, Repr

/-- A point at which the deadline is shown: the occasion, and the changes that lie behind it. -/
abbrev Mark := Notice × List Change

/-- The changes that a part of a body makes, how many scopes the body holds after it, whether the
body ends there, and the points at which the deadline is shown on the way. -/
structure Stretch where
  changes : List Change
  held : Nat
  exit : Option Exit
  marks : List Mark
  deriving DecidableEq, Repr

namespace Stretch

/-- These changes, after which the deadline is shown. -/
def towards (notice : Notice) (changes : List Change) (held : Nat) (exit : Option Exit := none) :
    Stretch :=
  ⟨changes, held, exit, [(notice, changes)]⟩

/-- One stretch after another. -/
def andThen (w v : Stretch) : Stretch :=
  ⟨w.changes ++ v.changes, v.held, v.exit,
    w.marks ++ v.marks.map fun mark => (mark.1, w.changes ++ mark.2)⟩

/-- A body, from the point where it begins to the one where all scopes that it held have ended. -/
def closing (inner : Stretch) (notice : Notice) : Stretch :=
  inner.andThen (.towards notice (List.replicate inner.held .ends) 0)

end Stretch

mutual

/-- What an action does in a body that holds so many scopes. -/
def Action.stretch (held : Nat) : Action → Stretch
  | .enter limit => .towards .done [.begins limit] (held + 1)
  | .leaveNewest =>
    match held with
    | 0 => .towards (.wasHeld false) [] 0
    | left + 1 => .towards (.wasHeld true) [.ends] left
  | .leave _ => .towards .done [] held
  | .restart => .towards .done [.restarts] held
  | .sleep time => .towards .done [.passes time] held
  | .within limit body ending =>
    -- what the body still holds ends before the scope around it, whichever way the body ends
    let inner := stretchAll 0 body
    let ending := (inner.exit.map Exit.ending).getD ending
    ((Stretch.towards .opened [.begins limit] 0).andThen (inner.closing (.closed ending))).andThen
      (.towards .done [.ends] held (inner.exit.bind Exit.outward?))
  | .quit ending through => .towards .done [] held (some ⟨ending, through⟩)

def stretchAll (held : Nat) : List Action → Stretch
  | [] => ⟨[], held, none, []⟩
  | a :: rest =>
    let first := a.stretch held
    match first.exit with
    | some _ => first
    | none => first.andThen (stretchAll first.held rest)

end

/-- A whole program, up to the end of its last scope. -/
def outline (program : List Action) : Stretch :=
  (Stretch.towards .opened [] 0).andThen ((stretchAll 0 program).closing .done)

/-- All changes of a program. -/
def course (program : List Action) : List Change := (outline program).changes

/-- All points at which a program shows the deadline. -/
def marks (program : List Action) : List Mark := (outline program).marks

namespace State

def change (s : State) : Change → State
  | .begins limit => s.enter limit
  | .ends => s.leaveNewest.1
  | .restarts => { s with deadline := s.deadline.restart s.clock.now }
  | .passes time => { s with clock := s.clock.advance time }

/-- The state after these changes. -/
def after (s : State) (changes : List Change) : State := changes.foldl change s

variable {s : State}

@[simp] theorem after_nil : s.after [] = s := rfl

@[simp] theorem after_cons (c : Change) (cs : List Change) :
    s.after (c :: cs) = (s.change c).after cs := rfl

@[simp] theorem after_append (cs ds : List Change) : s.after (cs ++ ds) = (s.after cs).after ds :=
  List.foldl_append

/-! ### Scopes below those of a body -/

/-- The state with the scopes of the bodies around it, which are older. -/
def above (s : State) (below : List (Option (Option Span))) : State :=
  { s with slots := below ++ s.slots }

/-- The state in which the body of a scope begins. -/
def entering (s : State) (limit : Span) : State :=
  { s with deadline := s.deadline.withOverride (some limit), slots := [] }

variable (below : List (Option (Option Span)))

theorem above_enter (limit : Span) : (s.above below).enter limit = (s.enter limit).above below := by
  simp [above, enter]

/-- In the body of a scope the older scopes are those below, those of the body around it, and the
scope itself. -/
theorem above_begins (limit : Span) :
    (s.above below).change (.begins limit) =
      (s.entering limit).above (below ++ s.slots ++ [some s.deadline.override]) := by
  simp [change, above, enter, entering]

theorem leaveNewest_concat {slots : List (Option (Option Span))} {slot : Option (Option Span)}
    (hs : s.slots = slots ++ [slot]) : s.leaveNewest.1 = { s.leaveAll [slot] with slots } := by
  simp [leaveNewest, hs]

theorem above_leaveNewest (holds : s.slots ≠ []) :
    (s.above below).leaveNewest.1 = s.leaveNewest.1.above below := by
  obtain ⟨slots, slot, hs⟩ := s.slots.eq_nil_or_concat'.resolve_left holds
  have hb : (s.above below).slots = below ++ slots ++ [slot] := by simp [above, hs]
  rw [leaveNewest_concat hs, leaveNewest_concat hb]
  cases slot <;> rfl

theorem leaveAll_withSlots (ending slots : List (Option (Option Span))) :
    ({ s with slots } : State).leaveAll ending = { s.leaveAll ending with slots } := by
  induction ending generalizing s with
  | nil => rfl
  | cons slot rest ih => cases slot <;> simp only [leaveAll, putBack, ← ih]

theorem leaveNewest_close (holds : s.slots ≠ []) : s.leaveNewest.1.close = s.close := by
  obtain ⟨slots, slot, hs⟩ := s.slots.eq_nil_or_concat'.resolve_left holds
  rw [leaveNewest_concat hs]
  cases slot <;> simp [close, hs, leaveAll, leaveAll_withSlots]

/-- A body that closes ends one scope after another, newest first. -/
theorem after_replicate_ends :
    (s.above below).after (List.replicate s.slots.length .ends) = s.close.above below := by
  generalize hn : s.slots.length = n
  induction n generalizing s with
  | zero => simp [close, List.length_eq_zero_iff.mp hn, leaveAll, above]
  | succ n ih =>
    have holds : s.slots ≠ [] := List.ne_nil_of_length_eq_add_one hn
    have fewer : s.leaveNewest.1.slots.length = n := by
      obtain ⟨slots, slot, hs⟩ := s.slots.eq_nil_or_concat'.resolve_left holds
      rw [leaveNewest_concat hs]
      simpa [hs] using hn
    rw [List.replicate_succ, after_cons, change, above_leaveNewest _ holds, ih fewer,
      leaveNewest_close holds]

end State

/-! ### Marks -/

/-- Each mark lies on the way to the next, and the last of them on the way to the end. -/
def Stretch.Ordered (w : Stretch) : Prop :=
  (w.marks.map Prod.snd ++ [w.changes]).Pairwise (· <+: ·)

namespace Stretch.Ordered

variable {w v : Stretch}

theorem marks_prefix (h : w.Ordered) {mark : Mark} (hm : mark ∈ w.marks) :
    mark.2 <+: w.changes :=
  (List.pairwise_append.mp h).2.2 _ (List.mem_map_of_mem hm) _ (List.mem_singleton_self _)

theorem towards (notice : Notice) (changes : List Change) (held : Nat) (exit : Option Exit) :
    (Stretch.towards notice changes held exit).Ordered := by
  simp [Ordered, Stretch.towards]

theorem andThen (first : w.Ordered) (later : v.Ordered) : (w.andThen v).Ordered := by
  have onward : ((v.marks.map Prod.snd ++ [v.changes]).map (w.changes ++ ·)).Pairwise (· <+: ·) :=
    List.Pairwise.map _ (fun _ _ h => (List.prefix_append_right_inj _).mpr h) later
  have split : (w.andThen v).marks.map Prod.snd ++ [(w.andThen v).changes] =
      w.marks.map Prod.snd ++ (v.marks.map Prod.snd ++ [v.changes]).map (w.changes ++ ·) := by
    simp [Stretch.andThen, Function.comp_def]
  rw [Ordered, split, List.pairwise_append]
  refine ⟨(List.pairwise_append.mp first).1, onward, fun part early later late => ?_⟩
  obtain ⟨mark, hm, rfl⟩ := List.mem_map.mp early
  obtain ⟨more, -, rfl⟩ := List.mem_map.mp late
  exact (first.marks_prefix hm).trans (List.prefix_append _ _)

theorem closing (h : w.Ordered) (notice : Notice) : (w.closing notice).Ordered :=
  h.andThen (.towards _ _ _ _)

end Stretch.Ordered

mutual

theorem Action.stretch_ordered : (a : Action) → (held : Nat) → (a.stretch held).Ordered
  | .within _ body _, _ =>
    ((Stretch.Ordered.towards _ _ _ _).andThen ((stretchAll_ordered body 0).closing _)).andThen
      (.towards _ _ _ _)
  | .enter _, _ | .leaveNewest, 0 | .leaveNewest, _ + 1 | .leave _, _ | .restart, _ | .sleep _, _
  | .quit _ _, _ => .towards _ _ _ _

theorem stretchAll_ordered : (program : List Action) → (held : Nat) →
    (stretchAll held program).Ordered
  | [], _ => List.pairwise_singleton _ _
  | a :: rest, held => by
    rw [stretchAll]
    split
    · exact a.stretch_ordered held
    · exact (a.stretch_ordered held).andThen (stretchAll_ordered rest _)

end

theorem outline_ordered (program : List Action) : (outline program).Ordered :=
  (Stretch.Ordered.towards _ _ _ _).andThen ((stretchAll_ordered program 0).closing _)

/-! ### What a program shows -/

def Result.notice : Result → Notice
  | .nothing | .body .. => .done
  | .wasHeld b => .wasHeld b

mutual

/-- What is seen of the deadline inside the body of a scope, and on what occasion. -/
def Result.shown : Result → List (Notice × Snapshot)
  | .body steps first last ending =>
    (.opened, first) :: shownAll steps ++ [(.closed ending, last)]
  | .nothing | .wasHeld _ => []

def shownAll : List (Result × Snapshot) → List (Notice × Snapshot)
  | [] => []
  | step :: rest => shownStep step ++ shownAll rest

def shownStep : Result × Snapshot → List (Notice × Snapshot)
  | (r, seen) => r.shown ++ [(r.notice, seen)]

end

/-- All that a run shows of the deadline, at whatever depth. -/
def Run.shown (r : Run) : List (Notice × Snapshot) :=
  (.opened, r.first) :: shownAll r.steps ++ [(.done, r.last)]

/-- What is seen of the deadline at a point of a course that begins here. -/
def State.sight (s : State) (mark : Mark) : Notice × Snapshot :=
  (mark.1, (s.after mark.2).snapshot)

/-- The stretch leads from the one state to the other, and shows just this on the way. -/
structure Stretch.Leads (w : Stretch) (s t : State) (shown : List (Notice × Snapshot)) : Prop where
  after : s.after w.changes = t
  shown : w.marks.map s.sight = shown

namespace Stretch.Leads

variable {w v : Stretch} {s t u : State} {shown more : List (Notice × Snapshot)}

theorem towards {cs : List Change} (after : s.after cs = t) (notice : Notice) (held : Nat)
    (exit : Option Exit) :
    (Stretch.towards notice cs held exit).Leads s t [(notice, t.snapshot)] :=
  ⟨after, by simp [Stretch.towards, State.sight, after]⟩

theorem andThen (first : w.Leads s t shown) (later : v.Leads t u more) :
    (w.andThen v).Leads s u (shown ++ more) where
  after := by rw [Stretch.andThen, State.after_append, first.after, later.after]
  shown := by
    rw [← first.shown, ← later.shown, ← first.after]
    simp [Stretch.andThen, State.sight, Function.comp_def]

/-- The scopes that a body still holds end with it, newest first. -/
theorem closing {below : List (Option (Option Span))} (inner : w.Leads s (t.above below) shown)
    (held : w.held = t.slots.length) (notice : Notice) :
    (w.closing notice).Leads s (t.close.above below)
      (shown ++ [(notice, t.close.snapshot)]) := by
  have ends : (t.above below).after (List.replicate w.held .ends) = t.close.above below := by
    rw [held, State.after_replicate_ends]
  exact inner.andThen (.towards ends notice 0 none)

end Stretch.Leads

/-- The stretch does in a body what was done from the one state to the other, whatever scopes there
are around the body. -/
structure Stretch.Describes (w : Stretch) (s t : State) (shown : List (Notice × Snapshot))
    (exit : Option Exit) : Prop where
  leads : ∀ below, w.Leads (s.above below) (t.above below) shown
  held : w.held = t.slots.length
  exit : w.exit = exit

namespace Stretch.Describes

variable {w v : Stretch} {s t u : State} {shown more : List (Notice × Snapshot)}
  {exit : Option Exit}

theorem towards {cs : List Change} {held : Nat} (notice : Notice) (exit : Option Exit)
    (leads : ∀ below, (s.above below).after cs = t.above below) (same : held = t.slots.length) :
    (Stretch.towards notice cs held exit).Describes s t [(notice, t.snapshot)] exit :=
  ⟨fun below => .towards (leads below) notice held exit, same, rfl⟩

theorem andThen (first : w.Describes s t shown none) (later : v.Describes t u more exit) :
    (w.andThen v).Describes s u (shown ++ more) exit :=
  ⟨fun below => (first.leads below).andThen (later.leads below), later.held, later.exit⟩

theorem leaveNewest (s : State) :
    (Action.leaveNewest.stretch s.slots.length).Describes s s.leaveNewest.1
      [(.wasHeld s.leaveNewest.2, s.leaveNewest.1.snapshot)] none := by
  rcases s.slots.eq_nil_or_concat' with none_held | ⟨slots, slot, hs⟩
  · have left : s.leaveNewest = (s, false) := by simp [State.leaveNewest, none_held]
    rw [left, none_held]
    exact towards (.wasHeld false) none (fun _ => rfl) (by simp [none_held])
  · have held : s.slots.length = slots.length + 1 := by simp [hs]
    have left : s.leaveNewest.2 = true := by simp [State.leaveNewest, hs]
    rw [left, held]
    exact towards (.wasHeld true) none
      (fun below => s.above_leaveNewest below (List.ne_nil_of_length_eq_add_one held))
      (by simp [State.leaveNewest_concat hs])

theorem within (limit : Span) (ending : Ending)
    (inner : w.Describes (s.entering limit) t shown exit) :
    (((Stretch.towards .opened [.begins limit] 0).andThen
        (w.closing (.closed ((w.exit.map Exit.ending).getD ending)))).andThen
      (.towards .done [.ends] s.slots.length (w.exit.bind Exit.outward?))).Describes s
      { t.close.putBack s.deadline.override with slots := s.slots }
      ((.opened, (s.entering limit).snapshot) :: shown ++
        [(.closed ((exit.map Exit.ending).getD ending), t.close.snapshot)] ++
        [(.done, (t.close.putBack s.deadline.override).snapshot)])
      (exit.bind Exit.outward?) := by
  obtain ⟨leads, held, rfl⟩ := inner
  refine ⟨fun below => ?_, rfl, rfl⟩
  -- in the body the older scopes are those around it, and the scope itself
  let around := below ++ s.slots ++ [some s.deadline.override]
  have opens : (s.above below).after [.begins limit] = (s.entering limit).above around :=
    s.above_begins below limit
  have ends : (t.close.above around).after [.ends] =
      ({ t.close.putBack s.deadline.override with slots := s.slots } : State).above below := by
    have newest : (t.close.above around).slots = around := by simp [State.above, State.close]
    rw [State.after_cons, State.change, State.leaveNewest_concat newest]
    rfl
  have body := (leads around).closing held (.closed ((w.exit.map Exit.ending).getD ending))
  exact ((Stretch.Leads.towards opens .opened 0 none).andThen body).andThen
    (.towards ends .done s.slots.length _)

end Stretch.Describes

mutual

theorem Action.stretch_describes : (a : Action) → (s : State) → a.isNested = true →
    (a.stretch s.slots.length).Describes s (perform s a).1
      (shownStep ((perform s a).2.1, (perform s a).1.snapshot)) (perform s a).2.2
  | .enter limit, s, _ =>
    .towards .done none (fun below => s.above_enter below limit) (by simp [perform, State.enter])
  | .leaveNewest, s, _ => .leaveNewest s
  | .restart, _, _ => .towards .done none (fun _ => rfl) rfl
  | .sleep _, _, _ => .towards .done none (fun _ => rfl) rfl
  | .within limit body ending, s, nested =>
    .within limit ending (stretchAll_describes body (s.entering limit) nested)
  | .quit _ _, _, _ => .towards .done _ (fun _ => rfl) rfl

theorem stretchAll_describes : (program : List Action) → (s : State) →
    areNested program = true →
    (stretchAll s.slots.length program).Describes s (performAll s program).1
      (shownAll (performAll s program).2.1) (performAll s program).2.2
  | [], _, _ => ⟨fun _ => ⟨rfl, rfl⟩, rfl, rfl⟩
  | a :: rest, s, nested => by
    simp only [areNested, Bool.and_eq_true] at nested
    have first := a.stretch_describes s nested.1
    generalize done : perform s a = p at first
    obtain ⟨t, r, exit⟩ := p
    simp only [stretchAll, performAll, done, first.exit]
    cases exit with
    | some e =>
      -- the rest of the body is left out
      simpa [shownAll] using first
    | none =>
      have later := stretchAll_describes rest t nested.2
      rw [first.held]
      exact first.andThen later

end

/-! ### Whole programs -/

/-- A run of a program leads along its course to a state without scopes, and what it shows is the
deadline at the marks of the program. -/
theorem outline_leads (deadline : Deadline) (clock : Clock) {program : List Action}
    (nested : areNested program = true) :
    (outline program).Leads ⟨deadline, clock, []⟩
      (performAll ⟨deadline, clock, []⟩ program).1.close (run deadline clock program).shown := by
  have whole := stretchAll_describes program ⟨deadline, clock, []⟩ nested
  exact (Stretch.Leads.towards rfl .opened 0 none).andThen
    ((whole.leads []).closing whole.held .done)

end ResultCursor.Scope
