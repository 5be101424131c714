import ResultCursor.Blocking
import ResultCursor.Proofs.Run.Situation

/-! Runs of cursors as lists of moves. A move is whatever can happen next: a call is made, the
connection comes to an outcome, another thread uses the signal, a call is given up, a handle goes,
time passes and others use the deadline. -/

namespace ResultCursor

/-- A result, if the command came to one. -/
def Outcome.result? : Outcome → Option (Except Failure Document)
  | .reply d => some (.ok d)
  | .failure f => some (.error f)
  | .crash _ => none

/-- What holds at first and is kept by every possible move of an allowed kind holds after every run
of such moves. -/
theorem run_induction_of {σ μ : Type} (ok : μ → Prop) {act : σ → μ → Option σ} {P : σ → Prop}
    {p₀ p : σ} {moves : List μ} (first : P p₀)
    (move : ∀ p q m, ok m → P p → act p m = some q → P q) (allowed : ∀ m ∈ moves, ok m)
    (run : moves.foldlM act p₀ = some p) : P p := by
  induction moves generalizing p₀ with
  | nil =>
    cases run
    exact first
  | cons m moves ih =>
    simp only [List.foldlM_cons, Option.bind_eq_bind, Option.bind_eq_some_iff] at run
    obtain ⟨q, hm, hr⟩ := run
    have hq := move p₀ q m (allowed m (by simp)) first hm
    exact ih hq (fun n hn => allowed n (by simp [hn])) hr

theorem run_induction {σ μ : Type} {act : σ → μ → Option σ} {P : σ → Prop} {p₀ p : σ}
    {moves : List μ} (first : P p₀) (move : ∀ p q m, P p → act p m = some q → P q)
    (run : moves.foldlM act p₀ = some p) : P p :=
  run_induction_of (fun _ => True) first (fun p q m _ => move p q m) (fun _ _ => trivial) run

/-- What holds at first and is kept by every move that is not bad where it is made holds after every
run without bad moves. -/
theorem run_induction_unless {σ μ : Type} (bad : σ → μ → Prop) {act : σ → μ → Option σ}
    {P : σ → Prop} {p₀ p : σ} {moves : List μ} (first : P p₀)
    (move : ∀ p q m, ¬bad p m → P p → act p m = some q → P q)
    (good : ∀ pre m post q, moves = pre ++ m :: post → pre.foldlM act p₀ = some q → ¬bad q m)
    (run : moves.foldlM act p₀ = some p) : P p := by
  induction moves generalizing p₀ with
  | nil =>
    cases run
    exact first
  | cons m moves ih =>
    simp only [List.foldlM_cons, Option.bind_eq_bind, Option.bind_eq_some_iff] at run
    obtain ⟨q, hm, hr⟩ := run
    refine ih (move p₀ q m (good [] m moves p₀ rfl rfl) first hm) (fun pre n post r hs hp => ?_) hr
    refine good (m :: pre) n post r (by rw [hs]; rfl) ?_
    simpa only [List.foldlM_cons, hm, Option.bind_eq_bind, Option.bind_some] using hp

/-- What is counted at every bad move, and at no other, is counted as often as it was at first if
and only if the run makes no bad move. -/
theorem run_count_iff {σ μ : Type} {act : σ → μ → Option σ} (bad : σ → μ → Prop) (count : σ → Nat)
    {P : σ → Prop}
    (move : ∀ p q m, P p → act p m = some q → P q ∧
      (bad p m → count q = count p + 1) ∧ (¬bad p m → count q = count p))
    {p₀ p : σ} {moves : List μ} (first : P p₀) (run : moves.foldlM act p₀ = some p) :
    count p₀ ≤ count p ∧ (count p = count p₀ ↔
      ∀ pre m post q, moves = pre ++ m :: post → pre.foldlM act p₀ = some q → ¬bad q m) := by
  induction moves generalizing p₀ with
  | nil =>
    cases run
    simp
  | cons m moves ih =>
    simp only [List.foldlM_cons, Option.bind_eq_bind, Option.bind_eq_some_iff] at run
    obtain ⟨q, hm, hr⟩ := run
    obtain ⟨hq, hbad, hgood⟩ := move p₀ q m first hm
    obtain ⟨hle, hiff⟩ := ih hq hr
    by_cases hb : bad p₀ m
    · have hc := hbad hb
      refine ⟨by omega, fun he => by omega, ?_⟩
      intro hall
      exact absurd hb (hall [] m moves p₀ rfl rfl)
    · have hc := hgood hb
      refine ⟨by omega, ?_, ?_⟩
      · intro he pre n post r hs hp
        cases pre with
        | nil =>
          cases hs
          cases hp
          exact hb
        | cons n' pre =>
          obtain ⟨rfl, ht⟩ := List.cons_eq_cons.mp hs
          simp only [List.foldlM_cons, hm, Option.bind_eq_bind, Option.bind_some] at hp
          exact hiff.mp (by omega) pre n post r ht hp
      · intro hall
        have he : count p = count q := by
          apply hiff.mpr
          intro pre n post r hs hp
          refine hall (m :: pre) n post r (by rw [hs]; rfl) ?_
          simpa only [List.foldlM_cons, hm, Option.bind_eq_bind, Option.bind_some] using hp
        omega

/-- The same of runs that start with nothing counted. -/
theorem run_zero_iff {σ μ : Type} {start : Except Failure σ} {act : σ → μ → Option σ}
    (bad : σ → μ → Prop) (count : σ → Nat) {P : σ → Prop}
    (first : ∀ p₀, start = .ok p₀ → P p₀ ∧ count p₀ = 0)
    (move : ∀ p q m, P p → act p m = some q → P q ∧
      (bad p m → count q = count p + 1) ∧ (¬bad p m → count q = count p))
    {moves : List μ} {p : σ} (run : ∃ p₀, start = .ok p₀ ∧ moves.foldlM act p₀ = some p) :
    count p = 0 ↔ ∀ pre m post q, moves = pre ++ m :: post →
      (∃ p₀, start = .ok p₀ ∧ pre.foldlM act p₀ = some q) → ¬bad q m := by
  obtain ⟨p₀, hs, hr⟩ := run
  obtain ⟨hp, hz⟩ := first p₀ hs
  have hiff := (run_count_iff bad count move hp hr).2
  rw [hz] at hiff
  apply hiff.trans
  constructor
  · rintro h pre m post q hm ⟨q₀, hq₀, hq⟩
    cases hs.symm.trans hq₀
    exact h pre m post q hm hq
  · intro h pre m post q hm hq
    exact h pre m post q hm ⟨p₀, hs, hq⟩

/-! ### Blocking cursors -/

namespace Blocking

inductive Move where
  | request (r : Request)
  | outcome (o : Outcome)
  | interrupt
  | requestClose
  | adjust (deadline : Deadline) (clock : Clock)
  /-- The cursor goes out of use. -/
  | drop

/-- A blocking cursor in a run. -/
structure Play where
  cursor : Blocking
  /-- What the call under way waits for. -/
  wait : Option Wait
  history : History

namespace Play

def session (p : Play) : Session := p.cursor.session

def control (p : Play) : Control := .ofWait p.wait

def situation (p : Play) : Situation := ⟨p.session, p.control, p.history⟩

/-- No call is under way and the cursor is in use. -/
def isFree (p : Play) : Bool := p.wait.isNone && !p.history.ended

def follow (h : History) (r : Blocking × Progress) : Play := ⟨r.1, r.2.wait?, h.follow r.2⟩

def withSignal (p : Play) (signal : Signal) : Play :=
  { p with cursor := { p.cursor with signal } }

def act (p : Play) : Move → Option Play
  | .request r => if p.isFree then some (follow p.history (p.cursor.request r)) else none
  | .outcome o =>
    p.wait.map fun wait =>
      follow (p.history.hear p.session.cursor.quota wait o) (p.cursor.resume wait o)
  | .interrupt => some (p.withSignal p.cursor.signal.interrupt)
  | .requestClose => some (p.withSignal p.cursor.signal.requestClose)
  | .adjust deadline clock =>
    some { p with cursor := { p.cursor with session := { p.session with deadline, clock } } }
  | .drop => if p.isFree then some (follow p.history.retire p.cursor.drop) else none

/-- What a move does, and when it is possible. -/
inductive Acts (p : Play) : Move → Play → Prop where
  | request (r : Request) (free : p.isFree = true) :
      Acts p (.request r) (follow p.history (p.cursor.request r))
  | outcome {wait : Wait} (o : Outcome) (waits : p.wait = some wait) :
      Acts p (.outcome o)
        (follow (p.history.hear p.session.cursor.quota wait o) (p.cursor.resume wait o))
  | interrupt : Acts p .interrupt (p.withSignal p.cursor.signal.interrupt)
  | requestClose : Acts p .requestClose (p.withSignal p.cursor.signal.requestClose)
  | adjust (deadline : Deadline) (clock : Clock) :
      Acts p (.adjust deadline clock)
        { p with cursor := { p.cursor with session := { p.session with deadline, clock } } }
  | drop (free : p.isFree = true) : Acts p .drop (follow p.history.retire p.cursor.drop)

theorem acts {p q : Play} {m : Move} (hm : p.act m = some q) : p.Acts m q := by
  cases m with
  | request r =>
    simp only [act, Option.ite_none_right_eq_some, Option.some.injEq] at hm
    obtain ⟨free, rfl⟩ := hm
    exact .request r free
  | outcome o =>
    simp only [act, Option.map_eq_some_iff] at hm
    obtain ⟨wait, waits, rfl⟩ := hm
    exact .outcome o waits
  | interrupt =>
    cases hm
    exact .interrupt
  | requestClose =>
    cases hm
    exact .requestClose
  | adjust deadline clock =>
    cases hm
    exact .adjust deadline clock
  | drop =>
    simp only [act, Option.ite_none_right_eq_some, Option.some.injEq] at hm
    obtain ⟨free, rfl⟩ := hm
    exact .drop free

end Play

/-- Opens a cursor. -/
def start (reply : Document) (setting : Setting) : Except Failure Play :=
  match Blocking.ofReply reply setting with
  | .error f => .error f
  | .ok r => .ok (Play.follow (.ofReply reply setting) r)

/-- A run comes to `p` by the moves, all of them possible. -/
def Comes (reply : Document) (setting : Setting) (moves : List Move) (p : Play) : Prop :=
  ∃ p₀, start reply setting = .ok p₀ ∧ moves.foldlM Play.act p₀ = some p

theorem Comes.append {reply : Document} {setting : Setting} {moves later : List Move} {p q : Play}
    (run : Comes reply setting moves p) (further : later.foldlM Play.act p = some q) :
    Comes reply setting (moves ++ later) q := by
  obtain ⟨p₀, hs, hp⟩ := run
  refine ⟨p₀, hs, ?_⟩
  rw [List.foldlM_append, hp]
  exact further

end Blocking

/-! ### Shared cursors -/

def Stage.wait? : Stage → Option Wait
  | .waiting wait => some wait
  | .inLine _ => none

/-- What the call that holds the turn waits for. -/
def Calls.wait? (c : Calls) : Option Wait := c.running.findSome? fun p => p.2.wait?

/-- Takes note of the answer of a call that came to one. -/
def History.note (h : History) : Calls.Status → History
  | .answered a => h.answer a
  | _ => h

namespace Shared

/-- The clean-up that a last handle leaves behind. -/
def Leftover.task? : Leftover → Option (Option Command)
  | .task kill => some kill
  | .finished => none

inductive Move where
  | start (r : Request)
  /-- A call in line looks whether its turn has come. -/
  | turn (i : Nat)
  | deliver (i : Nat) (o : Outcome)
  | abandon (i : Nat)
  | adjust (deadline : Deadline) (clock : Clock)
  /-- The last handle goes. -/
  | drop (tasksRun : Bool)
  /-- The clean-up that the last handle has left behind begins. -/
  | cleanUp
  /-- The outcome for the opening or the clean-up. -/
  | outcome (o : Outcome)
  /-- The opening or the clean-up is given up. -/
  | giveUp

/-- A shared cursor in a run. -/
structure Play where
  calls : Calls
  /-- What the opening, or the clean-up after the last handle, waits for. -/
  wait : Option Wait
  /-- The clean-up that the last handle has left behind, until it begins. -/
  task : Option (Option Command) := none
  history : History

namespace Play

def shared (p : Play) : Shared := p.calls.shared

def session (p : Play) : Session := p.shared.session

def control (p : Play) : Control :=
  match p.wait, p.task with
  | none, some kill => .cleaning kill .opened
  | wait, _ => .ofWait (wait.or p.calls.wait?)

def situation (p : Play) : Situation := ⟨p.session, p.control, p.history⟩

/-- The cursor was opened and there are handles left. -/
def inUse (p : Play) : Bool := p.wait.isNone && !p.history.ended

def withShared (p : Play) (shared : Shared) : Play := { p with calls := { p.calls with shared } }

def follow (p : Play) (r : Calls × Calls.Status) : Play :=
  { p with calls := r.1, history := p.history.note r.2 }

/-- Goes on with the opening or the clean-up. -/
def goOn (p : Play) (h : History) (r : Shared × Progress) : Play :=
  { p.withShared r.1 with wait := r.2.wait?, task := none, history := h.follow r.2 }

/-- What becomes of the cursor when the opening or the clean-up is given up while it waits. One
that was still being opened is dropped. -/
def givenUp (p : Play) (wait : Wait) : Shared :=
  if p.history.ended then p.shared.abandon wait else ((p.shared.abandon wait).drop true).1

def act (p : Play) : Move → Option Play
  | .start r =>
    if p.inUse then
      let (calls, _, status) := p.calls.start r
      some (p.follow (calls, status))
    else none
  | .turn i => if p.inUse then some (p.follow (p.calls.turn i)) else none
  | .deliver i o =>
    match p.calls.stage? i with
    | some (.waiting wait) =>
      let h := p.history.hear p.session.cursor.quota wait o
      some ({ p with history := h }.follow (p.calls.deliver i o))
    | _ => none
  | .abandon i =>
    match p.calls.stage? i with
    | some (.waiting wait) =>
      some { p with calls := p.calls.abandon i, history := p.history.giveUp wait }
    | some (.inLine _) => some { p with calls := p.calls.abandon i }
    | none => none
  | .adjust deadline clock =>
    some (p.withShared { p.shared with session := { p.session with deadline, clock } })
  | .drop tasksRun =>
    if p.inUse && p.calls.running.isEmpty then
      let (shared, left) := p.shared.drop tasksRun
      some { p.withShared shared with task := left.task?, history := p.history.retire }
    else none
  | .cleanUp => p.task.map fun kill => p.goOn p.history (p.shared.cleanUp kill)
  | .outcome o =>
    p.wait.map fun wait =>
      p.goOn (p.history.hear p.session.cursor.quota wait o) (p.shared.resume wait o)
  | .giveUp =>
    match p.wait, p.task with
    | some wait, _ =>
      some { p.withShared (p.givenUp wait) with wait := none, history := p.history.giveUp wait }
    | none, some _ => some { p.withShared p.shared.discard with task := none }
    | none, none => none

/-- What a possible move does, with what makes it possible. -/
inductive Acts (p : Play) : Move → Play → Prop where
  | start (r : Request) (used : p.inUse = true) :
      Acts p (.start r) (p.follow ((p.calls.start r).1, (p.calls.start r).2.2))
  | turn (i : Nat) (used : p.inUse = true) : Acts p (.turn i) (p.follow (p.calls.turn i))
  | deliver {i : Nat} {wait : Wait} (o : Outcome)
      (waits : p.calls.stage? i = some (.waiting wait)) :
      Acts p (.deliver i o)
        ({ p with history := p.history.hear p.session.cursor.quota wait o }.follow
          (p.calls.deliver i o))
  | abandon {i : Nat} {wait : Wait} (waits : p.calls.stage? i = some (.waiting wait)) :
      Acts p (.abandon i)
        { p with calls := p.calls.abandon i, history := p.history.giveUp wait }
  | leaveLine {i : Nat} {r : Request} (inLine : p.calls.stage? i = some (.inLine r)) :
      Acts p (.abandon i) { p with calls := p.calls.abandon i }
  | adjust (deadline : Deadline) (clock : Clock) :
      Acts p (.adjust deadline clock)
        (p.withShared { p.shared with session := { p.session with deadline, clock } })
  | drop (tasksRun : Bool) (used : p.inUse = true) (alone : p.calls.running = []) :
      Acts p (.drop tasksRun)
        { p.withShared (p.shared.drop tasksRun).1 with
          task := (p.shared.drop tasksRun).2.task?, history := p.history.retire }
  | cleanUp {kill : Option Command} (due : p.task = some kill) :
      Acts p .cleanUp (p.goOn p.history (p.shared.cleanUp kill))
  | outcome {wait : Wait} (o : Outcome) (waits : p.wait = some wait) :
      Acts p (.outcome o)
        (p.goOn (p.history.hear p.session.cursor.quota wait o) (p.shared.resume wait o))
  | giveUp {wait : Wait} (waits : p.wait = some wait) :
      Acts p .giveUp
        { p.withShared (p.givenUp wait) with wait := none, history := p.history.giveUp wait }
  | discard {kill : Option Command} (rests : p.wait = none) (due : p.task = some kill) :
      Acts p .giveUp { p.withShared p.shared.discard with task := none }

theorem acts {p q : Play} {m : Move} (hm : p.act m = some q) : p.Acts m q := by
  cases m with
  | start r =>
    simp only [act, Option.ite_none_right_eq_some, Option.some.injEq] at hm
    obtain ⟨used, rfl⟩ := hm
    exact .start r used
  | turn i =>
    simp only [act, Option.ite_none_right_eq_some, Option.some.injEq] at hm
    obtain ⟨used, rfl⟩ := hm
    exact .turn i used
  | deliver i o =>
    simp only [act] at hm
    split at hm
    · next waits =>
      cases hm
      exact .deliver o waits
    · cases hm
  | abandon i =>
    simp only [act] at hm
    split at hm
    · next waits =>
      cases hm
      exact .abandon waits
    · next inLine =>
      cases hm
      exact .leaveLine inLine
    · cases hm
  | adjust deadline clock =>
    cases hm
    exact .adjust deadline clock
  | drop tasksRun =>
    simp only [act, Option.ite_none_right_eq_some, Bool.and_eq_true, List.isEmpty_iff,
      Option.some.injEq] at hm
    obtain ⟨⟨used, alone⟩, rfl⟩ := hm
    exact .drop tasksRun used alone
  | cleanUp =>
    simp only [act, Option.map_eq_some_iff] at hm
    obtain ⟨kill, due, rfl⟩ := hm
    exact .cleanUp due
  | outcome o =>
    simp only [act, Option.map_eq_some_iff] at hm
    obtain ⟨wait, waits, rfl⟩ := hm
    exact .outcome o waits
  | giveUp =>
    simp only [act] at hm
    split at hm
    · next waits =>
      cases hm
      exact .giveUp waits
    · next rests due =>
      cases hm
      exact .discard rests due
    · cases hm

end Play

/-- Opens a cursor. -/
def start (reply : Document) (setting : Setting) : Except Failure Play :=
  match Shared.ofReply reply setting with
  | .error f => .error f
  | .ok (shared, progress) =>
    let h := (History.ofReply reply setting).follow progress
    .ok { calls := { shared }, wait := progress.wait?, history := h }

/-- A run comes to `p` by the moves, all of them possible. -/
def Comes (reply : Document) (setting : Setting) (moves : List Move) (p : Play) : Prop :=
  ∃ p₀, start reply setting = .ok p₀ ∧ moves.foldlM Play.act p₀ = some p

theorem Comes.append {reply : Document} {setting : Setting} {moves later : List Move} {p q : Play}
    (run : Comes reply setting moves p) (further : later.foldlM Play.act p = some q) :
    Comes reply setting (moves ++ later) q := by
  obtain ⟨p₀, hs, hp⟩ := run
  refine ⟨p₀, hs, ?_⟩
  rw [List.foldlM_append, hp]
  exact further

theorem Comes.onward {reply : Document} {setting : Setting} {moves : List Move} {p q : Play}
    {m : Move} (run : Comes reply setting moves p) (acted : p.act m = some q) :
    Comes reply setting (moves ++ [m]) q := by
  refine run.append ?_
  rw [List.foldlM_cons, acted]
  rfl

end Shared

/-- The situations that the runs of both kinds of cursors come to. -/
inductive Situation.Reached (reply : Document) (setting : Setting) : Situation → Prop where
  | blocking {moves : List Blocking.Move} {p : Blocking.Play}
      (run : Blocking.Comes reply setting moves p) : Reached reply setting p.situation
  | shared {moves : List Shared.Move} {p : Shared.Play}
      (run : Shared.Comes reply setting moves p) : Reached reply setting p.situation

/-! ### Single runs -/

/-- A reply with a batch of the collection `db.items`. -/
def BatchReply.Place.reply (place : BatchReply.Place) (id : Int64) (batch : List Document) :
    Document :=
  [("cursor", .document [("id", .int64 id), ("ns", .string "db.items"),
    (place.fieldName, .array (batch.map .document))])]

/-- A document with a number. -/
def item (n : Int32) : Document := [("n", .int32 n)]

/-- Plain surroundings, in which each resource was leased once before. -/
def plainSetting (deadline : Deadline) : Setting := ⟨.localServer, {}, deadline, ⟨0, []⟩, ⟨1, 1⟩⟩

end ResultCursor
