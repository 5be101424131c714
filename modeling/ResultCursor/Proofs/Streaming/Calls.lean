import ResultCursor.Proofs.Leases
import ResultCursor.Proofs.Sharing.Answers
import ResultCursor.Proofs.Streaming.Items

/-! What a move on a shared cursor means for a call. It leaves every call but its own where it was.
A call for the next batch is for that until it is over, and its answer is a batch or a failure. As
long as the last handle has not gone the cursor stays in use. -/

namespace ResultCursor

/-! ### Calls apart from each other -/

namespace Calls

variable {c : Calls} {i j : Nat} {r : Request} {s : Stage} {x : Shared × Progress}

theorem forget_stage?_ne (hj : j ≠ i) : (c.forget i).stage? j = c.stage? j := by
  unfold stage? forget
  induction c.running with
  | nil => rfl
  | cons e rest ih =>
    obtain ⟨k, t⟩ := e
    by_cases same : k = i
    · subst same
      simp [List.lookup_cons, beq_false_of_ne hj, ih]
    · simp [same, List.lookup_cons, ih]

theorem put_stage?_ne (hj : j ≠ i) (s : Stage) : (c.put i s).stage? j = c.stage? j := by
  have apart : (c.put i s).stage? j = (c.forget i).stage? j := by
    simp [stage?, put, List.lookup_append, List.lookup_cons, beq_false_of_ne hj]
  rw [apart, forget_stage?_ne hj]

theorem settle_stage?_ne (hj : j ≠ i) : (c.settle i x).1.stage? j = c.stage? j := by
  obtain ⟨shared, progress⟩ := x
  cases progress with
  | answered a => exact forget_stage?_ne (c := c) hj
  | crashed text => exact forget_stage?_ne (c := c) hj
  | waiting sending wait => exact put_stage?_ne (c := { c with shared }) hj _

theorem turn_stage?_ne (hj : j ≠ i) : (c.turn i).1.stage? j = c.stage? j := by
  unfold turn
  split
  · split
    · exact settle_stage?_ne hj
    · rfl
  · rfl

theorem start_stage?_ne (hj : j ≠ c.fresh) (r : Request) : (c.start r).1.stage? j = c.stage? j := by
  rw [start_eq, turn_stage?_ne hj]
  exact put_stage?_ne (c := c) hj (.inLine r)

theorem deliver_stage?_ne (hj : j ≠ i) (o : Outcome) :
    (c.deliver i o).1.stage? j = c.stage? j := by
  unfold deliver
  split
  · exact settle_stage?_ne hj
  · rfl

theorem abandon_stage?_ne (hj : j ≠ i) : (c.abandon i).stage? j = c.stage? j := by
  unfold abandon
  split
  · exact forget_stage?_ne hj
  · exact forget_stage?_ne (c := c) hj
  · rfl

theorem abandon_stage? (c : Calls) (i : Nat) : (c.abandon i).stage? i = none := by
  unfold abandon
  split
  · exact forget_stage? c i
  · exact forget_stage? c i
  · next none => exact none

theorem running_eq_nil (vacant : ∀ j, c.stage? j = none) : c.running = [] := by
  refine List.eq_nil_iff_forall_not_mem.mpr fun ⟨j, s⟩ he => ?_
  exact absurd rfl (bne_iff_ne.mp (List.lookup_eq_none_iff.mp (vacant j) _ he))

/-! ### One call and its request -/

theorem settle_serves (attends : Shared.Attends c.shared r x)
    (now : (c.settle i x).1.stage? i = some s) : s.Serves r := by
  obtain ⟨shared, progress⟩ := x
  cases progress with
  | answered a => cases (retire_stage? { c with shared } i).symm.trans now
  | crashed text => cases (retire_stage? { c with shared } i).symm.trans now
  | waiting sending wait =>
    cases (put_stage? { c with shared } i (.waiting wait)).symm.trans now
    exact attends.serves sending wait rfl

theorem settle_ends {a : Answer} (answered : (c.settle i x).2 = .answered a) :
    (c.settle i x).1.stage? i = none := by
  obtain ⟨shared, progress⟩ := x
  cases progress with
  | answered a => exact retire_stage? { c with shared } i
  | _ => cases answered

/-- The call, if it is under way, serves the request. -/
def At (c : Calls) (i : Nat) (r : Request) : Prop := ∀ s, c.stage? i = some s → s.Serves r

theorem entered_at (c : Calls) (r : Request) : (c.entered r).At c.fresh r := by
  intro s now
  cases (c.entered_stage? r).symm.trans now
  rfl

/-- What comes of a move by a call for the next batch. -/
structure Drives (i : Nat) (x : Calls × Status) : Prop where
  serves : x.1.At i (.iterate .next)
  hands : ∀ a, x.2 = .answered a → (a.isBatch || a.isFailure) = true ∧ x.1.stage? i = none

theorem settle_drives (attends : Shared.Attends c.shared (.iterate .next) x)
    (hands : Shared.Hands x) : Drives i (c.settle i x) where
  serves _ now := settle_serves attends now
  hands a answered := ⟨hands a (settle_answered.mp answered), settle_ends answered⟩

theorem At.turn (about : c.At i (.iterate .next)) : Drives i (c.turn i) := by
  unfold Calls.turn
  split
  · next r now =>
    split
    · cases about _ now
      exact settle_drives (Shared.request_attends _ _) Shared.request_hands
    · exact ⟨about, fun _ answered => nomatch answered⟩
  · exact ⟨about, fun _ answered => nomatch answered⟩

theorem start_drives (c : Calls) :
    Drives c.fresh ((c.start (.iterate .next)).1, (c.start (.iterate .next)).2.2) := by
  rw [start_eq]
  exact (c.entered_at _).turn

theorem At.deliver (about : c.At i (.iterate .next)) (o : Outcome) : Drives i (c.deliver i o) := by
  unfold Calls.deliver
  split
  · next wait now =>
    have serves := about _ now
    exact settle_drives (Shared.resume_attends serves o) (Shared.resume_hands serves o)
  · exact ⟨about, fun _ answered => nomatch answered⟩

end Calls

/-! ### Moves -/

namespace Shared

variable {p q : Play} {m : Move} {c c' : Calls} {i j : Nat} {log : Log}

/-- The call that makes a move, or for which it is made. -/
def Move.subject? (fresh : Nat) : Move → Option Nat
  | .start _ => some fresh
  | .turn i => some i
  | .deliver i _ => some i
  | .abandon i => some i
  | _ => none

theorem Moved.stage?_ne (moved : Moved c m c') (apart : m.subject? c.fresh ≠ some j) :
    c'.stage? j = c.stage? j := by
  cases moved with
  | start r => exact Calls.start_stage?_ne (fun same => apart (congrArg some same.symm)) r
  | turn i => exact Calls.turn_stage?_ne fun same => apart (congrArg some same.symm)
  | deliver i o => exact Calls.deliver_stage?_ne (fun same => apart (congrArg some same.symm)) o
  | abandon i => exact Calls.abandon_stage?_ne fun same => apart (congrArg some same.symm)
  | beside shared => rfl

/-- A call that is not under way does not come up again unless it is started. -/
theorem Moved.vacant (moved : Moved c m c') (vacant : c.stage? j = none)
    (unstarted : ∀ r, m ≠ .start r) : c'.stage? j = none := by
  by_cases apart : m.subject? c.fresh = some j
  · cases moved with
    | start r => exact absurd rfl (unstarted r)
    | turn i =>
      cases apart
      simp [Calls.turn, vacant]
    | deliver i o =>
      cases apart
      simp [Calls.deliver, vacant]
    | abandon i =>
      cases apart
      exact Calls.abandon_stage? c _
    | beside shared => exact vacant
  · rw [moved.stage?_ne apart, vacant]

/-- A call that is given up is over. -/
theorem act_abandon_stage? (hm : p.act (.abandon i) = some q) : q.calls.stage? i = none := by
  cases Play.acts hm with
  | abandon waits => exact Calls.abandon_stage? _ i
  | leaveLine inLine => exact Calls.abandon_stage? _ i

/-- A move by the call `i`, which looks for the next batch. -/
inductive Play.Calling (p : Play) : Nat → Move → Prop where
  | start : Calling p p.calls.fresh (.start (.iterate .next))
  | turn {i : Nat} (about : p.calls.At i (.iterate .next)) : Calling p i (.turn i)
  | deliver {i : Nat} (about : p.calls.At i (.iterate .next)) (o : Outcome) :
      Calling p i (.deliver i o)

theorem Play.Calling.subject (calling : p.Calling i m) : m.subject? p.calls.fresh = some i := by
  cases calling <;> rfl

/-- The call goes on about its request, or is over; and its answer is a batch or a failure. -/
theorem Play.Calling.drives (calling : p.Calling i m) (hm : p.act m = some q) :
    q.calls.At i (.iterate .next) ∧ ∀ e, p.answer? m = some e →
      (e.2.isBatch || e.2.isFailure) = true ∧ q.calls.stage? i = none := by
  have told {x : Calls × Calls.Status} (drives : Calls.Drives i x) (e : Nat × Answer)
      (answered : x.2.answer?.map (i, ·) = some e) :
      (e.2.isBatch || e.2.isFailure) = true ∧ x.1.stage? i = none := by
    obtain ⟨a, given, rfl⟩ := Option.map_eq_some_iff.mp answered
    exact drives.hands a (Calls.Status.answer?_eq_some.mp given)
  cases calling with
  | start =>
    cases Play.acts hm
    have drives := p.calls.start_drives
    exact ⟨drives.serves, told drives⟩
  | turn about =>
    cases Play.acts hm
    exact ⟨about.turn.serves, told about.turn⟩
  | deliver about o =>
    cases Play.acts hm
    exact ⟨(about.deliver o).serves, told (about.deliver o)⟩

/-! ### Cursors in use -/

theorem ended_note (h : History) (status : Calls.Status) : (h.note status).ended = h.ended := by
  cases status <;> rfl

theorem ended_giveUp (h : History) {r : Request} {wait : Wait} (serves : wait.Serves r) :
    (h.giveUp wait).ended = h.ended := by
  match wait with
  | .batch _ => rfl
  | .kill _ .opened => exact serves.elim
  | .kill _ (.fetched _) => exact Bool.or_false _
  | .kill _ (.failing ..) => exact Bool.or_false _
  | .kill _ (.closing _) => exact Bool.or_false _

theorem ended_hear (h : History) (quota : Quota) {r : Request} {wait : Wait}
    (serves : wait.Serves r) (o : Outcome) : (h.hear quota wait o).ended = h.ended := by
  cases o with
  | reply d =>
    cases wait with
    | batch call => exact h.ended_settle quota (.ok d)
    | kill saved after => rfl
  | failure f =>
    cases wait with
    | batch call => exact h.ended_settle quota (.error f)
    | kill saved after => rfl
  | crash text => exact ended_giveUp h serves

theorem Play.inUse_iff : p.inUse = true ↔ p.wait = none ∧ p.history.ended = false := by
  simp [inUse]

/-- Only with the last handle does a cursor go out of use. -/
theorem act_inUse (hp : p.Recorded log) (used : p.inUse = true) (kept : ∀ b, m ≠ .drop b)
    (hm : p.act m = some q) : q.inUse = true := by
  obtain ⟨rests, due⟩ := hp.orderly.inUse used
  have going := (Play.inUse_iff.mp used).2
  cases Play.acts hm with
  | start r => exact Play.inUse_iff.mpr ⟨rests, (ended_note _ _).trans going⟩
  | turn i => exact Play.inUse_iff.mpr ⟨rests, (ended_note _ _).trans going⟩
  | deliver o waits =>
    obtain ⟨r, -, serves⟩ := hp.serves.of_stage waits
    exact Play.inUse_iff.mpr ⟨rests, (ended_note _ _).trans ((ended_hear _ _ serves o).trans going)⟩
  | abandon waits =>
    obtain ⟨r, -, serves⟩ := hp.serves.of_stage waits
    exact Play.inUse_iff.mpr ⟨rests, (ended_giveUp _ serves).trans going⟩
  | leaveLine inLine => exact used
  | adjust deadline clock => exact used
  | drop tasksRun => exact absurd rfl (kept tasksRun)
  | cleanUp task => cases due.symm.trans task
  | outcome o waits => cases rests.symm.trans waits
  | giveUp waits => cases rests.symm.trans waits
  | discard _ task => cases due.symm.trans task

theorem Comes.recorded {reply : Document} {setting : Setting} {moves : List Move}
    (run : Comes reply setting moves p) : ∃ log, p.Recorded log := by
  obtain ⟨p₀, first, run⟩ := run
  exact run_induction (P := fun p => ∃ log, p.Recorded log) ⟨{}, start_recorded first⟩
    (fun _ _ _ ⟨_, hp⟩ hm => ⟨_, act_recorded hp hm⟩) run

end Shared

end ResultCursor
