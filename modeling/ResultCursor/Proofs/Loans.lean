import ResultCursor.Loan

/-! Leases on one resource, in any order and number. The count is always what it was before the
first lease, and one more for each lease that lasts. A lease raises it once, when it is taken, from
the resource or through another lease that lasts. It lowers it once, when it ends, however it ends,
and what else is done to it then is without effect. A lease that is dropped breaks off the task,
unless the task is breaking off already, and by then its share has been given back. -/

namespace ResultCursor.Loan

/-- The number of leases that last. -/
def live (l : Loan) : Nat := l.leases.countP (·.held)

/-- The lease that an action ends, if it lasts. -/
def Action.ending? : Action → Option Nat
  | release i => some i
  | drop i => some i
  | dropWhileBreaking i => some i
  | _ => none

/-- An action takes a lease with this label, which is a lease of its own or one through a lease that
lasts. -/
inductive Takes (l : Loan) : Action → String → Prop where
  | acquire (label : String) : Takes l (.acquire label) label
  | renew {i : Nat} {lease : Lease} (lasts : l.held? i = some lease) : Takes l (.renew i) "alias"

/-- An action ends a lease that lasts. -/
def Ends (l : Loan) (a : Action) : Prop := ∃ i lease, a.ending? = some i ∧ l.held? i = some lease

variable {n i : Nat} {l t : Loan} {lease : Lease} {label : String} {a b : Action} {r : Result}

theorem Takes.spares (takes : l.Takes a label) : a.ending? = none := by
  cases takes <;> rfl

theorem Takes.label_eq {other : String} (takes : l.Takes a label) (also : l.Takes a other) :
    other = label := by
  cases takes <;> cases also <;> rfl

/-! ### Single leases -/

theorem held?_eq_some : l.held? i = some lease ↔ l.leases[i]? = some lease ∧ lease.held = true := by
  simp [held?, Option.filter_eq_some_iff]

theorem held?_settle (lease : Lease) : (l.settle i lease).held? i = none := by
  by_cases h : i < l.leases.length <;> simp [held?, settle, h]

theorem held?_settle_ne {j : Nat} (hj : j ≠ i) (lease : Lease) :
    (l.settle i lease).held? j = l.held? j := by
  simp [held?, settle, List.getElem?_set_ne hj.symm]

theorem length_acquire (l : Loan) (label : String) :
    (l.acquire label).1.leases.length = l.leases.length + 1 := by
  simp [acquire]

theorem held?_acquire (l : Loan) (label : String) (j : Nat) :
    (l.acquire label).1.held? j = if j = l.leases.length then some { label } else l.held? j := by
  rcases Nat.lt_trichotomy j l.leases.length with earlier | rfl | later
  · simp [held?, acquire, List.getElem?_append_left earlier, Nat.ne_of_lt earlier]
  · simp [held?, acquire]
  · have before : l.leases[j]? = none := List.getElem?_eq_none (Nat.le_of_lt later)
    have after : (l.acquire label).1.leases[j]? = none :=
      List.getElem?_eq_none (by rwa [length_acquire])
    simp [held?, before, after, Nat.ne_of_gt later]

theorem live_acquire (l : Loan) (label : String) : (l.acquire label).1.live = l.live + 1 := by
  simp [live, acquire]

theorem live_pos (hl : l.held? i = some lease) : 0 < l.live := by
  obtain ⟨taken, held⟩ := held?_eq_some.mp hl
  exact List.countP_pos_iff.mpr ⟨lease, List.mem_of_getElem? taken, held⟩

theorem live_settle (hl : l.held? i = some lease) : (l.settle i lease).live = l.live - 1 := by
  obtain ⟨taken, held⟩ := held?_eq_some.mp hl
  obtain ⟨inside, rfl⟩ := List.getElem?_eq_some_iff.mp taken
  simp [live, settle, List.countP_set, inside, held]

theorem unreleasedText_inj {label other : String} :
    unreleasedText label = unreleasedText other ↔ label = other := by
  simp [unreleasedText]

theorem unreleasedText_ne_unwinding (label : String) : unreleasedText label ≠ "unwinding" := by
  intro same
  have ends := congrArg (fun s : String => s.toList.getLast?) same
  simp [unreleasedText, List.getLast?_append] at ends

/-! ### What an action does -/

/-- The loan after an action, and what comes of it. -/
inductive Performs (l : Loan) : Action → Loan → Result → Prop where
  | take {a : Action} {label : String} (takes : l.Takes a label) :
      Performs l a (l.acquire label).1 (.index l.leases.length)
  | look {i : Nat} (lease : Lease) :
      Performs l (.look i) l (.seen lease.label l.count (leaseText lease.label l.count))
  | idle {a : Action} (untaken : ∀ label, ¬l.Takes a label)
      (spent : ∀ i, a.ending? = some i → l.held? i = none) : Performs l a l .nothing
  | finish {a : Action} {i : Nat} {lease : Lease} {r : Result} (which : a.ending? = some i)
      (held : l.held? i = some lease) (notes : List Note) (unnumbered : ∀ j, r ≠ .index j)
      (breaks : ∀ label, r = .crashed (unreleasedText label) ↔ a = .drop i ∧ lease.label = label) :
      Performs l a { l.settle i lease with notes } r

theorem perform_spent (ends : a.ending? = some i) (spent : l.held? i = none) :
    l.perform a = (l, .nothing) := by
  cases a <;> cases ends <;> simp [perform, onHeld, spent]

theorem performs_spent (ends : a.ending? = some i) (spent : l.held? i = none) :
    l.Performs a (l.perform a).1 (l.perform a).2 := by
  rw [perform_spent ends spent]
  refine .idle (fun label takes => ?_) fun j hj => Option.some.inj (ends.symm.trans hj) ▸ spent
  cases takes.spares.symm.trans ends

theorem performs (l : Loan) (a : Action) : l.Performs a (l.perform a).1 (l.perform a).2 := by
  cases a with
  | acquire label => exact .take (.acquire label)
  | renew i =>
    cases hl : l.held? i with
    | none =>
      rw [perform, onHeld, hl]
      refine .idle (fun label takes => ?_) nofun
      cases takes with
      | renew lasts => cases hl.symm.trans lasts
    | some lease =>
      rw [perform, onHeld, hl]
      exact .take (.renew hl)
  | look i =>
    cases hl : l.held? i with
    | none =>
      rw [perform, onHeld, hl]
      exact .idle nofun nofun
    | some lease =>
      rw [perform, onHeld, hl]
      exact .look lease
  | release i =>
    cases hl : l.held? i with
    | none => exact performs_spent rfl hl
    | some lease =>
      rw [perform, onHeld, hl]
      exact .finish rfl hl _ nofun (by simp)
  | drop i =>
    cases hl : l.held? i with
    | none => exact performs_spent rfl hl
    | some lease =>
      rw [perform, onHeld, hl]
      exact .finish rfl hl _ nofun (by simp [unreleasedText_inj])
  | dropWhileBreaking i =>
    cases hl : l.held? i with
    | none => exact performs_spent rfl hl
    | some lease =>
      rw [perform, onHeld, hl]
      exact .finish rfl hl _ nofun (by simp [(unreleasedText_ne_unwinding _).symm])

/-! ### The count -/

/-- The count is `n` and one for each lease that lasts. -/
def Counts (n : Nat) (l : Loan) : Prop := l.count = n + l.live

theorem Counts.settle (h : Counts n l) (hl : l.held? i = some lease) :
    Counts n (l.settle i lease) := by
  have pos := live_pos hl
  change l.count - 1 = n + (l.settle i lease).live
  rw [live_settle hl, show l.count = n + l.live from h]
  omega

theorem Performs.counts (does : l.Performs a t r) (h : Counts n l) : Counts n t := by
  cases does with
  | @take a label takes =>
    change l.count + 1 = n + (l.acquire label).1.live
    rw [live_acquire, show l.count = n + l.live from h, Nat.add_assoc]
  | look lease => exact h
  | idle untaken spent => exact h
  | finish which held => exact h.settle held

theorem Counts.performAll (h : Counts n l) (as : List Action) : Counts n (l.performAll as).1 := by
  induction as generalizing l with
  | nil => exact h
  | cons a as ih => exact ih ((l.performs a).counts h)

theorem count_settle (h : Counts n l) (hl : l.held? i = some lease) :
    (l.settle i lease).count + 1 = l.count := by
  have pos := live_pos hl
  change l.count - 1 + 1 = l.count
  unfold Counts at h
  omega

/-- With all leases released, the count is what it was before the first. -/
theorem Counts.releaseAll (h : Counts n l) : l.releaseAll.count = n ∧ l.releaseAll.live = 0 := by
  constructor
  · change l.count - l.live = n
    rw [show l.count = n + l.live from h, Nat.add_sub_cancel]
  · simp [live, Loan.releaseAll, List.countP_map, Function.comp_def]

/-- A lease that is taken gets the next number and lasts, and the count is one more. -/
theorem Performs.taken (does : l.Performs a t r) (takes : l.Takes a label) :
    r = .index l.leases.length ∧ t.held? l.leases.length = some { label } ∧
      t.count = l.count + 1 := by
  cases does with
  | take also =>
    cases takes.label_eq also
    exact ⟨rfl, by rw [held?_acquire, if_pos rfl], rfl⟩
  | look lease => cases takes
  | idle untaken spent => exact absurd takes (untaken label)
  | finish which held => cases takes.spares.symm.trans which

theorem Performs.index_iff (does : l.Performs a t r) :
    (∃ j, r = .index j) ↔ ∃ label, l.Takes a label := by
  constructor
  · rintro ⟨j, numbered⟩
    cases does with
    | take takes => exact ⟨_, takes⟩
    | look lease => cases numbered
    | idle untaken spent => cases numbered
    | finish which held notes unnumbered => exact absurd numbered (unnumbered j)
  · rintro ⟨label, takes⟩
    exact ⟨_, (does.taken takes).1⟩

theorem Performs.count_add_one (does : l.Performs a t r) (h : Counts n l) (ends : l.Ends a) :
    t.count + 1 = l.count := by
  obtain ⟨i, lease, which, hl⟩ := ends
  cases does with
  | take takes => cases takes.spares.symm.trans which
  | look lease => cases which
  | idle untaken spent => cases (spent i which).symm.trans hl
  | finish which held => exact count_settle h held

theorem Performs.count_gt_iff (does : l.Performs a t r) :
    l.count < t.count ↔ ∃ label, l.Takes a label := by
  constructor
  · intro more
    cases does with
    | take takes => exact ⟨_, takes⟩
    | look lease => exact absurd more (Nat.lt_irrefl _)
    | idle untaken spent => exact absurd more (Nat.lt_irrefl _)
    | finish which held => exact absurd more (Nat.not_lt.mpr (Nat.sub_le _ _))
  · rintro ⟨label, takes⟩
    rw [(does.taken takes).2.2]
    exact Nat.lt_succ_self _

theorem Performs.count_lt_iff (does : l.Performs a t r) (h : Counts n l) :
    t.count < l.count ↔ l.Ends a := by
  constructor
  · intro less
    cases does with
    | take takes => exact absurd less (by simp [acquire])
    | look lease => exact absurd less (Nat.lt_irrefl _)
    | idle untaken spent => exact absurd less (Nat.lt_irrefl _)
    | finish which held => exact ⟨_, _, which, held⟩
  · intro ends
    have lowered := does.count_add_one h ends
    omega

theorem Performs.crashed_iff (does : l.Performs a t r) (label : String) :
    r = .crashed (unreleasedText label) ↔
      ∃ i lease, a = .drop i ∧ l.held? i = some lease ∧ lease.label = label := by
  constructor
  · intro crash
    cases does with
    | finish which held notes unnumbered breaks =>
      obtain ⟨dropped, named⟩ := (breaks label).mp crash
      exact ⟨_, _, dropped, held, named⟩
    | _ => cases crash
  · rintro ⟨i, lease, rfl, hl, rfl⟩
    cases does with
    | take takes => cases takes
    | idle untaken spent => cases (spent i rfl).symm.trans hl
    | finish which held notes unnumbered breaks =>
      cases which
      cases hl.symm.trans held
      exact (breaks lease.label).mpr ⟨rfl, rfl⟩

/-- The leases that last after an action: the one that it takes, and those that lasted and that it
does not end. -/
theorem Performs.held?_isSome_iff (does : l.Performs a t r) (j : Nat) :
    (t.held? j).isSome ↔ r = .index j ∨ ((l.held? j).isSome ∧ a.ending? ≠ some j) := by
  cases does with
  | take takes =>
    rw [held?_acquire]
    by_cases new : l.leases.length = j
    · simp [new]
    · simp [Ne.symm new, new, takes.spares]
  | look lease => simp [Action.ending?]
  | idle untaken spent => simpa using fun lasts ends => by simp [spent j ends] at lasts
  | @finish a i lease r which held notes unnumbered breaks =>
    change ((l.settle i lease).held? j).isSome ↔ _
    by_cases same : i = j
    · subst same
      simp [held?_settle, which, unnumbered]
    · simp [held?_settle_ne (Ne.symm same), which, unnumbered, same]

/-- A lease that is not ended stays as it is. -/
theorem Performs.held?_eq (does : l.Performs a t r) {j : Nat} (lasts : l.held? j = some lease)
    (spared : a.ending? ≠ some j) : t.held? j = some lease := by
  cases does with
  | take takes =>
    have inside := (List.getElem?_eq_some_iff.mp (held?_eq_some.mp lasts).1).1
    rw [held?_acquire, if_neg (Nat.ne_of_lt inside), lasts]
  | look => exact lasts
  | idle untaken spent => exact lasts
  | @finish a i other r which held =>
    have apart : j ≠ i := fun same => spared (by rw [which, same])
    change (l.settle i other).held? j = _
    rw [held?_settle_ne apart, lasts]

theorem Performs.spares (does : l.Performs a t r) {j : Nat} (taken : r = .index j) :
    a.ending? = none := by
  obtain ⟨label, takes⟩ := does.index_iff.mp ⟨j, taken⟩
  exact takes.spares

/-- What an action ends stays without effect. -/
theorem Performs.again (does : l.Performs a t r) (ends : a.ending? = some i)
    (again : b.ending? = some i) : t.perform b = (t, .nothing) := by
  refine perform_spent again (Option.not_isSome_iff_eq_none.mp fun lasts => ?_)
  rcases (does.held?_isSome_iff i).mp lasts with taken | ⟨-, spared⟩
  · cases (does.spares taken).symm.trans ends
  · exact spared ends

/-! ### Each lease once -/

/-- The number of actions of a run that end the lease and lower the count. -/
def givenBack (l : Loan) (i : Nat) : List Action → Nat
  | [] => 0
  | a :: rest =>
    let t := (l.perform a).1
    (if a.ending? = some i ∧ t.count < l.count then 1 else 0) + t.givenBack i rest

/-- One for a lease that was taken and has ended, and nothing for any other. -/
def ended (l : Loan) (i : Nat) : Nat := if i < l.leases.length ∧ l.held? i = none then 1 else 0

theorem ended_acquire (l : Loan) (label : String) : (l.acquire label).1.ended i = l.ended i := by
  unfold ended
  rw [held?_acquire, length_acquire]
  by_cases new : i = l.leases.length
  · simp [new]
  · simp only [if_neg new, show i < l.leases.length + 1 ↔ i < l.leases.length by omega]

theorem ended_settle (hl : l.held? i = some lease) (j : Nat) :
    (l.settle i lease).ended j = (if i = j then 1 else 0) + l.ended j := by
  have inside := (List.getElem?_eq_some_iff.mp (held?_eq_some.mp hl).1).1
  have many : (l.settle i lease).leases.length = l.leases.length := by simp [settle]
  by_cases same : i = j
  · subst same
    simp [ended, held?_settle, hl, many, inside]
  · simp [ended, held?_settle_ne (Ne.symm same), many, same]

theorem Performs.ended (does : l.Performs a t r) (h : Counts n l) (j : Nat) :
    t.ended j = (if a.ending? = some j ∧ t.count < l.count then 1 else 0) + l.ended j := by
  have lowers := does.count_lt_iff h
  cases does with
  | take takes => simp [takes.spares, ended_acquire]
  | look lease => simp
  | idle untaken spent => simp
  | finish which held =>
    simp only [lowers.mpr ⟨_, _, which, held⟩, which, Option.some.injEq, and_true]
    exact ended_settle held j

/-- Each lease gives its share back once if it ended during the run, and otherwise not at all. -/
theorem givenBack_add_ended (h : Counts n l) (i : Nat) (as : List Action) :
    l.givenBack i as + l.ended i = (l.performAll as).1.ended i := by
  induction as generalizing l with
  | nil => exact Nat.zero_add _
  | cons a as ih =>
    have does := l.performs a
    have rest := ih (does.counts h)
    rw [does.ended h] at rest
    simp only [givenBack, performAll] at rest ⊢
    omega

theorem performAll_concat (l : Loan) (as : List Action) (a : Action) :
    l.performAll (as ++ [a]) =
      (((l.performAll as).1.perform a).1, (l.performAll as).2 ++
        [(((l.performAll as).1.perform a).2, ((l.performAll as).1.perform a).1.count)]) := by
  induction as generalizing l with
  | nil => rfl
  | cons b as ih => simp [performAll, ih]

/-- What an action does to the leases, and to a count that was `n` before the first of them. -/
structure Accounted (n : Nat) (l : Loan) (a : Action) (t : Loan) (r : Result) : Prop where
  /-- The count is what it was at first, and one more for each lease that lasts. -/
  count : l.count = n + l.live ∧ t.count = n + t.live ∧ n ≤ t.count
  /-- A lease that is taken gets the next number and lasts, and the count is one more. -/
  takes : ∀ label, l.Takes a label →
    r = .index l.leases.length ∧ t.held? l.leases.length = some { label } ∧ t.count = l.count + 1
  raises : l.count < t.count ↔ ∃ label, l.Takes a label
  /-- A lease that ends gives its share back. -/
  ends : l.Ends a → t.count + 1 = l.count
  lowers : t.count < l.count ↔ l.Ends a
  /-- What lasts is the lease that is taken, and what lasted and is not ended. -/
  lasts : ∀ j, (t.held? j).isSome ↔ r = .index j ∨ ((l.held? j).isSome ∧ a.ending? ≠ some j)
  keeps : ∀ j lease, l.held? j = some lease → a.ending? ≠ some j → t.held? j = some lease
  /-- No lease ends a second time. -/
  again : ∀ i b, a.ending? = some i → b.ending? = some i → t.perform b = (t, .nothing)
  /-- The task breaks off for a lease that is dropped, and has given its share back by then. -/
  breaks : ∀ label, r = .crashed (unreleasedText label) ↔
    ∃ i lease, a = .drop i ∧ l.held? i = some lease ∧ lease.label = label
  givesBack : ∀ label, r = .crashed (unreleasedText label) → t.count + 1 = l.count

theorem Performs.accounted (does : l.Performs a t r) (h : Counts n l) : Accounted n l a t r where
  count := by
    have after : t.count = n + t.live := does.counts h
    exact ⟨h, after, after ▸ Nat.le_add_right n t.live⟩
  takes label := does.taken
  raises := does.count_gt_iff
  ends := does.count_add_one h
  lowers := does.count_lt_iff h
  lasts := does.held?_isSome_iff
  keeps j lease := does.held?_eq
  again i b := does.again
  breaks := does.crashed_iff
  givesBack label crash := by
    obtain ⟨i, lease, dropped, lasts, -⟩ := (does.crashed_iff label).mp crash
    exact does.count_add_one h ⟨i, lease, by rw [dropped]; rfl, lasts⟩

/-- A count that starts with `n`, after any run and one more action `a`. -/
theorem leases_are_accounted (n : Nat) (pre : List Action) (a : Action) :
    let start : Loan := { count := n }
    let l := (start.performAll pre).1
    let t := (l.perform a).1
    let r := (l.perform a).2
    start.performAll (pre ++ [a]) = (t, (start.performAll pre).2 ++ [(r, t.count)]) ∧
      Accounted n l a t r ∧
      (∀ i, start.givenBack i (pre ++ [a]) =
        if i < t.leases.length ∧ t.held? i = none then 1 else 0) := by
  intro start l t r
  have fresh : Counts n start := rfl
  have before : Counts n l := fresh.performAll pre
  refine ⟨performAll_concat start pre a, (l.performs a).accounted before, fun i => ?_⟩
  have given := givenBack_add_ended fresh i (pre ++ [a])
  rw [performAll_concat] at given
  exact given

/-- A lease of a lease of a lease, and an end for the first two, twice for the second. -/
def aliased : List Action :=
  [.acquire "a", .renew 0, .renew 1, .release 0, .dropWhileBreaking 1, .drop 1]

/-- The third lease is dropped at last, and each of them has lowered the count once. -/
theorem leases_are_accounted_through_aliases :
    let start : Loan := { count := 1 }
    ((start.performAll (aliased.take 2)).1.perform (.renew 1)).1.held? 2 =
        some { label := "alias" } ∧
      (start.performAll (aliased ++ [.drop 2])).2 =
        [(.index 0, 2), (.index 1, 3), (.index 2, 4), (.nothing, 3), (.crashed "unwinding", 2),
          (.nothing, 2), (.crashed "alias lease dropped without release", 1)] ∧
      [0, 1, 2, 3].map (fun i => start.givenBack i (aliased ++ [.drop 2])) = [1, 1, 1, 0] := by
  obtain ⟨-, accounted, -⟩ := leases_are_accounted 1 (aliased.take 2) (.renew 1)
  obtain ⟨-, taken, -⟩ := accounted.takes "alias" (.renew rfl)
  obtain ⟨steps, -, given⟩ := leases_are_accounted 1 aliased (.drop 2)
  refine ⟨taken, ?_, ?_⟩
  · rw [steps]
    decide
  · simp only [List.map_cons, List.map_nil, given]
    decide

end ResultCursor.Loan
