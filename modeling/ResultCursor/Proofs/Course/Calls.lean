import Mathlib.Data.List.Nodup
import ResultCursor.Proofs.Course.Blocking
import ResultCursor.Proofs.Course.Shared

/-! Calls that run side by side on a shared cursor: at most one of them waits for the connection,
and it is the one that has the turn. So the moves of a shared cursor are courses of its session,
whatever calls stand in line meanwhile. -/

namespace ResultCursor

open Situation Relation

theorem Turns.ask_holder {t : Turns} {i j : Nat} (h : t.holder = some j) :
    (t.ask i).holder = some j := by
  simp [ask, h]

namespace Calls

variable {R : Rules} {c : Calls} {h : History} {i : Nat} {r : Request} {wait : Wait}

/-- A call waits for the connection only while it has the turn; every call has its own number. -/
structure Orderly (c : Calls) : Prop where
  waits : ∀ i wait, (i, Stage.waiting wait) ∈ c.running → c.turns.holder = some i
  nodup : (c.running.map Prod.fst).Nodup
  fresh : ∀ e ∈ c.running, e.1 < c.fresh

def situation (c : Calls) (h : History) : Situation := ⟨c.shared.session, .ofWait c.wait?, h⟩

/-! ### The call that waits -/

theorem mem_of_stage? {s : Stage} (hs : c.stage? i = some s) : (i, s) ∈ c.running := by
  obtain ⟨l₁, l₂, hl, -⟩ := List.lookup_eq_some_iff.mp hs
  simp [hl]

theorem forget_stage? (c : Calls) (i : Nat) : (c.forget i).stage? i = none := by
  simpa [stage?, forget, List.lookup_eq_none_iff] using fun _ _ _ hn heq => hn heq.symm

theorem retire_stage? (c : Calls) (i : Nat) : (c.retire i).stage? i = none := c.forget_stage? i

theorem put_stage? (c : Calls) (i : Nat) (s : Stage) : (c.put i s).stage? i = some s := by
  have absent : (c.forget i).running.lookup i = none := c.forget_stage? i
  change ((c.forget i).running ++ [(i, s)]).lookup i = _
  simp [List.lookup_append, absent]

theorem Orderly.stage_unique (hc : c.Orderly) {s t : Stage} (hs : (i, s) ∈ c.running)
    (ht : (i, t) ∈ c.running) : s = t :=
  congrArg Prod.snd (List.inj_on_of_nodup_map hc.nodup hs ht rfl)

theorem wait?_eq_none (hc : ∀ i wait, (i, Stage.waiting wait) ∉ c.running) : c.wait? = none := by
  refine List.findSome?_eq_none_iff.mpr fun e he => ?_
  obtain ⟨i, s⟩ := e
  cases s with
  | inLine r => rfl
  | waiting wait => exact absurd he (hc i wait)

theorem exists_of_wait? (hw : c.wait? = some wait) : ∃ i, (i, Stage.waiting wait) ∈ c.running := by
  obtain ⟨⟨i, s⟩, hi, hs⟩ := List.exists_of_findSome?_eq_some hw
  cases s with
  | inLine r => cases hs
  | waiting other =>
    cases hs
    exact ⟨i, hi⟩

theorem Orderly.wait?_eq_some (hc : c.Orderly) (hm : (i, Stage.waiting wait) ∈ c.running) :
    c.wait? = some wait := by
  cases hw : c.wait? with
  | none => simpa [Stage.wait?] using List.findSome?_eq_none_iff.mp hw _ hm
  | some other =>
    obtain ⟨j, hj⟩ := exists_of_wait? hw
    -- both calls hold the turn, so they are one call
    have heq : j = i := Option.some.inj ((hc.waits j other hj).symm.trans (hc.waits i wait hm))
    subst heq
    cases hc.stage_unique hj hm
    rfl

/-- While a call that stands in line has the turn, nothing waits. -/
theorem Orderly.wait?_of_inLine (hc : c.Orderly) (hi : c.stage? i = some (.inLine r))
    (ht : c.turns.holder = some i) : c.wait? = none := by
  refine wait?_eq_none fun j wait hj => ?_
  have heq : j = i := Option.some.inj ((hc.waits j wait hj).symm.trans ht)
  subst heq
  cases hc.stage_unique hj (mem_of_stage? hi)

theorem Orderly.forget_no_wait (hc : c.Orderly) (ht : c.turns.holder = some i) (j : Nat)
    (wait : Wait) : (j, Stage.waiting wait) ∉ (c.forget i).running := by
  intro hj
  obtain ⟨hm, hn⟩ := List.mem_filter.mp hj
  have heq : j = i := Option.some.inj ((hc.waits j wait hm).symm.trans ht)
  simp [heq] at hn

theorem put_wait? (c : Calls) (i : Nat) (s : Stage) :
    (c.put i s).wait? = (c.forget i).wait?.or s.wait? := by
  simp only [wait?, Calls.put, List.findSome?_append, List.findSome?_cons, List.findSome?_nil]
  cases s.wait? <;> rfl

/-! ### Order is kept -/

theorem nodup_forget (hc : c.Orderly) (i : Nat) : ((c.forget i).running.map Prod.fst).Nodup :=
  hc.nodup.sublist (List.filter_sublist.map _)

theorem Orderly.put (hc : c.Orderly) {s : Stage} (shared : Shared) (turns : Turns) {fresh : Nat}
    (hf : i < fresh) (hle : c.fresh ≤ fresh)
    (hw : ∀ j wait, (j, Stage.waiting wait) ∈ (c.put i s).running → turns.holder = some j) :
    Orderly { c.put i s with shared, turns, fresh } where
  waits := hw
  nodup := by
    simp only [Calls.put, List.map_append, List.map_cons, List.map_nil]
    refine List.Nodup.append (nodup_forget hc i) (by simp) ?_
    simp [Calls.forget]
  fresh := by
    intro e he
    simp only [Calls.put, Calls.forget, List.mem_append, List.mem_filter, List.mem_singleton] at he
    rcases he with ⟨hm, -⟩ | rfl
    · exact Nat.lt_of_lt_of_le (hc.fresh e hm) hle
    · exact hf

theorem Orderly.retire (hc : c.Orderly) (ht : c.turns.holder = some i) {shared : Shared} :
    Orderly ({ c with shared }.retire i) where
  waits j wait hj := absurd hj (hc.forget_no_wait ht j wait)
  nodup := nodup_forget hc i
  fresh e he := hc.fresh e (List.mem_filter.mp he).1

theorem Orderly.settle (hc : c.Orderly) (ht : c.turns.holder = some i) (hi : i < c.fresh)
    (r : Shared × Progress) : (c.settle i r).1.Orderly := by
  obtain ⟨shared, progress⟩ := r
  cases progress with
  | answered a => exact hc.retire ht
  | crashed text => exact hc.retire ht
  | waiting sending wait =>
    refine hc.put shared c.turns hi (Nat.le_refl _) fun j wait hj => ?_
    rcases List.mem_append.mp hj with hj | hj
    · exact absurd hj (hc.forget_no_wait ht j wait)
    · cases List.mem_singleton.mp hj
      exact ht

/-- The call that has the turn has come so far as its progress says. -/
theorem Orderly.settle_situation (hc : c.Orderly) (ht : c.turns.holder = some i)
    (r : Shared × Progress) :
    (c.settle i r).1.situation (h.note (c.settle i r).2) = Shared.landing h r := by
  obtain ⟨shared, progress⟩ := r
  have hn := wait?_eq_none (hc.forget_no_wait ht)
  cases progress with
  | answered a =>
    change (⟨shared.session, .ofWait (c.forget i).wait?, h.answer a⟩ : Situation) = _
    rw [hn]
    rfl
  | crashed text =>
    change (⟨shared.session, .ofWait (c.forget i).wait?, h⟩ : Situation) = _
    rw [hn]
    rfl
  | waiting sending wait =>
    change (⟨shared.session, .ofWait (c.put i (.waiting wait)).wait?, h⟩ : Situation) = _
    rw [put_wait?, hn]
    rfl

/-! ### Courses -/

theorem Orderly.turn (hc : c.Orderly) (i : Nat) : (c.turn i).1.Orderly := by
  unfold Calls.turn
  split
  · next r hi =>
    split
    · next ht =>
      exact hc.settle (by simpa [Turns.isTurnOf] using ht) (hc.fresh _ (mem_of_stage? hi)) _
    · exact hc
  · exact hc

/-- If it is the turn of a call, it keeps to the rules. -/
def KeepsTo (R : Rules) (c : Calls) (i : Nat) : Prop :=
  ∀ r, c.stage? i = some (.inLine r) → c.turns.holder = some i → c.shared.KeepsTo R r

theorem Orderly.turn_course (hc : c.Orderly) (hR : c.KeepsTo R i) :
    Course R (c.situation h) ((c.turn i).1.situation (h.note (c.turn i).2)) := by
  unfold Calls.turn
  split
  · next r hi =>
    split
    · next ht =>
      have ht : c.turns.holder = some i := by simpa [Turns.isTurnOf] using ht
      rw [hc.settle_situation ht, situation, hc.wait?_of_inLine hi ht]
      exact Shared.request_course r (hR r hi ht)
    · exact .refl
  · exact .refl

/-- A call that is about to start is in line, whether or not its turn comes at once. -/
def entered (c : Calls) (r : Request) : Calls :=
  { c.put c.fresh (.inLine r) with
    shared := (c.announce r).shared
    turns := c.turns.ask c.fresh
    fresh := c.fresh + 1 }

theorem start_eq (c : Calls) (r : Request) :
    c.start r = (((c.entered r).turn c.fresh).1, c.fresh, ((c.entered r).turn c.fresh).2) := by
  cases r <;> rfl

@[simp] theorem announce_session (c : Calls) (r : Request) :
    (c.announce r).shared.session = c.shared.session := by
  cases r <;> rfl

theorem Orderly.forget_fresh (hc : c.Orderly) : (c.forget c.fresh).running = c.running := by
  refine List.filter_eq_self.mpr fun e he => ?_
  simpa using Nat.ne_of_lt (hc.fresh e he)

theorem Orderly.entered (hc : c.Orderly) (r : Request) : (c.entered r).Orderly := by
  refine hc.put (c.announce r).shared (c.turns.ask c.fresh) (Nat.lt_succ_self _)
    (Nat.le_succ _) fun j wait hj => ?_
  rcases List.mem_append.mp hj with hj | hj
  · exact Turns.ask_holder (hc.waits j wait (List.mem_filter.mp hj).1)
  · simp at hj

theorem Orderly.entered_situation (hc : c.Orderly) (r : Request) :
    (c.entered r).situation h = c.situation h := by
  have hf : (c.forget c.fresh).wait? = c.wait? := by simp only [wait?, hc.forget_fresh]
  have hw : (c.entered r).wait? = c.wait? :=
    (put_wait? c c.fresh (.inLine r)).trans (by simp [hf, Stage.wait?])
  simp only [situation, hw]
  exact congrArg (Situation.mk · _ h) (announce_session c r)

theorem Orderly.start (hc : c.Orderly) (r : Request) : (c.start r).1.Orderly := by
  rw [start_eq]
  exact (hc.entered r).turn _

theorem Orderly.start_course (hc : c.Orderly) (r : Request)
    (hR : (c.entered r).KeepsTo R c.fresh) :
    Course R (c.situation h) ((c.start r).1.situation (h.note (c.start r).2.2)) := by
  rw [start_eq, ← hc.entered_situation r]
  exact (hc.entered r).turn_course hR

theorem Orderly.deliver (hc : c.Orderly) (i : Nat) (o : Outcome) : (c.deliver i o).1.Orderly := by
  unfold Calls.deliver
  split
  · next wait hi =>
    have hm := mem_of_stage? hi
    exact hc.settle (hc.waits i wait hm) (hc.fresh _ hm) _
  · exact hc

theorem Orderly.deliver_course (hc : c.Orderly) (o : Outcome)
    (hi : c.stage? i = some (.waiting wait)) (hR : c.shared.GoesOn R wait o) :
    Course R (c.situation h)
      ((c.deliver i o).1.situation
        ((h.hear c.shared.session.cursor.quota wait o).note (c.deliver i o).2)) := by
  have ht := hc.waits i wait (mem_of_stage? hi)
  simp only [Calls.deliver, hi]
  rw [hc.settle_situation ht, situation, hc.wait?_eq_some (mem_of_stage? hi)]
  exact Shared.resume_course wait o hR

theorem Orderly.abandon_course (hc : c.Orderly) (hi : c.stage? i = some (.waiting wait))
    (broken : R .breakOff) :
    Course R (c.situation h) ((c.abandon i).situation (h.giveUp wait)) := by
  have ht := hc.waits i wait (mem_of_stage? hi)
  have hn := wait?_eq_none (hc.forget_no_wait ht)
  simp only [Calls.abandon, hi]
  rw [situation, hc.wait?_eq_some (mem_of_stage? hi)]
  change Course R _ ⟨(c.shared.abandon wait).session, .ofWait (c.forget i).wait?, h.giveUp wait⟩
  rw [hn]
  exact Shared.abandon_course wait broken

/-- A call in line makes room. -/
theorem Orderly.leave (hc : c.Orderly) (i : Nat) :
    Orderly { c.forget i with turns := c.turns.leave i } where
  waits j wait hj := by
    obtain ⟨hm, hn⟩ := List.mem_filter.mp hj
    have ht := hc.waits j wait hm
    have hne : j ≠ i := by simpa using hn
    simp [Turns.leave, Turns.isTurnOf, ht, hne]
  nodup := nodup_forget hc i
  fresh e he := hc.fresh e (List.mem_filter.mp he).1

theorem Orderly.abandon (hc : c.Orderly) (i : Nat) : (c.abandon i).Orderly := by
  unfold Calls.abandon
  split
  · exact hc.leave i
  · next wait hi => exact hc.retire (hc.waits i wait (mem_of_stage? hi))
  · exact hc

theorem Orderly.leave_situation (hc : c.Orderly) (hi : c.stage? i = some (.inLine r)) :
    (c.abandon i).situation h = c.situation h := by
  have hl := hc.leave i
  have hw : (c.forget i).wait? = c.wait? := by
    cases hc' : c.wait? with
    | none =>
      refine wait?_eq_none fun j wait hj => ?_
      simp [hc.wait?_eq_some (List.mem_filter.mp hj).1] at hc'
    | some wait =>
      obtain ⟨j, hj⟩ := exists_of_wait? hc'
      have hne : j ≠ i := by
        intro heq
        subst heq
        cases hc.stage_unique hj (mem_of_stage? hi)
      exact hl.wait?_eq_some (List.mem_filter.mpr ⟨hj, by simpa using hne⟩)
  simp only [Calls.abandon, hi, situation]
  change (⟨c.shared.session, .ofWait (c.forget i).wait?, h⟩ : Situation) = _
  rw [hw]

end Calls

/-! ### Runs -/

namespace Shared

variable {R : Rules} {p q : Play} {reply : Document} {setting : Setting}

/-- The opening and the clean-up after the last handle wait while no call runs. -/
structure Play.Orderly (p : Play) : Prop where
  calls : p.calls.Orderly
  alone : p.wait.isSome ∨ p.task.isSome → p.calls.running = []
  retired : p.task.isSome → p.wait = none ∧ p.history.ended = true
  opening : ∀ wait, p.wait = some wait → ∃ saved, wait = .kill saved .opened

namespace Play

/-- While calls can be made the situation is that of the calls. -/
theorem situation_calls (c : Calls) (h : History) :
    Play.situation ⟨c, none, none, h⟩ = c.situation h := rfl

theorem Orderly.inUse (hp : p.Orderly) (hu : p.inUse = true) :
    p.wait = none ∧ p.task = none := by
  simp only [Play.inUse, Bool.and_eq_true, Option.isNone_iff_eq_none, Bool.not_eq_true'] at hu
  refine ⟨hu.1, ?_⟩
  cases ht : p.task with
  | none => rfl
  | some kill => simp [(hp.retired (by simp [ht])).2] at hu

theorem Orderly.of_stage (hp : p.Orderly) {i : Nat} {s : Stage}
    (hi : p.calls.stage? i = some s) : p.wait = none ∧ p.task = none := by
  have hr : p.calls.running ≠ [] := List.ne_nil_of_mem (Calls.mem_of_stage? hi)
  have ha : ¬(p.wait.isSome ∨ p.task.isSome) := fun h => hr (hp.alone h)
  simpa using ha

theorem Orderly.of_wait (hp : p.Orderly) {wait : Wait} (hw : p.wait = some wait) :
    p.task = none := by
  cases ht : p.task with
  | none => rfl
  | some kill => simp [(hp.retired (by simp [ht])).1] at hw

theorem situation_alone {c : Calls} (hr : c.running = []) (wait : Option Wait) (h : History) :
    Play.situation ⟨c, wait, none, h⟩ = ⟨c.shared.session, .ofWait wait, h⟩ := by
  cases wait <;> simp [situation, control, session, shared, Calls.wait?, hr, Control.ofWait]

theorem goOn_situation (hr : p.calls.running = []) (h : History) (r : Shared × Progress) :
    (p.goOn h r).situation = landing h r :=
  situation_alone (c := { p.calls with shared := r.1 }) hr r.2.wait? (h.follow r.2)

theorem left_situation {c : Calls} (hr : c.running = []) (shared : Shared) (left : Leftover)
    (h : History) :
    Play.situation ⟨{ c with shared }, none, left.task?, h⟩ =
      ⟨shared.session, left.control, h⟩ := by
  cases left with
  | task kill => rfl
  | finished => exact situation_alone (c := { c with shared }) hr none h

/-- Moves of calls leave the cursor open and its tasks alone. -/
theorem Orderly.of_calls (hc : q.calls.Orderly) (hw : q.wait = none) (ht : q.task = none) :
    q.Orderly :=
  ⟨hc, by simp [hw, ht], by simp [ht], by simp [hw]⟩

end Play

theorem cleanUp_wait {c : Shared} {kill : Option Command} {wait : Wait}
    (hw : (c.cleanUp kill).2.wait? = some wait) : ∃ saved, wait = .kill saved .opened := by
  unfold cleanUp at hw
  split at hw
  · cases hw
  · cases hw
    exact ⟨_, rfl⟩

theorem ofReply_wait {r : Shared × Progress} {wait : Wait}
    (hr : Shared.ofReply reply setting = .ok r) (hw : r.2.wait? = some wait) :
    ∃ saved, wait = .kill saved .opened := by
  rw [Shared.ofReply_eq] at hr
  cases hs : Session.ofReply reply setting with
  | error f => simp [hs] at hr
  | ok s =>
    simp only [hs, Except.ok.injEq] at hr
    subst hr
    unfold afterCleanup at hw
    split at hw
    · split at hw
      · cases hw
      · cases hw
        exact ⟨_, rfl⟩
    · cases hw

/-- The opening and the clean-up after the last handle wait once. -/
theorem resume_opened_wait (c : Shared) (saved : Option Span) (o : Outcome) :
    (c.resume (.kill saved .opened) o).2.wait? = none := by
  cases o <;> rfl

theorem act_orderly {m : Move} (hp : p.Orderly) (hm : p.act m = some q) : q.Orderly := by
  have same (shared : Shared) : Calls.Orderly { p.calls with shared } :=
    ⟨hp.calls.waits, hp.calls.nodup, hp.calls.fresh⟩
  cases Play.acts hm with
  | start r used =>
    obtain ⟨hw, ht⟩ := hp.inUse used
    exact .of_calls (hp.calls.start r) hw ht
  | turn i used =>
    obtain ⟨hw, ht⟩ := hp.inUse used
    exact .of_calls (hp.calls.turn i) hw ht
  | @deliver i wait o waits =>
    obtain ⟨hw, ht⟩ := hp.of_stage waits
    exact .of_calls (hp.calls.deliver i o) hw ht
  | @abandon i wait waits =>
    obtain ⟨hw, ht⟩ := hp.of_stage waits
    exact .of_calls (hp.calls.abandon i) hw ht
  | @leaveLine i r inLine =>
    obtain ⟨hw, ht⟩ := hp.of_stage inLine
    exact .of_calls (hp.calls.abandon i) hw ht
  | adjust deadline clock => exact ⟨same _, hp.alone, hp.retired, hp.opening⟩
  | drop tasksRun used alone =>
    have hw := (hp.inUse used).1
    exact ⟨same _, fun _ => alone, fun _ => ⟨hw, rfl⟩,
      fun wait h => by simp [Play.withShared, hw] at h⟩
  | cleanUp due =>
    exact ⟨same _, fun _ => hp.alone (.inr (by simp [due])), by simp [Play.goOn],
      fun wait h => cleanUp_wait h⟩
  | outcome o waits =>
    obtain ⟨saved, rfl⟩ := hp.opening _ waits
    exact .of_calls (same _) (resume_opened_wait p.shared saved o) rfl
  | giveUp waits => exact .of_calls (same _) rfl (hp.of_wait waits)
  | discard rests due => exact .of_calls (same _) rests rfl

/-- The move keeps to the rules. -/
def Play.KeepsTo (R : Rules) (p : Play) : Move → Prop
  | .start r => (p.calls.entered r).KeepsTo R p.calls.fresh
  | .turn i => p.calls.KeepsTo R i
  | .deliver i o => ∀ wait, p.calls.stage? i = some (.waiting wait) → p.shared.GoesOn R wait o
  | .outcome o => ∀ wait, p.wait = some wait → p.shared.GoesOn R wait o
  | .drop tasksRun => tasksRun = false → R .breakOff
  | .abandon _ => R .breakOff
  | .giveUp => R .breakOff
  | .adjust deadline _ => R (.retime p.session deadline)
  | .cleanUp => True

theorem Play.KeepsTo.of_all (hR : ∀ d, R d) (p : Play) (m : Move) : p.KeepsTo R m := by
  cases m with
  | start r => exact fun r _ _ => .of_all hR _ r
  | turn i => exact fun r _ _ => .of_all hR _ r
  | deliver i o => exact fun wait _ => .of_all hR _ wait o
  | outcome o => exact fun wait _ => .of_all hR _ wait o
  | drop tasksRun => exact fun _ => hR _
  | abandon i => exact hR _
  | giveUp => exact hR _
  | adjust deadline clock => exact hR _
  | cleanUp => trivial

theorem act_course {m : Move} (hp : p.Orderly) (hR : p.KeepsTo R m) (hm : p.act m = some q) :
    Course R p.situation q.situation := by
  have acts := Play.acts hm
  clear hm
  obtain ⟨calls, wait, task, h⟩ := p
  cases acts with
  | start r used =>
    obtain ⟨rfl, rfl⟩ := hp.inUse used
    exact hp.calls.start_course r hR
  | turn i used =>
    obtain ⟨rfl, rfl⟩ := hp.inUse used
    exact hp.calls.turn_course hR
  | deliver o waits =>
    obtain ⟨rfl, rfl⟩ := hp.of_stage waits
    exact hp.calls.deliver_course o waits (hR _ waits)
  | abandon waits =>
    obtain ⟨rfl, rfl⟩ := hp.of_stage waits
    exact hp.calls.abandon_course waits hR
  | leaveLine inLine =>
    obtain ⟨rfl, rfl⟩ := hp.of_stage inLine
    rw [Play.situation_calls, Play.situation_calls, hp.calls.leave_situation inLine]
  | adjust deadline clock => exact .single (.adjust deadline clock hR)
  | drop tasksRun used alone =>
    obtain ⟨rfl, rfl⟩ := hp.inUse used
    have hl := Play.left_situation alone (calls.shared.drop tasksRun).1
      (calls.shared.drop tasksRun).2 h.retire
    rw [Play.situation_alone alone]
    exact Course.trans_eq (drop_course tasksRun hR) hl.symm
  | @cleanUp kill due =>
    cases due
    obtain ⟨rfl, -⟩ := hp.retired rfl
    rw [Play.goOn_situation (hp.alone (.inr rfl))]
    exact cleanUp_course kill
  | @outcome wait o waits =>
    cases waits
    have hr := hp.alone (.inl rfl)
    cases hp.of_wait rfl
    rw [Play.goOn_situation hr, Play.situation_alone hr]
    exact resume_course wait o (hR wait rfl)
  | giveUp waits =>
    cases waits
    have hr := hp.alone (.inl rfl)
    obtain ⟨saved, rfl⟩ := hp.opening _ rfl
    cases hp.of_wait rfl
    have hl := Play.left_situation hr (Play.givenUp ⟨calls, some (.kill saved .opened), none, h⟩
      (.kill saved .opened)) .finished (h.breakOff .opened)
    rw [Play.situation_alone hr]
    refine Course.trans_eq ?_ hl.symm
    unfold Play.givenUp
    split
    · exact abandon_course _ hR
    · exact forsaken_course saved hR
  | @discard kill rests due =>
    cases rests
    cases due
    have hl := Play.left_situation (hp.alone (.inr rfl)) calls.shared.discard .finished h
    exact Course.trans_eq (discard_course kill hR) hl.symm

theorem start_orderly (hp : start reply setting = .ok p) : p.Orderly := by
  unfold start at hp
  cases hr : Shared.ofReply reply setting with
  | error f => simp [hr] at hp
  | ok r =>
    simp only [hr, Except.ok.injEq] at hp
    subst hp
    exact ⟨⟨by simp, by simp, by simp⟩, fun _ => rfl, by simp, fun wait hw => ofReply_wait hr hw⟩

theorem start_course (hp : start reply setting = .ok p) :
    ∃ s, Session.ofReply reply setting = .ok s ∧
      Course R (opening reply setting s) p.situation := by
  unfold start at hp
  cases hr : Shared.ofReply reply setting with
  | error f => simp [hr] at hp
  | ok r =>
    simp only [hr, Except.ok.injEq] at hp
    subst hp
    have ha := Play.situation_alone (c := { shared := r.1 }) rfl r.2.wait?
      ((History.ofReply reply setting).follow r.2)
    rw [ha]
    exact ofReply_course hr

theorem act_courses (hp : p.Orderly) (hS : Courses reply setting p.situation)
    (hm : p.act m = some q) : Courses reply setting q.situation := by
  obtain ⟨s, hs, course⟩ := hS
  exact ⟨s, hs, course.trans (act_course hp (.of_all (fun _ => trivial) p m) hm)⟩

theorem Comes.orderly {moves : List Move} (run : Comes reply setting moves p) : p.Orderly := by
  obtain ⟨p₀, hs, hr⟩ := run
  exact run_induction (start_orderly hs) (fun _ _ _ hp hm => act_orderly hp hm) hr

/-- Any moves one after the other are a course. -/
theorem run_course {moves : List Move} (hp : p.Orderly)
    (run : moves.foldlM Play.act p = some q) : Course (fun _ => True) p.situation q.situation := by
  have kept := run_induction
    (P := fun q => q.Orderly ∧ Course (fun _ => True) p.situation q.situation) ⟨hp, .refl⟩
    (fun q _ m h hm => ⟨act_orderly h.1 hm,
      h.2.trans (act_course h.1 (.of_all (fun _ => trivial) q m) hm)⟩) run
  exact kept.2

/-- What a run of a shared cursor comes to is on a course from the first reply. -/
theorem Comes.courses {moves : List Move} (hp : Comes reply setting moves p) :
    Courses reply setting p.situation := by
  obtain ⟨p₀, hs, hr⟩ := hp
  have orderly := start_orderly hs
  obtain ⟨s, hs, first⟩ := start_course hs
  exact ⟨s, hs, first.trans (run_course orderly hr)⟩

end Shared

/-- What runs come to, courses come to. -/
theorem Situation.Reached.courses {reply : Document} {setting : Setting} {S : Situation}
    (hS : Reached reply setting S) : Courses reply setting S := by
  cases hS with
  | blocking run => exact run.courses
  | shared run => exact run.courses

end ResultCursor
