import ResultCursor.Proofs.Course.Calls
import ResultCursor.Proofs.Sharing.Attending

/-! Who gets a turn when. Calls that run side by side on a shared cursor have their turns in the
order in which they were started, and are answered in that order. An onlooker keeps a log of it. -/

namespace ResultCursor.Shared

/-- What an onlooker writes down about the calls on a shared cursor. -/
structure Log where
  /-- What was asked for; a call's number is its place here. -/
  started : List Request := []
  /-- The calls that got the turn, in order. -/
  gained : List Nat := []
  /-- The calls that were answered, in order, and their answers. -/
  answered : List (Nat × Answer) := []

namespace Log

def start (log : Log) (r : Request) : Log := { log with started := log.started ++ [r] }

/-- Looks who has the turn. -/
def see (log : Log) (holder : Option Nat) : Log :=
  if holder = log.gained.getLast? then log else { log with gained := log.gained ++ holder.toList }

/-- Hears what a call came to. -/
def hear (log : Log) (i : Nat) : Calls.Status → Log
  | .answered a => { log with answered := log.answered ++ [(i, a)] }
  | _ => log

/-- Follows a move from one play to the next. -/
def add (log : Log) (p : Play) (m : Move) (q : Play) : Log :=
  match m with
  | .start r =>
    let log := (log.start r).see (p.calls.turns.ask p.calls.fresh).holder
    (log.hear p.calls.fresh (p.calls.start r).2.2).see q.calls.turns.holder
  | .turn i => (log.hear i (p.calls.turn i).2).see q.calls.turns.holder
  | .deliver i o => (log.hear i (p.calls.deliver i o).2).see q.calls.turns.holder
  | _ => log.see q.calls.turns.holder

@[simp] theorem see_none (log : Log) : log.see none = log := by
  simp [see]

theorem see_last {log : Log} {i : Nat} (h : log.gained.getLast? = some i) :
    log.see (some i) = log := by
  simp [see, h]

theorem see_new {log : Log} {i : Nat} (h : log.gained.getLast? ≠ some i) :
    (log.see (some i)).gained = log.gained ++ [i] := by
  simp [see, h.symm]

@[simp] theorem see_started (log : Log) (holder : Option Nat) :
    (log.see holder).started = log.started := by
  unfold see
  split <;> rfl

@[simp] theorem see_answered (log : Log) (holder : Option Nat) :
    (log.see holder).answered = log.answered := by
  unfold see
  split <;> rfl

@[simp] theorem hear_started (log : Log) (i : Nat) (status : Calls.Status) :
    (log.hear i status).started = log.started := by
  cases status <;> rfl

end Log

/-- The log of a run. -/
def Play.log (p : Play) (log : Log) : List Move → Log
  | [] => log
  | m :: moves =>
    match p.act m with
    | some q => q.log (log.add p m q) moves
    | none => log

/-- A run comes to `p` by the moves, and this is its log. -/
def Logged (reply : Document) (setting : Setting) (moves : List Move) (p : Play) (log : Log) :
    Prop :=
  ∃ p₀, start reply setting = .ok p₀ ∧ moves.foldlM Play.act p₀ = some p ∧ p₀.log {} moves = log

/-- What holds of a play and its log at first, and is kept by every possible move, holds after
every run. -/
theorem Play.log_induction {P : Play → Log → Prop} {p₀ p : Play} {log : Log} {moves : List Move}
    (first : P p₀ log)
    (move : ∀ p q m log, P p log → p.act m = some q → P q (log.add p m q))
    (run : moves.foldlM Play.act p₀ = some p) : P p (p₀.log log moves) := by
  induction moves generalizing p₀ log with
  | nil =>
    cases run
    exact first
  | cons m moves ih =>
    simp only [List.foldlM_cons, Option.bind_eq_bind, Option.bind_eq_some_iff] at run
    obtain ⟨q, hm, hr⟩ := run
    simp only [Play.log, hm]
    exact ih (move p₀ q m log first hm) hr

/-! ### What a move does to the calls -/

/-- The move is made by a call, or for one. -/
def Move.ofCall : Move → Bool
  | .start _ => true
  | .turn _ => true
  | .deliver .. => true
  | .abandon _ => true
  | _ => false

/-- The calls before and after a move. Other moves than those of calls change the cursor alone, and
leave a close asked for. -/
inductive Moved (c : Calls) : Move → Calls → Prop where
  | start (r : Request) : Moved c (.start r) (c.start r).1
  | turn (i : Nat) : Moved c (.turn i) (c.turn i).1
  | deliver (i : Nat) (o : Outcome) : Moved c (.deliver i o) (c.deliver i o).1
  | abandon (i : Nat) : Moved c (.abandon i) (c.abandon i)
  | beside {m : Move} (shared : Shared) (apart : m.ofCall = false)
      (stop : shared.closeRequested = c.shared.closeRequested) : Moved c m { c with shared }

theorem Play.givenUp_closeRequested (p : Play) (wait : Wait) :
    (p.givenUp wait).closeRequested = p.shared.closeRequested := by
  unfold givenUp
  split <;> simp

theorem act_moved {p q : Play} {m : Move} (hp : p.Orderly) (hm : p.act m = some q) :
    Moved p.calls m q.calls := by
  cases Play.acts hm with
  | start r => exact .start r
  | turn i => exact .turn i
  | @deliver i wait o waits => exact .deliver i o
  | @abandon i wait waits => exact .abandon i
  | @leaveLine i r inLine => exact .abandon i
  | adjust deadline clock => exact .beside _ rfl rfl
  | drop tasksRun => exact .beside _ rfl (drop_closeRequested p.shared tasksRun)
  | @cleanUp kill due => exact .beside _ rfl (cleanUp_closeRequested p.shared kill)
  | outcome o waits =>
    obtain ⟨saved, rfl⟩ := hp.opening _ waits
    exact .beside _ rfl (resume_opened_closeRequested p.shared saved o)
  | @giveUp wait waits => exact .beside _ rfl (p.givenUp_closeRequested wait)
  | discard rests due => exact .beside _ rfl rfl

def Move.asked? : Move → Option Request
  | .start r => some r
  | _ => none

theorem Log.add_started (log : Log) (p : Play) (m : Move) (q : Play) :
    (log.add p m q).started = log.started ++ m.asked?.toList := by
  cases m <;> simp [add, start, Move.asked?]

theorem Log.add_beside (log : Log) (p : Play) {m : Move} (q : Play) (apart : m.ofCall = false) :
    log.add p m q = log.see q.calls.turns.holder := by
  cases m <;> first | rfl | cases apart

/-! ### The order of turns -/

/-- The log agrees with who has the turn and who stands in line. -/
structure Log.InTurn (log : Log) (t : Turns) (fresh : Nat) : Prop where
  numbered : log.started.length = fresh
  free : t.holder = none → t.line = []
  ordered : (log.gained ++ t.line).Pairwise (· < ·)
  below : ∀ i ∈ log.gained ++ t.line, i < fresh
  last : ∀ i, t.holder = some i → log.gained.getLast? = some i
  answered : (log.answered.map Prod.fst).Sublist
    (if t.holder.isSome then log.gained.dropLast else log.gained)

namespace Log.InTurn

variable {log log' : Log} {t : Turns} {n i : Nat}

/-- To look again at whoever has the turn adds nothing. -/
theorem see (h : log.InTurn t n) : log.see t.holder = log := by
  cases ht : t.holder with
  | none => exact see_none log
  | some i => exact see_last (h.last i ht)

theorem gained_eq (h : log.InTurn t n) (ht : t.holder = some i) :
    log.gained = log.gained.dropLast ++ [i] :=
  (List.dropLast_append_getLast? i (h.last i ht)).symm

theorem sublist (h : log.InTurn t n) : (log.answered.map Prod.fst).Sublist log.gained := by
  have ha := h.answered
  split at ha
  · exact ha.trans (List.dropLast_sublist _)
  · exact ha

/-- The call that has the turn is answered after all that were answered so far. -/
theorem sublist_hear (h : log.InTurn t n) (ht : t.holder = some i) (status : Calls.Status) :
    ((log.hear i status).answered.map Prod.fst).Sublist log.gained := by
  cases status with
  | answered a =>
    have ha := h.answered
    rw [ht] at ha
    rw [h.gained_eq ht]
    simpa [Log.hear] using ha.append_right [i]
  | _ => exact h.sublist

/-- The turn passes to the first in line. -/
theorem pass (h : log.InTurn t n) (ht : t.holder = some i) (hs : log'.started = log.started)
    (hg : log'.gained = log.gained)
    (ha : (log'.answered.map Prod.fst).Sublist log.gained) :
    (log'.see t.pass.holder).InTurn t.pass n := by
  have ordered := h.ordered
  have below := h.below
  cases hl : t.line with
  | nil =>
    have hp : t.pass = ⟨none, []⟩ := by simp [Turns.pass, hl]
    rw [hl] at ordered below
    rw [hp, see_none]
    exact
      { numbered := by rw [hs, h.numbered]
        free := fun _ => rfl
        ordered := by rwa [hg]
        below := by rwa [hg]
        last := fun _ hj => by cases hj
        answered := by simpa [hg] using ha }
  | cons j rest =>
    have hp : t.pass = ⟨some j, rest⟩ := by simp [Turns.pass, hl]
    rw [hl] at ordered below
    -- the first in line did not have the turn before
    have fresh : log'.gained.getLast? ≠ some j := by
      have hm : i ∈ log.gained := List.mem_of_getLast? (h.last i ht)
      have hlt : i < j := (List.pairwise_append.mp ordered).2.2 i hm j (by simp)
      rw [hg, h.last i ht]
      simpa using Nat.ne_of_lt hlt
    have hsee := see_new fresh
    rw [hg] at hsee
    rw [hp]
    exact
      { numbered := by rw [see_started, hs, h.numbered]
        free := fun hn => by cases hn
        ordered := by simpa [hsee] using ordered
        below := by simpa [hsee] using below
        last := fun k hk => by simpa [hsee] using hk
        answered := by simpa [hsee] using ha }

/-- A new call gets the turn, or the last place in line. -/
theorem ask (h : log.InTurn t n) (r : Request) :
    ((log.start r).see (t.ask n).holder).InTurn (t.ask n) (n + 1) := by
  have ordered : (log.gained ++ t.line ++ [n]).Pairwise (· < ·) := by
    refine List.pairwise_append.mpr ⟨h.ordered, by simp, fun i hi j hj => ?_⟩
    rw [List.mem_singleton.mp hj]
    exact h.below i hi
  have below : ∀ i ∈ log.gained ++ t.line ++ [n], i < n + 1 := by
    intro i hi
    rcases List.mem_append.mp hi with hi | hi
    · exact Nat.lt_succ_of_lt (h.below i hi)
    · rw [List.mem_singleton.mp hi]
      exact Nat.lt_succ_self n
  have numbered : (log.start r).started.length = n + 1 := by simp [Log.start, h.numbered]
  cases ht : t.holder with
  | none =>
    have hl := h.free ht
    have ha : t.ask n = ⟨some n, []⟩ := by simp [Turns.ask, ht, hl]
    have fresh : (log.start r).gained.getLast? ≠ some n := by
      intro hn
      have hm : n ∈ log.gained := List.mem_of_getLast? hn
      exact Nat.lt_irrefl n (h.below n (by simp [hm]))
    have hsee : ((log.start r).see (some n)).gained = log.gained ++ [n] := see_new fresh
    rw [hl, List.append_nil] at ordered below
    rw [ha]
    exact
      { numbered := by rw [see_started, numbered]
        free := fun hn => by cases hn
        ordered := by simpa [hsee] using ordered
        below := by simpa [hsee] using below
        last := fun k hk => by simpa [hsee] using hk
        answered := by
          rw [hsee, see_answered, List.dropLast_concat]
          exact h.sublist }
  | some j =>
    have ha : t.ask n = ⟨some j, t.line ++ [n]⟩ := by simp [Turns.ask, ht]
    have hsee : (log.start r).see (some j) = log.start r := see_last (h.last j ht)
    have answered := h.answered
    rw [ht] at answered
    rw [List.append_assoc] at ordered below
    rw [ha, hsee]
    exact
      { numbered, ordered, below, answered
        free := fun hn => by cases hn
        last := fun k hk => h.last k (ht.trans hk) }

/-- Whoever gives up passes the turn, or leaves the line. -/
theorem leave (h : log.InTurn t n) (i : Nat) :
    (log.see (t.leave i).holder).InTurn (t.leave i) n := by
  unfold Turns.leave
  split
  · next ht => exact h.pass (by simpa [Turns.isTurnOf] using ht) rfl rfl h.sublist
  · rw [h.see]
    have shorter : (log.gained ++ t.line.erase i).Sublist (log.gained ++ t.line) :=
      (List.Sublist.refl _).append List.erase_sublist
    exact
      { numbered := h.numbered
        free := fun hn => by simp [h.free hn]
        ordered := h.ordered.sublist shorter
        below := fun j hj => h.below j (shorter.subset hj)
        last := h.last
        answered := h.answered }

end Log.InTurn

/-! ### Calls and moves keep the order -/

namespace Log.InTurn

variable {log : Log} {c : Calls} {i : Nat}

theorem settle (h : log.InTurn c.turns c.fresh) (ht : c.turns.holder = some i)
    (r : Shared × Progress) :
    ((log.hear i (c.settle i r).2).see (c.settle i r).1.turns.holder).InTurn
      (c.settle i r).1.turns (c.settle i r).1.fresh := by
  obtain ⟨shared, progress⟩ := r
  cases progress with
  | answered a => exact h.pass ht rfl rfl (h.sublist_hear ht (.answered a))
  | crashed text => exact h.pass ht rfl rfl h.sublist
  | waiting sending wait =>
    change (log.see c.turns.holder).InTurn c.turns c.fresh
    rwa [h.see]

theorem turn (h : log.InTurn c.turns c.fresh) (i : Nat) :
    ((log.hear i (c.turn i).2).see (c.turn i).1.turns.holder).InTurn
      (c.turn i).1.turns (c.turn i).1.fresh := by
  have stays : (log.see c.turns.holder).InTurn c.turns c.fresh := by rwa [h.see]
  unfold Calls.turn
  split
  · split
    · next ht => exact h.settle (by simpa [Turns.isTurnOf] using ht) _
    · exact stays
  · exact stays

theorem enter (h : log.InTurn c.turns c.fresh) (r : Request) :
    (((log.start r).see (c.turns.ask c.fresh).holder).hear c.fresh (c.start r).2.2
      |>.see (c.start r).1.turns.holder).InTurn (c.start r).1.turns (c.start r).1.fresh := by
  have entered : ((log.start r).see (c.turns.ask c.fresh).holder).InTurn
      (c.entered r).turns (c.entered r).fresh := h.ask r
  rw [Calls.start_eq]
  exact entered.turn c.fresh

theorem deliver (h : log.InTurn c.turns c.fresh) (hc : c.Orderly) (i : Nat) (o : Outcome) :
    ((log.hear i (c.deliver i o).2).see (c.deliver i o).1.turns.holder).InTurn
      (c.deliver i o).1.turns (c.deliver i o).1.fresh := by
  unfold Calls.deliver
  split
  · next wait hi => exact h.settle (hc.waits i wait (Calls.mem_of_stage? hi)) _
  · change (log.see c.turns.holder).InTurn c.turns c.fresh
    rwa [h.see]

theorem abandon (h : log.InTurn c.turns c.fresh) (hc : c.Orderly) (i : Nat) :
    (log.see (c.abandon i).turns.holder).InTurn (c.abandon i).turns (c.abandon i).fresh := by
  unfold Calls.abandon
  split
  · exact h.leave i
  · next wait hi =>
    exact h.pass (hc.waits i wait (Calls.mem_of_stage? hi)) rfl rfl h.sublist
  · rwa [h.see]

end Log.InTurn

theorem act_inTurn {p q : Play} {m : Move} {log : Log} (hp : p.Orderly)
    (h : log.InTurn p.calls.turns p.calls.fresh) (hm : p.act m = some q) :
    (log.add p m q).InTurn q.calls.turns q.calls.fresh := by
  have moved := act_moved hp hm
  clear hm
  obtain ⟨calls, wait, task, history⟩ := q
  cases moved with
  | start r => exact h.enter r
  | turn i => exact h.turn i
  | deliver i o => exact h.deliver hp.calls i o
  | abandon i => exact h.abandon hp.calls i
  | beside shared apart stop =>
    rw [Log.add_beside log p _ apart]
    exact h.see.symm ▸ h

/-! ### Whoever is gone gives way -/

/-- Whoever has the turn or stands in line is a call that runs. -/
def Manned (c : Calls) : Prop :=
  ∀ i ∈ c.turns.holder.toList ++ c.turns.line, i ∈ c.running.map Prod.fst

theorem pass_eq (t : Turns) : t.pass.holder.toList ++ t.pass.line = t.line := by
  unfold Turns.pass
  cases t.line <;> rfl

theorem mem_ask {t : Turns} {i j : Nat} (hj : j ∈ (t.ask i).holder.toList ++ (t.ask i).line) :
    j ∈ t.holder.toList ++ t.line ∨ j = i := by
  cases ht : t.holder with
  | none => simpa [Turns.ask, ht, or_comm] using hj
  | some k => simpa [Turns.ask, ht, or_assoc] using hj

theorem Log.InTurn.not_mem_line {log : Log} {t : Turns} {n i : Nat} (h : log.InTurn t n)
    (ht : t.holder = some i) : i ∉ t.line := by
  intro hi
  have gained : i ∈ log.gained := List.mem_of_getLast? (h.last i ht)
  exact Nat.lt_irrefl i ((List.pairwise_append.mp h.ordered).2.2 i gained i hi)

namespace Manned

variable {log : Log} {c : Calls} {i : Nat}

theorem stage? (h : Manned c) (hi : i ∈ c.turns.holder.toList ++ c.turns.line) :
    ∃ s, c.stage? i = some s := by
  obtain ⟨⟨j, s⟩, he, rfl⟩ := List.mem_map.mp (h i hi)
  refine Option.ne_none_iff_exists'.mp fun hn => ?_
  exact absurd rfl (bne_iff_ne.mp (List.lookup_eq_none_iff.mp hn _ he))

theorem put (h : Manned c) (i : Nat) (s : Stage) : Manned (c.put i s) := by
  intro j hj
  by_cases heq : j = i
  · simp [Calls.put, heq]
  · have hm := h j hj
    simp only [Calls.put, Calls.forget, List.map_append, List.mem_append, List.mem_map,
      List.mem_filter] at hm ⊢
    obtain ⟨e, he, hi⟩ := hm
    exact .inl ⟨e, ⟨he, by simpa [hi] using heq⟩, hi⟩

theorem forget (h : Manned c) (t : Turns)
    (ht : ∀ j ∈ t.holder.toList ++ t.line, j ≠ i ∧ j ∈ c.turns.holder.toList ++ c.turns.line) :
    Manned { c.forget i with turns := t } := by
  intro j hj
  obtain ⟨hne, hm⟩ := ht j hj
  obtain ⟨e, he, hi⟩ := List.mem_map.mp (h j hm)
  exact List.mem_map.mpr ⟨e, List.mem_filter.mpr ⟨he, by simpa [hi] using hne⟩, hi⟩

theorem retire (h : Manned c) (hl : log.InTurn c.turns c.fresh) (ht : c.turns.holder = some i) :
    Manned (c.retire i) := by
  refine h.forget c.turns.pass fun j hj => ?_
  rw [pass_eq] at hj
  refine ⟨?_, List.mem_append_right _ hj⟩
  rintro rfl
  exact hl.not_mem_line ht hj

theorem leave (h : Manned c) (hl : log.InTurn c.turns c.fresh) (i : Nat) :
    Manned { c.forget i with turns := c.turns.leave i } := by
  unfold Turns.leave
  split
  · next ht => exact h.retire hl (by simpa [Turns.isTurnOf] using ht)
  · next ht =>
    have line : c.turns.line.Nodup :=
      ((List.pairwise_append.mp hl.ordered).2.1).imp Nat.ne_of_lt
    refine h.forget _ fun j hj => ?_
    rcases List.mem_append.mp hj with hj | hj
    · refine ⟨?_, List.mem_append_left _ hj⟩
      rintro rfl
      simp_all [Turns.isTurnOf]
    · obtain ⟨hne, hm⟩ := line.mem_erase_iff.mp hj
      exact ⟨hne, List.mem_append_right _ hm⟩

theorem settle (h : Manned c) (hl : log.InTurn c.turns c.fresh) (ht : c.turns.holder = some i)
    (x : Shared × Progress) : Manned (c.settle i x).1 := by
  obtain ⟨shared, progress⟩ := x
  cases progress with
  | answered a => exact h.retire (c := { c with shared }) hl ht
  | crashed text => exact h.retire (c := { c with shared }) hl ht
  | waiting sending wait => exact h.put (c := { c with shared }) i _

theorem turn (h : Manned c) (hl : log.InTurn c.turns c.fresh) (i : Nat) :
    Manned (c.turn i).1 := by
  unfold Calls.turn
  split
  · split
    · next ht => exact h.settle hl (by simpa [Turns.isTurnOf] using ht) _
    · exact h
  · exact h

theorem entered (h : Manned c) (r : Request) : Manned (c.entered r) := by
  intro j hj
  rcases mem_ask hj with hm | rfl
  · exact h.put c.fresh (.inLine r) j hm
  · simp [Calls.entered, Calls.put]

theorem deliver (h : Manned c) (hl : log.InTurn c.turns c.fresh) (hc : c.Orderly) (i : Nat)
    (o : Outcome) : Manned (c.deliver i o).1 := by
  unfold Calls.deliver
  split
  · next wait hi => exact h.settle hl (hc.waits i wait (Calls.mem_of_stage? hi)) _
  · exact h

theorem abandon (h : Manned c) (hl : log.InTurn c.turns c.fresh) (hc : c.Orderly) (i : Nat) :
    Manned (c.abandon i) := by
  unfold Calls.abandon
  split
  · exact h.leave hl i
  · next wait hi =>
    exact h.retire (c := { c with shared := c.shared.abandon wait }) hl
      (hc.waits i wait (Calls.mem_of_stage? hi))
  · exact h

end Manned

theorem Moved.manned {c c' : Calls} {m : Move} {log : Log} (moved : Moved c m c') (hc : c.Orderly)
    (hl : log.InTurn c.turns c.fresh) (h : Manned c) : Manned c' := by
  cases moved with
  | start r =>
    rw [Calls.start_eq]
    exact (h.entered r).turn (hl.ask r) c.fresh
  | turn i => exact h.turn hl i
  | deliver i o => exact h.deliver hl hc i o
  | abandon i => exact h.abandon hl hc i
  | beside shared apart stop => exact h

end ResultCursor.Shared
