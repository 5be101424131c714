import ResultCursor.Proofs.Scopes.Nesting

/-! Scopes on one deadline that begin and end in any order: guards that are dropped as it happens,
and the clean-ups of several cursors that run at the same time. Each scope puts back what it has
found. So once all of them have ended, the override is what the scope that ended last had found: the
one from before all of them, or else the limit of an older scope, which had ended before. -/

namespace ResultCursor.Scope

/-- A scope, with the override that it found when it began. -/
structure Entry where
  limit : Span
  found : Option Span
  deriving DecidableEq, Repr

/-- A scope begins, or the one of this number ends. They are numbered as they begin. -/
inductive Edge where
  | begins (entry : Entry)
  | ends (number : Nat)
  deriving DecidableEq, Repr

/-- The scopes of a history, in the order in which they began. -/
def entries (history : List Edge) : List Entry :=
  history.filterMap fun
    | .begins entry => some entry
    | .ends _ => none

@[simp] theorem entries_begins (history : List Edge) (entry : Entry) :
    entries (history ++ [.begins entry]) = entries history ++ [entry] := by simp [entries]

@[simp] theorem entries_ends (history : List Edge) (number : Nat) :
    entries (history ++ [.ends number]) = entries history := by simp [entries]

/-- The state when a scope has begun, with this deadline then. -/
def State.withOpened (s : State) (deadline : Deadline) (found : Option Span) : State :=
  { s with deadline, slots := s.slots ++ [some found] }

/-- The state when a scope has ended, with this deadline then. -/
def State.withEnded (s : State) (deadline : Deadline) (number : Nat) : State :=
  { s with deadline, slots := s.slots.set number none }

/-- What the users of one deadline do with it, one after another. A cursor that cleans up does so on
a session of its own, in which the deadline is the one that all of them use. -/
inductive Uses (start : State) : List Edge → State → Prop where
  | idle : Uses start [] start
  | guard {history : List Edge} {s : State} (uses : Uses start history s) (limit : Span) :
      Uses start (history ++ [.begins ⟨limit, s.deadline.override⟩]) (s.enter limit)
  | drop {history : List Edge} {s t : State} {number : Nat} (uses : Uses start history s)
      (held : s.leave number = (t, true)) : Uses start (history ++ [.ends number]) t
  | cleanUp {history : List Edge} {s : State} {session cleaning : Session} {kill : Option Command}
      {stop : Option Bool} {sending : Sending} {saved : Option Span} (uses : Uses start history s)
      (shared : session.deadline = s.deadline)
      (sent : session.cleanUp kill stop = (cleaning, .killing sending saved)) :
      Uses start (history ++ [.begins ⟨session.cursor.options.killTimeout, saved⟩])
        (s.withOpened cleaning.deadline saved)
  | settle {history : List Edge} {s : State} {session : Session} {saved : Option Span}
      {number : Nat} (uses : Uses start history s) (result : Except Failure Document)
      (shared : session.deadline = s.deadline) (held : s.slots[number]? = some (some saved)) :
      Uses start (history ++ [.ends number])
        (s.withEnded (session.settleKill saved result).deadline number)
  | breakOff {history : List Edge} {s : State} {session : Session} {saved : Option Span}
      {number : Nat} (uses : Uses start history s) (shared : session.deadline = s.deadline)
      (held : s.slots[number]? = some (some saved)) :
      Uses start (history ++ [.ends number])
        (s.withEnded (session.breakKill saved).deadline number)
  | other {history : List Edge} {s : State} {c : Change} (uses : Uses start history s)
      (other : c.isOfScope = false) : Uses start history (s.change c)

/-- The override from before all scopes, or the limit of one of the first so many. -/
def Stems (start : State) (history : List Edge) (n : Nat) (o : Option Span) : Prop :=
  o = start.deadline.override ∨
    ∃ j < n, ∃ older : Entry, (entries history)[j]? = some older ∧ o = some older.limit

/-- What is known of the scopes so far: those that are open will put back what they found, and what
a scope has found is the override from before all of them or the limit of an older one. -/
structure Ledger (start : State) (history : List Edge) (s : State) : Prop where
  number : s.slots.length = (entries history).length
  opened : ∀ (i : Nat) (saved : Option Span), s.slots[i]? = some (some saved) →
    ∃ limit, (entries history)[i]? = some ⟨limit, saved⟩
  ended : ∀ i : Nat, s.slots[i]? = some none → .ends i ∈ history
  origin : ∀ (i : Nat) (entry : Entry), (entries history)[i]? = some entry →
    Stems start history i entry.found

/-- The override, by what has happened last. -/
inductive Latest (start s : State) : List Edge → Prop where
  | none (untouched : s.deadline.override = start.deadline.override) : Latest start s []
  | begins {history : List Edge} {entry : Entry}
      (override : s.deadline.override = some entry.limit)
      (still : s.slots[(entries history).length]? = some (some entry.found)) :
      Latest start s (history ++ [.begins entry])
  | ends {history : List Edge} {number : Nat} {entry : Entry}
      (which : (entries history)[number]? = some entry)
      (override : s.deadline.override = entry.found) :
      Latest start s (history ++ [.ends number])

variable {start s : State} {history : List Edge} {deadline : Deadline} {limit : Span}
  {saved : Option Span} {number : Nat}

/-- An element of a list that one was added to. -/
theorem getElem?_concat_cases {α : Type} {l : List α} {a b : α} {i : Nat}
    (h : (l ++ [a])[i]? = some b) : l[i]? = some b ∨ i = l.length ∧ b = a := by
  rcases Nat.lt_trichotomy i l.length with below | rfl | above
  · exact .inl (by rwa [List.getElem?_append_left below] at h)
  · exact .inr ⟨rfl, by simpa using h.symm⟩
  · rw [List.getElem?_eq_none (by simpa [Nat.succ_le_iff] using above)] at h
    cases h

theorem getElem?_concat_of {α : Type} {l : List α} {a b : α} {i : Nat} (h : l[i]? = some b) :
    (l ++ [a])[i]? = some b := by
  rwa [List.getElem?_append_left (List.getElem?_eq_some_iff.mp h).1]

theorem Stems.begins {o : Option Span} {n : Nat} (h : Stems start history n o) (entry : Entry) :
    Stems start (history ++ [.begins entry]) n o := by
  refine h.imp_right fun ⟨j, below, older, which, same⟩ => ⟨j, below, older, ?_, same⟩
  rw [entries_begins]
  exact getElem?_concat_of which

theorem Stems.ends {o : Option Span} {n : Nat} (h : Stems start history n o) (number : Nat) :
    Stems start (history ++ [.ends number]) n o := by
  unfold Stems
  rwa [entries_ends]

/-- What a scope would find now. -/
theorem Latest.origin (latest : Latest start s history) (h : Ledger start history s) :
    Stems start history (entries history).length s.deadline.override := by
  cases latest with
  | none untouched => exact .inl untouched
  | @begins earlier entry override still =>
    exact .inr ⟨(entries earlier).length, by simp, entry, by simp, override⟩
  | @ends earlier number entry which override =>
    rw [override]
    refine (h.origin number entry (by simpa using which)).imp_right ?_
    rintro ⟨j, below, older⟩
    refine ⟨j, Nat.lt_trans below ?_, older⟩
    rw [entries_ends]
    exact (List.getElem?_eq_some_iff.mp which).1

namespace Ledger

theorem begins (h : Ledger start history s) (latest : Latest start s history) :
    Ledger start (history ++ [.begins ⟨limit, s.deadline.override⟩])
      (s.withOpened deadline s.deadline.override) where
  number := by simp [State.withOpened, h.number]
  opened i saved found := by
    rw [entries_begins]
    rcases getElem?_concat_cases found with old | ⟨rfl, same⟩
    · obtain ⟨limit, which⟩ := h.opened i saved old
      exact ⟨limit, getElem?_concat_of which⟩
    · refine ⟨limit, ?_⟩
      rw [h.number, List.getElem?_concat_length, Option.some.inj same]
  ended i found := by
    rcases getElem?_concat_cases found with old | ⟨-, same⟩
    · exact List.mem_append_left _ (h.ended i old)
    · cases same
  origin i entry found := by
    rw [entries_begins] at found
    rcases getElem?_concat_cases found with old | ⟨rfl, rfl⟩
    · exact (h.origin i entry old).begins _
    · exact (latest.origin h).begins _

theorem ends (h : Ledger start history s) :
    Ledger start (history ++ [.ends number]) (s.withEnded deadline number) where
  number := by simp [State.withEnded, h.number]
  opened i saved found := by
    rw [State.withEnded, List.getElem?_set] at found
    rw [entries_ends]
    split at found
    · split at found <;> simp at found
    · exact h.opened i saved found
  ended i found := by
    rw [State.withEnded, List.getElem?_set] at found
    split at found
    · simp [*]
    · exact List.mem_append_left _ (h.ended i found)
  origin i entry found := by
    rw [entries_ends] at found
    exact (h.origin i entry found).ends number

end Ledger

/-! ### Histories -/

theorem leave_held {t : State} (held : s.leave number = (t, true)) :
    ∃ saved, s.slots[number]? = some (some saved) ∧
      t = s.withEnded (s.deadline.withOverride saved) number := by
  unfold State.leave at held
  split at held
  next saved found => exact ⟨saved, found, (Prod.mk.inj held).1.symm⟩
  · cases (Prod.mk.inj held).2

/-- Both what is known of the scopes and what the override is. -/
structure Recorded (start : State) (history : List Edge) (s : State) : Prop where
  ledger : Ledger start history s
  latest : Latest start s history

namespace Recorded

theorem begins (h : Recorded start history s) (override : deadline.override = some limit) :
    Recorded start (history ++ [.begins ⟨limit, s.deadline.override⟩])
      (s.withOpened deadline s.deadline.override) where
  ledger := h.ledger.begins h.latest
  latest := .begins override (by simp [State.withOpened, ← h.ledger.number])

theorem ends (h : Recorded start history s) (held : s.slots[number]? = some (some saved))
    (override : deadline.override = saved) :
    Recorded start (history ++ [.ends number]) (s.withEnded deadline number) where
  ledger := h.ledger.ends
  latest := by
    obtain ⟨limit, which⟩ := h.ledger.opened number saved held
    exact .ends which override

theorem other (h : Recorded start history s) {c : Change} (other : c.isOfScope = false) :
    Recorded start history (s.change c) := by
  obtain ⟨override, slots⟩ := State.change_other other s
  obtain ⟨⟨number, opened, ended, origin⟩, latest⟩ := h
  refine ⟨⟨by rw [slots, number], by rwa [slots], by rwa [slots], origin⟩, ?_⟩
  cases latest with
  | none untouched => exact .none (override.trans untouched)
  | begins limit still => exact .begins (override.trans limit) (by rw [slots, still])
  | ends which found => exact .ends which (override.trans found)

end Recorded

theorem Uses.recorded (uses : Uses start history s) (fresh : start.slots = []) :
    Recorded start history s := by
  induction uses with
  | idle =>
    refine ⟨⟨by simp [fresh, entries], ?_, ?_, ?_⟩, .none rfl⟩ <;> simp [fresh, entries]
  | guard uses limit ih => exact ih.begins rfl
  | drop uses held ih =>
    obtain ⟨saved, found, rfl⟩ := leave_held held
    exact ih.ends found rfl
  | cleanUp uses shared sent ih =>
    obtain ⟨rfl, deadline⟩ := Session.cleanUp_override sent
    rw [shared]
    exact ih.begins (by rw [deadline]; rfl)
  | settle uses result shared held ih =>
    exact ih.ends held (by rw [Session.settleKill_deadline]; rfl)
  | breakOff uses shared held ih =>
    exact ih.ends held (by rw [Session.breakKill_deadline]; rfl)
  | other uses other ih => exact ih.other other

/-- Once all scopes on a deadline have ended, in whatever order, the override is the one from before
all of them exactly when the scope that ended last had found that one. Otherwise it is the limit of
an older scope, which had ended before. -/
theorem overlapping_scopes_restore_iff (uses : Uses start history s) (fresh : start.slots = [])
    (allEnded : ∀ slot ∈ s.slots, slot = none) (used : history ≠ []) :
    ∃ earlier last entry, history = earlier ++ [.ends last] ∧
      (entries history)[last]? = some entry ∧
      (s.deadline.override = start.deadline.override ↔
        entry.found = start.deadline.override) ∧
      (s.deadline.override ≠ start.deadline.override →
        ∃ number < last, ∃ older : Entry, (entries history)[number]? = some older ∧
          .ends number ∈ earlier ∧ s.deadline.override = some older.limit) := by
  obtain ⟨ledger, latest⟩ := uses.recorded fresh
  cases latest with
  | none => contradiction
  | begins override still => cases allEnded _ (List.mem_of_getElem? still)
  | @ends earlier last entry which override =>
    refine ⟨earlier, last, entry, rfl, by simpa using which, by rw [override], fun changed => ?_⟩
    have stems := ledger.origin last entry (by simpa using which)
    obtain ⟨number, below, older, found, same⟩ := stems.resolve_left (override ▸ changed)
    refine ⟨number, below, older, found, ?_, override.trans same⟩
    -- the older scope has a slot, which is empty by now
    have has_slot : number < s.slots.length := by
      rw [ledger.number]
      exact (List.getElem?_eq_some_iff.mp found).1
    have empty : s.slots[number]? = some none := by
      rw [List.getElem?_eq_getElem has_slot, allEnded _ (List.getElem_mem has_slot)]
    simpa [Nat.ne_of_lt below] using ledger.ended number empty

/-- A dropped cursor whose server cursor is still to be ended, on a deadline that it shares. -/
def dropped (deadline : Deadline) (killTimeout : Span) : Session where
  cursor := { Cursor.fresh ⟨"test", "items"⟩ false .localServer { killTimeout } with
    remote := some ⟨7, .localServer, by decide⟩ }
  leased := true
  deadline
  clock := ⟨0, []⟩
  counts := ⟨2, 2⟩
  journal := []

/-- The clean-up of such a cursor begins. -/
theorem Uses.cleans (uses : Uses start history s) (killTimeout : Span) :
    Uses start (history ++ [.begins ⟨killTimeout, s.deadline.override⟩])
      (s.withOpened (s.deadline.withOverride (some killTimeout)) s.deadline.override) := by
  have shared : (dropped s.deadline killTimeout).takeKill.1.deadline = s.deadline := rfl
  have sent : (dropped s.deadline killTimeout).takeKill.1.cleanUp
      (dropped s.deadline killTimeout).takeKill.2 none = (_, .killing _ s.deadline.override) := rfl
  exact uses.cleanUp shared sent

/-- The server has answered, and the clean-up ends. -/
theorem Uses.cleaned (uses : Uses start history s) (number : Nat)
    (held : s.slots[number]? = some (some saved)) :
    Uses start (history ++ [.ends number])
      (s.withEnded (s.deadline.withOverride saved) number) := by
  have shared : (dropped s.deadline .zero).deadline = s.deadline := rfl
  have settled := uses.settle (.ok []) shared held
  rwa [Session.settleKill_deadline] at settled

/-- Clean-ups and a guard, of which only the last one ends while it is the newest. It is the one
that ends last, and it began when no scope was open. -/
theorem overlapping_scopes_restore_when_last_found_none :
    ∃ s, Uses ⟨.unlimited, ⟨0, []⟩, []⟩
        [.begins ⟨.ofMillis 2000, none⟩, .begins ⟨.ofMillis 10, some (.ofMillis 2000)⟩,
          .ends 0, .begins ⟨.ofMillis 50, none⟩, .ends 1, .ends 2] s ∧
      (∀ slot ∈ s.slots, slot = none) ∧ s.deadline.override = none := by
  have fresh : Uses ⟨.unlimited, ⟨0, []⟩, []⟩ [] _ := .idle
  have first := ((fresh.cleans (.ofMillis 2000)).cleans (.ofMillis 10)).cleaned 0 rfl
  have second := (first.guard (.ofMillis 50)).cleaned 1 rfl
  have ended := second.drop (show State.leave _ 2 = (_, true) from rfl)
  refine ⟨_, ended, by decide, ?_⟩
  obtain ⟨earlier, last, entry, same, which, restored, -⟩ :=
    overlapping_scopes_restore_iff ended rfl (by decide) (by simp)
  cases (List.append_inj' same rfl).2
  cases which
  exact restored.mpr rfl

/-- Two guards, of which the first one is dropped first. The limit of the first one is left. So it
is with the clean-ups of two cursors that end in the order in which they began. -/
theorem overlapping_scopes_leave_residue :
    (run .unlimited ⟨0, []⟩
        [.enter (.ofMillis 2000), .enter (.ofMillis 10), .leave 0, .leave 1]).last =
      ⟨.withOverride .unlimited (some (.ofMillis 2000)), 0⟩ ∧
    ∃ s, Uses ⟨.unlimited, ⟨0, []⟩, []⟩
        [.begins ⟨.ofMillis 2000, none⟩, .begins ⟨.ofMillis 10, some (.ofMillis 2000)⟩,
          .ends 0, .ends 1] s ∧
      (∀ slot ∈ s.slots, slot = none) ∧ s.deadline.override = some (.ofMillis 2000) := by
  have fresh : Uses ⟨.unlimited, ⟨0, []⟩, []⟩ [] _ := .idle
  have first := ((fresh.cleans (.ofMillis 2000)).cleans (.ofMillis 10)).cleaned 0 rfl
  exact ⟨rfl, _, first.cleaned 1 rfl, by decide, rfl⟩

end ResultCursor.Scope
