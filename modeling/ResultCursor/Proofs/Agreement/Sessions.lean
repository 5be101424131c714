import ResultCursor.Proofs.Course.Frame

/-! Sessions that differ in their notes alone. Whatever one of them does, the other does too: no
step of a session looks at what was written down, and whether a stop could be asked for does not
change a command. -/

namespace ResultCursor

/-- An event without what only one kind of cursor can tell. Notes are left out. -/
def Event.deed? : Event → Option Event
  | .noted _ => none
  | .sent s => some (.sent { s with stop := none })
  | e => some e

/-- The deeds among the events. -/
def deeds (events : List Event) : List Event := events.filterMap Event.deed?

@[simp] theorem deeds_append (l m : List Event) : deeds (l ++ m) = deeds l ++ deeds m :=
  List.filterMap_append

@[simp] theorem deeds_noted (notes : List Note) : deeds (notes.map .noted) = [] := by
  simp [deeds, Event.deed?]

@[simp] theorem deeds_note (n : Note) : deeds [.noted n] = [] := rfl

namespace Session

/-- Two sessions in the same state that did the same. -/
inductive Agrees (s : Session) : Session → Prop where
  | intro {journal : List Event} (same : deeds journal = deeds s.journal) :
      Agrees s { s with journal }

/-- A session without its notes. -/
def bare (s : Session) : Session := { s with journal := deeds s.journal }

/-- Both come to the same result, and agree. -/
def Alike {α : Type} (x y : Session × α) : Prop :=
  ∃ u u' a, x = (u, a) ∧ y = (u', a) ∧ u.Agrees u'

namespace Agrees

variable {s t : Session}

theorem refl (s : Session) : s.Agrees s := ⟨rfl⟩

theorem trans {u : Session} (h : s.Agrees t) (h' : t.Agrees u) : s.Agrees u := by
  obtain ⟨same⟩ := h
  obtain ⟨same'⟩ := h'
  exact ⟨same'.trans same⟩

theorem symm (h : s.Agrees t) : t.Agrees s := by
  obtain ⟨same⟩ := h
  exact ⟨same.symm⟩

theorem bare_eq (h : s.Agrees t) : t.bare = s.bare := by
  obtain ⟨same⟩ := h
  simp only [bare, same]

theorem cursor_eq (h : s.Agrees t) : t.cursor = s.cursor := by
  obtain ⟨same⟩ := h
  rfl

theorem leased_eq (h : s.Agrees t) : t.leased = s.leased := by
  obtain ⟨same⟩ := h
  rfl

theorem isFinished_eq (h : s.Agrees t) : t.isFinished = s.isFinished := by
  obtain ⟨same⟩ := h
  rfl

theorem isSettled_eq (h : s.Agrees t) : t.isSettled = s.isSettled := by
  obtain ⟨same⟩ := h
  rfl

theorem of_note (s : Session) (n : Note) : (s.note n).Agrees s :=
  ⟨by simp⟩

theorem note (h : s.Agrees t) (m n : Note) : (s.note m).Agrees (t.note n) :=
  ((of_note s m).trans h).trans (of_note t n).symm

theorem deliver (h : s.Agrees t) (result : Except Failure Document) :
    (s.deliver result).Agrees (t.deliver result) := by
  obtain ⟨same⟩ := h
  exact ⟨by simp [same]⟩

theorem adjust (h : s.Agrees t) (deadline : Deadline) (clock : Clock) :
    Agrees { s with deadline, clock } { t with deadline, clock } := by
  obtain ⟨same⟩ := h
  exact ⟨same⟩

theorem close (h : s.Agrees t) : s.close.Agrees t.close := by
  obtain ⟨same⟩ := h
  exact ⟨same⟩

theorem setBatchSize (h : s.Agrees t) (n : Int32) :
    (s.setBatchSize n).Agrees (t.setBatchSize n) := by
  obtain ⟨same⟩ := h
  exact ⟨same⟩

theorem putBack (h : s.Agrees t) (saved : Option Span) :
    (s.putBack saved).Agrees (t.putBack saved) := by
  obtain ⟨same⟩ := h
  exact ⟨same⟩

theorem beginCall (h : s.Agrees t) : s.beginCall.Agrees t.beginCall := by
  obtain ⟨same⟩ := h
  unfold Session.beginCall
  dsimp only
  split
  · exact ⟨same⟩
  · exact ⟨same⟩

theorem finish (h : s.Agrees t) (call : Call) : Alike (s.finish call) (t.finish call) := by
  obtain ⟨same⟩ := h
  cases call with
  | hasNext => exact ⟨_, _, _, rfl, rfl, ⟨same⟩⟩
  | next =>
    simp only [Session.finish]
    cases s.cursor.buffer with
    | none => exact ⟨_, _, _, rfl, rfl, ⟨same⟩⟩
    | some batch => exact ⟨_, _, _, rfl, rfl, ⟨same⟩⟩
  | tryNext =>
    simp only [Session.finish]
    cases s.cursor.buffer with
    | none => exact ⟨_, _, _, rfl, rfl, ⟨same⟩⟩
    | some batch => exact ⟨_, _, _, rfl, rfl, ⟨same⟩⟩

theorem withCursor (h : s.Agrees t) (c : Cursor) :
    Agrees { s with cursor := c } { t with cursor := c } := by
  obtain ⟨same⟩ := h
  exact ⟨same⟩

theorem giveBack (h : s.Agrees t) : s.giveBack.Agrees t.giveBack := by
  cases hl : s.leased with
  | true =>
    rw [giveBack_of_leased hl, giveBack_of_leased (h.leased_eq.trans hl)]
    obtain ⟨same⟩ := h
    exact ⟨by simp [same]⟩
  | false =>
    rw [giveBack_of_not_leased hl, giveBack_of_not_leased (h.leased_eq.trans hl)]
    exact h

/-! ### Commands -/

theorem send (h : s.Agrees t) (command : Command) (stop stop' : Option Bool) :
    (s.send command stop).1.Agrees (t.send command stop').1 := by
  obtain ⟨same⟩ := h
  exact ⟨by
    change deeds (_ ++ [_]) = deeds (_ ++ [_])
    simp only [deeds_append, same]
    rfl⟩

/-- Both send their request, or both fail to in the same way. -/
theorem beginFetch (h : s.Agrees t) (stop stop' : Option Bool) :
    (∃ u u' sending sending', s.beginFetch stop = (u, .ok sending) ∧
      t.beginFetch stop' = (u', .ok sending') ∧ u.Agrees u') ∨
    (∃ u u' f, s.beginFetch stop = (u, .error f) ∧ t.beginFetch stop' = (u', .error f) ∧
      u.Agrees u') := by
  obtain @⟨journal, same⟩ := h
  have later : Agrees { s with clock := s.clock.read.2 }
      { s with clock := s.clock.read.2, journal } := ⟨same⟩
  cases hf : s.cursor.beginFetch s.deadline s.clock.read.1 with
  | error f =>
    exact .inr ⟨_, _, f, by simp only [Session.beginFetch, hf],
      by simp only [Session.beginFetch, hf], later⟩
  | ok started =>
    cases hl : s.leased with
    | false =>
      exact .inr ⟨_, _, _, by simp only [Session.beginFetch, hf, hl]; rfl,
        by simp only [Session.beginFetch, hf, hl]; rfl, later.withCursor started.1⟩
    | true =>
      exact .inl ⟨_, _, _, _, by simp only [Session.beginFetch, hf, hl, if_true]; rfl,
        by simp only [Session.beginFetch, hf, hl, if_true]; rfl,
        (later.withCursor started.1).send started.2 stop stop'⟩

theorem settleFetch (h : s.Agrees t) (result : Except Failure Document) :
    Alike (s.settleFetch result) (t.settleFetch result) := by
  have noted := (h.withCursor (s.cursor.settleFetch result).1).note
    (s.cursor.settleFetch result).2.1 (s.cursor.settleFetch result).2.1
  obtain ⟨same⟩ := h
  exact ⟨_, _, _, rfl, rfl, noted⟩

theorem takeKill (h : s.Agrees t) : Alike s.takeKill t.takeKill := by
  obtain ⟨notes, hs⟩ := takeKill_fst s
  obtain ⟨notes', ht⟩ := takeKill_fst t
  have kills : t.takeKill.2 = s.takeKill.2 := by
    rw [takeKill_snd, takeKill_snd, h.cursor_eq]
  have forgotten : s.takeKill.1.Agrees t.takeKill.1 := by
    rw [hs, ht]
    obtain ⟨same⟩ := h
    exact ⟨by simp [same]⟩
  exact ⟨s.takeKill.1, t.takeKill.1, s.takeKill.2, rfl, by rw [← kills], forgotten⟩

/-- Both clean-ups are over, or both wait. -/
theorem cleanUp (h : s.Agrees t) (kill : Option Command) (stop stop' : Option Bool) :
    (∃ u u', s.cleanUp kill stop = (u, .finished) ∧ t.cleanUp kill stop' = (u', .finished) ∧
      u.Agrees u') ∨
    (∃ u u' sending sending' saved, s.cleanUp kill stop = (u, .killing sending saved) ∧
      t.cleanUp kill stop' = (u', .killing sending' saved) ∧ u.Agrees u') := by
  cases kill with
  | none => exact .inl ⟨_, _, rfl, rfl, h.giveBack⟩
  | some command =>
    obtain @⟨journal, same⟩ := h
    have unsent : s.Agrees { s with journal } := ⟨same⟩
    have ready : s.underKillTime.Agrees { s with journal }.underKillTime := ⟨same⟩
    cases hl : s.leased with
    | false =>
      exact .inl ⟨s, { s with journal }, by simp [Session.cleanUp, hl],
        by simp [Session.cleanUp, hl], unsent⟩
    | true =>
      exact .inr ⟨_, _, _, _, _, by simp only [Session.cleanUp, hl, if_true, sendKill_eq]; rfl,
        by simp only [Session.cleanUp, hl, if_true, sendKill_eq]; rfl,
        ready.send command stop stop'⟩

theorem beginRelease (h : s.Agrees t) (stop stop' : Option Bool) :
    (∃ u u', s.beginRelease stop = (u, .finished) ∧ t.beginRelease stop' = (u', .finished) ∧
      u.Agrees u') ∨
    (∃ u u' sending sending' saved, s.beginRelease stop = (u, .killing sending saved) ∧
      t.beginRelease stop' = (u', .killing sending' saved) ∧ u.Agrees u') := by
  obtain ⟨u, u', kill, hs, ht, hu⟩ := h.takeKill
  rw [beginRelease_eq, beginRelease_eq, hs, ht]
  exact hu.cleanUp kill stop stop'

theorem settleKill (h : s.Agrees t) (saved : Option Span) (result : Except Failure Document) :
    (s.settleKill saved result).Agrees (t.settleKill saved result) :=
  ((h.putBack saved).note _ _).giveBack

end Agrees

/-! ### Closing before and after a clean-up -/

variable (s : Session)

theorem giveBack_close : s.close.giveBack = s.giveBack.close := by
  cases hl : s.leased with
  | true =>
    have leased : s.close.leased = true := hl
    rw [giveBack_of_leased hl, giveBack_of_leased leased]
    rfl
  | false =>
    have unleased : s.close.leased = false := hl
    rw [giveBack_of_not_leased hl, giveBack_of_not_leased unleased]

theorem cleanUp_close (kill : Option Command) (stop : Option Bool) :
    s.close.cleanUp kill stop = ((s.cleanUp kill stop).1.close, (s.cleanUp kill stop).2) := by
  cases kill with
  | none => exact congrArg (·, Cleanup.finished) s.giveBack_close
  | some command =>
    cases hl : s.leased with
    | true =>
      have sends {u : Session} (hu : u.leased = true) :
          u.cleanUp (some command) stop = u.sendKill command stop := by simp [cleanUp, hu]
      rw [sends hl, sends (u := s.close) hl]
      rfl
    | false => simp [cleanUp, hl]

theorem cleanUp_of_not_leased {s : Session} (hl : s.leased = false) (kill : Option Command)
    (stop : Option Bool) : s.cleanUp kill stop = (s, .finished) := by
  cases kill with
  | none => exact congrArg (·, Cleanup.finished) (giveBack_of_not_leased hl)
  | some command => simp [cleanUp, hl]

theorem settleKill_close (saved : Option Span) (result : Except Failure Document) :
    s.close.settleKill saved result = (s.settleKill saved result).close :=
  giveBack_close ((s.putBack saved).note _)

end Session

end ResultCursor
