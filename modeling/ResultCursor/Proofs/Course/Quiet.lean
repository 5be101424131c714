import ResultCursor.Proofs.Course.Frame

/-! Which steps of a session go unnoticed by the server: they send no command and hear of no
result. -/

namespace ResultCursor

def Event.isQuiet : Event → Bool
  | .sent _ => false
  | .delivered _ => false
  | _ => true

namespace Session

variable {s t u : Session}

/-- Nothing was sent or heard of between the two. -/
def Quietly (s t : Session) : Prop :=
  ∃ events, t.journal = s.journal ++ events ∧ ∀ e ∈ events, e.isQuiet = true

theorem Quietly.of_eq (hj : t.journal = s.journal) : s.Quietly t :=
  ⟨[], by simp [hj], by simp⟩

theorem Quietly.trans (h : s.Quietly t) (h' : t.Quietly u) : s.Quietly u := by
  obtain ⟨events, hj, hq⟩ := h
  obtain ⟨events', hj', hq'⟩ := h'
  refine ⟨events ++ events', by rw [hj', hj, List.append_assoc], fun e he => ?_⟩
  exact (List.mem_append.mp he).elim (hq e) (hq' e)

/-- What reads a journal event by event and passes over the quiet ones sees no difference. -/
theorem Quietly.foldl_eq {α : Type} {hear : α → Event → α} (h : s.Quietly t)
    (quiet : ∀ a e, e.isQuiet = true → hear a e = a) (a : α) :
    t.journal.foldl hear a = s.journal.foldl hear a := by
  obtain ⟨events, hj, hq⟩ := h
  rw [hj, List.foldl_append]
  clear hj
  generalize s.journal.foldl hear a = b
  induction events with
  | nil => rfl
  | cons e events ih =>
    rw [List.foldl_cons, quiet b e (hq e (by simp))]
    exact ih fun e' he => hq e' (by simp [he])

/-- What picks none of the quiet events finds nothing new. -/
theorem Quietly.filterMap_eq {α : Type} {pick : Event → Option α} (h : s.Quietly t)
    (quiet : ∀ e, e.isQuiet = true → pick e = none) :
    t.journal.filterMap pick = s.journal.filterMap pick := by
  obtain ⟨events, hj, hq⟩ := h
  have silent : events.filterMap pick = [] :=
    List.filterMap_eq_nil_iff.mpr fun e he => quiet e (hq e he)
  rw [hj, List.filterMap_append, silent, List.append_nil]

theorem note_quietly (n : Note) : s.Quietly (s.note n) := ⟨[.noted n], rfl, by simp [Event.isQuiet]⟩

theorem beginCall_quietly : s.Quietly s.beginCall := .of_eq beginCall_journal

theorem giveBack_quietly : s.Quietly s.giveBack := by
  cases hl : s.leased with
  | true => exact ⟨returns, by rw [giveBack_of_leased hl], by simp [returns, Event.isQuiet]⟩
  | false => exact .of_eq (by rw [giveBack_of_not_leased hl])

theorem takeKill_quietly : s.Quietly s.takeKill.1 := by
  obtain ⟨notes, ht⟩ := takeKill_fst s
  refine ⟨notes.map .noted, by rw [ht], fun e he => ?_⟩
  obtain ⟨n, -, rfl⟩ := List.mem_map.mp he
  rfl

theorem breakKill_quietly (saved : Option Span) : s.Quietly (s.breakKill saved) := by
  have hp : s.Quietly (s.putBack saved) := .of_eq rfl
  refine hp.trans ?_
  unfold breakKill
  rcases (s.putBack saved).giveBackOnDrop_eq with h | ⟨n, h⟩
  · rw [h]
    exact giveBack_quietly
  · rw [h]
    exact (note_quietly n).trans giveBack_quietly

theorem settleKill_quietly (saved : Option Span) (result : Except Failure Document) :
    s.Quietly (s.settleKill saved result) := by
  have hp : s.Quietly (s.putBack saved) := .of_eq rfl
  obtain ⟨n, h⟩ := s.settleKill_eq saved result
  rw [h]
  exact hp.trans ((note_quietly n).trans giveBack_quietly)

theorem settleFetch_quietly {result : Except Failure Document} {outcome : Except Failure Unit}
    (h : s.settleFetch result = (t, outcome)) : s.Quietly t := by
  rcases settleFetch_cases h with ⟨r, n, -, -, rfl⟩ | ⟨f, n, -, -, -, rfl⟩ | ⟨f, n, -, -, -, rfl⟩
  all_goals exact ⟨[.noted n], rfl, by simp [Event.isQuiet]⟩

/-- A first reply is taken over before anything is said. -/
theorem ofReply_quietly {reply : Document} {setting : Setting}
    (h : ofReply reply setting = .ok s) : ({ s with journal := [] } : Session).Quietly s := by
  refine ⟨s.journal, rfl, ?_⟩
  obtain ⟨first, n, -, -, -, ⟨-, -, hj⟩ | ⟨-, -, hj⟩⟩ := ofReply_ok h
  · simp [hj, Event.isQuiet]
  · simp [hj, takings, Event.isQuiet]

end Session

end ResultCursor
