import ResultCursor.Proofs.Agreement.Kinds
import ResultCursor.Proofs.Course.Quiet
import ResultCursor.Proofs.Draining.Table

/-! How a call on a blocking cursor comes to its answer. At the table, a call that is answered
leaves the server where it was, and a call that waits goes on with what the server answers. -/

namespace ResultCursor

open Peer (MemoryServer)

variable {x y : MemoryServer} {now : Instant} {s t : Session}

/-- The server has no use for what goes unnoticed. -/
theorem Peer.MemoryServer.see_quiet (idle : x.released = x) {e : Event} (he : e.isQuiet = true)
    (o : Option Outcome) : see now (x, o) e = (x, o) := by
  cases e with
  | released r =>
    cases r with
    | connection => simp [see, idle]
    | source => rfl
  | sent sending => cases he
  | _ => rfl

namespace Table

/-- The server has seen all that the cursor did but what does not matter to it. -/
structure Current (x : MemoryServer) (seen : Nat) (s : Session) : Prop where
  within : seen ≤ (deeds s.journal).length
  silent : ∀ now, ((deeds s.journal).drop seen).foldl (MemoryServer.see now) (x, none) = (x, none)

namespace Current

variable {seen : Nat}

theorem refl (x : MemoryServer) (s : Session) : Current x (deeds s.journal).length s :=
  ⟨Nat.le_refl _, fun _ => by simp⟩

/-- What comes after is seen from where the server is. -/
theorem foldl_eq (h : Current x seen s) {events : List Event}
    (hj : t.journal = s.journal ++ events) (now : Instant) :
    ((deeds t.journal).drop seen).foldl (MemoryServer.see now) (x, none) =
      (deeds events).foldl (MemoryServer.see now) (x, none) := by
  rw [hj, deeds_append, List.drop_append_of_le_length h.within, List.foldl_append, h.silent]

theorem within_of (h : Current x seen s) {events : List Event}
    (hj : t.journal = s.journal ++ events) : seen ≤ (deeds t.journal).length := by
  rw [hj, deeds_append, List.length_append]
  exact Nat.le_trans h.within (Nat.le_add_right _ _)

theorem quietly (h : Current x seen s) (idle : x.released = x) (hq : s.Quietly t) :
    Current x seen t := by
  obtain ⟨events, hj, quiet⟩ := hq
  refine ⟨h.within_of hj, fun now => ?_⟩
  rw [h.foldl_eq hj]
  clear hj
  induction events with
  | nil => rfl
  | cons e events ih =>
    have rest := ih fun e' he => quiet e' (by simp [he])
    cases e with
    | noted n => exact rest
    | sent sending => cases quiet _ (List.mem_cons_self ..)
    | delivered result => cases quiet _ (List.mem_cons_self ..)
    | retained r => exact rest
    | released r =>
      have same : MemoryServer.see now (x, none) (.released r) = (x, none) :=
        MemoryServer.see_quiet idle rfl none
      exact (congrArg (fun a => (deeds events).foldl (MemoryServer.see now) a) same).trans rest

theorem deliver (h : Current x seen s) (result : Except Failure Document) :
    Current x seen (s.deliver result) where
  within := h.within_of (Session.deliver_journal result)
  silent now := h.foldl_eq (Session.deliver_journal result) now

end Current

/-- A blocking cursor that no call is waiting on, of which the server has seen everything. -/
def resting (s : Session) (h : History) (y : MemoryServer) : Table Blocking.Play :=
  ⟨⟨⟨s, {}⟩, none, h⟩, y, (deeds s.journal).length⟩

/-- The call was answered, and `P` holds of the answer and of what it left. -/
def Lands (P : Answer → Session → MemoryServer → Prop) (result : Option (Table Blocking.Play)) :
    Prop :=
  ∃ s h y a, result = some (resting s h y) ∧ h.ended = false ∧ h.answers.getLast? = some a ∧ P a s y

variable {P P' : Answer → Session → MemoryServer → Prop} {b : Blocking} {h : History} {seen n : Nat}

theorem Lands.mono {result : Option (Table Blocking.Play)} (hl : Lands P result)
    (hP : ∀ a s y, P a s y → P' a s y) : Lands P' result := by
  obtain ⟨s, h, y, a, hr, he, ha, hp⟩ := hl
  exact ⟨s, h, y, a, hr, he, ha, hP a s y hp⟩

theorem request_resting (he : h.ended = false) (r : Request) :
    (resting s h y).request Blocking.usage n r =
      settle Blocking.usage n
        ⟨.follow h (Blocking.request ⟨s, {}⟩ r), y, (deeds s.journal).length⟩ := by
  simp [request, resting, Blocking.usage, Blocking.Play.after, Blocking.Play.act,
    Blocking.Play.isFree, he]

/-- An answered call. -/
theorem lands_answered {a : Answer} (current : Current y seen b.session) (unstopped : b.signal = {})
    (he : h.ended = false) (hP : P a b.session y) :
    Lands P (settle Blocking.usage (n + 1) ⟨.follow h (b, .answered a), y, seen⟩) := by
  obtain ⟨s, signal⟩ := b
  cases unstopped
  refine ⟨s, h.answer a, y, a, ?_, he, by simp [History.answer], hP⟩
  have silent := current.silent s.clock.now
  dsimp only at silent
  simp only [settle, attend, done, Blocking.usage, Blocking.Play.follow, Blocking.Play.session,
    silent, Progress.wait?, Option.isSome_none, Bool.false_eq_true, if_false]
  rfl

/-- A call that waits for a command, which the server answers. -/
theorem lands_waiting {sending sending' : Sending} {wait : Wait} {d : Document} {z : MemoryServer}
    (current : Current y seen s) (hj : b.session.journal = s.journal ++ [.sent sending])
    (arrives : y.arrive sending.command sending.allowance { now := b.session.clock.now } =
      (z, .answers (.reply d) []))
    (next : Lands P (settle Blocking.usage n
      ⟨.follow (h.hear b.session.cursor.quota wait (.reply d)) (b.settle (.ok d) wait), z,
        (deeds b.session.journal).length⟩)) :
    Lands P (settle Blocking.usage (n + 1) ⟨.follow h (b, .waiting sending' wait), y, seen⟩) := by
  have sent := current.foldl_eq hj b.session.clock.now
  simp only [deeds, List.filterMap_cons, Event.deed?, List.filterMap_nil, List.foldl_cons,
    List.foldl_nil, MemoryServer.see, arrives, Peer.Reaction.outcome?] at sent
  simp only [settle, attend, done, Blocking.usage, Blocking.Play.follow, Blocking.Play.session,
    deeds, sent, Progress.wait?, Option.isSome_some, if_true, Option.bind_some, Outcome.result?]
  exact next

end Table

end ResultCursor
