import ResultCursor.Proofs.Course.Coherence
import ResultCursor.Proofs.Course.Quiet
import ResultCursor.Proofs.Run.Moves

/-! What a journal says of the requests for batches: whether the newest one has its result, and
which commands to end the server's cursor were sent before it had. -/

namespace ResultCursor

/-! ### Following the requests -/

def Command.isGetMore (c : Command) : Bool := c.name = "getMore"

def Command.isKill (c : Command) : Bool := c.name = "killCursors"

@[simp] theorem Command.isKill_kill (ns : Namespace) (remote : RemoteCursor) :
    (kill ns remote).isKill = true := by
  simp [isKill, name, kill]

@[simp] theorem Command.isGetMore_kill (ns : Namespace) (remote : RemoteCursor) :
    (kill ns remote).isGetMore = false := by
  simp [isGetMore, name, kill]

/-- What a journal says of the requests for batches. -/
structure Inquiry where
  /-- The newest request has no result so far. -/
  pending : Bool := false
  /-- No other command was sent after the newest request. -/
  asked : Bool := false
  /-- The number of commands to end the server's cursor that were sent while a request had no
  result. -/
  strays : Nat := 0

def Inquiry.hear (q : Inquiry) : Event → Inquiry
  | .sent s =>
    if s.command.isGetMore then { q with pending := true, asked := true }
    else { q with
      asked := false
      strays := q.strays + if s.command.isKill && q.pending then 1 else 0 }
  | .delivered _ => if q.asked then { q with pending := false, asked := false } else q
  | _ => q

theorem Inquiry.hear_quiet (q : Inquiry) (e : Event) (h : e.isQuiet = true) : q.hear e = q := by
  cases e with
  | sent s => cases h
  | delivered result => cases h
  | _ => rfl

namespace Session

variable {s t : Session}

def inquiry (s : Session) : Inquiry := s.journal.foldl Inquiry.hear {}

theorem inquiry_append {events : List Event} (hj : t.journal = s.journal ++ events) :
    t.inquiry = events.foldl Inquiry.hear s.inquiry := by
  simp [inquiry, hj]

theorem Quietly.inquiry (h : s.Quietly t) : t.inquiry = s.inquiry :=
  h.foldl_eq Inquiry.hear_quiet {}

theorem inquiry_sent_getMore {sending : Sending} (hj : t.journal = s.journal ++ [.sent sending])
    (hg : sending.command.isGetMore = true) : t.inquiry = ⟨true, true, s.inquiry.strays⟩ := by
  rw [inquiry_append hj]
  simp [Inquiry.hear, hg]

theorem inquiry_sent_other {sending : Sending} (hj : t.journal = s.journal ++ [.sent sending])
    (hg : sending.command.isGetMore = false) :
    t.inquiry = { s.inquiry with
      asked := false
      strays := s.inquiry.strays +
        if sending.command.isKill && s.inquiry.pending then 1 else 0 } := by
  rw [inquiry_append hj]
  simp [Inquiry.hear, hg]

@[simp] theorem note_inquiry (n : Note) : (s.note n).inquiry = s.inquiry :=
  (note_quietly n).inquiry

@[simp] theorem deliver_inquiry (result : Except Failure Document) :
    (s.deliver result).inquiry = s.inquiry.hear (.delivered result) := by
  rw [inquiry_append (deliver_journal result)]
  rfl

@[simp] theorem beginCall_inquiry : s.beginCall.inquiry = s.inquiry :=
  beginCall_quietly.inquiry

@[simp] theorem giveBack_inquiry : s.giveBack.inquiry = s.inquiry := giveBack_quietly.inquiry

@[simp] theorem takeKill_inquiry : s.takeKill.1.inquiry = s.inquiry := takeKill_quietly.inquiry

@[simp] theorem breakKill_inquiry (saved : Option Span) :
    (s.breakKill saved).inquiry = s.inquiry :=
  (breakKill_quietly saved).inquiry

@[simp] theorem settleKill_inquiry (saved : Option Span) (result : Except Failure Document) :
    (s.settleKill saved result).inquiry = s.inquiry :=
  (settleKill_quietly saved result).inquiry

theorem settleFetch_inquiry {result : Except Failure Document} {outcome : Except Failure Unit}
    (h : s.settleFetch result = (t, outcome)) : t.inquiry = s.inquiry :=
  (settleFetch_quietly h).inquiry

end Session

/-! ### Commands sent too early -/

theorem Command.isGetMore_of_isKill {c : Command} (h : c.isKill = true) : c.isGetMore = false := by
  simp only [isKill, isGetMore, decide_eq_true_eq, decide_eq_false_iff_not] at h ⊢
  simp [h]

namespace Inquiry

variable {q : Inquiry} {e : Event}

/-- The event is a command that ends the server's cursor, and a request has no result yet. -/
def MeetsKill (q : Inquiry) (e : Event) : Prop :=
  q.pending = true ∧ ∃ sending, e = .sent sending ∧ sending.command.isKill = true

theorem strays_of_meetsKill (h : q.MeetsKill e) : (q.hear e).strays = q.strays + 1 := by
  obtain ⟨hp, sending, rfl, hk⟩ := h
  simp [hear, Command.isGetMore_of_isKill hk, hk, hp]

theorem strays_of_not_meetsKill (h : ¬q.MeetsKill e) : (q.hear e).strays = q.strays := by
  cases e with
  | sent sending =>
    have hk : (sending.command.isKill && q.pending) = false := by
      refine Bool.eq_false_iff.mpr fun hk => h ?_
      obtain ⟨hk, hp⟩ := Bool.and_eq_true_iff.mp hk
      exact ⟨hp, sending, rfl, hk⟩
    simp only [hear, hk]
    split <;> rfl
  | delivered result =>
    simp only [hear]
    split <;> rfl
  | _ => rfl

end Inquiry

/-- Every command that ends the server's cursor was sent while no request was without its
result. -/
def Session.KillsAnswered (s : Session) : Prop :=
  ∀ pre sending post, s.journal = pre ++ .sent sending :: post → sending.command.isKill = true →
    (pre.foldl Inquiry.hear {}).pending = false

/-- The strays are counted right. -/
theorem Session.killsAnswered_iff (s : Session) : s.KillsAnswered ↔ s.inquiry.strays = 0 := by
  have folds (events : List Event) :
      events.foldlM (fun q e => some (q.hear e)) ({} : Inquiry) =
        some (events.foldl Inquiry.hear {}) := List.foldlM_pure
  have count := (run_count_iff Inquiry.MeetsKill Inquiry.strays (P := fun _ => True)
    (fun q _ e _ he => Option.some.inj he ▸
      ⟨trivial, Inquiry.strays_of_meetsKill, Inquiry.strays_of_not_meetsKill⟩)
    trivial (folds s.journal)).2
  refine Iff.trans ?_ count.symm
  constructor
  · rintro h pre e post q hs hq ⟨hp, sending, rfl, hk⟩
    cases (folds pre).symm.trans hq
    cases (h pre sending post hs hk).symm.trans hp
  · intro h pre sending post hs hk
    apply Bool.eq_false_iff.mpr
    intro hp
    exact h pre _ post _ hs (folds pre) ⟨hp, sending, rfl, hk⟩

end ResultCursor
