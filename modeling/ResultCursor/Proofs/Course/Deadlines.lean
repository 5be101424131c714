import ResultCursor.Proofs.Course.Coherence

/-! What the steps of a session do to the deadline. A clean-up puts the time for its command in
place of the override and puts the old one back; the other steps leave the override alone. And no
step changes the options, which say what the deadline spans. -/

namespace ResultCursor

/-- The deadline without its override. -/
def Deadline.overall (d : Deadline) : Option Span × Option Instant := (d.timeout, d.limit)

/-- A deadline that is started anew ends when its timeout has gone by. -/
theorem Deadline.restart_overall (d : Deadline) (now : Instant) :
    (d.restart now).overall = (d.timeout, (d.timeout.map fun t => now + t.nanos).or d.limit) := by
  cases h : d.timeout <;> simp [restart, overall, h]

@[simp] theorem Deadline.restart_override (d : Deadline) (now : Instant) :
    (d.restart now).override = d.override := by
  unfold restart
  split <;> rfl

namespace Session

variable {s t : Session}

@[simp] theorem note_deadline (n : Note) : (s.note n).deadline = s.deadline := rfl
@[simp] theorem deliver_deadline (r : Except Failure Document) :
    (s.deliver r).deadline = s.deadline := rfl
@[simp] theorem close_deadline : s.close.deadline = s.deadline := rfl

@[simp] theorem giveBack_deadline : s.giveBack.deadline = s.deadline := by
  unfold giveBack
  split <;> rfl

@[simp] theorem takeKill_deadline : s.takeKill.1.deadline = s.deadline := by
  obtain ⟨notes, ht⟩ := takeKill_fst s
  rw [ht]

@[simp] theorem finish_deadline (call : Call) : (s.finish call).1.deadline = s.deadline := by
  rcases s.finish_cases call with ⟨batch, -, hf⟩ | ⟨a, hf, -⟩ <;> simp [hf]

@[simp] theorem finish_options (call : Call) :
    (s.finish call).1.cursor.options = s.cursor.options := by
  rcases s.finish_cases call with ⟨batch, -, hf⟩ | ⟨a, hf, -⟩ <;> simp [hf]

@[simp] theorem settleKill_deadline (saved : Option Span) (result : Except Failure Document) :
    (s.settleKill saved result).deadline = s.deadline.withOverride saved := by
  obtain ⟨n, h⟩ := s.settleKill_eq saved result
  simp [h, putBack]

@[simp] theorem breakKill_deadline (saved : Option Span) :
    (s.breakKill saved).deadline = s.deadline.withOverride saved := by
  have back : (s.putBack saved).deadline = s.deadline.withOverride saved := rfl
  rcases (s.putBack saved).giveBackOnDrop_eq with h | ⟨n, h⟩ <;> simp [breakKill, h, back]

/-- A command may take the time that the deadline gives at the moment at which it is sent. -/
theorem send_allowance (s : Session) (command : Command) (stop : Option Bool) :
    (s.send command stop).2.allowance =
      (s.send command stop).1.deadline.allowance (s.send command stop).1.clock.now := by
  simp [send, record, Clock.read_snd_now]

theorem beginFetch_allowance {stop : Option Bool} {sending : Sending}
    (h : s.beginFetch stop = (t, .ok sending)) :
    sending.allowance = t.deadline.allowance t.clock.now := by
  unfold beginFetch at h
  cases hf : s.cursor.beginFetch s.deadline s.clock.read.1 with
  | error f => simp [hf] at h
  | ok started =>
    cases hl : s.leased with
    | false => simp [hf, hl] at h
    | true =>
      simp only [hf, hl, if_true, Prod.mk.injEq, Except.ok.injEq] at h
      obtain ⟨rfl, rfl⟩ := h
      exact send_allowance _ _ _

theorem settleFetch_deadline {result : Except Failure Document} {outcome : Except Failure Unit}
    (h : s.settleFetch result = (t, outcome)) : t.deadline = s.deadline := by
  rcases settleFetch_cases h with ⟨r, n, -, -, rfl⟩ | ⟨f, n, -, -, -, rfl⟩ | ⟨f, n, -, -, -, rfl⟩
  all_goals rfl

theorem ofReply_deadline {reply : Document} {setting : Setting}
    (h : ofReply reply setting = .ok s) : s.deadline = setting.deadline := by
  rw [ofReply_eq] at h
  cases hc : Cursor.ofReply reply setting.address setting.options with
  | error f => simp [hc] at h
  | ok opened =>
    simp only [hc, Except.ok.injEq] at h
    rw [← h]
    split <;> rfl

theorem settleFetch_options {result : Except Failure Document} {outcome : Except Failure Unit}
    (h : s.settleFetch result = (t, outcome)) : t.cursor.options = s.cursor.options := by
  rcases settleFetch_cases h with ⟨r, n, -, -, rfl⟩ | ⟨f, n, -, -, -, rfl⟩ | ⟨f, n, -, -, -, rfl⟩
  all_goals rfl

/-- A clean-up that waits has put the time for its command in place of the override. -/
theorem cleanUp_override {kill : Option Command} {stop : Option Bool} {sending : Sending}
    {saved : Option Span} (h : s.cleanUp kill stop = (t, .killing sending saved)) :
    saved = s.deadline.override ∧
      t.deadline = s.deadline.withOverride (some s.cursor.options.killTimeout) := by
  obtain ⟨leased, command, rfl, rfl⟩ := cleanUp_killing h
  simp only [cleanUp, leased, if_true, sendKill_eq, Prod.mk.injEq, Cleanup.killing.injEq] at h
  exact ⟨h.2.2.symm, rfl⟩

/-- The start of a call leaves the override as it is. -/
theorem beginCall_override (s : Session) : s.beginCall.deadline.override = s.deadline.override := by
  unfold beginCall
  split
  · rfl
  · exact Deadline.restart_override _ _

end Session

/-! ### Options -/

namespace Situation

variable {R : Rules} {S T : Situation} {reply : Document} {setting : Setting}

/-- A cursor keeps the options that it was opened with. -/
theorem Step.options (step : Step R S T) (hc : S.Coherent) :
    T.session.cursor.options = S.session.cursor.options := by
  cases step with
  | enter call isOpen => simp
  | finish settled => simp
  | ask needed sent =>
    obtain ⟨-, remote, left, -, -, -, rfl⟩ := Session.beginFetch_ok sent
    rfl
  | refuse allowed needed refused settled =>
    obtain ⟨since, n, -, -, rfl⟩ := hc.refused needed refused settled
    rfl
  | settle result settled => simpa using Session.settleFetch_options settled
  | takeKill => simp [Session.takeKill_fst_cursor]
  | spare clean => simp only [Session.cleanUp_cursor clean]
  | sendKill clean => simp only [Session.cleanUp_cursor clean]
  | settleKill result => simp
  | breakKill => simp
  | content => simp
  | dropAndLeave => simp [Session.takeKill_fst_cursor, Cursor.close]
  | forsake => simp
  | _ => rfl

theorem Courses.options (hS : Courses reply setting S) :
    S.session.cursor.options = setting.options := by
  refine hS.induction (fun s hs => ?_) fun S T hC same step =>
    (step.options hC.coherent).trans same
  obtain ⟨first, n, -, hc, -⟩ := Session.ofReply_ok hs
  simp [opening, hc, Cursor.absorb, Cursor.fresh]

end Situation

end ResultCursor
