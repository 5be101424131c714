import ResultCursor.Proofs.Course.Deadlines
import ResultCursor.Proofs.Inquiry

/-! What a step says to the server and hears from it: it sends one command, hears of one result, or
passes unnoticed. So the commands sent are those that have their result, those that were given up,
and at most one that is under way. -/

namespace ResultCursor

def Event.command? : Event → Option Command
  | .sent s => some s.command
  | _ => none

def Event.result? : Event → Option (Except Failure Document)
  | .delivered result => some result
  | _ => none

namespace Session

variable {s t : Session}

/-- The commands sent so far, in order. -/
def commands (s : Session) : List Command := s.journal.filterMap Event.command?

/-- The results of commands that came so far, in order. -/
def results (s : Session) : List (Except Failure Document) := s.journal.filterMap Event.result?

theorem Quietly.commands (h : s.Quietly t) : t.commands = s.commands :=
  h.filterMap_eq fun e he => by
    cases e with
    | sent sending => cases he
    | _ => rfl

theorem Quietly.results (h : s.Quietly t) : t.results = s.results :=
  h.filterMap_eq fun e he => by
    cases e with
    | delivered result => cases he
    | _ => rfl

theorem commands_sent {sending : Sending} (hj : t.journal = s.journal ++ [.sent sending]) :
    t.commands = s.commands ++ [sending.command] := by
  simp [commands, hj, Event.command?]

theorem results_sent {sending : Sending} (hj : t.journal = s.journal ++ [.sent sending]) :
    t.results = s.results := by
  simp [results, hj, Event.result?]

@[simp] theorem deliver_commands (result : Except Failure Document) :
    (s.deliver result).commands = s.commands := by
  simp [commands, Event.command?]

@[simp] theorem deliver_results (result : Except Failure Document) :
    (s.deliver result).results = s.results ++ [result] := by
  simp [results, Event.result?]

theorem finish_quietly (s : Session) (call : Call) : s.Quietly (s.finish call).1 := by
  rcases s.finish_cases call with ⟨batch, -, hf⟩ | ⟨a, hf, -⟩
  · rw [hf]
    exact .of_eq rfl
  · rw [hf]
    exact .of_eq rfl

end Session

/-- The number of commands under way. -/
def Control.pending : Control → Nat
  | .waiting _ => 1
  | _ => 0

/-- The number of commands that never got a result. -/
def History.unanswered (h : History) : Nat := h.lost + h.broken.length

theorem Control.pending_due (s : Session) (after : Aftermath) : (due s after).pending = 0 := by
  unfold due
  split <;> rfl

theorem Control.pending_ofWait (wait : Option Wait) :
    (ofWait wait).pending = wait.toList.length := by
  cases wait <;> rfl

@[simp] theorem History.unanswered_settle (h : History) (q : Quota)
    (result : Except Failure Document) : (h.settle q result).unanswered = h.unanswered := by
  unfold settle
  split <;> rfl

theorem History.unanswered_lose (h : History) : h.lose.unanswered = h.unanswered + 1 := by
  simp only [unanswered, lose]
  omega

theorem History.unanswered_breakOff (h : History) (after : Aftermath) :
    (h.breakOff after).unanswered = h.unanswered + 1 := by
  simp only [unanswered, breakOff, List.length_append, List.length_singleton]
  omega

namespace Situation

variable {R : Rules} {S T : Situation}

/-- What a step has to do with the server, and what becomes of the command under way. -/
inductive Speech (R : Rules) (S T : Situation) : Prop where
  | quiet (unheard : S.session.Quietly T.session)
      (same : T.control.pending + T.history.unanswered =
        S.control.pending + S.history.unanswered)
  | sends (sending : Sending) (sent : T.session.journal = S.session.journal ++ [.sent sending])
      (allowance : sending.allowance = T.session.deadline.allowance T.session.clock.now)
      (before : S.control.pending = 0) (after : T.control.pending = 1)
      (same : T.history.unanswered = S.history.unanswered)
      (what : (R .ask ∧ sending.command.isGetMore = true ∧
          ∃ call, T.control = .waiting (.batch call)) ∨
        ∃ saved after, S.control = .cleaning (some sending.command) after ∧
          T.control = .waiting (.kill saved after))
  | hears (result : Except Failure Document)
      (heard : (S.session.deliver result).Quietly T.session)
      (before : S.control.pending = 1) (after : T.control.pending = 0)
      (same : T.history.unanswered = S.history.unanswered)

/-- A step that neither starts nor ends to wait, and says nothing. -/
theorem Speech.still {s t : Session} {c d : Control} {h h' : History} (hq : s.Quietly t)
    (hc : d.pending = c.pending) (hh : h'.unanswered = h.unanswered) :
    Speech R ⟨s, c, h⟩ ⟨t, d, h'⟩ :=
  .quiet hq (by rw [hc, hh])

theorem Step.speech (step : Step R S T) (hc : S.Coherent) : Speech R S T := by
  cases step with
  | adjust deadline clock => exact .still (.of_eq rfl) rfl rfl
  | note n => exact .still (Session.note_quietly n) rfl rfl
  | setBatchSize n => exact .still (.of_eq rfl) rfl rfl
  | inspect => exact .still (.of_eq rfl) rfl rfl
  | enter call isOpen => exact .still Session.beginCall_quietly rfl rfl
  | stay closed ha => exact .still (.of_eq rfl) rfl rfl
  | finish settled => exact .still (Session.finish_quietly _ _) rfl rfl
  | halt halt => exact .still (.of_eq rfl) rfl rfl
  | @ask s t call h stop sending needed sent allowed =>
    have allowance := Session.beginFetch_allowance sent
    obtain ⟨-, remote, left, -, -, hcmd, rfl⟩ := Session.beginFetch_ok sent
    exact .sends sending rfl allowance rfl rfl rfl (.inl ⟨allowed, by rw [hcmd]; rfl, call, rfl⟩)
  | refuse allowed needed refused settled =>
    obtain ⟨since, n, -, -, rfl⟩ := hc.refused needed refused settled
    exact .still (Session.note_quietly n) (Control.pending_due _ _) rfl
  | settle result settled =>
    exact .hears result (Session.settleFetch_quietly settled) rfl (Control.pending_due _ _)
      (by simp)
  | @lose s call h allowed =>
    refine .quiet (.of_eq rfl) ?_
    simp only [History.unanswered_lose, Control.pending]
    omega
  | takeKill => exact .still Session.takeKill_quietly rfl rfl
  | spare clean =>
    cases Session.cleanUp_finished clean
    exact .still Session.giveBack_quietly rfl rfl
  | sendKill clean =>
    obtain ⟨-, command, rfl, rfl⟩ := Session.cleanUp_killing clean
    exact .sends _ rfl (Session.send_allowance _ _ _) rfl rfl rfl (.inr ⟨_, _, rfl, rfl⟩)
  | settleKill result =>
    exact .hears result (Session.settleKill_quietly _ result) rfl rfl rfl
  | @breakKill s saved after h allowed =>
    refine .quiet (Session.breakKill_quietly saved) ?_
    simp only [History.unanswered_breakOff, Control.pending]
    omega
  | opened => exact .still (.of_eq rfl) rfl rfl
  | again more => exact .still (.of_eq rfl) rfl rfl
  | content => exact .still (Session.finish_quietly _ .tryNext) rfl rfl
  | fail => exact .still (.of_eq rfl) rfl rfl
  | relent returns => exact .still (.of_eq rfl) rfl rfl
  | shut allowed => exact .still (.of_eq rfl) rfl rfl
  | close ha => exact .still (.of_eq rfl) rfl rfl
  | retire finished => exact .still (.of_eq rfl) rfl rfl
  | dropAndClose => exact .still (.of_eq rfl) rfl rfl
  | dropAndLeave => exact .still (Session.takeKill_quietly.trans (.of_eq rfl)) rfl rfl
  | forsake allowed => exact .still Session.giveBack_quietly rfl rfl
  | bury ended returned => exact .still (.of_eq rfl) rfl rfl

/-- Every command has its result, was given up or is under way. -/
def Accounted (S : Situation) : Prop :=
  S.session.commands.length =
    S.session.results.length + S.history.unanswered + S.control.pending

theorem Speech.accounted (speech : Speech R S T) (hS : S.Accounted) : T.Accounted := by
  unfold Accounted at hS ⊢
  cases speech with
  | quiet unheard same =>
    rw [unheard.commands, unheard.results]
    omega
  | sends sending sent allowance before after same what =>
    rw [Session.commands_sent sent, Session.results_sent sent, List.length_append,
      List.length_singleton]
    omega
  | hears result heard before after same =>
    rw [heard.commands, heard.results, Session.deliver_commands, Session.deliver_results,
      List.length_append, List.length_singleton]
    omega

theorem Courses.accounted {reply : Document} {setting : Setting}
    (hS : Courses reply setting S) : S.Accounted := by
  refine hS.induction (fun s hs => ?_) fun S T hC hS step =>
    (step.speech hC.coherent).accounted hS
  have quiet := Session.ofReply_quietly hs
  have commands : s.commands = [] := quiet.commands
  have results : s.results = [] := quiet.results
  have unanswered : (History.ofReply reply setting).unanswered = 0 := by
    unfold History.ofReply
    split <;> rfl
  simp [Accounted, opening, commands, results, unanswered, Control.pending_due]

end Situation

end ResultCursor
