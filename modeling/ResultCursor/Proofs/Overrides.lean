import ResultCursor.Proofs.Course.Deadlines
import ResultCursor.Proofs.Dialogue
import ResultCursor.Proofs.Sharing.Answers
import ResultCursor.Proofs.Speech

/-! The deadline of a cursor. A clean-up puts the time for ending the server's cursor in place of
the override while its command is under way, and puts the old one back however the command ends.
The deadline itself is touched by nothing but the start of a call and by others. -/

namespace ResultCursor

/-! ### Rules for the deadline -/

/-- The deadline is replaced only as allowed. -/
def retiming (allowed : Session → Deadline → Prop) : Rules
  | .retime s d => allowed s d
  | _ => True

section

variable {allowed : Session → Deadline → Prop}

theorem Session.keepsTo_retiming (s : Session) : s.KeepsTo (retiming allowed) :=
  .of_all trivial (fun _ => trivial) s

theorem Wait.keepsTo_retiming (wait : Wait) (s : Session) : wait.KeepsTo (retiming allowed) s :=
  .of_all trivial (fun _ => trivial) s wait

end

/-! ### What was sent -/

def Event.sending? : Event → Option Sending
  | .sent sending => some sending
  | _ => none

namespace Session

variable {s t : Session}

/-- The commands sent so far, with the state of things when they were sent. -/
def sendings (s : Session) : List Sending := s.journal.filterMap Event.sending?

theorem Quietly.sendings (h : s.Quietly t) : t.sendings = s.sendings :=
  h.filterMap_eq fun e he => by
    cases e with
    | sent sending => cases he
    | _ => rfl

theorem sendings_sent {sending : Sending} (hj : t.journal = s.journal ++ [.sent sending]) :
    t.sendings = s.sendings ++ [sending] := by
  simp [sendings, hj, Event.sending?]

@[simp] theorem deliver_sendings (result : Except Failure Document) :
    (s.deliver result).sendings = s.sendings := by
  simp [sendings, Event.sending?]

end Session

/-! ### The override in a course -/

/-- The override at a point of a course that began with the override `o`: the time limit of the
command that ends the server's cursor while that one is under way, and else `o`. -/
def Control.Scoped (o : Option Span) (limit : Span) (d : Deadline) : Control → Prop
  | .waiting (.kill saved _) => d.override = some limit ∧ saved = o
  | _ => d.override = o

theorem Control.Scoped.of_override {o : Option Span} {limit : Span} {d d' : Deadline} {k : Control}
    (h : k.Scoped o limit d) (hd : d'.override = d.override) : k.Scoped o limit d' := by
  unfold Scoped at h ⊢
  rwa [hd]

theorem Control.scoped_due {o : Option Span} {limit : Span} {d : Deadline} (s : Session)
    (after : Aftermath) : (due s after).Scoped o limit d ↔ d.override = o := by
  unfold due
  split <;> rfl

/-- The command that is due ends the server's cursor. -/
def Control.DueKills : Control → Prop
  | .cleaning (some command) _ => command.isKill = true
  | _ => True

theorem Control.dueKills_due (s : Session) (after : Aftermath) : (due s after).DueKills := by
  unfold due
  split <;> trivial

theorem Control.dueKills_cleaning (s : Session) (after : Aftermath) :
    (cleaning s.takeKill.2 after).DueKills := by
  cases hk : s.takeKill.2 with
  | none => trivial
  | some command =>
    rw [Session.takeKill_snd, Cursor.takeKill_kill] at hk
    split at hk
    · cases hk
    · obtain ⟨remote, -, rfl⟩ := Option.map_eq_some_iff.mp hk
      exact Command.isKill_kill _ _

/-- A course that began with the override `o` and with this time for ending the server's cursor. -/
structure Situation.Scoped (o : Option Span) (limit : Span) (S : Situation) : Prop where
  killTimeout : S.session.cursor.options.killTimeout = limit
  control : S.control.Scoped o limit S.session.deadline
  due : S.control.DueKills

/-- Others leave the override alone. -/
def undisturbed : Rules := retiming fun s d => d.override = s.deadline.override

namespace Situation

variable {S T : Situation} {reply : Document} {setting : Setting} {o : Option Span} {limit : Span}
  {sending : Sending}

/-- A step that leaves the deadline as it is, between points at which no command is under way. -/
theorem Scoped.same {s t : Session} {c d : Control} {h h' : History} (hS : Scoped o limit ⟨s, c, h⟩)
    (hc : t.cursor.options = s.cursor.options) (hd : t.deadline = s.deadline)
    (hk : c.Scoped o limit s.deadline → d.Scoped o limit s.deadline) (due : d.DueKills) :
    Scoped o limit ⟨t, d, h'⟩ :=
  ⟨hc ▸ hS.killTimeout, hd ▸ hk hS.control, due⟩

theorem Scoped.opening {s : Session} (hs : Session.ofReply reply setting = .ok s) :
    (opening reply setting s).Scoped setting.deadline.override setting.options.killTimeout := by
  have hd := Session.ofReply_deadline hs
  obtain ⟨first, n, -, hc, -⟩ := Session.ofReply_ok hs
  exact
    { killTimeout := by simp [Situation.opening, hc, Cursor.absorb, Cursor.fresh]
      control := (Control.scoped_due s .opened).mpr (by rw [Situation.opening, hd])
      due := Control.dueKills_due s .opened }

theorem Step.scoped (step : Step undisturbed S T) (hc : S.Coherent) (hS : S.Scoped o limit) :
    T.Scoped o limit := by
  cases step with
  | adjust deadline clock allowed =>
    exact ⟨hS.killTimeout, hS.control.of_override allowed, hS.due⟩
  | note n => exact hS.same rfl rfl id hS.due
  | setBatchSize n => exact hS.same rfl rfl id trivial
  | inspect => exact hS.same rfl rfl id trivial
  | enter call isOpen allowed =>
    exact ⟨by simpa using hS.killTimeout, (Session.beginCall_override _).trans hS.control, trivial⟩
  | stay closed ha => exact hS.same rfl rfl id trivial
  | finish settled => exact hS.same (by simp) (by simp) id trivial
  | halt halt => exact hS.same rfl rfl id trivial
  | ask needed sent =>
    obtain ⟨-, remote, left, -, -, -, rfl⟩ := Session.beginFetch_ok sent
    exact hS.same rfl rfl id trivial
  | refuse allowed needed refused settled =>
    obtain ⟨since, n, -, -, rfl⟩ := hc.refused needed refused settled
    exact hS.same rfl rfl (Control.scoped_due _ _).mpr (Control.dueKills_due _ _)
  | settle result settled =>
    exact hS.same (by simpa using Session.settleFetch_options settled)
      (by simpa using Session.settleFetch_deadline settled) (Control.scoped_due _ _).mpr
      (Control.dueKills_due _ _)
  | lose => exact hS.same rfl rfl id trivial
  | @takeKill s after h =>
    exact hS.same (by rw [Session.takeKill_fst_cursor]) s.takeKill_deadline id
      (Control.dueKills_cleaning s after)
  | spare clean =>
    obtain rfl := Session.cleanUp_finished clean
    exact hS.same (by simp) (by simp) id trivial
  | sendKill clean =>
    obtain ⟨rfl, hd⟩ := Session.cleanUp_override clean
    have ht := hS.killTimeout
    refine ⟨by rw [Session.cleanUp_cursor clean]; exact ht, ⟨?_, hS.control⟩, trivial⟩
    rw [hd, ← ht]
    rfl
  | settleKill result =>
    have restored : _ = o := hS.control.2
    exact ⟨by simpa using hS.killTimeout, by rw [Session.settleKill_deadline]; exact restored,
      trivial⟩
  | breakKill =>
    have restored : _ = o := hS.control.2
    exact ⟨by simpa using hS.killTimeout, by rw [Session.breakKill_deadline]; exact restored,
      trivial⟩
  | opened => exact hS.same rfl rfl id trivial
  | again more => exact hS.same rfl rfl id trivial
  | content => exact hS.same (by simp) (by simp) id trivial
  | fail => exact hS.same rfl rfl id trivial
  | relent returns => exact hS.same rfl rfl id trivial
  | shut => exact hS.same rfl rfl id trivial
  | close ha => exact hS.same rfl rfl id trivial
  | retire finished => exact hS.same rfl rfl id trivial
  | dropAndClose => exact hS.same rfl rfl id trivial
  | @dropAndLeave s h =>
    exact hS.same (by simp [Session.takeKill_fst_cursor, Cursor.close]) s.takeKill_deadline id
      (Control.dueKills_cleaning s .opened)
  | forsake => exact hS.same (by simp) (by simp) id trivial
  | bury ended returned => exact hS.same rfl rfl id trivial

theorem Course.scoped (course : Course undisturbed S T) (hc : S.Coherent)
    (hS : S.Scoped o limit) : T.Scoped o limit := by
  induction course with
  | refl => exact hS
  | tail course step ih => exact step.scoped (Course.coherent course hc) ih

/-! ### The override under which commands are sent -/

/-- The cursor came from its first reply to the situation `S` while others left the override
alone. -/
def Unaltered (reply : Document) (setting : Setting) (S : Situation) : Prop :=
  ∃ s, Session.ofReply reply setting = .ok s ∧ Course undisturbed (opening reply setting s) S

theorem Unaltered.coherent (hS : Unaltered reply setting S) : S.Coherent := by
  obtain ⟨s, hs, course⟩ := hS
  exact Course.coherent course (.opening hs)

theorem Unaltered.scoped (hS : Unaltered reply setting S) :
    S.Scoped setting.deadline.override setting.options.killTimeout := by
  obtain ⟨s, hs, course⟩ := hS
  exact Course.scoped course (.opening hs) (.opening hs)

theorem Unaltered.step (hS : Unaltered reply setting S) (step : Step undisturbed S T) :
    Unaltered reply setting T := by
  obtain ⟨s, hs, course⟩ := hS
  exact ⟨s, hs, course.tail step⟩

/-- The newest event is the command, sent under the override `o`: the deadline has it, and gives the
command its time. -/
structure Sends (o : Option Span) (sending : Sending) (S : Situation) : Prop where
  newest : S.session.journal.getLast? = some (.sent sending)
  override : S.session.deadline.override = o
  allowance : sending.allowance = S.session.deadline.allowance S.session.clock.now

/-- There was a moment on the way to the situation `S` at which the command was sent under the
override `o`. -/
def SentUnder (reply : Document) (setting : Setting) (o : Option Span) (sending : Sending)
    (S : Situation) : Prop :=
  ∃ U, Unaltered reply setting U ∧ Course undisturbed U S ∧ U.Sends o sending

theorem SentUnder.step (h : SentUnder reply setting o sending S) (step : Step undisturbed S T) :
    SentUnder reply setting o sending T := by
  obtain ⟨U, hU, course, sends⟩ := h
  exact ⟨U, hU, course.tail step, sends⟩

/-- The command is one of a clean-up and was sent under the time for it, or it asked for a batch and
was sent under the override of the beginning. -/
def Sent (reply : Document) (setting : Setting) (S : Situation) (sending : Sending) : Prop :=
  (sending.command.isKill = true ∧
    SentUnder reply setting (some setting.options.killTimeout) sending S) ∨
  (sending.command.isGetMore = true ∧
    SentUnder reply setting setting.deadline.override sending S)

/-- What a step sends. -/
theorem Unaltered.sends (hS : Unaltered reply setting S) (step : Step undisturbed S T)
    (sent : T.session.journal = S.session.journal ++ [.sent sending])
    (allowance : sending.allowance = T.session.deadline.allowance T.session.clock.now)
    (what : (sending.command.isGetMore = true ∧ ∃ call, T.control = .waiting (.batch call)) ∨
      ∃ saved after, S.control = .cleaning (some sending.command) after ∧
        T.control = .waiting (.kill saved after)) :
    Sent reply setting T sending := by
  have hT := hS.step step
  have control := hT.scoped.control
  have newest : T.session.journal.getLast? = some (.sent sending) := by
    rw [sent, List.getLast?_concat]
  rcases what with ⟨isGetMore, call, hw⟩ | ⟨saved, after, hd, hw⟩
  · rw [hw] at control
    exact .inr ⟨isGetMore, T, hT, .refl, newest, control, allowance⟩
  · have due := hS.scoped.due
    rw [hd] at due
    rw [hw] at control
    exact .inl ⟨due, T, hT, .refl, newest, control.1, allowance⟩

theorem Unaltered.sent (hS : Unaltered reply setting S) :
    ∀ sending ∈ S.session.sendings, Sent reply setting S sending := by
  obtain ⟨s, hs, course⟩ := hS
  induction course with
  | refl =>
    have silent : s.sendings = [] := (Session.ofReply_quietly hs).sendings
    simp [opening, silent]
  | @tail S T course step ih =>
    have hS : Unaltered reply setting S := ⟨s, hs, course⟩
    intro sending hm
    have before (hm : sending ∈ S.session.sendings) : Sent reply setting T sending :=
      (ih sending hm).imp (fun h => ⟨h.1, h.2.step step⟩) fun h => ⟨h.1, h.2.step step⟩
    cases step.speech hS.coherent with
    | quiet unheard => exact before (unheard.sendings ▸ hm)
    | hears result heard =>
      rw [heard.sendings, Session.deliver_sendings] at hm
      exact before hm
    | sends other sent allowance _ _ _ what =>
      rw [Session.sendings_sent sent] at hm
      rcases List.mem_append.mp hm with hm | hm
      · exact before hm
      · obtain rfl := List.mem_singleton.mp hm
        exact hS.sends step sent allowance (what.imp_left And.right)

/-! ### The deadline in a course -/

def overall (S : Situation) : Option Span × Option Instant := S.session.deadline.overall

/-- Clean-ups do not move the deadline. -/
theorem Step.overall {allowed : Session → Deadline → Prop} (step : Step (retiming allowed) S T)
    (hc : S.Coherent) :
    T.overall = S.overall ∨ ∃ d, allowed S.session d ∧ T.overall = d.overall := by
  cases step with
  | adjust deadline clock replaced => exact .inr ⟨deadline, replaced, rfl⟩
  | enter call isOpen replaced => exact .inr ⟨_, replaced, rfl⟩
  | finish settled => exact .inl (by simp [Situation.overall])
  | ask needed sent =>
    obtain ⟨-, remote, left, -, -, -, rfl⟩ := Session.beginFetch_ok sent
    exact .inl rfl
  | refuse replaced needed refused settled =>
    obtain ⟨since, n, -, -, rfl⟩ := hc.refused needed refused settled
    exact .inl rfl
  | settle result settled =>
    exact .inl (by simp [Situation.overall, Session.settleFetch_deadline settled])
  | takeKill => exact .inl (by simp [Situation.overall])
  | spare clean =>
    obtain rfl := Session.cleanUp_finished clean
    exact .inl (by simp [Situation.overall])
  | sendKill clean =>
    obtain ⟨-, hd⟩ := Session.cleanUp_override clean
    exact .inl (by simp [Situation.overall, hd, Deadline.overall, Deadline.withOverride])
  | settleKill result =>
    exact .inl (by simp [Situation.overall, Deadline.overall, Deadline.withOverride])
  | breakKill =>
    exact .inl (by simp [Situation.overall, Deadline.overall, Deadline.withOverride])
  | content => exact .inl (by simp [Situation.overall])
  | dropAndLeave => exact .inl (by simp [Situation.overall])
  | forsake => exact .inl (by simp [Situation.overall])
  | _ => exact .inl rfl

theorem Course.overall {good : Deadline → Prop} (course : Course (retiming fun _ d => good d) S T)
    (hc : S.Coherent) : T.overall = S.overall ∨ ∃ d, good d ∧ T.overall = d.overall := by
  induction course with
  | refl => exact .inl rfl
  | tail course step ih =>
    rcases step.overall (Course.coherent course hc) with same | replaced
    · rwa [same]
    · exact .inr replaced

end Situation

/-! ### Moves -/

namespace Blocking

variable {reply : Document} {setting : Setting} {p q : Play} {m : Move} {moves : List Move}
  {allowed : Session → Deadline → Prop}

/-- The deadlines that a move may put in place of the present one: a call may start it anew, and
others do what they like. -/
def Play.Retimes (p : Play) : Move → Deadline → Prop
  | .request (.iterate _), d => d = p.session.beginCall.deadline
  | .adjust deadline _, d => d = deadline
  | _, _ => False

/-- Others change the override. -/
def Play.Disturbs (p : Play) : Move → Prop
  | .adjust deadline _ => deadline.override ≠ p.session.deadline.override
  | _ => False

theorem Play.keepsTo_retiming (h : ∀ d, p.Retimes m d → allowed p.session d) :
    p.KeepsTo (retiming allowed) m where
  shut := trivial
  asks _ _ _ := Session.keepsTo_retiming _
  goesOn _ _ wait _ := wait.keepsTo_retiming _
  broken _ _ _ := trivial
  starts _ hm := h _ (by rw [hm]; rfl)
  adjusts _ _ hm := h _ (by rw [hm]; rfl)

theorem Play.retimes_override {d : Deadline} (hm : ¬p.Disturbs m) (h : p.Retimes m d) :
    d.override = p.session.deadline.override := by
  match m with
  | .request (.iterate _) => exact h ▸ Session.beginCall_override _
  | .adjust deadline _ => exact h ▸ Decidable.not_not.mp hm

theorem act_overall (hc : p.situation.Coherent) (hm : p.act m = some q) :
    q.situation.overall = p.situation.overall ∨
      ∃ d, p.Retimes m d ∧ q.situation.overall = d.overall :=
  Situation.Course.overall (act_course (Play.keepsTo_retiming fun _ h => h) hm) hc

/-- A run in which others leave the override alone. -/
def Undisturbed (reply : Document) (setting : Setting) (moves : List Move) : Prop :=
  ∀ pre m post q, moves = pre ++ m :: post → Comes reply setting pre q → ¬q.Disturbs m

theorem Comes.unaltered (run : Comes reply setting moves p)
    (alone : Undisturbed reply setting moves) :
    Situation.Unaltered reply setting p.situation := by
  obtain ⟨p₀, hs, hr⟩ := run
  refine run_induction_unless Play.Disturbs
    (P := fun p => Situation.Unaltered reply setting p.situation)
    (start_course hs) (fun p q m hm hp ha => ?_)
    (fun pre m post q h hq => alone pre m post q h ⟨p₀, hs, hq⟩) hr
  obtain ⟨s, hs, course⟩ := hp
  have next : Situation.Course undisturbed p.situation q.situation :=
    act_course (Play.keepsTo_retiming fun d h => Play.retimes_override hm h) ha
  exact ⟨s, hs, course.trans next⟩

end Blocking

namespace Shared

variable {reply : Document} {setting : Setting} {p q : Play} {m : Move} {moves : List Move}
  {allowed : Session → Deadline → Prop}

/-- The deadlines that a move may put in place of the present one. A call starts it anew when it
has its turn. -/
def Play.Retimes (p : Play) : Move → Deadline → Prop
  | .start (.iterate _), d => d = p.session.beginCall.deadline
  | .turn i, d =>
    (∃ call, p.calls.stage? i = some (.inLine (.iterate call))) ∧ d = p.session.beginCall.deadline
  | .adjust deadline _, d => d = deadline
  | _, _ => False

/-- Others change the override. -/
def Play.Disturbs (p : Play) : Move → Prop
  | .adjust deadline _ => deadline.override ≠ p.session.deadline.override
  | _ => False

theorem Play.keepsTo_retiming (h : ∀ d, p.Retimes m d → allowed p.session d) :
    p.KeepsTo (retiming allowed) m := by
  have goesOn (c : Shared) (wait : Wait) (o : Outcome) : c.GoesOn (retiming allowed) wait o :=
    ⟨fun _ => wait.keepsTo_retiming _, fun _ _ => trivial, fun _ => trivial⟩
  cases m with
  | start r =>
    intro r' hi ht
    cases (p.calls.entered_stage? r).symm.trans hi
    have same : (p.calls.entered r).shared.session = p.session := Calls.announce_session p.calls r
    refine ⟨fun _ => Session.keepsTo_retiming _, fun _ _ _ => trivial, fun call hr => ?_⟩
    subst hr
    rw [same]
    exact h _ rfl
  | turn i =>
    refine fun r hi ht =>
      ⟨fun _ => Session.keepsTo_retiming _, fun _ _ _ => trivial, fun call hr => ?_⟩
    subst hr
    exact h _ ⟨⟨call, hi⟩, rfl⟩
  | deliver i o => exact fun wait _ => goesOn _ wait o
  | outcome o => exact fun wait _ => goesOn _ wait o
  | drop tasksRun => exact fun _ => trivial
  | abandon i => trivial
  | giveUp => trivial
  | adjust deadline clock => exact h deadline rfl
  | cleanUp => trivial

theorem Play.retimes_override {d : Deadline} (hm : ¬p.Disturbs m) (h : p.Retimes m d) :
    d.override = p.session.deadline.override := by
  match m with
  | .start (.iterate _) => exact h ▸ Session.beginCall_override _
  | .turn i => exact h.2 ▸ Session.beginCall_override _
  | .adjust deadline _ => exact h ▸ Decidable.not_not.mp hm

theorem act_overall (hp : p.Orderly) (hc : p.situation.Coherent) (hm : p.act m = some q) :
    q.situation.overall = p.situation.overall ∨
      ∃ d, p.Retimes m d ∧ q.situation.overall = d.overall :=
  Situation.Course.overall (act_course hp (Play.keepsTo_retiming fun _ h => h) hm) hc

/-- A run in which others leave the override alone. -/
def Undisturbed (reply : Document) (setting : Setting) (moves : List Move) : Prop :=
  ∀ pre m post q, moves = pre ++ m :: post → Comes reply setting pre q → ¬q.Disturbs m

theorem Undisturbed.of_forall (h : ∀ m ∈ moves, ∀ p : Play, ¬p.Disturbs m) :
    Undisturbed reply setting moves :=
  fun pre m post q hm _ => h m (by simp [hm]) q

theorem Comes.unaltered (run : Comes reply setting moves p)
    (alone : Undisturbed reply setting moves) :
    Situation.Unaltered reply setting p.situation := by
  obtain ⟨p₀, hs, hr⟩ := run
  have kept := run_induction_unless Play.Disturbs
    (P := fun p => p.Orderly ∧ Situation.Unaltered reply setting p.situation)
    ⟨start_orderly hs, start_course hs⟩ (fun p q m hm hp ha => ?_)
    (fun pre m post q h hq => alone pre m post q h ⟨p₀, hs, hq⟩) hr
  · exact kept.2
  · obtain ⟨ho, s, hs, course⟩ := hp
    have next : Situation.Course undisturbed p.situation q.situation :=
      act_course ho (Play.keepsTo_retiming fun d h => Play.retimes_override hm h) ha
    exact ⟨act_orderly ho ha, s, hs, course.trans next⟩

end Shared

/-- What a situation shows of the override that the cursor was opened under. -/
structure Situation.KeepsOverride (reply : Document) (setting : Setting) (S : Situation) :
    Prop where
  /-- A command that ends the server's cursor is under way. -/
  killing : ∀ saved after, S.control = .waiting (.kill saved after) →
    S.session.deadline.override = some setting.options.killTimeout
  resting : (∀ saved after, S.control ≠ .waiting (.kill saved after)) →
    S.session.deadline.override = setting.deadline.override
  kills : ∀ sending ∈ S.session.sendings, sending.command.isKill = true →
    SentUnder reply setting (some setting.options.killTimeout) sending S ∧
      sending.allowance = .ok (.granted setting.options.killTimeout)
  fetches : ∀ sending ∈ S.session.sendings, sending.command.isGetMore = true →
    SentUnder reply setting setting.deadline.override sending S

theorem Situation.Unaltered.keepsOverride {reply : Document} {setting : Setting} {S : Situation}
    (hS : Unaltered reply setting S) : S.KeepsOverride reply setting where
  killing saved after hw := by
    have hk := hS.scoped.control
    rw [hw] at hk
    exact hk.1
  resting hw := by
    have hk := hS.scoped.control
    unfold Control.Scoped at hk
    split at hk
    · next saved after he => exact absurd he (hw saved after)
    · exact hk
  kills sending hm hk := by
    rcases hS.sent sending hm with ⟨-, under⟩ | ⟨hg, -⟩
    · refine ⟨under, ?_⟩
      obtain ⟨U, -, -, sends⟩ := under
      simp only [sends.allowance, Deadline.allowance, sends.override]
    · rw [Command.isGetMore_of_isKill hk] at hg
      cases hg
  fetches sending hm hg := by
    rcases hS.sent sending hm with ⟨hk, -⟩ | ⟨-, under⟩
    · rw [Command.isGetMore_of_isKill hk] at hg
      cases hg
    · exact under

/-- Where others leave the override alone, every command that ends the server's cursor is sent with
the time for that, every request for a batch is sent under the override of the beginning, and that
one is there again whenever no command to end the server's cursor is under way. The deadline itself
is moved by the start of a call and by others, and by nothing else. -/
theorem cleanup_override_scoped (reply : Document) (setting : Setting) :
    (∀ moves p, Blocking.Comes reply setting moves p →
      (Blocking.Undisturbed reply setting moves → p.situation.KeepsOverride reply setting) ∧
      ∀ m q, p.act m = some q → q.situation.overall = p.situation.overall ∨
        ∃ d, p.Retimes m d ∧ q.situation.overall = d.overall) ∧
    (∀ moves p, Shared.Comes reply setting moves p →
      (Shared.Undisturbed reply setting moves → p.situation.KeepsOverride reply setting) ∧
      ∀ m q, p.act m = some q → q.situation.overall = p.situation.overall ∨
        ∃ d, p.Retimes m d ∧ q.situation.overall = d.overall) := by
  constructor
  · intro moves p run
    exact ⟨fun alone => (run.unaltered alone).keepsOverride,
      fun m q hm => Blocking.act_overall run.courses.coherent hm⟩
  · intro moves p run
    exact ⟨fun alone => (run.unaltered alone).keepsOverride,
      fun m q hm => Shared.act_overall run.orderly run.courses.coherent hm⟩

/-- Surroundings in which the deadline has passed already. -/
def lateSetting : Setting :=
  { plainSetting (.start (some (.ofMillis 100)) 0) with clock := ⟨200000000, []⟩ }

/-- A call comes after the deadline, and is given up while it ends the server's cursor. -/
theorem cleanup_override_scoped_when_late :
    ∃ p q, Shared.Comes (BatchReply.Place.first.reply 7 [item 1]) lateSetting
        [.start (.iterate .next), .start (.iterate .next)] p ∧
      p.session.deadline.isExpired p.session.clock.now = true ∧
      p.session.deadline.override = some (.ofMillis 1000) ∧
      (∃ sending ∈ p.session.sendings, sending.allowance = .ok (.granted (.ofMillis 1000))) ∧
      p.act (.abandon 1) = some q ∧ q.session.deadline.override = none ∧
      q.situation.overall = p.situation.overall := by
  obtain ⟨p, q, run, run', ⟨saved, after, waits⟩, late, ⟨sending, sent, kill⟩, gone, idle⟩ :
      ∃ p q, Shared.Comes (BatchReply.Place.first.reply 7 [item 1]) lateSetting
          [.start (.iterate .next), .start (.iterate .next)] p ∧
        Shared.Comes (BatchReply.Place.first.reply 7 [item 1]) lateSetting
          [.start (.iterate .next), .start (.iterate .next), .abandon 1] q ∧
        (∃ saved after, p.situation.control = .waiting (.kill saved after)) ∧
        p.session.deadline.isExpired p.session.clock.now = true ∧
        (∃ sending ∈ p.session.sendings, sending.command.isKill = true) ∧
        p.act (.abandon 1) = some q ∧ q.situation.control = .idle :=
    ⟨_, _, ⟨_, rfl, rfl⟩, ⟨_, rfl, rfl⟩, ⟨_, _, rfl⟩, rfl, ⟨_, .head _, rfl⟩, rfl, rfl⟩
  obtain ⟨kept, moved⟩ := (cleanup_override_scoped _ _).2 _ p run
  have kept := kept (.of_forall (by simp [Shared.Play.Disturbs]))
  have kept' := ((cleanup_override_scoped _ _).2 _ q run').1
    (.of_forall (by simp [Shared.Play.Disturbs]))
  refine ⟨p, q, run, late, kept.killing saved after waits,
    ⟨sending, sent, (kept.kills sending sent kill).2⟩, gone, kept'.resting (by simp [idle]), ?_⟩
  exact (moved _ q gone).resolve_right fun ⟨_, retimed, _⟩ => retimed

end ResultCursor
