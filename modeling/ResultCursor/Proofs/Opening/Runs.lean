import ResultCursor.Proofs.Conservation
import ResultCursor.Proofs.Exhaustion
import ResultCursor.Proofs.Leases
import ResultCursor.Proofs.Sharing.Closing
import ResultCursor.Proofs.Stopping.Release

/-! Constructors of both kinds. A cursor that may ask for more is left as its first reply makes it.
One that may not is done with the server at once, or waits for the command that ends the server's
cursor; whatever comes of that command, the cursor it leaves is the same. -/

namespace ResultCursor

/-! ### What is due after the first reply -/

/-- The cursor that a constructor leaves and the commands that it sends: a cursor that is not to go
on has let go of the server's. -/
def Session.opened (s : Session) : Cursor × List Command :=
  if s.cursor.phase = .exhausted then ({ s.cursor with remote := none }, s.takeKill.2.toList)
  else (s.cursor, [])

/-- What is due after the first reply, if the cursor is not to go on. -/
def BatchReply.kill? (first : BatchReply) (address : Address) : Option Command :=
  (RemoteCursor.ofId? first.id address).map (Command.kill first.ns)

section

variable {reply : Document} {setting : Setting} {first : BatchReply} {s : Session}

@[simp] theorem Session.opened_phase : s.opened.1.phase = s.cursor.phase := by
  unfold opened
  split <;> rfl

/-- The cursor goes on unless its first reply was the last. -/
theorem Session.phase_of_opening (hr : BatchReply.ofDocument .first reply = .ok first)
    (hs : Session.ofReply reply setting = .ok s) :
    s.cursor.phase =
      if History.isLast setting.options.quota first then .exhausted else .active := by
  obtain ⟨found, n, hf, hc, -⟩ := Session.ofReply_ok hs
  cases hr.symm.trans hf
  rw [hc, Cursor.absorb_phase]
  rfl

theorem Session.takeKill_of_opening (hr : BatchReply.ofDocument .first reply = .ok first)
    (hs : Session.ofReply reply setting = .ok s) :
    s.takeKill.2 = first.kill? setting.address := by
  obtain ⟨found, n, hf, hc, -⟩ := Session.ofReply_ok hs
  cases hr.symm.trans hf
  rw [takeKill_snd, Cursor.takeKill_kill, hc]
  rfl

theorem BatchReply.kill?_eq_none (first : BatchReply) (address : Address) (h : first.id = 0) :
    first.kill? address = none := by
  simp [kill?, RemoteCursor.ofId?, h]

theorem BatchReply.kill?_eq_some (first : BatchReply) (address : Address) (h : first.id ≠ 0) :
    ∃ kill, first.kill? address = some kill ∧ kill.isKill = true ∧
      kill.target? = some (first.ns, first.id) := by
  refine ⟨.kill first.ns ⟨first.id, address, h⟩, ?_, Command.isKill_kill _ _, ?_⟩
  · simp [kill?, RemoteCursor.ofId?, h]
  · exact Command.target?_kill _ _

end

/-- A cursor whose opening breaks off is out of use. -/
theorem History.ended_breakOff_opened (h : History) : (h.breakOff .opened).ended = true := by
  simp [breakOff, Aftermath.isOpened]

theorem History.ended_ofReply (reply : Document) (setting : Setting) :
    (ofReply reply setting).ended = false := by
  unfold ofReply
  split <;> rfl

theorem History.handed_ofReply (reply : Document) (setting : Setting) :
    (ofReply reply setting).handed = [] := by
  unfold ofReply
  split <;> rfl

/-! ### The constructor -/

namespace Situation

/-- A constructor that leaves a cursor with some commands sent: it is done, or waits for its
clean-up. -/
structure Opens (left : Cursor × List Command) (S : Situation) : Prop where
  cursor : S.session.cursor = left.1
  said : S.session.commands = left.2
  unread : S.history.handed = []
  stops : S.control = .idle ∨ ∃ saved, S.control = .waiting (.kill saved .opened)

section

variable {left : Cursor × List Command} {s : Session} {h : History}

theorem Opens.waits {wait : Wait} (hS : Opens left ⟨s, .waiting wait, h⟩) :
    ∃ saved, wait = .kill saved .opened := by
  rcases hS.stops with idle | ⟨saved, waits⟩
  · cases idle
  · cases waits
    exact ⟨saved, rfl⟩

/-- What comes of the command of the clean-up does not matter to the cursor. -/
theorem Opens.settle {saved : Option Span} {c : Control} (hS : Opens left ⟨s, c, h⟩)
    (result : Except Failure Document) :
    Opens left ⟨(s.deliver result).settleKill saved result, .idle, h.answer .done⟩ where
  cursor := by simpa using hS.cursor
  said := by
    have quiet := Session.settleKill_quietly (s := s.deliver result) saved result
    exact quiet.commands.trans ((Session.deliver_commands result).trans hS.said)
  unread := (History.handed_answer_of_none rfl).trans hS.unread
  stops := .inl rfl

end

end Situation

namespace Session

variable {reply : Document} {setting : Setting} {s t : Session} {stop : Option Bool}
  (hs : Session.ofReply reply setting = .ok s)

include hs

theorem opens_going (going : s.cursor.phase ≠ .exhausted) :
    Situation.Opens s.opened ⟨s, .idle, (History.ofReply reply setting).answer .done⟩ where
  cursor := by rw [opened, if_neg going]
  said := by
    rw [opened, if_neg going]
    exact (ofReply_quietly hs).commands
  unread := (History.handed_answer_of_none rfl).trans (History.handed_ofReply _ _)
  stops := .inl rfl

/-- An opening that is over at once had no server's cursor to end. -/
theorem opens_finished (exhausted : s.cursor.phase = .exhausted)
    (clean : s.beginRelease stop = (t, .finished)) :
    Situation.Opens s.opened ⟨t, .idle, (History.ofReply reply setting).answer .done⟩ := by
  have none : s.takeKill.2 = none := by
    -- whatever is due is due under a lease, so the clean-up would have waited for it
    refine Option.eq_none_iff_forall_ne_some.mpr fun kill due => ?_
    obtain ⟨first, n, -, -, held, -⟩ := ofReply_ok hs
    have leased : s.leased = true := held.trans (remote_isSome_of_takeKill (by simp [due]))
    rw [beginRelease_of_some due leased] at clean
    cases clean
  have commands : s.commands = [] := (ofReply_quietly hs).commands
  have silent : s.parted.commands = s.commands := by
    rw [commands_eq_sendings, parted_sendings, commands_eq_sendings]
  cases beginRelease_finished clean
  rw [opened, if_pos exhausted]
  exact
    { cursor := parted_cursor
      said := by rw [none, silent, commands]; rfl
      unread := (History.handed_answer_of_none rfl).trans (History.handed_ofReply _ _)
      stops := .inl rfl }

/-- An opening that waits has sent the command that ends the server's cursor. -/
theorem opens_killing (exhausted : s.cursor.phase = .exhausted) {sending : Sending}
    {saved : Option Span} (clean : s.beginRelease stop = (t, .killing sending saved)) :
    Situation.Opens s.opened
      ⟨t, .waiting (.kill saved .opened), History.ofReply reply setting⟩ := by
  obtain ⟨due, -, sent⟩ := beginRelease_killing clean
  have commands : s.commands = [] := (ofReply_quietly hs).commands
  rw [opened, if_pos exhausted]
  exact
    { cursor := beginRelease_cursor clean
      said := by
        rw [due, commands_eq_sendings, sent, List.map_append, ← commands_eq_sendings, commands]
        rfl
      unread := History.handed_ofReply _ _
      stops := .inr ⟨saved, rfl⟩ }

end Session

namespace Blocking

variable {reply : Document} {setting : Setting} {p q : Play} {left : Cursor × List Command}

/-- Somebody uses the cursor, or ends its use. -/
def Move.isUse : Move → Bool
  | .request _ => true
  | .drop => true
  | _ => false

theorem start_opens {s : Session} (hs : Session.ofReply reply setting = .ok s)
    (hp : start reply setting = .ok p) : p.situation.Opens s.opened := by
  simp only [start, Blocking.ofReply_eq, hs, Except.ok.injEq] at hp
  cases hp
  by_cases exhausted : s.cursor.phase = .exhausted
  · simp only [exhausted, if_true, afterCleanup]
    split
    · next t clean => exact Session.opens_finished hs exhausted clean
    · next t sending saved clean => exact Session.opens_killing hs exhausted clean
  · simp only [exhausted, if_false]
    exact Session.opens_going hs exhausted

/-- A constructor that has not ended in the midst of its clean-up. -/
def Play.Opens (left : Cursor × List Command) (p : Play) : Prop :=
  p.situation.Opens left ∨ (p.wait = none ∧ p.history.ended = true)

theorem act_opens {m : Move} (unused : m.isUse = false) (hp : p.Opens left)
    (hm : p.act m = some q) : q.Opens left := by
  cases Play.acts hm with
  | request r free => cases unused
  | drop free => cases unused
  | interrupt => exact hp
  | requestClose => exact hp
  | adjust deadline clock =>
    rcases hp with hp | ended
    · exact .inl ⟨hp.cursor, hp.said, hp.unread, hp.stops⟩
    · exact .inr ended
  | @outcome wait o hw =>
    rcases hp with hp | ⟨rests, -⟩
    · have here : p.situation = ⟨p.session, .waiting wait, p.history⟩ := by
        simp [Play.situation, Play.control, Control.ofWait, hw]
      rw [here] at hp
      obtain ⟨saved, rfl⟩ := hp.waits
      cases o with
      | reply d => exact .inl (hp.settle (.ok d))
      | failure f => exact .inl (hp.settle (.error f))
      | crash text => exact .inr ⟨rfl, History.ended_breakOff_opened _⟩
    · cases rests.symm.trans hw

/-- A constructor that returns leaves the cursor as it should. -/
theorem Comes.opens {moves : List Move} (run : Comes reply setting moves p)
    (unused : ∀ m ∈ moves, m.isUse = false) (free : p.isFree = true) :
    ∃ s, Session.ofReply reply setting = .ok s ∧ p.situation.Opens s.opened ∧
      p.situation.control = .idle := by
  obtain ⟨p₀, hp₀, hmoves⟩ := run
  obtain ⟨s, hs, -⟩ := start_course (R := fun _ => True) hp₀
  refine ⟨s, hs, ?_, congrArg Situation.control (Play.situation_of_isFree free)⟩
  have kept := run_induction_of (fun m : Move => m.isUse = false) (P := Play.Opens s.opened)
    (.inl (start_opens hs hp₀)) (fun _ _ _ unused hp hm => act_opens unused hp hm) unused hmoves
  rcases kept with opens | ⟨-, ended⟩
  · exact opens
  · simp [Play.isFree, ended] at free

theorem Play.isFree_of (rests : p.wait = none) (used : p.history.ended = false) :
    p.isFree = true := by
  simp [isFree, rests, used]

/-- The constructor returns at once, or with the answer to the command of its clean-up. -/
theorem start_returns {s : Session} (hs : Session.ofReply reply setting = .ok s)
    (hp : start reply setting = .ok p) :
    p.isFree = true ∨
      ∀ o, o.isCrash = false → ∃ q, p.act (.outcome o) = some q ∧ q.isFree = true := by
  have used := History.ended_ofReply reply setting
  simp only [start, Blocking.ofReply_eq, hs, afterCleanup, Except.ok.injEq] at hp
  cases hp
  split
  · split
    · exact .inl (Play.isFree_of rfl used)
    · right
      intro o returns
      cases o with
      | crash text => cases returns
      | reply d => exact ⟨_, rfl, Play.isFree_of rfl used⟩
      | failure f => exact ⟨_, rfl, Play.isFree_of rfl used⟩
  · exact .inl (Play.isFree_of rfl used)

end Blocking

namespace Shared

variable {reply : Document} {setting : Setting} {p q : Play} {left : Cursor × List Command}

/-- Somebody uses the cursor, or ends its use. -/
def Move.isUse : Move → Bool
  | .start _ => true
  | .turn _ => true
  | .drop _ => true
  | _ => false

theorem start_opens {s : Session} (hs : Session.ofReply reply setting = .ok s)
    (hp : start reply setting = .ok p) : p.situation.Opens s.opened := by
  simp only [start, Shared.ofReply_eq, hs] at hp
  cases hp
  by_cases exhausted : s.cursor.phase = .exhausted
  · simp only [exhausted, if_true, afterCleanup]
    split
    · next t clean => exact Session.opens_finished hs exhausted clean
    · next t sending saved clean => exact Session.opens_killing hs exhausted clean
  · simp only [exhausted, if_false]
    exact Session.opens_going hs exhausted

theorem start_alone (hp : start reply setting = .ok p) : p.calls.running = [] ∧ p.task = none := by
  unfold start at hp
  split at hp
  · cases hp
  · cases hp
    exact ⟨rfl, rfl⟩

/-- A constructor that has not ended in the midst of its clean-up. No call is made before it
returns. -/
structure Play.Opens (left : Cursor × List Command) (p : Play) : Prop where
  alone : p.calls.running = []
  rests : p.task = none
  opens : p.situation.Opens left ∨ (p.wait = none ∧ p.history.ended = true)

theorem act_opens {m : Move} (unused : m.isUse = false) (hp : p.Opens left)
    (hm : p.act m = some q) : q.Opens left := by
  have acts := Play.acts hm
  clear hm
  obtain ⟨calls, wait, task, h⟩ := p
  obtain ⟨alone, rfl, opens⟩ := hp
  have nobody (i : Nat) : calls.stage? i = none := by
    rw [Calls.stage?, alone]
    rfl
  have here := Play.situation_alone alone wait h
  cases acts with
  | start r used => cases unused
  | turn i used => cases unused
  | drop tasksRun used alone => cases unused
  | deliver o waits => cases (nobody _).symm.trans waits
  | abandon waits => cases (nobody _).symm.trans waits
  | leaveLine inLine => cases (nobody _).symm.trans inLine
  | cleanUp due => cases due
  | discard rests due => cases due
  | adjust deadline clock =>
    refine ⟨alone, rfl, opens.imp_left fun hp => ?_⟩
    exact ⟨hp.cursor, hp.said, hp.unread, hp.stops⟩
  | @outcome wait o waits =>
    cases waits
    have hp := opens.resolve_right fun ended => by cases ended.1
    rw [here] at hp
    obtain ⟨saved, rfl⟩ := hp.waits
    refine ⟨alone, rfl, ?_⟩
    rw [Play.goOn_situation alone]
    cases o with
    | reply d => exact .inl (hp.settle (.ok d))
    | failure f => exact .inl (hp.settle (.error f))
    | crash text => exact .inr ⟨rfl, History.ended_breakOff_opened _⟩
  | @giveUp wait waits =>
    cases waits
    have hp := opens.resolve_right fun ended => by cases ended.1
    rw [here] at hp
    obtain ⟨saved, rfl⟩ := hp.waits
    exact ⟨alone, rfl, .inr ⟨rfl, History.ended_breakOff_opened _⟩⟩

/-- A constructor that returns leaves the cursor as it should. -/
theorem Comes.opens {moves : List Move} (run : Comes reply setting moves p)
    (unused : ∀ m ∈ moves, m.isUse = false) (used : p.inUse = true) :
    ∃ s, Session.ofReply reply setting = .ok s ∧ p.situation.Opens s.opened ∧
      p.situation.control = .idle := by
  obtain ⟨p₀, hp₀, hmoves⟩ := run
  obtain ⟨s, hs, -⟩ := start_course (R := fun _ => True) hp₀
  have opened : p₀.Opens s.opened :=
    { alone := (start_alone hp₀).1
      rests := (start_alone hp₀).2
      opens := .inl (start_opens hs hp₀) }
  have kept := run_induction_of (fun m : Move => m.isUse = false) (P := Play.Opens s.opened) opened
    (fun _ _ _ unused hp hm => act_opens unused hp hm) unused hmoves
  obtain ⟨calls, wait, task, h⟩ := p
  obtain ⟨alone, rfl, opens⟩ := kept
  simp only [Play.inUse, Bool.and_eq_true, Option.isNone_iff_eq_none, Bool.not_eq_true'] at used
  obtain ⟨rfl, used⟩ := used
  refine ⟨s, hs, opens.resolve_right fun ended => ?_, ?_⟩
  · cases used.symm.trans ended.2
  · rw [Play.situation_alone alone]
    rfl

theorem Play.inUse_of (rests : p.wait = none) (used : p.history.ended = false) :
    p.inUse = true := by
  simp [inUse, rests, used]

/-- The constructor returns at once, or with the answer to the command of its clean-up. -/
theorem start_returns {s : Session} (hs : Session.ofReply reply setting = .ok s)
    (hp : start reply setting = .ok p) :
    p.inUse = true ∨
      ∀ o, o.isCrash = false → ∃ q, p.act (.outcome o) = some q ∧ q.inUse = true := by
  have used := History.ended_ofReply reply setting
  simp only [start, Shared.ofReply_eq, hs, afterCleanup] at hp
  cases hp
  split
  · split
    · exact .inl (Play.inUse_of rfl used)
    · right
      intro o returns
      cases o with
      | crash text => cases returns
      | reply d => exact ⟨_, rfl, Play.inUse_of rfl used⟩
      | failure f => exact ⟨_, rfl, Play.inUse_of rfl used⟩
  · exact .inl (Play.inUse_of rfl used)

end Shared

/-- The situations in which constructors of both kinds leave a cursor: nobody has used it yet, and
it can be used. -/
inductive Situation.Opened (reply : Document) (setting : Setting) : Situation → Prop where
  | blocking {moves : List Blocking.Move} {p : Blocking.Play}
      (run : Blocking.Comes reply setting moves p) (unused : ∀ m ∈ moves, m.isUse = false)
      (free : p.isFree = true) : Opened reply setting p.situation
  | shared {moves : List Shared.Move} {p : Shared.Play}
      (run : Shared.Comes reply setting moves p) (unused : ∀ m ∈ moves, m.isUse = false)
      (used : p.inUse = true) : Opened reply setting p.situation

namespace Situation.Opened

variable {reply : Document} {setting : Setting} {S : Situation}

theorem reached (hS : Opened reply setting S) : Reached reply setting S := by
  cases hS with
  | blocking run => exact .blocking run
  | shared run => exact .shared run

theorem opens (hS : Opened reply setting S) :
    ∃ s, Session.ofReply reply setting = .ok s ∧ S.Opens s.opened ∧ S.control = .idle := by
  cases hS with
  | blocking run unused free => exact run.opens unused free
  | shared run unused used => exact run.opens unused used

end Situation.Opened

end ResultCursor
