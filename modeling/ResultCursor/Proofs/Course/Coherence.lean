import ResultCursor.Proofs.Course.Step

/-! The invariant that every other one rests on: what a session looks like at each point of a
course. Leases and the server's cursor come and go together, except between letting go of the
server's cursor and the end of the clean-up. -/

namespace ResultCursor

/-- The leases are held exactly for a server's cursor, which only an active cursor has. -/
structure Session.Settled (s : Session) : Prop where
  leased : s.leased = s.cursor.remote.isSome
  active : s.cursor.remote.isSome → s.cursor.phase = .active

/-- A request for a batch is under way. -/
structure Session.Asking (s : Session) : Prop extends s.Settled where
  remote : s.cursor.remote.isSome
  buffer : s.cursor.buffer = none
  inFlight : s.cursor.inFlight = true

/-- What follows a clean-up fits the phase that the cursor is in. -/
def Aftermath.Fits (s : Session) : Aftermath → Prop
  | .fetched _ => s.cursor.phase ≠ .closed
  | .closing a => Answer.ofClose a = true
  | _ => True

/-- What a session looks like when it is at some point of a course. -/
def Control.Fits (s : Session) : Control → Prop
  | .idle => s.Settled
  | .waiting (.batch _) => s.Asking
  | .waiting (.kill _ after) => s.cursor.remote = none ∧ s.leased = true ∧ after.Fits s
  | .cleaning kill after =>
    s.cursor.remote = none ∧ (kill.isSome → s.leased = true) ∧ after.Fits s
  | .calling _ => s.Settled ∧ s.cursor.phase ≠ .closed
  | .leaving after => (s.cursor.remote.isSome → s.leased = true) ∧ after.Fits s
  | .resuming after =>
    s.Settled ∧ (after.isClosing = true → s.cursor.remote = none) ∧ after.Fits s

structure Situation.Coherent (S : Situation) : Prop where
  fits : S.control.Fits S.session
  filled : S.session.cursor.buffer ≠ some []
  emptied : S.session.cursor.phase = .closed → S.session.cursor.buffer = none

namespace Session

variable {s t : Session}

theorem Settled.of_eq (h : s.Settled) (hc : t.cursor = s.cursor) (hl : t.leased = s.leased) :
    t.Settled :=
  ⟨by rw [hc, hl, h.leased], by rw [hc]; exact h.active⟩

theorem Asking.of_eq (h : s.Asking) (hc : t.cursor = s.cursor) (hl : t.leased = s.leased) :
    t.Asking where
  toSettled := h.toSettled.of_eq hc hl
  remote := by rw [hc, h.remote]
  buffer := by rw [hc, h.buffer]
  inFlight := by rw [hc, h.inFlight]

theorem settled_of_not_leased (hr : s.cursor.remote = none) (hl : s.leased = false) : s.Settled :=
  ⟨by simp [hr, hl], by simp [hr]⟩

theorem Settled.not_leased (h : s.Settled) (hr : s.cursor.remote = none) : s.leased = false := by
  simp [h.leased, hr]

theorem Settled.remote_eq_none (h : s.Settled) (hp : s.cursor.phase ≠ .active) :
    s.cursor.remote = none :=
  Option.not_isSome_iff_eq_none.mp fun hr => hp (h.active hr)

theorem Settled.giveBack (hr : s.cursor.remote = none) : s.giveBack.Settled :=
  settled_of_not_leased (by simp [hr]) (by simp)

/-- A call ends with the buffer, or with an answer that hands out no batch. -/
theorem finish_cases (s : Session) (call : Call) :
    (∃ batch, s.cursor.buffer = some batch ∧
      s.finish call = ({ s with cursor := { s.cursor with buffer := none } }, .batch batch)) ∨
    (∃ a, s.finish call = (s, a) ∧ a.batch? = none ∧
      (a.isEnd = true → s.cursor.buffer = none ∧ call ≠ .tryNext)) := by
  cases hb : s.cursor.buffer with
  | none => cases call <;> simp [finish, hb, Answer.batch?, Answer.isEnd]
  | some batch => cases call <;> simp [finish, hb, Answer.batch?, Answer.isEnd, Cursor.take]

end Session

/-! ### The invariant holds -/

namespace Aftermath.Fits

variable {s t : Session} {after : Aftermath}

theorem of_phase (h : after.Fits s) (hp : t.cursor.phase = s.cursor.phase) : after.Fits t := by
  cases after with
  | fetched call => simpa only [Aftermath.Fits, hp] using h
  | closing a => exact h
  | opened => trivial
  | failing call f => trivial

end Aftermath.Fits

namespace Control.Fits

variable {s t : Session} {c : Control} {after : Aftermath}

theorem of_eq (h : c.Fits s) (hc : t.cursor = s.cursor) (hl : t.leased = s.leased) : c.Fits t := by
  have hp : t.cursor.phase = s.cursor.phase := by rw [hc]
  cases c with
  | idle => exact Session.Settled.of_eq h hc hl
  | waiting wait =>
    cases wait with
    | batch call => exact Session.Asking.of_eq h hc hl
    | kill saved after => exact ⟨by rw [hc, h.1], by rw [hl, h.2.1], h.2.2.of_phase hp⟩
  | cleaning kill after => exact ⟨by rw [hc, h.1], by rw [hl]; exact h.2.1, h.2.2.of_phase hp⟩
  | calling call => exact ⟨h.1.of_eq hc hl, by rw [hp]; exact h.2⟩
  | leaving after => exact ⟨by rw [hc, hl]; exact h.1, h.2.of_phase hp⟩
  | resuming after => exact ⟨h.1.of_eq hc hl, by rw [hc]; exact h.2.1, h.2.2.of_phase hp⟩

/-- After a request: the leases are held, and an active cursor has a server's cursor. -/
theorem due (hl : s.leased = true) (hr : s.cursor.phase = .active → s.cursor.remote.isSome)
    (hc : after.isClosing = false) (hf : after.Fits s) : (Control.due s after).Fits s := by
  unfold Control.due
  split
  · next hp => exact ⟨⟨by simp [hl, hr hp], fun _ => hp⟩, by simp [hc], hf⟩
  · exact ⟨fun _ => hl, hf⟩

end Control.Fits

namespace Situation

variable {R : Rules} {S T : Situation} {reply : Document} {setting : Setting}

theorem Coherent.opening {s : Session} (hs : Session.ofReply reply setting = .ok s) :
    (opening reply setting s).Coherent := by
  obtain ⟨first, n, -, hc, hl, -⟩ := Session.ofReply_ok hs
  refine ⟨?_, by simp [Situation.opening, hc, Cursor.absorb], fun hp => ?_⟩
  · simp only [Situation.opening, Control.due]
    split
    · next hp => exact ⟨⟨hl, fun _ => hp⟩, by simp [Aftermath.isClosing], trivial⟩
    · exact ⟨fun hr => by rw [hl, hr], trivial⟩
  · exact absurd hp (Session.ofReply_not_closed hs)

section

variable {s t : Session} {c d : Control} {h h' : History}

/-- A move that leaves buffer and phase alone. -/
theorem Coherent.moved (hS : Coherent ⟨s, c, h⟩) (hb : t.cursor.buffer = s.cursor.buffer)
    (hp : t.cursor.phase = s.cursor.phase) (hd : d.Fits t) : Coherent ⟨t, d, h'⟩ :=
  ⟨hd, by rw [hb]; exact hS.filled, by rw [hb, hp]; exact hS.emptied⟩

theorem Coherent.of_no_buffer (hb : t.cursor.buffer = none) (hd : d.Fits t) :
    Coherent ⟨t, d, h⟩ :=
  ⟨hd, by simp [hb], fun _ => hb⟩

theorem Coherent.leased {call : Call} (hS : Coherent ⟨s, .calling call, h⟩)
    (needed : s.isSettled = false) : s.leased = true := by
  rw [hS.fits.1.leased, (Session.isSettled_eq_false_iff.mp needed).2.2]

/-- A call whose request is not sent: the deadline has passed, and the cursor is closed. -/
theorem Coherent.refused {u : Session} {call : Call} {stop : Option Bool} {f g : Failure}
    (hS : Coherent ⟨s, .calling call, h⟩) (needed : s.isSettled = false)
    (refused : s.beginFetch stop = (t, .error f))
    (settled : t.settleFetch (.error f) = (u, .error g)) :
    ∃ since n, g = .timeout (.passed since) ∧
      s.deadline.remaining s.clock.read.1 = .error (.timeout (.passed since)) ∧
      u = ({ s with
        clock := s.clock.read.2
        cursor := { s.cursor with inFlight := false }.fail (.timeout (.passed since)) } :
        Session).note n :=
  Session.refused (Session.isSettled_eq_false_iff.mp needed).2.2 (hS.leased needed) refused settled

/-- A request settles: the session is ready for what follows. -/
theorem Coherent.settled {call : Call} {result : Except Failure Document}
    {outcome : Except Failure Unit} (hs : s.settleFetch result = (t, outcome))
    (hl : s.leased = true) (ha : s.cursor.phase = .active) (hr : s.cursor.remote.isSome)
    (hb : s.cursor.buffer = none) : Coherent ⟨t, .due t (.ofFetch call outcome), h⟩ := by
  rcases Session.settleFetch_cases hs with
      ⟨r, n, -, rfl, rfl⟩ | ⟨f, n, -, -, rfl, rfl⟩ | ⟨f, n, -, -, rfl, rfl⟩
  · have hopen := Cursor.absorb_phase_ne_closed (c := { s.cursor with inFlight := false }) (r := r)
      (by simp [ha])
    refine ⟨?_, by simp [Cursor.absorb], fun hc => absurd hc hopen⟩
    exact .due hl (fun hp => Cursor.absorb_remote_of_active hp) rfl hopen
  · exact .of_no_buffer hb (.due hl (fun _ => hr) rfl trivial)
  · exact .of_no_buffer rfl (.due hl (by simp [Cursor.fail]) rfl trivial)

end

/-- Every step leads from a coherent situation to another one. -/
theorem Step.coherent (step : Step R S T) (hS : S.Coherent) : T.Coherent := by
  cases step with
  | adjust deadline clock => exact hS.moved rfl rfl (hS.fits.of_eq rfl rfl)
  | note n => exact hS.moved rfl rfl (hS.fits.of_eq rfl rfl)
  | setBatchSize n => exact hS.moved rfl rfl ⟨hS.fits.leased, hS.fits.active⟩
  | inspect => exact hS.moved rfl rfl hS.fits
  | enter call isOpen =>
    exact hS.moved (by simp) (by simp)
      ⟨Session.Settled.of_eq hS.fits (by simp) (by simp), by simpa using isOpen⟩
  | stay closed ha => exact hS.moved rfl rfl hS.fits
  | @finish s call h settled =>
    rcases s.finish_cases call with ⟨batch, -, hf⟩ | ⟨a, hf, -⟩
    · simp only [hf]
      exact .of_no_buffer rfl ⟨hS.fits.1.leased, hS.fits.1.active⟩
    · simp only [hf]
      exact hS.moved rfl rfl hS.fits.1
  | halt halt => exact hS.moved rfl rfl hS.fits.1
  | @ask s t call h stop sending needed sent =>
    obtain ⟨hb, -, hr⟩ := Session.isSettled_eq_false_iff.mp needed
    obtain ⟨hl, remote, left, -, -, -, rfl⟩ := Session.beginFetch_ok sent
    exact hS.moved rfl rfl
      { leased := hS.fits.1.leased, active := hS.fits.1.active, remote := hr, buffer := hb,
        inFlight := rfl }
  | refuse allowed needed refused settled =>
    obtain ⟨since, n, -, -, rfl⟩ := hS.refused needed refused settled
    exact .of_no_buffer rfl (.due (hS.leased needed) (by simp [Cursor.fail]) rfl trivial)
  | @settle s t call h outcome result settled =>
    have hl : s.leased = true := by rw [hS.fits.leased, hS.fits.remote]
    exact .settled settled hl (hS.fits.active hS.fits.remote) hS.fits.remote hS.fits.buffer
  | lose => exact hS.moved rfl rfl hS.fits.toSettled
  | @takeKill s after h =>
    obtain ⟨notes, ht⟩ := Session.takeKill_fst s
    refine hS.moved (by simp [ht]) (by simp [ht])
      ⟨by simp [ht], fun hk => ?_, hS.fits.2.of_phase (by simp [ht])⟩
    rw [ht]
    exact hS.fits.1 (Session.remote_isSome_of_takeKill hk)
  | @spare s t kill after h stop clean =>
    have hr : s.cursor.remote = none := hS.fits.1
    cases Session.cleanUp_finished clean
    exact hS.moved (by simp) (by simp)
      ⟨.giveBack hr, fun _ => by simp [hr], hS.fits.2.2.of_phase (by simp)⟩
  | @sendKill s t kill after h stop sending saved clean =>
    obtain ⟨hl, command, -, rfl⟩ := Session.cleanUp_killing clean
    exact hS.moved rfl rfl ⟨hS.fits.1, hl, hS.fits.2.2.of_phase rfl⟩
  | @settleKill s saved after h result =>
    have hr : s.cursor.remote = none := hS.fits.1
    exact hS.moved (by simp) (by simp)
      ⟨.giveBack (by simp [hr]), fun _ => by simp [hr], hS.fits.2.2.of_phase (by simp)⟩
  | @breakKill s saved after h =>
    exact hS.moved (by simp) (by simp)
      (Session.settled_of_not_leased (by simpa using hS.fits.1) (by simp))
  | opened => exact hS.moved rfl rfl hS.fits.1
  | again more => exact hS.moved rfl rfl ⟨hS.fits.1, hS.fits.2.2⟩
  | @content s h =>
    rcases s.finish_cases .tryNext with ⟨batch, -, hf⟩ | ⟨a, hf, -⟩
    · simp only [hf]
      exact .of_no_buffer rfl ⟨hS.fits.1.leased, hS.fits.1.active⟩
    · simp only [hf]
      exact hS.moved rfl rfl hS.fits.1
  | fail => exact hS.moved rfl rfl hS.fits.1
  | relent returns => exact hS.moved rfl rfl hS.fits.1
  | shut =>
    have hl := hS.fits.1.not_leased (hS.fits.2.1 rfl)
    exact .of_no_buffer rfl (Session.settled_of_not_leased rfl hl)
  | close ha => exact hS.moved rfl rfl ⟨fun hr => by rw [hS.fits.leased, hr], ha⟩
  | retire finished => exact hS.moved rfl rfl hS.fits
  | dropAndClose => exact hS.moved rfl rfl ⟨fun hr => by rw [hS.fits.leased, hr], rfl⟩
  | @dropAndLeave s h =>
    obtain ⟨notes, ht⟩ := Session.takeKill_fst s
    refine .of_no_buffer rfl ⟨rfl, fun hk => ?_, trivial⟩
    simp only [Session.close_leased, ht]
    rw [hS.fits.leased]
    exact Session.remote_isSome_of_takeKill hk
  | forsake =>
    exact hS.moved (by simp) (by simp) (Session.Settled.giveBack hS.fits.1)
  | bury ended returned => exact .of_no_buffer rfl (Session.settled_of_not_leased rfl returned)

/-- What is in the journal stays there. -/
theorem Step.journal (step : Step R S T) (hS : S.Coherent) :
    S.session.journal <+: T.session.journal := by
  cases step with
  | note n => exact List.prefix_append _ _
  | enter call isOpen => simp
  | @finish s call h settled =>
    rcases s.finish_cases call with ⟨batch, -, hf⟩ | ⟨a, hf, -⟩ <;> simp [hf]
  | ask needed sent =>
    obtain ⟨-, remote, left, -, -, -, rfl⟩ := Session.beginFetch_ok sent
    exact List.prefix_append _ _
  | refuse allowed needed refused settled =>
    obtain ⟨since, n, -, -, rfl⟩ := hS.refused needed refused settled
    exact List.prefix_append _ _
  | @settle s t call h outcome result settled =>
    have hd : s.journal <+: (s.deliver result).journal := List.prefix_append _ _
    rcases Session.settleFetch_cases settled with
        ⟨r, n, -, -, rfl⟩ | ⟨f, n, -, -, -, rfl⟩ | ⟨f, n, -, -, -, rfl⟩
    all_goals exact hd.trans (List.prefix_append _ _)
  | @takeKill s after h =>
    obtain ⟨notes, ht⟩ := Session.takeKill_fst s
    simp [ht]
  | spare clean =>
    cases Session.cleanUp_finished clean
    exact Session.giveBack_journal _
  | sendKill clean =>
    obtain ⟨-, command, -, rfl⟩ := Session.cleanUp_killing clean
    exact List.prefix_append _ _
  | @settleKill s saved after h result =>
    have hd : s.journal <+: (s.deliver result).journal := List.prefix_append _ _
    exact hd.trans (Session.settleKill_journal _ saved result)
  | breakKill => exact Session.breakKill_journal _ _
  | @content s h =>
    rcases s.finish_cases .tryNext with ⟨batch, -, hf⟩ | ⟨a, hf, -⟩ <;> simp [hf]
  | @dropAndLeave s h =>
    obtain ⟨notes, ht⟩ := Session.takeKill_fst s
    simp [ht]
  | forsake => exact Session.giveBack_journal _
  | _ => exact List.prefix_refl _

theorem Course.coherent (course : Course R S T) (hS : S.Coherent) : T.Coherent := by
  induction course with
  | refl => exact hS
  | tail course step ih => exact step.coherent ih

/-- Every situation of a course is coherent. -/
theorem Courses.coherent (hS : Courses reply setting S) : S.Coherent :=
  hS.induction (fun _ hs => .opening hs) fun _ _ _ hS step => step.coherent hS

theorem Courses.settled (hS : Courses reply setting S) (idle : S.control = .idle) :
    S.session.Settled := by
  have fits := hS.coherent.fits
  rwa [idle] at fits

end Situation

end ResultCursor
