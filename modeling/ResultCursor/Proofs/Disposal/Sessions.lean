import ResultCursor.Proofs.Agreement.Sessions
import ResultCursor.Proofs.Stopping.Release

/-! What it takes to be done with a session. The server's cursor is let go of, at most one command
is sent to end it, the leases go back and the override stays as it was, however that command comes
out. After that nothing is left to do: to be done with the session again changes nothing. -/

namespace ResultCursor

/-- What a session has done to the world around it, and the override that it leaves. -/
structure Effect where
  sendings : List Sending
  counts : Counts
  leases : List Event
  override : Option Span

theorem Lending.giveBack_leased (l : Lending) : l.giveBack.leased = false := by
  unfold giveBack
  split
  · rfl
  · next unleased => exact Bool.eq_false_iff.mpr unleased

/-- Leases that are back are not given back again. -/
theorem Lending.giveBack_of_returned {l : Lending} (returned : l.leased = false) :
    l.giveBack = l := by
  rw [giveBack, returned]
  rfl

namespace Session

variable {s t u : Session} {stop : Option Bool} {saved : Option Span}

def effect (s : Session) : Effect := ⟨s.sendings, s.counts, s.leaseEvents, s.deadline.override⟩

/-- The last command, if one is due: it ends the server's cursor, under the time limit for that. -/
def lastSending (s : Session) (stop : Option Bool) : Option Sending :=
  s.takeKill.2.map fun kill => ⟨kill, .ok (.granted s.cursor.options.killTimeout), s.counts, stop⟩

/-! ### The stages -/

/-- `t` is `s` after it let go of the server's cursor. -/
structure Loosed (s t : Session) : Prop where
  sendings : t.sendings = s.sendings
  lending : t.lending = s.lending
  override : t.deadline.override = s.deadline.override
  killTimeout : t.cursor.options.killTimeout = s.cursor.options.killTimeout
  gone : t.cursor.remote = none

/-- `t` is `s` after it sent its last command, whose outcome is not known. -/
structure Ending (stop : Option Bool) (saved : Option Span) (s t : Session) : Prop where
  sendings : t.sendings = s.sendings ++ (s.lastSending stop).toList
  lending : t.lending = s.lending
  saved : saved = s.deadline.override
  gone : t.cursor.remote = none

/-- `t` is `s` after everything was done. -/
structure Disposed (stop : Option Bool) (s t : Session) : Prop where
  sendings : t.sendings = s.sendings ++ (s.lastSending stop).toList
  lending : t.lending = s.lending.giveBack
  override : t.deadline.override = s.deadline.override
  gone : t.cursor.remote = none

/-- `t` is `s` after the leases were given back and nothing else was done. -/
structure Returned (s t : Session) : Prop where
  sendings : t.sendings = s.sendings
  lending : t.lending = s.lending.giveBack
  override : t.deadline.override = s.deadline.override

/-! ### Letting go -/

theorem takeKill_loosed (s : Session) : s.Loosed s.takeKill.1 where
  sendings := takeKill_quietly.sendings
  lending := takeKill_lending
  override := by rw [takeKill_deadline]
  killTimeout := by rw [takeKill_fst_cursor]
  gone := by rw [takeKill_fst_cursor]

theorem Loosed.of_note {n : Note} (h : (s.note n).Loosed t) : s.Loosed t where
  sendings := h.sendings.trans (note_quietly n).sendings
  lending := h.lending.trans (note_lending n)
  override := h.override
  killTimeout := h.killTimeout
  gone := h.gone

theorem Loosed.close (h : s.Loosed t) : s.Loosed t.close :=
  ⟨h.sendings, h.lending, h.override, h.killTimeout, rfl⟩

theorem Loosed.returned (h : s.Loosed t) (n : Note) : s.Returned (t.note n).giveBack where
  sendings := giveBack_quietly.sendings.trans ((note_quietly n).sendings.trans h.sendings)
  lending := by rw [giveBack_lending, note_lending, h.lending]
  override := by rw [giveBack_deadline, note_deadline, h.override]

/-! ### The clean-up -/

theorem Loosed.leased (h : s.Loosed t) : t.leased = s.leased := congrArg Lending.leased h.lending

theorem Loosed.counts (h : s.Loosed t) : t.counts = s.counts := congrArg Lending.counts h.lending

theorem lastSending_of_none (due : s.takeKill.2 = none) : s.lastSending stop = none := by
  rw [lastSending, due]
  rfl

/-- With a command due the leases are held. -/
theorem Settled.leased_of_due (settled : s.Settled) (due : s.takeKill.2.isSome) :
    s.leased = true := by
  rw [settled.leased]
  exact remote_isSome_of_takeKill due

/-- A clean-up that does not wait has no command to send. -/
theorem Loosed.finished (h : s.Loosed t) (settled : s.Settled)
    (clean : t.cleanUp s.takeKill.2 stop = (u, .finished)) : Disposed stop s u := by
  have none : s.takeKill.2 = none := by
    refine cleanUp_spared (fun due => ?_) clean
    exact h.leased.trans (settled.leased_of_due due)
  cases cleanUp_finished clean
  exact
    { sendings := by
        rw [lastSending_of_none none, giveBack_quietly.sendings, h.sendings]
        simp
      lending := by rw [giveBack_lending, h.lending]
      override := by rw [giveBack_deadline, h.override]
      gone := by rw [giveBack_cursor, h.gone] }

theorem Loosed.killing {sending : Sending} (h : s.Loosed t)
    (clean : t.cleanUp s.takeKill.2 stop = (u, .killing sending saved)) :
    Ending stop saved s u := by
  obtain ⟨kept, -⟩ := cleanUp_override clean
  obtain ⟨-, kill, due, rfl⟩ := cleanUp_killing clean
  have last : (t.underKillTime.send kill stop).2 =
      ⟨kill, .ok (.granted s.cursor.options.killTimeout), s.counts, stop⟩ := by
    rw [← h.killTimeout, ← h.counts]
    rfl
  exact
    { sendings := by
        rw [lastSending, due, Option.map_some, ← last, ← h.sendings]
        exact sendings_sent rfl
      lending := by
        rw [← h.lending]
        have sent : (t.underKillTime.send kill stop).1.journal =
            t.journal ++ [.sent (t.underKillTime.send kill stop).2] := rfl
        exact lending_of_eq rfl rfl sent rfl
      saved := kept.trans h.override
      gone := h.gone }

/-- The answer to the last command makes no difference. -/
theorem Ending.settle (h : Ending stop saved s t) (result : Except Failure Document) :
    Disposed stop s ((t.deliver result).settleKill saved result) where
  sendings := by rw [settleKill_sendings, deliver_sendings, h.sendings]
  lending := by
    simp only [settleKill, giveBack_lending, note_lending, putBack_lending, deliver_lending,
      h.lending]
  override := by
    rw [settleKill_deadline, ← h.saved]
    rfl
  gone := by rw [settleKill_cursor, deliver_cursor, h.gone]

/-- Nor does it make one that there is none. -/
theorem Ending.breakOff (h : Ending stop saved s t) : Disposed stop s (t.breakKill saved) where
  sendings := by rw [(breakKill_quietly saved).sendings, h.sendings]
  lending := by rw [breakKill_lending, h.lending]
  override := by
    rw [breakKill_deadline, ← h.saved]
    rfl
  gone := by rw [breakKill_cursor, h.gone]

/-! ### Nothing is left -/

/-- Nothing is left to do: the server's cursor was let go of and the leases are back. -/
structure Spent (s : Session) : Prop where
  gone : s.cursor.remote = none
  returned : s.leased = false

theorem Spent.settled (h : s.Spent) : s.Settled := settled_of_not_leased h.gone h.returned

theorem Spent.lastSending (h : s.Spent) : s.lastSending stop = none :=
  lastSending_of_none (takeKill_eq_none_of_remote h.gone)

/-- A session with nothing left to do is as it would be if it had been done. -/
theorem Spent.disposed (h : s.Spent) (loosed : s.Loosed t) : Disposed stop s t where
  sendings := by
    rw [h.lastSending, loosed.sendings]
    simp
  lending := by rw [loosed.lending, Lending.giveBack_of_returned h.returned]
  override := loosed.override
  gone := loosed.gone

theorem Spent.loosed (h : s.Spent) : s.Loosed s := ⟨rfl, rfl, rfl, rfl, h.gone⟩

theorem Spent.returned_of_loosed (h : s.Spent) (loosed : s.Loosed t) : s.Returned t :=
  ⟨loosed.sendings, (h.disposed loosed : Disposed none s t).lending, loosed.override⟩

theorem Settled.spent_of_not_leased (settled : s.Settled) (returned : s.leased = false) :
    s.Spent := by
  refine ⟨Option.not_isSome_iff_eq_none.mp ?_, returned⟩
  rw [← settled.leased, returned]
  simp

theorem Settled.spent_of_finished (settled : s.Settled) (finished : s.isFinished = true) :
    s.Spent := by
  obtain ⟨closed, returned⟩ := isFinished_iff.mp finished
  refine ⟨settled.remote_eq_none ?_, returned⟩
  rw [closed]
  simp

namespace Disposed

theorem spent (h : Disposed stop s t) : t.Spent :=
  ⟨h.gone, (congrArg Lending.leased h.lending).trans s.lending.giveBack_leased⟩

theorem note (h : Disposed stop s t) (n : Note) : Disposed stop s (t.note n) where
  sendings := (note_quietly n).sendings.trans h.sendings
  lending := (note_lending n).trans h.lending
  override := h.override
  gone := h.gone

theorem close (h : Disposed stop s t) : Disposed stop s t.close :=
  ⟨h.sendings, h.lending, h.override, rfl⟩

theorem finishClose (h : Disposed stop s t) : Disposed stop s t.finishClose := h.close.note _

/-- What is done stays done. -/
theorem trans (h : Disposed stop s t) (h' : Disposed stop t u) : Disposed stop s u where
  sendings := by
    rw [h'.sendings, h.spent.lastSending, h.sendings]
    simp
  lending := by rw [h'.lending, Lending.giveBack_of_returned h.spent.returned, h.lending]
  override := h'.override.trans h.override
  gone := h'.gone

/-- Everything that is done is determined by the session. -/
theorem effect_eq (h : Disposed stop s t) (h' : Disposed stop s u) : t.effect = u.effect := by
  have lending := h.lending.trans h'.lending.symm
  have counts := congrArg Lending.counts lending
  have leases := congrArg Lending.events lending
  simp only [effect, h.sendings, h'.sendings, h.override, h'.override, Effect.mk.injEq, true_and,
    and_true]
  exact ⟨counts, leases⟩

end Disposed

namespace Returned

theorem leased (h : s.Returned t) : t.leased = false :=
  (congrArg Lending.leased h.lending).trans s.lending.giveBack_leased

theorem effect_eq (h : s.Returned t) (spent : s.Spent) : t.effect = s.effect := by
  have lending : t.lending = s.lending :=
    h.lending.trans (Lending.giveBack_of_returned spent.returned)
  have counts := congrArg Lending.counts lending
  have leases := congrArg Lending.events lending
  simp only [effect, h.sendings, h.override, Effect.mk.injEq, true_and, and_true]
  exact ⟨counts, leases⟩

end Returned

end Session

/-! ### Nothing is sent again -/

namespace Situation

variable {R : Rules} {S T : Situation}

/-- Nothing is under way for a session with nothing left to do. -/
theorem Coherent.rests_of_spent {wait : Wait} (hc : S.Coherent) (h : S.session.Spent) :
    S.control ≠ .waiting wait := by
  intro waits
  have fits := hc.fits
  rw [waits] at fits
  cases wait with
  | batch call =>
    have remote : S.session.cursor.remote.isSome := fits.remote
    simp [h.gone] at remote
  | kill saved after =>
    have leased : S.session.leased = true := fits.2.1
    cases h.returned.symm.trans leased

/-- A cursor gets a server's cursor only with a reply that it asked for. -/
theorem Step.gone_of_spent (step : Step R S T) (hc : S.Coherent) (h : S.session.Spent) :
    T.session.cursor.remote = none := by
  have gone := h.gone
  cases step with
  | ask needed sent =>
    have remote := (Session.isSettled_eq_false_iff.mp needed).2.2
    cases (congrArg Option.isSome gone).symm.trans remote
  | refuse allowed needed refused settled =>
    have remote := (Session.isSettled_eq_false_iff.mp needed).2.2
    cases (congrArg Option.isSome gone).symm.trans remote
  | settle result settled => exact absurd rfl (hc.rests_of_spent h)
  | enter call isOpen => simpa using gone
  | @finish s call h' settled =>
    rcases s.finish_cases call with ⟨batch, -, hf⟩ | ⟨a, hf, -⟩
    all_goals
      rw [hf]
      exact gone
  | @content s h' =>
    rcases s.finish_cases .tryNext with ⟨batch, -, hf⟩ | ⟨a, hf, -⟩
    all_goals
      rw [hf]
      exact gone
  | takeKill => rw [Session.takeKill_fst_cursor]
  | spare clean => rw [Session.cleanUp_cursor clean, gone]
  | sendKill clean => rw [Session.cleanUp_cursor clean, gone]
  | settleKill result => rw [Session.settleKill_cursor, Session.deliver_cursor, gone]
  | breakKill allowed => rw [Session.breakKill_cursor, gone]
  | forsake allowed => rw [Session.giveBack_cursor, gone]
  | shut allowed => rfl
  | dropAndLeave => rfl
  | bury ended returned => rfl
  | _ => exact gone

theorem Step.spent (step : Step R S T) (hc : S.Coherent) (h : S.session.Spent) :
    T.session.Spent ∧ T.session.sendings = S.session.sendings := by
  have spent : T.session.Spent := by
    refine ⟨step.gone_of_spent hc h, ?_⟩
    have returned : S.session.lending.leased = false := h.returned
    rcases step.lending hc with same | back
    · exact (congrArg Lending.leased same).trans returned
    · rw [Lending.giveBack_of_returned returned] at back
      exact (congrArg Lending.leased back).trans returned
  refine ⟨spent, ?_⟩
  cases step.speech hc with
  | quiet unheard same => exact unheard.sendings
  | hears result heard before after same =>
    exact heard.sendings.trans (Session.deliver_sendings result)
  | sends sending sent allowance before after same what =>
    -- what is sent is waited for, and nothing is
    obtain ⟨wait, waits⟩ : ∃ wait, T.control = .waiting wait := by
      rcases what with ⟨-, -, call, waits⟩ | ⟨saved, aftermath, -, waits⟩
      · exact ⟨_, waits⟩
      · exact ⟨_, waits⟩
    exact absurd waits ((step.coherent hc).rests_of_spent spent)

theorem Course.spent (course : Course R S T) (hc : S.Coherent) (h : S.session.Spent) :
    T.session.Spent ∧ T.session.sendings = S.session.sendings := by
  induction course with
  | refl => exact ⟨h, rfl⟩
  | tail course step ih =>
    obtain ⟨spent, same⟩ := ih
    obtain ⟨spent, still⟩ := step.spent (Course.coherent course hc) spent
    exact ⟨spent, still.trans same⟩

end Situation

end ResultCursor
