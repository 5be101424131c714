import ResultCursor.Proofs.Dialogue
import ResultCursor.Proofs.Exhaustion

/-! Whether a cursor that stops fetching ends the server's cursor. Where every command gets its
answer and every clean-up is done, a command to end it is sent exactly once if the newest reply
named a cursor and no request failed in a way that leaves nothing to end, and else never. -/

namespace ResultCursor

/-- Whatever was waited for comes, and clean-ups are done. -/
def lasting : Rules := (· ≠ .breakOff)

theorem not_lasting_breakOff : ¬lasting .breakOff := fun h => h rfl

theorem lasting_shut : lasting .shut := by simp [lasting]

theorem lasting_retime (s : Session) (deadline : Deadline) : lasting (.retime s deadline) := by
  simp [lasting]

theorem Session.keepsTo_lasting (s : Session) : s.KeepsTo lasting :=
  .of_all (by simp [lasting]) (by simp [lasting]) s

theorem Wait.keepsTo_lasting (wait : Wait) (s : Session) : wait.KeepsTo lasting s :=
  .of_all (by simp [lasting]) (by simp [lasting]) s wait

namespace Situation

variable {R : Rules} {S T : Situation} {reply : Document} {setting : Setting}

/-- Only what is broken off is remembered as broken. -/
theorem Step.broken (step : Step R S T) (hR : ¬R .breakOff) :
    T.history.broken = S.history.broken := by
  cases step with
  | settle result settled => exact History.broken_settle _ _
  | lose allowed => exact absurd allowed hR
  | breakKill allowed => exact absurd allowed hR
  | _ => rfl

theorem Course.broken (course : Course R S T) (hR : ¬R .breakOff) :
    T.history.broken = S.history.broken := by
  induction course with
  | refl => rfl
  | tail course step ih => exact (step.broken hR).trans ih

/-- Whether the server's cursor is ended is decided when the cursor stops fetching, and never
again: it is if the newest reply named one and no request failed so that it is gone or out of
reach. -/
structure Decided (first : BatchReply) (S : Situation) : Prop where
  once : (S.session.dialogue first).kills ≤ 1
  before : S.session.cursor.phase = .active → (S.session.dialogue first).spoiled = false ∧
    (S.control = .idle → (S.session.dialogue first).kills = 0)
  after : S.session.cursor.phase ≠ .active → (S.session.dialogue first).kills =
    if (S.session.dialogue first).newest ≠ 0 ∧ (S.session.dialogue first).spoiled = false then 1
    else 0

/-- A cursor that has stopped fetching has let go of the server's cursor when it rests or waits. -/
theorem Coherent.remote_eq_none {wait : Option Wait} (hS : S.Coherent)
    (hw : S.control = .ofWait wait) (hp : S.session.cursor.phase ≠ .active) :
    S.session.cursor.remote = none := by
  have fits := hS.fits
  rw [hw] at fits
  match wait with
  | none => exact Session.Settled.remote_eq_none fits hp
  | some (.batch call) => exact Session.Settled.remote_eq_none fits.toSettled hp
  | some (.kill saved after) => exact fits.1

theorem Course.decided {s : Session} {wait : Option Wait}
    (hs : Session.ofReply reply setting = .ok s)
    (course : Course lasting (opening reply setting s) S) (hC : Courses reply setting S)
    (hw : S.control = .ofWait wait) :
    ∃ first, BatchReply.ofDocument .first reply = .ok first ∧ S.Decided first := by
  obtain ⟨first, hr, -, known⟩ := Course.informed hs course
  refine ⟨first, hr, ?_, fun ha => ⟨?_, fun idle => ?_⟩, fun hp => ?_⟩
  · by_cases hk : (S.session.dialogue first).kills = 0
    · omega
    · exact Nat.le_of_eq (known.killed hk).1
  · exact Bool.eq_false_iff.mpr fun hs => (known.spoiled hs).1 ha
  · by_contra hk
    have gone : S.session.cursor.remote = none := by
      refine Option.eq_none_iff_forall_ne_some.mpr fun remote hr => ?_
      exact hk (known.named remote hr).2
    -- an active cursor without a server's cursor comes from a close that broke off
    have explains : S.history.Explains S.session := by
      have honest := hC.honest.control
      rwa [idle] at honest
    have cut := explains ha gone
    have unbroken : S.history.broken = [] := by
      rw [Course.broken course not_lasting_breakOff]
      simp only [opening, History.ofReply]
      split <;> rfl
    simp [History.closeCutOff, unbroken] at cut
  · have gone := Coherent.remote_eq_none hC.coherent hw hp
    have rests : S.control.owes = false := by
      rw [hw]
      cases wait <;> rfl
    split
    · next hn =>
      rcases known.owed not_lasting_breakOff hn.1 hn.2 with hr | ho | hk
      · simp [gone] at hr
      · cases rests.symm.trans ho
      · exact (known.killed hk).1
    · next hn =>
      by_contra hk
      exact hn (known.killed hk).2

end Situation

/-! ### Runs in which nothing breaks off -/

namespace Blocking

variable {reply : Document} {setting : Setting} {p : Play} {m : Move} {moves : List Move}

/-- A command that is answered does not break off. -/
def Move.returns : Move → Bool
  | .outcome o => !o.isCrash
  | _ => true

theorem Play.keepsTo_lasting (hm : m.returns = true) : p.KeepsTo lasting m where
  shut := lasting_shut
  asks _ _ _ := Session.keepsTo_lasting _
  goesOn _ _ wait _ := wait.keepsTo_lasting _
  broken o ho hc := by
    subst ho
    simp [Move.returns, hc] at hm
  starts _ _ := lasting_retime _ _
  adjusts _ _ _ := lasting_retime _ _

theorem Comes.lasting (run : Comes reply setting moves p) (hm : ∀ m ∈ moves, m.returns = true) :
    ∃ s, Session.ofReply reply setting = .ok s ∧
      Situation.Course lasting (Situation.opening reply setting s) p.situation := by
  obtain ⟨p₀, hs, hr⟩ := run
  refine run_induction_of (fun m : Move => m.returns = true)
    (P := fun p => ∃ s, Session.ofReply reply setting = .ok s ∧
      Situation.Course ResultCursor.lasting (Situation.opening reply setting s) p.situation)
    (start_course hs) (fun p q m hret hp hm => ?_) hm hr
  obtain ⟨s, hs, course⟩ := hp
  exact ⟨s, hs, course.trans (act_course (Play.keepsTo_lasting hret) hm)⟩

end Blocking

namespace Shared

variable {reply : Document} {setting : Setting} {p : Play} {m : Move} {moves : List Move}

/-- A command is answered, no call is given up, and tasks run to their end. -/
def Move.returns : Move → Bool
  | .deliver _ o => !o.isCrash
  | .outcome o => !o.isCrash
  | .drop tasksRun => tasksRun
  | .abandon _ => false
  | .giveUp => false
  | _ => true

theorem GoesOn.of_returns {c : Shared} {wait : Wait} {o : Outcome} (ho : o.isCrash = false) :
    c.GoesOn lasting wait o :=
  ⟨fun _ => wait.keepsTo_lasting _, fun _ _ => lasting_shut,
    fun hc => by cases ho.symm.trans hc⟩

theorem Play.keepsTo_lasting (hm : m.returns = true) : p.KeepsTo lasting m := by
  have free (c : Shared) (r : Request) : c.KeepsTo lasting r :=
    ⟨fun _ => Session.keepsTo_lasting _, fun _ _ _ => lasting_shut, fun _ _ => lasting_retime _ _⟩
  cases m with
  | start r => exact fun r _ _ => free _ r
  | turn i => exact fun r _ _ => free _ r
  | deliver i o => exact fun wait _ => .of_returns (by simpa [Move.returns] using hm)
  | outcome o => exact fun wait _ => .of_returns (by simpa [Move.returns] using hm)
  | drop tasksRun => exact fun ht => by cases hm.symm.trans ht
  | abandon i => cases hm
  | giveUp => cases hm
  | adjust deadline clock => exact lasting_retime _ _
  | cleanUp => trivial

theorem Comes.lasting (run : Comes reply setting moves p) (hm : ∀ m ∈ moves, m.returns = true) :
    ∃ s, Session.ofReply reply setting = .ok s ∧
      Situation.Course lasting (Situation.opening reply setting s) p.situation := by
  obtain ⟨p₀, hs, hr⟩ := run
  obtain ⟨s, hs', first⟩ := start_course (R := ResultCursor.lasting) hs
  have kept := run_induction_of (fun m : Move => m.returns = true)
    (P := fun p => p.Orderly ∧
      Situation.Course ResultCursor.lasting (Situation.opening reply setting s) p.situation)
    ⟨start_orderly hs, first⟩ (fun p q m hret hp hm => ?_) hm hr
  · exact ⟨s, hs', kept.2⟩
  · exact ⟨act_orderly hp.1 hm,
      hp.2.trans (act_course hp.1 (Play.keepsTo_lasting hret) hm)⟩

/-- The cursor rests or waits unless the clean-up after its last handle is still due. -/
theorem Play.control_eq_ofWait (ht : p.task = none) : ∃ wait, p.control = .ofWait wait := by
  unfold Play.control
  rw [ht]
  cases p.wait <;> exact ⟨_, rfl⟩

end Shared

/-- Where every command is answered, no call is given up and clean-ups are done, a command to end
the server's cursor is sent once, when the cursor stops fetching, if the newest reply named a
cursor and no request failed so that the connection is dead or the server has no such cursor.
Otherwise none is sent, and never a second one. -/
theorem kill_sent_once_iff_owed {reply : Document} {setting : Setting} :
    (∀ moves p, Blocking.Comes reply setting moves p → (∀ m ∈ moves, m.returns = true) →
      ∃ first, BatchReply.ofDocument .first reply = .ok first ∧ p.situation.Decided first) ∧
    (∀ moves p, Shared.Comes reply setting moves p → (∀ m ∈ moves, m.returns = true) →
      p.task = none →
      ∃ first, BatchReply.ofDocument .first reply = .ok first ∧ p.situation.Decided first) := by
  constructor
  · intro moves p run returns
    obtain ⟨s, hs, course⟩ := run.lasting returns
    exact Situation.Course.decided hs course run.courses rfl
  · intro moves p run returns done
    obtain ⟨s, hs, course⟩ := run.lasting returns
    obtain ⟨wait, hw⟩ := Shared.Play.control_eq_ofWait done
    exact Situation.Course.decided hs course run.courses hw

/-- After a failure that the server reports its cursor is ended, once; after the connection was
lost it is not. -/
theorem kill_sent_after_report_not_after_loss :
    (∃ p first, Shared.Comes (BatchReply.Place.first.reply 7 [item 1]) (plainSetting .unlimited)
        [.start (.iterate .next), .start (.iterate .hasNext),
          .deliver 1 (.failure (.command 1 "InternalError" "failed")), .deliver 1 (.reply []),
          .drop true] p ∧
      p.situation.Decided first ∧ (p.session.dialogue first).kills = 1) ∧
    (∃ p first, Blocking.Comes (BatchReply.Place.first.reply 7 [item 1]) (plainSetting .unlimited)
        [.request (.iterate .next), .request (.iterate .hasNext),
          .outcome (.failure (.network "reset" none)), .drop] p ∧
      p.situation.Decided first ∧ (p.session.dialogue first).kills = 0) := by
  constructor
  · have run : Shared.Comes (BatchReply.Place.first.reply 7 [item 1]) (plainSetting .unlimited)
        [.start (.iterate .next), .start (.iterate .hasNext),
          .deliver 1 (.failure (.command 1 "InternalError" "failed")), .deliver 1 (.reply []),
          .drop true] _ :=
      ⟨_, rfl, rfl⟩
    obtain ⟨first, hf, decided⟩ := kill_sent_once_iff_owed.2 _ _ run (by decide) rfl
    cases hf
    exact ⟨_, _, run, decided, decided.after (by decide)⟩
  · have run : Blocking.Comes (BatchReply.Place.first.reply 7 [item 1]) (plainSetting .unlimited)
        [.request (.iterate .next), .request (.iterate .hasNext),
          .outcome (.failure (.network "reset" none)), .drop] _ :=
      ⟨_, rfl, rfl⟩
    obtain ⟨first, hf, decided⟩ := kill_sent_once_iff_owed.1 _ _ run (by decide)
    cases hf
    exact ⟨_, _, run, decided, decided.after (by decide)⟩

end ResultCursor
