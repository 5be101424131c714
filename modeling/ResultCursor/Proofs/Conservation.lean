import ResultCursor.Proofs.Course.Calls
import ResultCursor.Proofs.Course.Coherence

/-! No document is lost, handed out twice or out of order. What was handed out so far, with what
still waits in the buffer, is what the quota admitted of the replies; only a close or a failure
takes something off its end. -/

namespace ResultCursor

namespace History

variable {h : History} {a : Answer} {q : Quota} {result : Except Failure Document}

theorem handed_answer (h : History) (a : Answer) :
    (h.answer a).handed = h.handed ++ a.batch?.toList := by
  cases ha : a.batch? <;> simp [handed, answer, ha]

theorem handed_answer_of_none (ha : a.batch? = none) : (h.answer a).handed = h.handed := by
  simp [handed_answer, ha]

@[simp] theorem admitted_answer (h : History) (a : Answer) : (h.answer a).admitted = h.admitted :=
  rfl

@[simp] theorem handed_settle : (h.settle q result).handed = h.handed := by
  unfold settle
  split <;> rfl

theorem admitted_settle_ok {r : BatchReply} (hr : Cursor.readNext result = .ok r) :
    (h.settle q result).admitted = h.admitted ++ q.admitted r.documents := by
  simp [settle, hr, admitted]

theorem admitted_settle_error {f : Failure} (hr : Cursor.readNext result = .error f) :
    (h.settle q result).admitted = h.admitted := by
  simp [settle, hr]

end History

theorem Answer.batch?_of_ofClose {a : Answer} (ha : a.ofClose = true) : a.batch? = none := by
  cases a <;> simp_all [Answer.ofClose, Answer.batch?]

namespace Situation

variable {R : Rules} {S T : Situation} {reply : Document} {setting : Setting}

structure Conserved (S : Situation) : Prop where
  nonempty : ∀ batch ∈ S.history.handed, batch ≠ []
  kept : S.session.cursor.phase ≠ .closed →
    S.history.handed.flatten ++ S.session.cursor.buffer.getD [] = S.history.admitted
  inOrder : S.history.handed.flatten <+: S.history.admitted

section

variable {s t : Session} {c d : Control} {h h' : History}

/-- Nothing is handed out or taken over, and the buffer is kept unless the cursor is closed. -/
theorem Conserved.quiet (hS : Conserved ⟨s, c, h⟩) (hh : h'.handed = h.handed)
    (ha : h'.admitted = h.admitted)
    (hb : t.cursor.phase ≠ .closed →
      s.cursor.phase ≠ .closed ∧ t.cursor.buffer = s.cursor.buffer) :
    Conserved ⟨t, d, h'⟩ where
  nonempty := by simpa only [hh] using hS.nonempty
  kept hp := by
    obtain ⟨hs, hb⟩ := hb hp
    simpa only [hh, ha, hb] using hS.kept hs
  inOrder := by simpa only [hh, ha] using hS.inOrder

theorem Conserved.same (hS : Conserved ⟨s, c, h⟩) (hh : h'.handed = h.handed)
    (ha : h'.admitted = h.admitted) (hp : t.cursor.phase = s.cursor.phase)
    (hb : t.cursor.buffer = s.cursor.buffer) : Conserved ⟨t, d, h'⟩ :=
  hS.quiet hh ha fun ht => ⟨by rwa [← hp], hb⟩

theorem Conserved.shut (hS : Conserved ⟨s, c, h⟩) (hh : h'.handed = h.handed)
    (ha : h'.admitted = h.admitted) (hp : t.cursor.phase = .closed) : Conserved ⟨t, d, h'⟩ :=
  hS.quiet hh ha fun ht => absurd hp ht

/-- A call hands out the buffer, or it hands out nothing. -/
theorem Conserved.finish (hS : Conserved ⟨s, c, h⟩) (hc : Coherent ⟨s, c, h⟩) (call : Call) :
    Conserved ⟨(s.finish call).1, d, h.answer (s.finish call).2⟩ := by
  rcases s.finish_cases call with ⟨batch, hb, hf⟩ | ⟨a, hf, ha, -⟩
  · have hopen : s.cursor.phase ≠ .closed := by
      intro hp
      have hn : s.cursor.buffer = none := hc.emptied hp
      simp [hn] at hb
    have hk : h.handed.flatten ++ batch = h.admitted := by simpa [hb] using hS.kept hopen
    have hh : (h.answer (.batch batch)).handed.flatten = h.admitted := by
      simpa [History.handed_answer, Answer.batch?] using hk
    rw [hf]
    refine ⟨?_, fun _ => by simpa using hh, hh ▸ List.prefix_refl _⟩
    intro b hm hnil
    rcases List.mem_append.mp (History.handed_answer h _ ▸ hm) with hm | hm
    · exact hS.nonempty b hm hnil
    · have heq : b = batch := by simpa [Answer.batch?] using hm
      exact hc.filled (by rw [hb, ← heq, hnil])
  · rw [hf]
    exact hS.same (History.handed_answer_of_none ha) rfl rfl rfl

end

theorem Conserved.opening {s : Session} (hs : Session.ofReply reply setting = .ok s) :
    (opening reply setting s).Conserved := by
  obtain ⟨first, n, hr, hc, -⟩ := Session.ofReply_ok hs
  refine ⟨?_, fun _ => ?_, ?_⟩
  all_goals
    simp [Situation.opening, History.ofReply, hr, hc, History.handed, History.admitted,
      Cursor.absorb, Cursor.fresh]

theorem Step.conserved (step : Step R S T) (hc : S.Coherent) (hS : S.Conserved) : T.Conserved := by
  cases step with
  | adjust deadline clock => exact hS.same rfl rfl rfl rfl
  | note n => exact hS.same rfl rfl rfl rfl
  | setBatchSize n => exact hS.same (History.handed_answer_of_none rfl) rfl rfl rfl
  | inspect => exact hS.same (History.handed_answer_of_none rfl) rfl rfl rfl
  | enter call isOpen => exact hS.same rfl rfl (by simp) (by simp)
  | stay closed ha =>
    exact hS.same (History.handed_answer_of_none (Answer.batch?_of_ofClose ha)) rfl rfl rfl
  | @finish s call h settled => exact hS.finish hc call
  | halt halt => exact hS.same (History.handed_answer_of_none rfl) rfl rfl rfl
  | ask needed sent =>
    obtain ⟨-, remote, left, -, -, -, rfl⟩ := Session.beginFetch_ok sent
    exact hS.same rfl rfl rfl rfl
  | refuse allowed needed refused settled =>
    obtain ⟨since, n, -, -, rfl⟩ := hc.refused needed refused settled
    exact hS.shut rfl rfl rfl
  | @settle s t call h outcome result settled =>
    have hb : s.cursor.buffer = none := hc.fits.buffer
    have hp : s.cursor.phase = .active := hc.fits.active hc.fits.remote
    rcases Session.settleFetch_cases settled with
        ⟨r, n, hr, -, rfl⟩ | ⟨f, n, hr, -, -, rfl⟩ | ⟨f, n, hr, -, -, rfl⟩
    · have hk : h.handed.flatten = h.admitted := by simpa [hb] using hS.kept (by simp [hp])
      have ha := History.admitted_settle_ok (h := h) (q := s.cursor.quota) hr
      refine ⟨by simpa using hS.nonempty, fun _ => ?_, ?_⟩
      · simp [ha, hk, Cursor.absorb]
      · simp [ha, hk]
    · exact hS.same (by simp) (History.admitted_settle_error hr) rfl rfl
    · exact hS.shut (by simp) (History.admitted_settle_error hr) rfl
  | lose => exact hS.same rfl rfl rfl rfl
  | @takeKill s after h =>
    obtain ⟨notes, ht⟩ := Session.takeKill_fst s
    exact hS.same rfl rfl (by simp [ht]) (by simp [ht])
  | spare clean =>
    have ht := Session.cleanUp_cursor clean
    exact hS.same rfl rfl (by rw [ht]) (by rw [ht])
  | sendKill clean =>
    have ht := Session.cleanUp_cursor clean
    exact hS.same rfl rfl (by rw [ht]) (by rw [ht])
  | settleKill result =>
    exact hS.same rfl rfl (by simp) (by simp)
  | breakKill => exact hS.same rfl rfl (by simp) (by simp)
  | opened => exact hS.same (History.handed_answer_of_none rfl) rfl rfl rfl
  | again more => exact hS.same rfl rfl rfl rfl
  | content => exact hS.finish hc .tryNext
  | fail => exact hS.same (History.handed_answer_of_none rfl) rfl rfl rfl
  | relent returns => exact hS.same rfl rfl rfl rfl
  | shut =>
    exact hS.shut (History.handed_answer_of_none (Answer.batch?_of_ofClose hc.fits.2.2)) rfl rfl
  | close ha => exact hS.same rfl rfl rfl rfl
  | retire finished => exact hS.same rfl rfl rfl rfl
  | dropAndClose => exact hS.same rfl rfl rfl rfl
  | dropAndLeave => exact hS.shut rfl rfl rfl
  | forsake => exact hS.same rfl rfl (by simp) (by simp)
  | bury ended returned => exact hS.shut rfl rfl rfl

theorem Courses.conserved (hS : Courses reply setting S) : S.Conserved :=
  hS.induction (fun _ hs => .opening hs) fun _ _ hC hS step => step.conserved hC.coherent hS

end Situation

/-- While the cursor is not closed, the documents handed out and then those in the buffer are the
admitted ones, in the order in which they arrived and each once. A closed cursor has handed out
the first of them. No batch handed out is empty. -/
theorem documents_conserved {reply : Document} {setting : Setting} {S : Situation}
    (hS : Situation.Reached reply setting S) :
    (S.session.cursor.phase ≠ .closed →
      S.history.handed.flatten ++ S.session.cursor.buffer.getD [] = S.history.admitted) ∧
    S.history.handed.flatten <+: S.history.admitted ∧
    ∀ batch ∈ S.history.handed, batch ≠ [] := by
  have h := hS.courses.conserved
  exact ⟨h.kept, h.inOrder, h.nonempty⟩

/-- A call is given up while its batch is on the way, and another one gets the batch after it. -/
theorem documents_conserved_after_abandon :
    ∃ S, Situation.Reached (BatchReply.Place.first.reply 7 [item 1, item 2])
        (plainSetting .unlimited) S ∧
      S.history.handed = [[item 1, item 2]] ∧ S.session.cursor.phase = .exhausted ∧
      S.history.handed.flatten ++ S.session.cursor.buffer.getD [] = S.history.admitted := by
  have run : Shared.Comes (BatchReply.Place.first.reply 7 [item 1, item 2])
      (plainSetting .unlimited)
      [.start (.iterate .next), .start (.iterate .hasNext), .abandon 1, .start (.iterate .hasNext),
        .deliver 2 (.reply (BatchReply.Place.next.reply 0 [item 3]))] _ :=
    ⟨_, rfl, rfl⟩
  have h := documents_conserved (.shared run)
  exact ⟨_, .shared run, rfl, rfl, h.1 (by decide)⟩

end ResultCursor
