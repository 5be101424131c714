import ResultCursor.Proofs.Sharing.Answers

/-! Calls that run side by side on a shared cursor have the effect of calls made one after the
other. One command is under way at a time, while the leases are held; calls are served in the order
in which they were started, each document goes to one of them, and a close is final. -/

namespace ResultCursor

/-! ### Documents are kept until a close -/

namespace Situation

variable {R : Rules} {S T : Situation}

/-- As long as the cursor is in use, no document that was taken over is missing. -/
def Kept (S : Situation) : Prop :=
  S.history.ended = false →
    S.history.handed.flatten ++ S.session.cursor.buffer.getD [] = S.history.admitted

theorem Kept.same {s t : Session} {c d : Control} {h h' : History} (hS : Kept ⟨s, c, h⟩)
    (hb : t.cursor.buffer = s.cursor.buffer) (he : h'.ended = false → h.ended = false)
    (hh : h'.handed = h.handed) (ha : h'.admitted = h.admitted) : Kept ⟨t, d, h'⟩ := by
  intro hn
  simpa only [hb, hh, ha] using hS (he hn)

/-- Only a close takes documents away. A failure closes the cursor too, but there is nothing in the
buffer then. -/
theorem Step.kept (step : Step R S T) (hR : ¬R .shut) (hc : S.Coherent) (hT : T.Conserved)
    (hS : S.Kept) : T.Kept := by
  cases step with
  | adjust deadline clock => exact hS.same rfl id rfl rfl
  | note n => exact hS.same rfl id rfl rfl
  | setBatchSize n => exact hS.same rfl id (History.handed_answer_of_none rfl) rfl
  | inspect => exact hS.same rfl id (History.handed_answer_of_none rfl) rfl
  | enter call isOpen => exact hS.same (by simp) id rfl rfl
  | stay closed ha =>
    exact hS.same rfl id (History.handed_answer_of_none (Answer.batch?_of_ofClose ha)) rfl
  | finish settled => exact fun _ => hT.kept (by simpa using hc.fits.2)
  | halt halt => exact hS.same rfl id (History.handed_answer_of_none rfl) rfl
  | ask needed sent =>
    obtain ⟨-, remote, left, -, -, -, rfl⟩ := Session.beginFetch_ok sent
    exact hS.same rfl id rfl rfl
  | refuse allowed needed refused settled =>
    obtain ⟨since, n, -, -, rfl⟩ := hc.refused needed refused settled
    have empty := (Session.isSettled_eq_false_iff.mp needed).1
    exact hS.same empty.symm id rfl rfl
  | @settle s t call h outcome result settled =>
    rcases Session.settleFetch_cases settled with
        ⟨r, n, -, -, ht⟩ | ⟨f, n, hr, -, -, rfl⟩ | ⟨f, n, hr, -, -, rfl⟩
    · have active : s.cursor.phase = .active := hc.fits.active hc.fits.remote
      refine fun _ => hT.kept ?_
      rw [ht]
      exact Cursor.absorb_phase_ne_closed (by simp [active])
    · exact hS.same rfl (by simp) (by simp) (History.admitted_settle_error hr)
    · exact hS.same hc.fits.buffer.symm (by simp) (by simp) (History.admitted_settle_error hr)
  | lose => exact hS.same rfl id rfl rfl
  | @takeKill s after h =>
    obtain ⟨notes, ht⟩ := Session.takeKill_fst s
    exact hS.same (by simp [ht]) id rfl rfl
  | spare clean => exact hS.same (by rw [Session.cleanUp_cursor clean]) id rfl rfl
  | sendKill clean => exact hS.same (by rw [Session.cleanUp_cursor clean]) id rfl rfl
  | settleKill result => exact hS.same (by simp) id rfl rfl
  | breakKill => exact hS.same (by simp) (fun he => (Bool.or_eq_false_iff.mp he).1) rfl rfl
  | opened => exact hS.same rfl id (History.handed_answer_of_none rfl) rfl
  | again more => exact hS.same rfl id rfl rfl
  | @content s h =>
    have isOpen : s.cursor.phase ≠ .closed := hc.fits.2.2
    exact fun _ => hT.kept (by simpa using isOpen)
  | fail => exact hS.same rfl id (History.handed_answer_of_none rfl) rfl
  | relent returns => exact hS.same rfl id rfl rfl
  | shut allowed => exact absurd allowed hR
  | close ha => exact hS.same rfl id rfl rfl
  | retire finished => exact fun he => by cases he
  | dropAndClose => exact fun he => by cases he
  | dropAndLeave => exact fun he => by cases he
  | forsake => exact hS.same (by simp) id rfl rfl
  | bury ended returned => exact fun he => by cases ended.symm.trans he

theorem Course.kept (course : Course R S T)
    (hR : ¬R .shut) (hc : S.Coherent) (hi : S.Conserved) (hS : S.Kept) : T.Kept := by
  have kept : T.Coherent ∧ T.Conserved ∧ T.Kept := by
    induction course with
    | refl => exact ⟨hc, hi, hS⟩
    | tail course step ih =>
      obtain ⟨hc, hi, hS⟩ := ih
      have hT := step.conserved hc hi
      exact ⟨step.coherent hc, hT, step.kept hR hc hT hS⟩
  exact kept.2.2

end Situation

/-! ### One command at a time -/

theorem Control.Fits.leased {s : Session} {wait : Wait} (h : (Control.waiting wait).Fits s) :
    s.leased = true := by
  cases wait with
  | batch call =>
    have asking : s.Asking := h
    rw [asking.leased, asking.remote]
  | kill saved after => exact h.2.1

namespace Calls

variable {c : Calls}

/-- Of the calls that run, one waits at most. -/
theorem Orderly.waits_eq (hc : c.Orderly) :
    (c.running.filterMap fun e => e.2.wait?) = c.wait?.toList := by
  cases hw : c.wait? with
  | none => exact List.filterMap_eq_nil_iff.mpr (List.findSome?_eq_none_iff.mp hw)
  | some wait =>
    obtain ⟨i, hi⟩ := exists_of_wait? hw
    obtain ⟨before, after, hl⟩ := List.append_of_mem hi
    have others : i ∉ before.map Prod.fst ∧ i ∉ after.map Prod.fst := by
      have hn := hc.nodup
      rw [hl, List.map_append, List.map_cons, List.nodup_middle, List.nodup_cons] at hn
      simpa using hn.1
    have quiet (l : List (Nat × Stage)) (hs : l ⊆ c.running) (hn : i ∉ l.map Prod.fst) :
        (l.filterMap fun e => e.2.wait?) = [] := by
      refine List.filterMap_eq_nil_iff.mpr fun e he => ?_
      obtain ⟨j, s⟩ := e
      cases s with
      | inLine r => rfl
      | waiting other =>
        -- both have the turn
        have same := (hc.waits j other (hs he)).symm.trans (hc.waits i wait hi)
        exact absurd (List.mem_map.mpr ⟨_, he, Option.some.inj same⟩) hn
    rw [hl, List.filterMap_append, List.filterMap_cons, quiet before (by simp [hl]) others.1,
      quiet after (by simp [hl]) others.2]
    rfl

end Calls

namespace Shared

variable {p q : Play} {m : Move} {moves : List Move} {log : Log} {reply : Document}
  {setting : Setting}

/-- The commands under way: that of the opening or of the last clean-up, and those of calls. -/
def Play.outstanding (p : Play) : List Wait :=
  p.wait.toList ++ p.calls.running.filterMap fun e => e.2.wait?

theorem Play.Orderly.pending_eq (hp : p.Orderly) : p.control.pending = p.outstanding.length := by
  obtain ⟨c, wait, task, h⟩ := p
  simp only [outstanding, hp.calls.waits_eq]
  cases wait with
  | some wait =>
    have alone : c.running = [] := hp.alone (.inl rfl)
    simp [control, Control.ofWait, Control.pending, Calls.wait?, alone]
  | none =>
    cases task with
    | none => exact Control.pending_ofWait c.wait?
    | some kill =>
      have alone : c.running = [] := hp.alone (.inr rfl)
      simp [control, Control.pending, Calls.wait?, alone]

theorem Play.Orderly.waiting_of_outstanding (hp : p.Orderly) (hn : p.outstanding ≠ []) :
    ∃ wait, p.control = .waiting wait := by
  have pending := hp.pending_eq
  cases hc : p.control with
  | waiting wait => exact ⟨wait, rfl⟩
  | _ =>
    rw [hc] at pending
    exact absurd (List.eq_nil_of_length_eq_zero pending.symm) hn

/-- One command is under way at most; the others have their results or were given up. The leases
are held as long as one is under way. -/
structure Play.OneAtATime (before : Counts) (p : Play) : Prop where
  single : p.outstanding.length ≤ 1
  accounted : p.session.commands.length =
    p.session.results.length + p.history.unanswered + p.outstanding.length
  leased : p.outstanding ≠ [] →
    p.session.counts = before.raised ∧ p.session.leaseEvents = Session.takings

theorem Play.Orderly.oneAtATime (ho : p.Orderly)
    (hp : Situation.Courses reply setting p.situation) : p.OneAtATime setting.counts where
  single := by
    rw [← ho.pending_eq]
    cases p.control <;> simp [Control.pending]
  accounted := ho.pending_eq ▸ hp.accounted
  leased hn := by
    obtain ⟨wait, hw⟩ := ho.waiting_of_outstanding hn
    have fits : p.control.Fits p.session := hp.coherent.fits
    rw [hw] at fits
    have held := hp.lending.of_leased fits.leased
    exact ⟨congrArg Lending.counts held, congrArg Lending.events held⟩

/-! ### What the log says -/

/-- Calls have their turns in the order in which they were started, and are answered in that order;
so batches go to them in that order too. -/
structure Log.InOrder (log : Log) (h : History) : Prop where
  turns : log.gained.Pairwise (· < ·)
  answers : (log.answered.map Prod.fst).Sublist log.gained
  batches : log.batches = h.handed
  documents : h.handed.flatten <+: h.admitted

/-- A call that looks for a batch, and is answered after a close, learns that the cursor is
closed. -/
def Log.Final (log : Log) : Prop :=
  log.answered.Pairwise fun earlier later => log.started[earlier.1]? = some .close →
    ∀ call, log.started[later.1]? = some (.iterate call) →
      later.2 = .failed (.closed call.closure)

/-- The cursor is closed and at rest, and the leases are back. Whoever has the turn, or starts a
call while nobody has it, is answered at once; a call that looks for a batch learns that the cursor
is closed. -/
structure Play.Shut (before : Counts) (p : Play) (log : Log) : Prop where
  closed : p.session.cursor.phase = .closed
  returned : p.session.leased = false ∧ p.session.counts = before
  resting : p.outstanding = []
  turns : ∀ i, p.calls.turns.holder = some i → ∃ r a, log.started[i]? = some r ∧
    (p.calls.turn i).2 = .answered a ∧
    ∀ call, r = .iterate call → a = .failed (.closed call.closure)
  starts : p.calls.turns.holder = none → ∀ call,
    (p.calls.start (.iterate call)).2.2 = .answered (.failed (.closed call.closure))

theorem Play.Recorded.shut (hp : p.Recorded log)
    (hc : Situation.Courses reply setting p.situation) (hf : p.session.isFinished = true) :
    p.Shut setting.counts log := by
  obtain ⟨closed, returned⟩ := Session.isFinished_iff.mp hf
  refine ⟨closed, ⟨returned, (hc.lending.of_not_leased returned).1⟩, ?_, ?_, ?_⟩
  · by_contra hn
    obtain ⟨wait, hw⟩ := hp.orderly.waiting_of_outstanding hn
    exact hc.coherent.rests hf hw
  · intro i ht
    obtain ⟨s, hi⟩ := hp.manned.stage? (i := i) (by simp [ht])
    cases s with
    | waiting wait => exact absurd (hp.orderly.control_eq hi) (hc.coherent.rests hf)
    | inLine r =>
      obtain ⟨r', hr, rfl⟩ := hp.serves.of_stage hi
      obtain ⟨c, a, ha, -, told⟩ := request_of_finished hf r
      have answered : (p.calls.turn i).2 = .answered a := by
        rw [Calls.turn_eq hi ht]
        exact Calls.settle_answered.mpr (congrArg Prod.snd ha)
      exact ⟨r, a, hr, answered, told⟩
  · intro ht call
    have turn : (p.calls.entered (.iterate call)).turns.holder = some p.calls.fresh := by
      simp [Calls.entered, Turns.ask, ht]
    rw [Calls.start_eq, Calls.turn_eq (p.calls.entered_stage? _) turn]
    exact Calls.settle_answered.mpr (request_of_closed closed call)

/-- Everything that runs and their logs keep. -/
structure Play.Told (reply : Document) (setting : Setting) (p : Play) (log : Log) : Prop where
  recorded : p.Recorded log
  courses : Situation.Courses reply setting p.situation
  batches : log.batches = p.history.handed
  kept : ¬log.Closed → p.situation.Kept
  finished : log.Closed → p.session.isFinished = true
  final : log.Final

theorem Log.InTurn.started_add {t : Turns} {n : Nat} (h : log.InTurn t n) {e : Nat × Answer}
    (he : e ∈ log.answered) : (log.add p m q).started[e.1]? = log.started[e.1]? := by
  have gained : e.1 ∈ log.gained := h.sublist.subset (List.mem_map_of_mem he)
  have below : e.1 < n := h.below e.1 (List.mem_append_left _ gained)
  rw [Log.add_started, List.getElem?_append_left (h.numbered ▸ below)]

theorem Play.Told.final_add (hp : p.Told reply setting log) (hm : p.act m = some q) :
    (log.add p m q).Final := by
  have same {e : Nat × Answer} (he : e ∈ log.answered) :
      (log.add p m q).started[e.1]? = log.started[e.1]? := hp.recorded.inTurn.started_add he
  rw [Log.Final, Log.add_answered, List.pairwise_append]
  refine ⟨?_, ?_, ?_⟩
  · refine hp.final.imp_of_mem fun he hl told => ?_
    rwa [same he, same hl]
  · cases p.answer? m <;> simp
  · rintro e he ⟨i, a⟩ hi hr call hcall
    have closed : log.Closed := ⟨e, he, (same he).symm.trans hr⟩
    obtain ⟨r, hr', fits⟩ := act_fits hp.recorded hp.courses.coherent hm (by simpa using hi)
    cases hr'.symm.trans hcall
    exact fits.refused call rfl (hp.finished closed)

theorem act_told (hp : p.Told reply setting log) (hm : p.act m = some q) :
    q.Told reply setting (log.add p m q) where
  recorded := act_recorded hp.recorded hm
  courses := act_courses hp.recorded.orderly hp.courses hm
  batches := by
    rw [Log.batches, Log.add_answered, List.filterMap_append, act_handed hp.recorded.orderly hm,
      ← hp.batches, Log.batches]
    rcases p.answer? m with _ | ⟨i, a⟩
    · rfl
    · cases ha : a.batch? <;> simp [ha]
  kept open' := by
    have course : Situation.Course unshut p.situation q.situation :=
      act_course hp.recorded.orderly (keepsTo_unshut hp.recorded open') hm
    exact course.kept (· rfl) hp.courses.coherent hp.courses.conserved
      (hp.kept fun closed => open' closed.add)
  finished closed := by
    have course : Situation.Course (fun _ => True) p.situation q.situation :=
      act_course hp.recorded.orderly (.of_all (fun _ => trivial) p m) hm
    obtain ⟨e, he, hr⟩ := closed
    rw [Log.add_answered] at he
    rcases List.mem_append.mp he with he | he
    · rw [hp.recorded.inTurn.started_add he] at hr
      exact course.finished hp.courses.coherent (hp.finished ⟨e, he, hr⟩)
    · obtain ⟨r, hr', fits⟩ := act_fits hp.recorded hp.courses.coherent hm (by simpa using he)
      cases hr'.symm.trans hr
      exact fits.closed rfl
  final := hp.final_add hm

/-- Nothing is handed out while the cursor is opened. -/
theorem start_handed (hs : start reply setting = .ok p) : p.history.handed = [] := by
  have fresh : (History.ofReply reply setting).handed = [] := by
    unfold History.ofReply
    split <;> rfl
  rw [start, Shared.ofReply_eq] at hs
  split at hs
  · cases hs
  · next c progress hr =>
    cases hs
    split at hr
    · cases hr
    · simp only [Except.ok.injEq] at hr
      unfold afterCleanup opened answered at hr
      split at hr
      · split at hr
        · cases hr
          exact (History.handed_answer_of_none rfl).trans fresh
        · cases hr
          exact fresh
      · cases hr
        exact (History.handed_answer_of_none rfl).trans fresh

theorem start_told (hs : start reply setting = .ok p) : p.Told reply setting {} := by
  have recorded := start_recorded hs
  obtain ⟨s, hs', course⟩ := start_course (R := fun _ => True) hs
  have kept : p.situation.Kept := by
    obtain ⟨s, hs', course⟩ := start_course (R := unshut) hs
    have first : (Situation.opening reply setting s).Conserved := .opening hs'
    exact course.kept (· rfl) (.opening hs') first fun _ =>
      first.kept (Session.ofReply_not_closed hs')
  exact
    { recorded
      courses := ⟨s, hs', course⟩
      batches := (start_handed hs).symm
      kept := fun _ => kept
      finished := fun closed => by simp [Log.Closed] at closed
      final := .nil }

theorem Logged.told (run : Logged reply setting moves p log) : p.Told reply setting log := by
  obtain ⟨p₀, first, run, rfl⟩ := run
  exact Play.log_induction (start_told first) (fun _ _ _ _ hp hm => act_told hp hm) run

/-- Once a close was asked for, no batch is asked for. -/
theorem Logged.requests_eq {pre post : List Move} (run : Logged reply setting moves p log)
    (hs : moves = pre ++ .start .close :: post) (hq : Comes reply setting pre q) :
    p.session.requests = q.session.requests := by
  obtain ⟨p₀, first, run, -⟩ := run
  obtain ⟨q₀, first', hq⟩ := hq
  cases first.symm.trans first'
  have told : q.Told reply setting (p₀.log {} pre) := Logged.told ⟨p₀, first, hq, rfl⟩
  subst hs
  rw [List.foldlM_append, hq, Option.bind_eq_bind, Option.bind_some, List.foldlM_cons,
    Option.bind_eq_bind, Option.bind_eq_some_iff] at run
  obtain ⟨q', hm, run⟩ := run
  have asked : q'.shared.closeRequested = true :=
    (act_moved told.recorded.orderly hm).closeRequested (.inr rfl)
  have course : Situation.Course stopped q.situation p.situation :=
    (act_course told.recorded.orderly (Play.keepsTo_stopped (.inr rfl)) hm).trans
      (course_after_close (act_recorded told.recorded hm) asked run)
  obtain ⟨s, hs, toClose⟩ := told.courses
  obtain ⟨reply', -, informed⟩ := Situation.Course.informed hs toClose
  exact course.requests (· rfl) told.courses.coherent told.courses.lending
    (informed.of_breakOff stopped_breakOff)

/-- Calls on a shared cursor, made side by side and given up anywhere, are serialised. One command
is under way at a time, and the leases stay as long as it is. Calls have their turns, and get their
batches, in the order in which they were started; up to the first close that is answered, what they
got and what is buffered are the documents received, each once. Once a close was asked for, no
batch is asked for; once one was answered, the cursor is closed, the leases are back, and all
that look for a batch learn that the cursor is closed. -/
theorem calls_serialised (run : Logged reply setting moves p log) :
    p.OneAtATime setting.counts ∧ log.InOrder p.history ∧
    (¬log.Closed → p.history.ended = false →
      p.history.handed.flatten ++ p.session.cursor.buffer.getD [] = p.history.admitted) ∧
    (∀ pre post q, moves = pre ++ .start .close :: post → Comes reply setting pre q →
      p.session.requests = q.session.requests) ∧
    (log.Closed → p.Shut setting.counts log) ∧ log.Final := by
  have told := run.told
  have inTurn := told.recorded.inTurn
  have inOrder : log.InOrder p.history :=
    { turns := (List.pairwise_append.mp inTurn.ordered).1
      answers := inTurn.sublist
      batches := told.batches
      documents := told.courses.conserved.inOrder }
  exact ⟨told.recorded.orderly.oneAtATime told.courses, inOrder, told.kept,
    fun _ _ _ hs hq => run.requests_eq hs hq,
    fun closed => told.recorded.shut told.courses (told.finished closed), told.final⟩

/-- A call is given up while its batch is on the way, and a close is asked for while another call
waits for that batch. -/
theorem calls_serialised_around_close :
    ∃ p log, Logged (BatchReply.Place.first.reply 7 [item 1]) (plainSetting .unlimited)
        [.start (.iterate .next), .start (.iterate .next), .start (.iterate .hasNext), .abandon 1,
          .turn 2, .start .close, .start (.iterate .next),
          .deliver 2 (.reply (BatchReply.Place.next.reply 7 [item 2])), .turn 3,
          .deliver 3 (.reply []), .turn 4] p log ∧
      log.gained = [0, 1, 2, 3, 4] ∧
      log.answered = [(0, .batch [item 1]), (2, .more true), (3, .done),
        (4, .failed (.closed .iterator))] ∧
      p.session.commands.length = 3 ∧ p.OneAtATime ⟨1, 1⟩ ∧ p.Shut ⟨1, 1⟩ log := by
  obtain ⟨p, log, run, started, gained, answered, commands⟩ : ∃ p log, Logged
      (BatchReply.Place.first.reply 7 [item 1]) (plainSetting .unlimited)
      [.start (.iterate .next), .start (.iterate .next), .start (.iterate .hasNext), .abandon 1,
        .turn 2, .start .close, .start (.iterate .next),
        .deliver 2 (.reply (BatchReply.Place.next.reply 7 [item 2])), .turn 3,
        .deliver 3 (.reply []), .turn 4] p log ∧
      log.started[3]? = some .close ∧ log.gained = [0, 1, 2, 3, 4] ∧
      log.answered = [(0, .batch [item 1]), (2, .more true), (3, .done),
        (4, .failed (.closed .iterator))] ∧
      p.session.commands.length = 3 :=
    ⟨_, _, ⟨_, rfl, rfl, rfl⟩, rfl, rfl, rfl, rfl⟩
  obtain ⟨single, -, -, -, shut, -⟩ := calls_serialised run
  have closed : log.Closed := ⟨(3, .done), by simp [answered], started⟩
  exact ⟨p, log, run, gained, answered, commands, single, shut closed⟩

end Shared

end ResultCursor
