import ResultCursor.Proofs.Course.Calls
import ResultCursor.Proofs.Course.Coherence

/-! The phases of a cursor and what the other fields say in each of them. A phase is left for a
later one and never comes back. Between calls the leases, the server's cursor, the buffer and the
flag of a request under way fit together, whatever the calls before came to. -/

namespace ResultCursor

open Relation

/-! ### Phases -/

/-- The moves of a phase: an active cursor is exhausted or closed, an exhausted one is closed. -/
inductive Phase.Move : Phase → Phase → Prop where
  | exhaust : Move .active .exhausted
  | closeActive : Move .active .closed
  | closeExhausted : Move .exhausted .closed

/-- A phase moves on, or stays. -/
abbrev Phase.LeadsTo : Phase → Phase → Prop := ReflGen Phase.Move

namespace Phase.LeadsTo

variable {p q r : Phase}

theorem of_eq (h : q = p) : p.LeadsTo q := by
  subst h
  exact .refl

theorem of_active (h : p = .active) : p.LeadsTo q := by
  subst h
  cases q with
  | active => exact .refl
  | exhausted => exact .single .exhaust
  | closed => exact .single .closeActive

theorem to_closed (h : q = .closed) : p.LeadsTo q := by
  subst h
  cases p with
  | active => exact .single .closeActive
  | exhausted => exact .single .closeExhausted
  | closed => exact .refl

theorem of_closed (h : Phase.closed.LeadsTo q) : q = .closed := by
  cases h with
  | refl => rfl
  | single later => cases later

theorem inactive (h : p.LeadsTo q) (hp : p ≠ .active) : q ≠ .active := by
  cases h with
  | refl => exact hp
  | single later => cases later <;> simp

/-- Two moves together are one: a second move can only close an exhausted cursor. -/
theorem trans (h : p.LeadsTo q) (h' : q.LeadsTo r) : p.LeadsTo r := by
  cases h with
  | refl => exact h'
  | single first =>
    cases h' with
    | refl => exact .single first
    | single second =>
      cases first with
      | exhaust =>
        cases second
        exact .single .closeActive
      | closeActive => cases second
      | closeExhausted => cases second

end Phase.LeadsTo

/-! ### The flag of a request under way -/

/-- Where the flag is known not to be set. It can be left over from a request that was given up
only while the server's cursor is there, or when a close is about to take it back. -/
def Control.Unflagged (s : Session) : Control → Prop
  | .idle => s.cursor.inFlight = true → s.cursor.remote.isSome
  | .calling _ => s.cursor.inFlight = true → s.cursor.remote.isSome
  | .waiting (.batch _) => True
  | .waiting (.kill _ _) => s.cursor.inFlight = false
  | .leaving after => after.isClosing = false → s.cursor.inFlight = false
  | .cleaning kill after => kill.isSome ∨ after.isClosing = false → s.cursor.inFlight = false
  | .resuming after => after.isClosing = false → s.cursor.inFlight = false

namespace Control.Unflagged

variable {s t : Session} {c : Control} {after : Aftermath}

theorem of_cursor (h : c.Unflagged s) (hc : t.cursor = s.cursor) : c.Unflagged t := by
  unfold Unflagged at h ⊢
  simpa only [hc] using h

theorem due (h : s.cursor.inFlight = false) : (Control.due s after).Unflagged s := by
  unfold Control.due
  split
  · exact fun _ => h
  · exact fun _ => h

end Control.Unflagged

theorem Aftermath.isClosing_of_returns {after : Aftermath} (h : after.returns = true) :
    after.isClosing = false := by
  cases after with
  | fetched call => rfl
  | failing call f => rfl
  | opened => cases h
  | closing a => cases h

namespace Session

variable {s t : Session}

/-- Whatever a request comes to, it is no longer under way. -/
theorem settleFetch_inFlight {result : Except Failure Document} {outcome : Except Failure Unit}
    (h : s.settleFetch result = (t, outcome)) : t.cursor.inFlight = false := by
  rcases settleFetch_cases h with ⟨r, n, -, -, rfl⟩ | ⟨f, n, -, -, -, rfl⟩ | ⟨f, n, -, -, -, rfl⟩
  all_goals rfl

theorem takeKill_inFlight : s.takeKill.1.cursor.inFlight = s.cursor.inFlight := by
  rw [takeKill_fst_cursor]

/-- No command is due while a request may be under way. -/
theorem inFlight_of_takeKill (h : s.takeKill.2.isSome) : s.cursor.inFlight = false := by
  rw [takeKill_snd, Cursor.takeKill_kill] at h
  split at h
  · cases h
  · next hc =>
    simp only [Bool.or_eq_true, not_or, Bool.not_eq_true] at hc
    exact hc.2

end Session

namespace Situation

variable {R : Rules} {S T : Situation} {reply : Document} {setting : Setting}

theorem Step.phase (step : Step R S T) (hS : S.Coherent) :
    S.session.cursor.phase.LeadsTo T.session.cursor.phase := by
  cases step with
  | enter call isOpen => exact .of_eq (by simp)
  | @finish s call h settled =>
    apply Phase.LeadsTo.of_eq
    rcases s.finish_cases call with ⟨batch, -, hf⟩ | ⟨a, hf, -⟩
    all_goals rw [hf]
  | ask needed sent =>
    obtain ⟨-, remote, left, -, -, -, rfl⟩ := Session.beginFetch_ok sent
    exact .refl
  | refuse allowed needed refused settled =>
    have active := (Session.isSettled_eq_false_iff.mp needed).2.1
    exact .of_active active
  | settle result settled =>
    have active := hS.fits.active hS.fits.remote
    exact .of_active active
  | takeKill => exact .of_eq (by simp [Session.takeKill_fst_cursor])
  | spare clean => exact .of_eq (by simp [Session.cleanUp_cursor clean])
  | sendKill clean => exact .of_eq (by simp [Session.cleanUp_cursor clean])
  | settleKill result => exact .of_eq (by simp)
  | breakKill => exact .of_eq (by simp)
  | @content s h =>
    apply Phase.LeadsTo.of_eq
    rcases s.finish_cases .tryNext with ⟨batch, -, hf⟩ | ⟨a, hf, -⟩
    all_goals rw [hf]
  | shut => exact .to_closed rfl
  | dropAndLeave => exact .to_closed rfl
  | forsake => exact .of_eq (by simp)
  | bury ended returned => exact .to_closed rfl
  | _ => exact .refl

theorem Course.phase (course : Course R S T) (hS : S.Coherent) :
    S.session.cursor.phase.LeadsTo T.session.cursor.phase := by
  induction course with
  | refl => exact .refl
  | tail course step ih => exact ih.trans (step.phase (Course.coherent course hS))

theorem Step.unflagged (step : Step R S T) (hS : S.Coherent) (h : S.control.Unflagged S.session) :
    T.control.Unflagged T.session := by
  cases step with
  | adjust deadline clock => exact h.of_cursor rfl
  | note n => exact h.of_cursor rfl
  | setBatchSize n => exact h
  | inspect => exact h
  | enter call isOpen =>
    intro hi
    rw [Session.beginCall_cursor] at hi ⊢
    exact h hi
  | stay closed ha => exact h
  | @finish s call h' settled =>
    rcases s.finish_cases call with ⟨batch, -, hf⟩ | ⟨a, hf, -⟩
    all_goals
      rw [hf]
      exact h
  | halt halt => exact h
  | ask needed sent => trivial
  | refuse allowed needed refused settled => exact .due (Session.settleFetch_inFlight settled)
  | settle result settled => exact .due (Session.settleFetch_inFlight settled)
  | lose => exact fun _ => hS.fits.remote
  | takeKill =>
    intro hk
    exact Session.takeKill_inFlight.trans (hk.elim Session.inFlight_of_takeKill h)
  | spare clean =>
    intro hc
    rw [Session.cleanUp_cursor clean]
    exact h (.inr hc)
  | sendKill clean =>
    obtain ⟨-, command, rfl, -⟩ := Session.cleanUp_killing clean
    simp only [Control.Unflagged, Session.cleanUp_cursor clean]
    exact h (.inl rfl)
  | settleKill result =>
    intro hc
    rw [Session.settleKill_cursor]
    exact h
  | breakKill =>
    intro hi
    rw [Session.breakKill_cursor] at hi
    cases h.symm.trans hi
  | opened => exact fun hi => by cases (h rfl).symm.trans hi
  | again more => exact fun hi => by cases (h rfl).symm.trans hi
  | @content s h' =>
    have unset : s.cursor.inFlight = false := h rfl
    intro hi
    rcases s.finish_cases .tryNext with ⟨batch, -, hf⟩ | ⟨a, hf, -⟩
    all_goals
      rw [hf] at hi
      cases unset.symm.trans hi
  | fail => exact fun hi => by cases (h rfl).symm.trans hi
  | relent returns =>
    have unset := h (Aftermath.isClosing_of_returns returns)
    exact fun hi => by cases unset.symm.trans hi
  | shut => exact fun hi => by cases hi
  | close ha => exact fun hc => by cases hc
  | retire finished => exact h
  | dropAndClose => exact fun hc => by cases hc
  | dropAndLeave => exact fun _ => rfl
  | forsake =>
    intro hi
    rw [Session.giveBack_cursor] at hi
    cases (h (.inr rfl)).symm.trans hi
  | bury ended returned => exact fun hi => by cases hi

theorem Courses.unflagged (hS : Courses reply setting S) : S.control.Unflagged S.session := by
  refine hS.induction (fun s hs => ?_) fun S T hC h step => step.unflagged hC.coherent h
  obtain ⟨first, n, -, hc, -⟩ := Session.ofReply_ok hs
  have unset : s.cursor.inFlight = false := by
    rw [hc]
    rfl
  exact .due unset

end Situation

/-! ### Between calls -/

/-- What a session looks like while no call is under way. -/
structure Session.Sound (s : Session) : Prop where
  lent : s.leased = true ↔ s.cursor.remote.isSome
  active : s.cursor.remote.isSome → s.cursor.phase = .active
  named : ∀ remote, s.cursor.remote = some remote → remote.id ≠ 0
  filled : s.cursor.buffer ≠ some []
  emptied : s.cursor.phase = .closed →
    s.cursor.buffer = none ∧ s.cursor.remote = none ∧ s.cursor.available = 0
  flagged : s.cursor.inFlight = true → s.cursor.remote.isSome

theorem Situation.Courses.sound {reply : Document} {setting : Setting} {S : Situation}
    (hS : Courses reply setting S) (idle : S.control = .idle) : S.session.Sound := by
  have coherent := hS.coherent
  have settled := hS.settled idle
  have flag := hS.unflagged
  rw [idle] at flag
  refine
    { lent := ?_
      active := settled.active
      named := fun remote _ => remote.id_ne_zero
      filled := coherent.filled
      emptied := fun closed => ?_
      flagged := flag }
  · rw [settled.leased]
  · have gone : S.session.cursor.remote = none := by
      apply settled.remote_eq_none
      simp [closed]
    exact ⟨coherent.emptied closed, gone, by simp [Cursor.available, closed]⟩

theorem Blocking.Comes.phase {reply : Document} {setting : Setting} {moves later : List Move}
    {p q : Play} (run : Comes reply setting moves p)
    (whole : Comes reply setting (moves ++ later) q) :
    p.session.cursor.phase.LeadsTo q.session.cursor.phase := by
  have coherent := run.courses.coherent
  obtain ⟨p₀, hs, hp⟩ := run
  obtain ⟨q₀, hq₀, hq⟩ := whole
  cases hs.symm.trans hq₀
  rw [List.foldlM_append, hp] at hq
  exact Situation.Course.phase (run_course hq) coherent

theorem Shared.Comes.phase {reply : Document} {setting : Setting} {moves later : List Move}
    {p q : Play} (run : Comes reply setting moves p)
    (whole : Comes reply setting (moves ++ later) q) :
    p.session.cursor.phase.LeadsTo q.session.cursor.phase := by
  have coherent := run.courses.coherent
  have orderly := run.orderly
  obtain ⟨p₀, hs, hp⟩ := run
  obtain ⟨q₀, hq₀, hq⟩ := whole
  cases hs.symm.trans hq₀
  rw [List.foldlM_append, hp] at hq
  exact Situation.Course.phase (run_course orderly hq) coherent

/-- Between any two points of a run of either kind of cursor the phase stays or moves on. Between
calls the leases are held exactly for a server's cursor, which only an active cursor has and whose
number is not zero; no buffer is empty; a closed cursor has nothing; and a request can be marked as
under way only while the server's cursor is there. -/
theorem phase_moves_on (reply : Document) (setting : Setting) :
    (∀ moves later p q, Blocking.Comes reply setting moves p →
      Blocking.Comes reply setting (moves ++ later) q →
      p.session.cursor.phase.LeadsTo q.session.cursor.phase) ∧
    (∀ moves later p q, Shared.Comes reply setting moves p →
      Shared.Comes reply setting (moves ++ later) q →
      p.session.cursor.phase.LeadsTo q.session.cursor.phase) ∧
    ∀ S, Situation.Reached reply setting S → S.control = .idle → S.session.Sound := by
  refine ⟨?_, ?_, ?_⟩
  · intro moves later p q run whole
    exact run.phase whole
  · intro moves later p q run whole
    exact run.phase whole
  · intro S hS idle
    exact hS.courses.sound idle

/-- A request is given up and leaves its flag behind. A close that is given up in its turn leaves
an active cursor without a server's cursor, and the next one closes it. -/
theorem phase_moves_on_after_abandon :
    ∃ p q r, Shared.Comes (BatchReply.Place.first.reply 7 [item 1]) (plainSetting .unlimited)
        [.start (.iterate .next), .start (.iterate .next), .abandon 1] p ∧
      p.session.cursor.inFlight = true ∧ p.session.cursor.remote.isSome ∧
      Shared.Comes (BatchReply.Place.first.reply 7 [item 1]) (plainSetting .unlimited)
        [.start .close, .abandon 0] q ∧
      q.session.cursor.phase = .active ∧ q.session.cursor.remote = none ∧
      q.session.cursor.inFlight = false ∧
      Shared.Comes (BatchReply.Place.first.reply 7 [item 1]) (plainSetting .unlimited)
        ([.start .close, .abandon 0] ++ [.start .close]) r ∧
      q.session.cursor.phase.LeadsTo r.session.cursor.phase ∧
      r.session.cursor.available = 0 := by
  have flagged : Shared.Comes (BatchReply.Place.first.reply 7 [item 1]) (plainSetting .unlimited)
      [.start (.iterate .next), .start (.iterate .next), .abandon 1] _ :=
    ⟨_, rfl, rfl⟩
  have halfClosed : Shared.Comes (BatchReply.Place.first.reply 7 [item 1])
      (plainSetting .unlimited) [.start .close, .abandon 0] _ :=
    ⟨_, rfl, rfl⟩
  have closed : Shared.Comes (BatchReply.Place.first.reply 7 [item 1]) (plainSetting .unlimited)
      ([.start .close, .abandon 0] ++ [.start .close]) _ :=
    ⟨_, rfl, rfl⟩
  obtain ⟨-, moves, sound⟩ := phase_moves_on (BatchReply.Place.first.reply 7 [item 1])
    (plainSetting .unlimited)
  have remote := (sound _ (.shared flagged) rfl).flagged rfl
  have emptied := (sound _ (.shared closed) rfl).emptied rfl
  exact ⟨_, _, _, flagged, rfl, remote, halfClosed, rfl, rfl, rfl, closed,
    moves _ _ _ _ halfClosed closed, emptied.2.2⟩

end ResultCursor
