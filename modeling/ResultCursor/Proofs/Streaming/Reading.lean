import ResultCursor.Proofs.Streaming.Calls

/-! A shared cursor that somebody reads by a handle of its own, while others have handles too. The
reader calls for one batch after the other. Its handle goes when it gives the reading up, and with
it the call under way; it goes as well when a call breaks off. With the last handle the cursor is
dropped, where tasks can run. -/

namespace ResultCursor.Shared

structure Reading where
  play : Play
  /-- The number of handles that others have. -/
  others : Nat
  /-- The reader still has its handle. -/
  holds : Bool := true
  /-- The number of the reader's call, while one is under way. -/
  call : Option Nat := none
  /-- The answers to the reader's calls, the newest first. -/
  answers : List Answer := []

namespace Reading

inductive Move where
  /-- The reader makes its next call, or looks whether the turn has come to it. -/
  | poll
  /-- The connection comes to an outcome for the reader's call. -/
  | outcome (o : Outcome)
  /-- The reader's handle goes. -/
  | leave
  /-- A move that is not the reader's. -/
  | other (m : Shared.Move)
  /-- One of the others takes another handle. -/
  | clone
  /-- One of the others' handles goes. -/
  | quit

/-- The cursor is dropped if no handle is left. -/
def bury (s : Reading) : Reading :=
  if s.holds || 0 < s.others then s
  else { s with play := (s.play.act (.drop true)).getD s.play }

def letGo (s : Reading) : Reading := { s with holds := false, call := none }.bury

/-- The reader's call `i` makes a move, and is then answered, still under way, or broken off. -/
def drive (s : Reading) (i : Nat) (m : Shared.Move) : Option Reading :=
  (s.play.act m).map fun play =>
    match s.play.answer? m with
    | some (_, a) => { s with play, call := none, answers := a :: s.answers }
    | none =>
      if (play.calls.stage? i).isSome then { s with play, call := some i }
      else { s with play }.letGo

/-- What others can do: they have no hand in the reader's call, and call by handles of theirs. -/
def allows (s : Reading) : Shared.Move → Bool
  | .start _ => 0 < s.others
  | .turn i => s.call ≠ some i
  | .deliver i _ => s.call ≠ some i
  | .abandon i => s.call ≠ some i
  | .drop _ => false
  | _ => true

/-- Nobody but the reader has a call under way. -/
def isAlone (s : Reading) : Bool := s.play.calls.running.all fun e => s.call = some e.1

/-- The last of the others' handles does not go while a call is made by it. -/
def canQuit (s : Reading) : Bool := 0 < s.others && (1 < s.others || s.isAlone)

def act (s : Reading) : Move → Option Reading
  | .poll =>
    if s.holds then
      match s.call with
      | none => s.drive s.play.calls.fresh (.start (.iterate .next))
      | some i => s.drive i (.turn i)
    else none
  | .outcome o => s.call.bind fun i => s.drive i (.deliver i o)
  | .leave =>
    if s.holds then
      match s.call with
      | none => some s.letGo
      | some i => (s.play.act (.abandon i)).map fun play => { s with play }.letGo
    else none
  | .other m => if s.allows m then (s.play.act m).map fun play => { s with play } else none
  | .clone => if 0 < s.others then some { s with others := s.others + 1 } else none
  | .quit => if s.canQuit then some { s with others := s.others - 1 }.bury else none

variable {reply : Document} {setting : Setting} {before : List Shared.Move} {s t : Reading}
  {m : Shared.Move} {n : Move} {i : Nat} {q : Play}

@[simp] theorem bury_holds (s : Reading) : s.bury.holds = s.holds := by
  unfold bury
  split <;> rfl

@[simp] theorem bury_answers (s : Reading) : s.bury.answers = s.answers := by
  unfold bury
  split <;> rfl

@[simp] theorem letGo_holds (s : Reading) : s.letGo.holds = false := bury_holds _

@[simp] theorem letGo_answers (s : Reading) : s.letGo.answers = s.answers := bury_answers _

/-! ### What a move does -/

/-- What comes of a move by the reader's call. -/
inductive Driven (s : Reading) (i : Nat) (m : Shared.Move) : Reading → Prop where
  | answered {q : Play} {e : Nat × Answer} (made : s.play.act m = some q)
      (told : s.play.answer? m = some e) :
      Driven s i m { s with play := q, call := none, answers := e.2 :: s.answers }
  | waits {q : Play} (made : s.play.act m = some q) (going : (q.calls.stage? i).isSome = true) :
      Driven s i m { s with play := q, call := some i }
  | breaks {q : Play} (made : s.play.act m = some q) (ended : q.calls.stage? i = none) :
      Driven s i m ({ s with play := q } : Reading).letGo

theorem driven (made : s.drive i m = some t) : s.Driven i m t := by
  obtain ⟨q, moves, rfl⟩ := Option.map_eq_some_iff.mp made
  cases told : s.play.answer? m with
  | some e => exact .answered moves told
  | none =>
    dsimp only
    split
    · next going => exact .waits moves going
    · next ended => exact .breaks moves (by simpa using ended)

/-- What a possible move does, with what makes it possible. -/
inductive Acts (s : Reading) : Move → Reading → Prop where
  | begins {t : Reading} (holds : s.holds = true) (free : s.call = none)
      (driven : s.Driven s.play.calls.fresh (.start (.iterate .next)) t) : Acts s .poll t
  | looks {i : Nat} {t : Reading} (holds : s.holds = true) (calls : s.call = some i)
      (driven : s.Driven i (.turn i) t) : Acts s .poll t
  | hears {i : Nat} {o : Outcome} {t : Reading} (calls : s.call = some i)
      (driven : s.Driven i (.deliver i o) t) : Acts s (.outcome o) t
  | leaves (holds : s.holds = true) (free : s.call = none) : Acts s .leave s.letGo
  | givesUp {i : Nat} {q : Play} (holds : s.holds = true) (calls : s.call = some i)
      (made : s.play.act (.abandon i) = some q) :
      Acts s .leave ({ s with play := q } : Reading).letGo
  | other {m : Shared.Move} {q : Play} (allowed : s.allows m = true)
      (made : s.play.act m = some q) : Acts s (.other m) { s with play := q }
  | clone (left : 0 < s.others) : Acts s .clone { s with others := s.others + 1 }
  | quit (free : s.canQuit = true) : Acts s .quit ({ s with others := s.others - 1 } : Reading).bury

theorem acts (made : s.act n = some t) : s.Acts n t := by
  cases n with
  | poll =>
    obtain ⟨holds, made⟩ := Option.ite_none_right_eq_some.mp made
    split at made
    · next free => exact .begins holds free (driven made)
    · next i calls => exact .looks holds calls (driven made)
  | outcome o =>
    obtain ⟨i, calls, made⟩ := Option.bind_eq_some_iff.mp made
    exact .hears calls (driven made)
  | leave =>
    obtain ⟨holds, made⟩ := Option.ite_none_right_eq_some.mp made
    split at made
    · next free =>
      cases made
      exact .leaves holds free
    · next i calls =>
      obtain ⟨q, moves, rfl⟩ := Option.map_eq_some_iff.mp made
      exact .givesUp holds calls moves
  | other m =>
    obtain ⟨allowed, made⟩ := Option.ite_none_right_eq_some.mp made
    obtain ⟨q, moves, rfl⟩ := Option.map_eq_some_iff.mp made
    exact .other allowed moves
  | clone =>
    obtain ⟨left, made⟩ := Option.ite_none_right_eq_some.mp made
    cases made
    exact .clone left
  | quit =>
    obtain ⟨free, made⟩ := Option.ite_none_right_eq_some.mp made
    cases made
    exact .quit free

/-! ### What readings keep -/

/-- The cursor is in use, and the reader's call is one for the next batch. While others have no
handles there is no other call. -/
structure Live (reply : Document) (setting : Setting) (before : List Shared.Move) (s : Reading) :
    Prop where
  comes : ∃ moves, Comes reply setting (before ++ moves) s.play
  used : s.play.inUse = true
  mine : ∀ i, s.call = some i → s.holds = true ∧ (s.play.calls.stage? i).isSome = true ∧
    s.play.calls.At i (.iterate .next)
  alone : s.others = 0 → ∀ j, s.call ≠ some j → s.play.calls.stage? j = none

/-- The cursor was dropped, with no call under way, and this is what came of it. -/
def Buried (reply : Document) (setting : Setting) (before : List Shared.Move) (p : Play) : Prop :=
  ∃ (moves later : List Shared.Move) (q t : Play), Comes reply setting (before ++ moves) q ∧
    q.inUse = true ∧ q.calls.running = [] ∧ q.act (.drop true) = some t ∧
    later.foldlM Play.act t = some p

inductive Kept (reply : Document) (setting : Setting) (before : List Shared.Move) (s : Reading) :
    Prop where
  | live (left : s.holds = true ∨ 0 < s.others) (live : s.Live reply setting before)
  | gone (given : s.holds = false) (others : s.others = 0) (free : s.call = none)
      (buried : Buried reply setting before s.play)

theorem Live.bury (live : s.Live reply setting before) : s.bury.Kept reply setting before := by
  by_cases left : s.holds = true ∨ 0 < s.others
  · have same : s.bury = s := if_pos (by simpa using left)
    rw [same]
    exact .live left live
  · obtain ⟨given, others⟩ := not_or.mp left
    have given : s.holds = false := Bool.eq_false_iff.mpr given
    have others : s.others = 0 := Nat.eq_zero_of_not_pos others
    have free : s.call = none := by
      refine Option.eq_none_iff_forall_ne_some.mpr fun i calls => ?_
      cases given.symm.trans (live.mine i calls).1
    have idle : s.play.calls.running = [] :=
      Calls.running_eq_nil fun j => live.alone others j (by simp [free])
    obtain ⟨moves, run⟩ := live.comes
    obtain ⟨q, dropped⟩ : ∃ q, s.play.act (.drop true) = some q :=
      ⟨_, if_pos (by simp [live.used, idle])⟩
    have buried : s.bury = { s with play := q } := by
      simp [Reading.bury, given, others, dropped]
    rw [buried]
    exact .gone given others free ⟨moves, [], s.play, q, run, live.used, idle, dropped, rfl⟩

theorem Live.onward (live : s.Live reply setting before) (made : s.play.act m = some q)
    (kept : ∀ b, m ≠ .drop b) :
    (∃ moves, Comes reply setting (before ++ moves) q) ∧ q.inUse = true ∧
      Moved s.play.calls m q.calls := by
  obtain ⟨moves, run⟩ := live.comes
  obtain ⟨log, recorded⟩ := run.recorded
  refine ⟨⟨moves ++ [m], ?_⟩, act_inUse recorded live.used kept made, act_moved run.orderly made⟩
  rw [← List.append_assoc]
  exact run.onward made

/-- The reader starts a call, or the call under way goes on. -/
theorem Live.driven (live : s.Live reply setting before) (holds : s.holds = true)
    (calling : s.play.Calling i m) (own : ∀ j, s.call = some j → j = i)
    (driven : s.Driven i m t) : t.Kept reply setting before := by
  have subject := calling.subject
  have kept (b : Bool) : m ≠ .drop b := by
    rintro rfl
    cases subject
  have elsewhere {q : Play} (moved : Moved s.play.calls m q.calls) (none : s.others = 0) (j : Nat)
      (other : i ≠ j) : q.calls.stage? j = Option.none := by
    rw [moved.stage?_ne (by simpa [subject] using other)]
    exact live.alone none j fun calls => other (own j calls).symm
  have cleared {q : Play} (moved : Moved s.play.calls m q.calls) (ended : q.calls.stage? i = none)
      (none : s.others = 0) (j : Nat) : q.calls.stage? j = Option.none := by
    by_cases same : i = j
    · exact same ▸ ended
    · exact elsewhere moved none j same
  cases driven with
  | answered made told =>
    obtain ⟨comes, used, moved⟩ := live.onward made kept
    have ended := ((calling.drives made).2 _ told).2
    exact .live (.inl holds) ⟨comes, used, nofun, fun none j _ => cleared moved ended none j⟩
  | waits made going =>
    obtain ⟨comes, used, moved⟩ := live.onward made kept
    refine .live (.inl holds) ⟨comes, used, fun j calls => ?_, fun none j calls => ?_⟩
    · cases calls
      exact ⟨holds, going, (calling.drives made).1⟩
    · exact elsewhere moved none j fun same => calls (congrArg some same)
  | breaks made ended =>
    obtain ⟨comes, used, moved⟩ := live.onward made kept
    exact Live.bury ⟨comes, used, nofun, fun none j _ => cleared moved ended none j⟩

/-- What others do is not about the reader's call. -/
theorem Live.apart (live : s.Live reply setting before) (allowed : s.allows m = true)
    (calls : s.call = some i) : m.subject? s.play.calls.fresh ≠ some i := by
  cases m with
  | start r =>
    obtain ⟨moves, run⟩ := live.comes
    obtain ⟨stage, now⟩ := Option.isSome_iff_exists.mp (live.mine i calls).2.1
    have earlier : i < s.play.calls.fresh := run.orderly.calls.fresh _ (Calls.mem_of_stage? now)
    simpa [Move.subject?] using Nat.ne_of_gt earlier
  | turn j => exact fun same => of_decide_eq_true allowed (calls.trans same.symm)
  | deliver j o => exact fun same => of_decide_eq_true allowed (calls.trans same.symm)
  | abandon j => exact fun same => of_decide_eq_true allowed (calls.trans same.symm)
  | _ => nofun

theorem Live.other (live : s.Live reply setting before) (allowed : s.allows m = true)
    (made : s.play.act m = some q) :
    ({ s with play := q } : Reading).Live reply setting before := by
  obtain ⟨comes, used, moved⟩ := live.onward made fun b drop => by simp [drop, allows] at allowed
  refine ⟨comes, used, fun i calls => ?_, fun none j calls => ?_⟩
  · obtain ⟨holds, going, about⟩ := live.mine i calls
    have same := moved.stage?_ne (live.apart allowed calls)
    refine ⟨holds, ?_, fun stage now => about stage ?_⟩
    · rw [same]
      exact going
    · rwa [← same]
  · refine moved.vacant (live.alone none j calls) fun r start => ?_
    simp [start, allows, show s.others = 0 from none] at allowed

/-- The reader's handle goes once its call has been given up. -/
theorem Live.givesUp (live : s.Live reply setting before) (calls : s.call = some i)
    (made : s.play.act (.abandon i) = some q) :
    ({ s with play := q } : Reading).letGo.Kept reply setting before := by
  obtain ⟨comes, used, moved⟩ := live.onward made nofun
  refine Live.bury ⟨comes, used, nofun, fun none j _ => ?_⟩
  by_cases same : i = j
  · exact same ▸ act_abandon_stage? made
  · exact moved.vacant (live.alone none j (by simpa [calls] using same)) nofun

theorem Live.quit (live : s.Live reply setting before) (free : s.canQuit = true) :
    ({ s with others := s.others - 1 } : Reading).Live reply setting before := by
  refine ⟨live.comes, live.used, live.mine, fun none j calls => ?_⟩
  simp only [canQuit, Bool.and_eq_true, Bool.or_eq_true, decide_eq_true_eq] at free
  rcases free.2 with many | alone
  · exact absurd (show s.others - 1 = 0 from none) (by omega)
  · refine Option.eq_none_iff_forall_ne_some.mpr fun stage now => calls ?_
    simpa using List.all_eq_true.mp alone _ (Calls.mem_of_stage? now)

theorem Live.letGo (live : s.Live reply setting before) (free : s.call = none) :
    s.letGo.Kept reply setting before :=
  Live.bury ⟨live.comes, live.used, nofun, fun none j _ => live.alone none j (by simp [free])⟩

theorem Live.acts (live : s.Live reply setting before) (left : s.holds = true ∨ 0 < s.others)
    (acts : s.Acts n t) : t.Kept reply setting before := by
  cases acts with
  | begins holds free driven => exact live.driven holds .start (by simp [free]) driven
  | looks holds calls driven =>
    have about := (live.mine _ calls).2.2
    exact live.driven holds (.turn about) (by simp [calls, eq_comm]) driven
  | hears calls driven =>
    obtain ⟨holds, -, about⟩ := live.mine _ calls
    exact live.driven holds (.deliver about _) (by simp [calls, eq_comm]) driven
  | leaves holds free => exact live.letGo free
  | givesUp holds calls made => exact live.givesUp calls made
  | other allowed made => exact .live left (live.other allowed made)
  | clone some => exact .live (.inr (Nat.succ_pos _)) ⟨live.comes, live.used, live.mine, nofun⟩
  | quit free => exact (live.quit free).bury

theorem Buried.onward {p : Play} (buried : Buried reply setting before p)
    (made : p.act m = some q) : Buried reply setting before q := by
  obtain ⟨moves, later, r, t, run, used, idle, dropped, after⟩ := buried
  refine ⟨moves, later ++ [m], r, t, run, used, idle, dropped, ?_⟩
  rw [List.foldlM_append, after]
  simpa using made

theorem act_kept (kept : s.Kept reply setting before) (made : s.act n = some t) :
    t.Kept reply setting before := by
  have acts := acts made
  cases kept with
  | live left live => exact live.acts left acts
  | gone given others free buried =>
    -- without handles nothing is left to do but to clean up
    cases acts with
    | begins holds => cases given.symm.trans holds
    | looks holds => cases given.symm.trans holds
    | hears calls => cases free.symm.trans calls
    | leaves holds => cases given.symm.trans holds
    | givesUp holds => cases given.symm.trans holds
    | other allowed moves => exact .gone given others free (buried.onward moves)
    | clone left => exact absurd others (Nat.ne_of_gt left)
    | quit left => simp [canQuit, others] at left

/-! ### Answers -/

/-- A move brings the reader one answer at most, to a call of its own. -/
inductive Told (s t : Reading) : Prop where
  | nothing (same : t.answers = s.answers) (kept : t.holds = true → s.holds = true)
  | answer (a : Answer) (item : (a.isBatch || a.isFailure) = true)
      (more : t.answers = a :: s.answers) (held : s.holds = true) (holds : t.holds = true)
      (free : t.call = none)

theorem Driven.told (driven : s.Driven i m t) (holds : s.holds = true)
    (calling : s.play.Calling i m) : s.Told t := by
  cases driven with
  | answered made told =>
    exact .answer _ ((calling.drives made).2 _ told).1 rfl holds holds rfl
  | waits made going => exact .nothing rfl id
  | breaks made ended => exact .nothing (letGo_answers _) (by simp)

theorem act_told (kept : s.Kept reply setting before) (made : s.act n = some t) : s.Told t := by
  have acts := acts made
  have mine (i : Nat) (calls : s.call = some i) :
      s.holds = true ∧ s.play.calls.At i (.iterate .next) := by
    cases kept with
    | live left live => exact ⟨(live.mine i calls).1, (live.mine i calls).2.2⟩
    | gone given others free buried => cases free.symm.trans calls
  cases acts with
  | begins holds free driven => exact driven.told holds .start
  | looks holds calls driven => exact driven.told holds (.turn (mine _ calls).2)
  | hears calls driven => exact driven.told (mine _ calls).1 (.deliver (mine _ calls).2 _)
  | leaves holds free => exact .nothing (letGo_answers _) (by simp)
  | givesUp holds calls made => exact .nothing (letGo_answers _) (by simp)
  | other allowed made => exact .nothing rfl id
  | clone left => exact .nothing rfl id
  | quit free => exact .nothing (bury_answers _) (by simp)

end Reading

end ResultCursor.Shared
