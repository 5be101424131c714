import ResultCursor.Proofs.Agreement.Kinds
import ResultCursor.Proofs.Disposal.Ways

/-! Closing and dropping are the same to the world. In every state that a run can leave a cursor
in, any number of closes, a drop, or both send the same command if any, give the leases back once
and leave the override alone; after a close that returned the cursor is closed, and after any close
nothing is sent again. -/

namespace ResultCursor

namespace Session

variable {s t : Session} {stop : Option Bool} {saved : Option Span} {n : Note}

theorem Disposed.of_note (h : Disposed stop (s.note n) t) : Disposed stop s t where
  sendings := by
    rw [h.sendings, (note_quietly n).sendings]
    rfl
  lending := by rw [h.lending, note_lending]
  override := h.override
  gone := h.gone

theorem Ending.of_note (h : Ending stop saved (s.note n) t) : Ending stop saved s t where
  sendings := by
    rw [h.sendings, (note_quietly n).sendings]
    rfl
  lending := by rw [h.lending, note_lending]
  saved := h.saved
  gone := h.gone

end Session

/-! ### Blocking cursors -/

namespace Blocking

variable {b : Blocking} {h : History} {s : Session} {before : List Answer} {ended : Bool}
  {p q : Play}

def disposal : Disposal Play Move where
  act := Play.act
  close := .request .close
  drop := .drop
  goes _ m := ∃ o, m = .outcome o
  rests p := p.wait = none
  free p := p.isFree = true
  session p := p.session
  answers p := p.history.answers

/-- A blocking cursor on its way from the session `s` and the answers before, while somebody is
being done with it. -/
inductive Play.Disposing (s : Session) (before : List Answer) (ended : Bool) : Play → Prop where
  | done {b : Blocking} {h : History} (disposed : Session.Disposed (some false) s b.session)
      (told : h.answers = before ++ [.done] → b.session.cursor.phase = .closed)
      (use : h.ended = ended) : Disposing s before ended ⟨b, none, h⟩
  | closing {b : Blocking} {h : History} {saved : Option Span}
      (ending : Session.Ending (some false) saved s b.session)
      (untold : h.answers = before) (use : h.ended = ended) :
      Disposing s before ended ⟨b, some (.kill saved (.closing .done)), h⟩

theorem closeWith_disposing (settled : b.session.Settled) :
    (Play.follow h (b.closeWith .done)).Disposing b.session h.answers h.ended := by
  unfold closeWith
  split
  · next finished =>
    have spent := settled.spent_of_finished finished
    exact .done (spent.disposed spent.loosed) (fun _ => (Session.isFinished_iff.mp finished).1) rfl
  · have loosed := b.session.takeKill_loosed
    unfold afterCleanup
    rw [Session.beginRelease_eq]
    split
    · next t clean => exact .done (loosed.finished settled clean).finishClose (fun _ => rfl) rfl
    · next t sending saved clean => exact .closing (loosed.killing clean) rfl rfl

theorem drop_disposing (settled : b.session.Settled) :
    (Play.follow h b.drop).Disposing b.session h.answers h.ended := by
  unfold drop
  split
  · next finished =>
    have spent := settled.spent_of_finished finished
    exact .done (spent.disposed spent.loosed) (fun _ => (Session.isFinished_iff.mp finished).1) rfl
  · have noted : (b.session.note dropNote).Settled := settled.of_eq rfl rfl
    have disposing := closeWith_disposing (b := { b with session := b.session.note dropNote })
      (h := h) noted
    generalize Play.follow h _ = q at disposing ⊢
    cases disposing with
    | done disposed told use => exact .done disposed.of_note told use
    | closing ending untold use => exact .closing ending.of_note untold use

/-- The outcome of the last command, whatever it is, leaves nothing to do. -/
theorem goes_disposing {m : Move} (disposing : p.Disposing s before ended)
    (goes : disposal.goes p m) (hm : p.act m = some q) : q.Disposing s before ended := by
  obtain ⟨o, rfl⟩ := goes
  cases disposing with
  | done disposed told use => cases hm
  | @closing b h saved ending untold use =>
    cases hm
    cases o with
    | reply d => exact .done (ending.settle (.ok d)).finishClose (fun _ => rfl) use
    | failure f => exact .done (ending.settle (.error f)).finishClose (fun _ => rfl) use
    | crash text =>
      refine .done ending.breakOff (fun told => ?_) ?_
      · have same : before = before ++ [.done] := untold.symm.trans told
        simp at same
      · rw [← use]
        exact Bool.or_false _

theorem Play.free_iff : p.isFree = true ↔ p.wait = none ∧ p.history.ended = false := by
  simp [isFree]

/-- A free cursor whose session is settled; that is what a close leaves as well. -/
structure Play.Ready (p : Play) : Prop where
  free : p.isFree = true
  settled : p.session.Settled

theorem Play.Disposing.rest (disposing : p.Disposing s before false) (rests : p.wait = none) :
    p.Ready ∧ Session.Disposed (some false) s p.session ∧
      (p.history.answers = before ++ [.done] → p.session.cursor.phase = .closed) := by
  cases disposing with
  | done disposed told use =>
    exact ⟨⟨Play.free_iff.mpr ⟨rfl, use⟩, disposed.spent.settled⟩, disposed, told⟩
  | closing ending untold use => cases rests

/-- What is waited for can always come. -/
theorem Play.Disposing.comes (disposing : p.Disposing s before ended) :
    ∃ q, disposal.ComesToRest p q := by
  cases disposing with
  | done disposed told use => exact ⟨_, .rests rfl⟩
  | closing ending untold use =>
    refine ⟨_, .goes ⟨.reply [], rfl⟩ rfl (.rests ?_)⟩
    rfl

theorem disposal_lawful : disposal.Lawful (some false) Play.Ready := by
  have closing (p : Play) (ready : p.Ready) :
      ∃ q, p.act (.request .close) = some q ∧
        q.Disposing p.session p.history.answers p.history.ended :=
    ⟨_, if_pos ready.free, closeWith_disposing ready.settled⟩
  have dropping (p : Play) (ready : p.Ready) :
      ∃ q, p.act .drop = some q ∧ q.Disposing p.session p.history.answers true :=
    ⟨_, if_pos ready.free, drop_disposing (h := p.history.retire) ready.settled⟩
  refine ⟨?_, ?_, ?_, ?_⟩
  · intro p ready
    obtain ⟨q, made, disposing⟩ := closing p ready
    obtain ⟨r, rest⟩ := disposing.comes
    exact ⟨r, q, made, rest⟩
  · intro p ready
    obtain ⟨q, made, disposing⟩ := dropping p ready
    obtain ⟨r, rest⟩ := disposing.comes
    exact ⟨r, q, made, rest⟩
  · intro p r ready taken
    obtain ⟨q, made, first⟩ := closing p ready
    obtain ⟨disposing, rests⟩ := taken.induction
      (P := Play.Disposing p.session p.history.answers p.history.ended)
      (fun u made' => Option.some.inj (made.symm.trans made') ▸ first)
      (fun _ _ _ => goes_disposing)
    rw [(Play.free_iff.mp ready.free).2] at disposing
    exact disposing.rest rests
  · intro p r ready taken
    obtain ⟨q, made, first⟩ := dropping p ready
    obtain ⟨disposing, rests⟩ := taken.induction
      (P := Play.Disposing p.session p.history.answers true)
      (fun u made' => Option.some.inj (made.symm.trans made') ▸ first)
      (fun _ _ _ => goes_disposing)
    cases disposing with
    | done disposed told use => exact disposed
    | closing ending untold use => cases rests

end Blocking

/-! ### Shared cursors -/

namespace Shared

variable {c : Shared} {h : History} {n i : Nat} {s : Session} {before : List Answer} {ended : Bool}
  {p q : Play}

/-- What was started goes on, or is given up. The task that the last handle leaves behind may break
off, but it begins. -/
def Play.Goes (p : Play) : Move → Prop
  | .deliver .. => True
  | .abandon _ => True
  | .cleanUp => True
  | .outcome _ => True
  | .giveUp => p.wait.isSome = true
  | _ => False

/-- Tasks can run. -/
def disposal : Disposal Play Move where
  act := Play.act
  close := .start .close
  drop := .drop true
  goes := Play.Goes
  rests p := p.wait = none ∧ p.task = none ∧ p.calls.running = []
  free p := p.inUse = true ∧ p.calls.running = []
  session p := p.session
  answers p := p.history.answers

/-- A shared cursor that is in use, and no call is under way or in line. -/
inductive Play.Ready : Play → Prop where
  | intro {c : Shared} {n : Nat} {h : History} (used : h.ended = false)
      (settled : c.session.Settled) : Ready ⟨⟨c, {}, [], n⟩, none, none, h⟩

/-- A shared cursor on its way from the session `s` and the answers before, while somebody is being
done with it. -/
inductive Play.Disposing (s : Session) (before : List Answer) (ended : Bool) : Play → Prop where
  | done {c : Shared} {n : Nat} {h : History} (disposed : Session.Disposed none s c.session)
      (told : h.answers = before ++ [.done] → c.session.cursor.phase = .closed)
      (use : h.ended = ended) : Disposing s before ended ⟨⟨c, {}, [], n⟩, none, none, h⟩
  | closing {c : Shared} {n i : Nat} {h : History} {saved : Option Span}
      (ending : Session.Ending none saved s c.session) (untold : h.answers = before)
      (use : h.ended = ended) :
      Disposing s before ended
        ⟨⟨c, ⟨some i, []⟩, [(i, .waiting (.kill saved (.closing .done)))], n⟩, none, none, h⟩
  | due {c : Shared} {n : Nat} {h : History} (settled : s.Settled) (loosed : s.Loosed c.session)
      (closed : c.session.cursor.phase = .closed) (use : h.ended = ended) (out : ended = true) :
      Disposing s before ended ⟨⟨c, {}, [], n⟩, none, some s.takeKill.2, h⟩
  | cleaning {c : Shared} {n : Nat} {h : History} {saved : Option Span}
      (ending : Session.Ending none saved s c.session)
      (closed : c.session.cursor.phase = .closed) (use : h.ended = ended) (out : ended = true) :
      Disposing s before ended ⟨⟨c, {}, [], n⟩, some (.kill saved .opened), none, h⟩

theorem close_disposing (settled : c.session.Settled) :
    Play.Disposing c.session h.answers h.ended
      ⟨(Calls.alone i n c.close).1, none, none, h.note (Calls.alone i n c.close).2⟩ := by
  unfold close
  split
  · next finished =>
    have spent := settled.spent_of_finished finished
    exact .done (spent.disposed spent.loosed) (fun _ => (Session.isFinished_iff.mp finished).1) rfl
  · have loosed := c.session.takeKill_loosed
    unfold afterCleanup
    rw [Session.beginRelease_eq]
    split
    · next t clean => exact .done (loosed.finished settled clean).finishClose (fun _ => rfl) rfl
    · next t sending saved clean => exact .closing (loosed.killing clean) rfl rfl

theorem drop_disposing (settled : c.session.Settled) (out : h.ended = true) :
    Play.Disposing c.session before true
      ⟨⟨(c.drop true).1, {}, [], n⟩, none, (c.drop true).2.task?, h⟩ := by
  unfold drop
  split
  · next finished =>
    have spent := settled.spent_of_finished finished
    exact .done (spent.disposed spent.loosed) (fun _ => (Session.isFinished_iff.mp finished).1) out
  · have loosed := (c.session.note dropNote).takeKill_loosed.of_note.close
    dsimp only
    split
    · next hl =>
      have returned : c.session.leased = false := by
        rw [← loosed.leased]
        simpa using hl
      have spent := settled.spent_of_not_leased returned
      exact .done (spent.disposed loosed) (fun _ => rfl) out
    · exact .due settled loosed rfl out rfl

/-- The task that the last handle left behind begins. -/
theorem cleanUp_disposing (settled : s.Settled) (loosed : s.Loosed c.session)
    (closed : c.session.cursor.phase = .closed) (use : h.ended = ended) (out : ended = true) :
    Play.Disposing s before ended
      (Play.goOn ⟨⟨c, {}, [], n⟩, none, some s.takeKill.2, h⟩ h (c.cleanUp s.takeKill.2)) := by
  unfold cleanUp
  split
  · next t clean =>
    have still : t.cursor.phase = .closed := by rw [Session.cleanUp_cursor clean, closed]
    exact .done (loosed.finished settled clean) (fun _ => still) use
  · next t sending saved clean =>
    have still : t.cursor.phase = .closed := by rw [Session.cleanUp_cursor clean, closed]
    exact .cleaning (loosed.killing clean) still use out

theorem brokenOff_disposing {saved : Option Span}
    (ending : Session.Ending none saved s c.session) (untold : h.answers = before)
    (use : h.ended = ended) :
    Play.Disposing s before ended
      ⟨⟨c.abandon (.kill saved (.closing .done)), {}, [], n⟩, none, none,
        h.breakOff (.closing .done)⟩ := by
  refine .done ending.breakOff (fun told => ?_) ?_
  · have same : before = before ++ [.done] := untold.symm.trans told
    simp at same
  · rw [← use]
    exact Bool.or_false _

/-- The answer to a close's command, or the lack of one, ends the close. -/
theorem resume_disposing {saved : Option Span} (ending : Session.Ending none saved s c.session)
    (untold : h.answers = before) (use : h.ended = ended) (q : Quota) (o : Outcome) :
    Play.Disposing s before ended
      ⟨(Calls.alone i n (c.resume (.kill saved (.closing .done)) o)).1, none, none,
        (h.hear q (.kill saved (.closing .done)) o).note
          (Calls.alone i n (c.resume (.kill saved (.closing .done)) o)).2⟩ := by
  cases o with
  | reply d => exact .done (ending.settle (.ok d)).finishClose (fun _ => rfl) use
  | failure f => exact .done (ending.settle (.error f)).finishClose (fun _ => rfl) use
  | crash text => exact brokenOff_disposing ending untold use

theorem drop_of_finished (finished : c.session.isFinished = true) (tasksRun : Bool) :
    c.drop tasksRun = (c, .finished) := if_pos finished

/-- The clean-up of a closed cursor that breaks off leaves nothing for another drop. -/
theorem abandon_finished {saved : Option Span} {after : Aftermath}
    (closed : c.session.cursor.phase = .closed) :
    (c.abandon (.kill saved after)).session.isFinished = true :=
  Session.isFinished_iff.mpr
    ⟨(congrArg Cursor.phase (Session.breakKill_cursor saved)).trans closed,
      Session.breakKill_leased saved⟩

/-- So does the task of the last handle end. -/
theorem outcome_disposing {saved : Option Span} (ending : Session.Ending none saved s c.session)
    (closed : c.session.cursor.phase = .closed) (use : h.ended = true) (q : Quota) (o : Outcome) :
    Play.Disposing s before true
      (Play.goOn ⟨⟨c, {}, [], n⟩, some (.kill saved .opened), none, h⟩
        (h.hear q (.kill saved .opened) o) (c.resume (.kill saved .opened) o)) := by
  have still (result : Except Failure Document) :
      ((c.session.deliver result).settleKill saved result).cursor.phase = .closed := by
    rw [Session.settleKill_cursor, Session.deliver_cursor, closed]
  cases o with
  | reply d => exact .done (ending.settle (.ok d)) (fun _ => still (.ok d)) use
  | failure f => exact .done (ending.settle (.error f)) (fun _ => still (.error f)) use
  | crash text =>
    have finished : (c.abandon (.kill saved .opened)).session.isFinished = true :=
      abandon_finished closed
    have dropped : c.resume (.kill saved .opened) (.crash text) =
        (c.abandon (.kill saved .opened), .crashed text) := by
      rw [resume, crash, drop_of_finished finished]
    rw [dropped]
    exact .done ending.breakOff (fun _ => (Session.isFinished_iff.mp finished).1)
      (Bool.or_true _)

/-- A close that waits is the only call. -/
theorem closing_stage {saved : Option Span} {j : Nat} {stage : Stage}
    (waits : Calls.stage? ⟨c, ⟨some i, []⟩, [(i, .waiting (.kill saved (.closing .done)))], n⟩ j =
      some stage) : j = i ∧ stage = .waiting (.kill saved (.closing .done)) := by
  have only := Calls.mem_of_stage? waits
  simpa using only

theorem goes_disposing {m : Move} (disposing : p.Disposing s before ended) (goes : p.Goes m)
    (hm : p.act m = some q) : q.Disposing s before ended := by
  cases Play.acts hm with
  | start r used => cases goes
  | turn i used => cases goes
  | adjust deadline clock => cases goes
  | drop tasksRun used alone => cases goes
  | deliver o waits =>
    cases disposing with
    | closing ending untold use =>
      obtain ⟨rfl, only⟩ := closing_stage waits
      cases only
      simp only [Play.follow, Calls.deliver_alone]
      exact resume_disposing ending untold use _ o
    | done disposed told use => cases waits
    | due settled loosed closed use out => cases waits
    | cleaning ending closed use out => cases waits
  | @abandon j wait waits =>
    cases disposing with
    | closing ending untold use =>
      obtain ⟨rfl, only⟩ := closing_stage waits
      cases only
      simp only [Calls.abandon_alone]
      exact brokenOff_disposing ending untold use
    | done disposed told use => cases waits
    | due settled loosed closed use out => cases waits
    | cleaning ending closed use out => cases waits
  | leaveLine inLine =>
    cases disposing with
    | closing ending untold use => cases (closing_stage inLine).2
    | done disposed told use => cases inLine
    | due settled loosed closed use out => cases inLine
    | cleaning ending closed use out => cases inLine
  | cleanUp due =>
    cases disposing with
    | due settled loosed closed use out =>
      cases due
      exact cleanUp_disposing settled loosed closed use out
    | done disposed told use => cases due
    | closing ending untold use => cases due
    | cleaning ending closed use out => cases due
  | outcome o waits =>
    cases disposing with
    | cleaning ending closed use out =>
      cases waits
      subst out
      exact outcome_disposing ending closed use _ o
    | done disposed told use => cases waits
    | closing ending untold use => cases waits
    | due settled loosed closed use out => cases waits
  | giveUp waits =>
    cases disposing with
    | @cleaning c n h saved ending closed use out =>
      cases waits
      subst out
      have finished : (c.abandon (.kill saved .opened)).session.isFinished = true :=
        abandon_finished closed
      simp only [Play.givenUp, use, if_true]
      exact .done ending.breakOff (fun _ => (Session.isFinished_iff.mp finished).1)
        (Bool.or_true _)
    | done disposed told use => cases waits
    | closing ending untold use => cases waits
    | due settled loosed closed use out => cases waits
  | discard rests due =>
    have waiting : p.wait.isSome = true := goes
    simp [rests] at waiting

/-- At rest everything was done. A cursor that is in use can be closed again. -/
theorem Play.Disposing.rest (disposing : p.Disposing s before ended)
    (rests : disposal.rests p) :
    (ended = false → p.Ready) ∧ Session.Disposed none s p.session ∧
      (p.history.answers = before ++ [.done] → p.session.cursor.phase = .closed) := by
  obtain ⟨waits, due, alone⟩ := rests
  cases disposing with
  | done disposed told use =>
    exact ⟨fun used => .intro (use.trans used) disposed.spent.settled, disposed, told⟩
  | closing ending untold use => cases alone
  | due settled loosed closed use out => cases due
  | cleaning ending closed use out => cases waits

/-- An opening or a clean-up can always come to its end. -/
theorem comes_of_wait {wait : Option Wait}
    (opened : ∀ w, wait = some w → ∃ saved, w = .kill saved .opened) :
    ∃ q, disposal.ComesToRest ⟨⟨c, {}, [], n⟩, wait, none, h⟩ q := by
  cases wait with
  | none => exact ⟨_, .rests ⟨rfl, rfl, rfl⟩⟩
  | some wait =>
    obtain ⟨saved, rfl⟩ := opened wait rfl
    refine ⟨_, .goes (m := .outcome (.reply [])) trivial rfl (.rests ?_)⟩
    exact ⟨rfl, rfl, rfl⟩

/-- What is waited for can always come, and a task that is due can begin. -/
theorem Play.Disposing.comes (disposing : p.Disposing s before ended) :
    ∃ q, disposal.ComesToRest p q := by
  cases disposing with
  | done disposed told use => exact ⟨_, .rests ⟨rfl, rfl, rfl⟩⟩
  | @closing c n i h saved ending untold use =>
    refine ⟨_, .goes (m := .deliver i (.reply [])) trivial (Play.act_deliver_alone _ _) (.rests ?_)⟩
    exact ⟨rfl, rfl, rfl⟩
  | due settled loosed closed use out =>
    obtain ⟨q, rest⟩ := comes_of_wait fun w waits => cleanUp_wait waits
    exact ⟨q, .goes (m := .cleanUp) trivial rfl rest⟩
  | cleaning ending closed use out =>
    refine comes_of_wait fun w waits => ?_
    cases waits
    exact ⟨_, rfl⟩

theorem disposal_lawful : disposal.Lawful none Play.Ready := by
  have closing (p : Play) (ready : p.Ready) :
      ∃ q, p.act (.start .close) = some q ∧ q.Disposing p.session p.history.answers false := by
    cases ready with
    | @intro c n h used settled =>
      have disposing := close_disposing (c := c.requestClose) (h := h) (i := n) (n := n + 1) settled
      rw [used] at disposing
      exact ⟨_, Play.act_start_alone used .close, disposing⟩
  have dropping (p : Play) (ready : p.Ready) :
      ∃ q, p.act (.drop true) = some q ∧ q.Disposing p.session p.history.answers true := by
    obtain ⟨used, settled⟩ := ready
    refine ⟨_, if_pos (by simp [Play.inUse, used]), ?_⟩
    exact drop_disposing settled rfl
  refine ⟨?_, ?_, ?_, ?_⟩
  · intro p ready
    obtain ⟨q, made, disposing⟩ := closing p ready
    obtain ⟨r, rest⟩ := disposing.comes
    exact ⟨r, q, made, rest⟩
  · intro p ready
    obtain ⟨q, made, disposing⟩ := dropping p ready
    obtain ⟨r, rest⟩ := disposing.comes
    exact ⟨r, q, made, rest⟩
  · intro p r ready taken
    obtain ⟨q, made, first⟩ := closing p ready
    obtain ⟨disposing, rests⟩ := taken.induction
      (P := Play.Disposing p.session p.history.answers false)
      (fun u made' => Option.some.inj (made.symm.trans made') ▸ first)
      (fun _ _ _ => goes_disposing)
    obtain ⟨again, disposed, told⟩ := disposing.rest rests
    exact ⟨again rfl, disposed, told⟩
  · intro p r ready taken
    obtain ⟨q, made, first⟩ := dropping p ready
    obtain ⟨disposing, rests⟩ := taken.induction
      (P := Play.Disposing p.session p.history.answers true)
      (fun u made' => Option.some.inj (made.symm.trans made') ▸ first)
      (fun _ _ _ => goes_disposing)
    exact (disposing.rest rests).2.1

/-! ### Where tasks cannot run -/

/-- The last handle goes where tasks cannot run: the leases are back at once. -/
theorem drop_returns (settled : c.session.Settled) :
    (c.drop false).2 = .finished ∧ c.session.Returned (c.drop false).1.session := by
  have loosed := (c.session.note dropNote).takeKill_loosed.of_note.close
  unfold drop
  split
  · next finished =>
    have spent := settled.spent_of_finished finished
    exact ⟨rfl, spent.returned_of_loosed spent.loosed⟩
  · dsimp only
    split
    · next hl =>
      have returned : c.session.leased = false := by
        rw [← loosed.leased]
        simpa using hl
      exact ⟨rfl, (settled.spent_of_not_leased returned).returned_of_loosed loosed⟩
    · exact ⟨rfl, loosed.returned _⟩

theorem Play.act_drop_alone (used : h.ended = false) :
    Play.act ⟨⟨c, {}, [], n⟩, none, none, h⟩ (.drop false) =
      some ⟨⟨(c.drop false).1, {}, [], n⟩, none, (c.drop false).2.task?, h.retire⟩ :=
  if_pos (by simp [Play.inUse, used])

theorem drop_possible (ready : p.Ready) : ∃ q, disposal.Takes p (.drop false) q := by
  cases ready with
  | @intro c n h used settled =>
    obtain ⟨finished, -⟩ := drop_returns settled
    have none : (c.drop false).2.task? = none := by rw [finished]; rfl
    exact ⟨_, _, Play.act_drop_alone used, .rests ⟨rfl, none, rfl⟩⟩

/-- Nothing is left that could go on. -/
theorem drop_taken (ready : p.Ready) (dropped : disposal.Takes p (.drop false) q) :
    p.session.Returned q.session := by
  cases ready with
  | @intro c n h used settled =>
    obtain ⟨finished, returned⟩ := drop_returns settled
    obtain ⟨u, made, rest⟩ := dropped
    cases (Play.act_drop_alone used).symm.trans made
    rw [finished] at rest
    cases rest with
    | rests rests => exact returned
    | goes goes moves rest =>
      cases Play.acts moves with
      | start r used => cases goes
      | turn i used => cases goes
      | adjust deadline clock => cases goes
      | drop tasksRun used alone => cases goes
      | deliver o waits => cases waits
      | abandon waits => cases waits
      | leaveLine inLine => cases inLine
      | cleanUp due => cases due
      | outcome o waits => cases waits
      | giveUp waits => cases waits
      | discard rests due => cases due

end Shared

/-! ### Runs -/

section

variable {reply : Document} {setting : Setting}

theorem Blocking.Comes.disposable {moves : List Move} {p : Play}
    (run : Comes reply setting moves p) (free : p.isFree = true) :
    disposal.Disposable setting.counts p := by
  have idle := congrArg Situation.control (Play.situation_of_isFree free)
  have ready : p.Ready := ⟨free, run.courses.settled idle⟩
  refine disposal_lawful.disposable ready (fun _ ready => ready.free) run.courses.lending ?_
  intro q taken spent later r further
  obtain ⟨begun, taken⟩ := taken.run
  have coherent := (run.append taken).courses.coherent
  exact (Situation.Course.spent (run_course further) coherent spent).2

theorem Shared.Comes.ready {moves : List Move} {p : Play} (run : Comes reply setting moves p)
    (used : p.inUse = true) (alone : p.calls.running = []) : p.Ready := by
  obtain ⟨used, c, n, hp⟩ := run.alone used alone
  have courses := run.courses
  rw [hp] at courses ⊢
  exact .intro used (courses.settled rfl)

theorem Shared.Comes.disposable {moves : List Move} {p : Play}
    (run : Comes reply setting moves p) (used : p.inUse = true) (alone : p.calls.running = []) :
    disposal.Disposable setting.counts p := by
  refine disposal_lawful.disposable (run.ready used alone) ?_ run.courses.lending ?_
  · intro q ready
    cases ready with
    | intro used settled => exact ⟨by simp [Play.inUse, used], rfl⟩
  · intro q taken spent later r further
    obtain ⟨begun, taken⟩ := taken.run
    have run := run.append taken
    have course := run_course run.orderly further
    exact (Situation.Course.spent course run.courses.coherent spent).2

/-- What it comes to when the last handle goes where tasks cannot run. -/
structure Shared.DropsUntasked (before : Counts) (p : Play) : Prop where
  possible : ∃ q, disposal.Takes p (.drop false) q
  /-- No command is sent. -/
  restored : ∀ q, disposal.Takes p (.drop false) q →
    q.session.sendings = p.session.sendings ∧ q.session.leased = false ∧
      q.session.counts = before ∧ q.session.deadline.override = p.session.deadline.override
  /-- After a close nothing is left to do. -/
  afterClose : ∀ q r, disposal.Takes p (.start .close) q → disposal.Takes q (.drop false) r →
    r.session.effect = q.session.effect

theorem Shared.Comes.dropsUntasked {moves : List Move} {p : Play}
    (run : Comes reply setting moves p) (used : p.inUse = true) (alone : p.calls.running = []) :
    DropsUntasked setting.counts p where
  possible := drop_possible (run.ready used alone)
  restored q dropped := by
    have returned := drop_taken (run.ready used alone) dropped
    have fair : q.session.lending.Fair setting.counts :=
      returned.lending ▸ run.courses.lending.giveBack
    exact ⟨returned.sendings, returned.leased, (fair.of_not_leased returned.leased).1,
      returned.override⟩
  afterClose q r closed dropped := by
    obtain ⟨again, disposed, -⟩ :=
      disposal_lawful.closed p q (run.ready used alone) closed
    exact (drop_taken again dropped).effect_eq disposed.spent

/-- It makes no difference how one is done with a cursor. Whatever a run left it in, with no call
under way, any number of closes, a drop, or closes and a drop can be made, and each comes to the
same commands, the same counts and the same override; the leases are back. A close that returned
has closed the cursor and emptied it, and after any close nothing is sent, however it ended. Where
tasks cannot run, a drop gives the leases back and sends nothing. -/
theorem disposal_has_one_effect (reply : Document) (setting : Setting) :
    (∀ moves p, Blocking.Comes reply setting moves p → p.isFree = true →
      Blocking.disposal.Disposable setting.counts p) ∧
    ∀ moves p, Shared.Comes reply setting moves p → p.inUse = true → p.calls.running = [] →
      Shared.disposal.Disposable setting.counts p ∧ Shared.DropsUntasked setting.counts p := by
  refine ⟨?_, ?_⟩
  · intro moves p run free
    exact run.disposable free
  · intro moves p run used alone
    exact ⟨run.disposable used alone, run.dropsUntasked used alone⟩

end

/-- A batch was read. The command of a close breaks off and the cursor is closed again, or it is
dropped at once. On a shared cursor a request was given up and left its flag behind, and then the
last handle goes. -/
theorem disposal_has_one_effect_after_crash :
    (∃ p, Blocking.Comes (BatchReply.Place.first.reply 7 [item 1]) (plainSetting .unlimited)
        [.request (.iterate .next)] p ∧
      (∃ q, Blocking.disposal.Ends p q ∧ q.history.broken = [.closing .done]) ∧
      (∃ q, Blocking.disposal.Takes p .drop q ∧ q.session.sendings.length = 1) ∧
      ∀ q r, Blocking.disposal.Ends p q → Blocking.disposal.Ends p r →
        q.session.effect = r.session.effect) ∧
    ∃ p, Shared.Comes (BatchReply.Place.first.reply 7 [item 1]) (plainSetting .unlimited)
        [.start (.iterate .next), .start (.iterate .next), .abandon 1] p ∧
      p.session.sendings.length = 1 ∧
      ∃ q, Shared.disposal.Takes p (.drop false) q ∧
        q.session.sendings = p.session.sendings ∧ q.session.counts = ⟨1, 1⟩ := by
  have read : Blocking.Comes (BatchReply.Place.first.reply 7 [item 1]) (plainSetting .unlimited)
      [.request (.iterate .next)] _ :=
    ⟨_, rfl, rfl⟩
  have givenUp : Shared.Comes (BatchReply.Place.first.reply 7 [item 1]) (plainSetting .unlimited)
      [.start (.iterate .next), .start (.iterate .next), .abandon 1] _ :=
    ⟨_, rfl, rfl⟩
  obtain ⟨blocking, shared⟩ := disposal_has_one_effect (BatchReply.Place.first.reply 7 [item 1])
    (plainSetting .unlimited)
  have disposable := blocking _ _ read rfl
  obtain ⟨-, untasked⟩ := shared _ _ givenUp rfl rfl
  obtain ⟨q, dropped⟩ := untasked.possible
  obtain ⟨unsent, -, counts, -⟩ := untasked.restored q dropped
  refine ⟨⟨_, read, ?_, ?_, disposable.same⟩, _, givenUp, rfl, q, dropped, unsent, counts⟩
  · exact ⟨_, .again ⟨_, by rfl, .goes ⟨.crash "gone", rfl⟩ (by rfl) (.rests (by rfl))⟩
      (.close ⟨_, by rfl, .rests (by rfl)⟩), by rfl⟩
  · exact ⟨_, ⟨_, by rfl, .goes ⟨.reply [], rfl⟩ (by rfl) (.rests (by rfl))⟩, by rfl⟩

end ResultCursor
