import ResultCursor.Proofs.Agreement.Calls
import ResultCursor.Proofs.Agreement.Usage
import ResultCursor.Proofs.Sharing.Answers

/-! The two kinds of cursors agree. To one caller, who makes one call after the other and does not
use the signal, a blocking and a shared cursor look the same at every stop: they give the same
answers, go through the same states, send the same commands under the same time limits and hold
the leases at the same time. -/

namespace ResultCursor

/-- A command returns with a result. -/
def Outcome.ofResult : Except Failure Document → Outcome
  | .ok d => .reply d
  | .error f => .failure f

@[simp] theorem Outcome.result?_ofResult (result : Except Failure Document) :
    (ofResult result).result? = some result := by
  cases result <;> rfl

namespace Blocking

theorem resume_ofResult (b : Blocking) (wait : Wait) (result : Except Failure Document) :
    b.resume wait (.ofResult result) = b.settle result wait := by
  cases result <;> rfl

/-- A move that is not possible changes nothing. -/
def Play.after (p : Play) (m : Move) : Play := (p.act m).getD p

def usage : Usage Play where
  start := start
  perform p
    | .call r => p.after (.request r)
    | .adjust deadline clock => p.after (.adjust deadline clock)
  leave p := p.after .drop
  waits p := p.wait.isSome
  hear p result := p.after (.outcome (.ofResult result))
  answers p := p.history.answers
  session p := p.session

end Blocking

namespace Shared

theorem resume_ofResult (c : Shared) (wait : Wait) (result : Except Failure Document) :
    c.resume wait (.ofResult result) = c.settle result wait := by
  cases result <;> rfl

/-- A move that is not possible changes nothing. -/
def Play.after (p : Play) (m : Move) : Play := (p.act m).getD p

/-- A result is for the call that runs, or else for the opening or the clean-up. -/
def Play.heard (p : Play) (result : Except Failure Document) : Move :=
  match p.calls.running with
  | (i, _) :: _ => .deliver i (.ofResult result)
  | [] => .outcome (.ofResult result)

/-- A task cleans up after the last handle, if that leaves one. -/
def usage : Usage Play where
  start := start
  perform p
    | .call r => p.after (.start r)
    | .adjust deadline clock => p.after (.adjust deadline clock)
  leave p := (p.after (.drop true)).after .cleanUp
  waits p := (p.wait.or p.calls.wait?).isSome
  hear p result := p.after (p.heard result)
  answers p := p.history.answers
  session p := p.session

end Shared

/-! ### A call that runs alone -/

namespace Calls

/-- The calls around one that came so far, with no other call. -/
def alone (i n : Nat) : Shared × Progress → Calls × Status
  | (c, .answered a) => (⟨c, {}, [], n⟩, .answered a)
  | (c, .crashed text) => (⟨c, {}, [], n⟩, .crashed text)
  | (c, .waiting sending wait) => (⟨c, ⟨some i, []⟩, [(i, .waiting wait)], n⟩, .waiting sending)

theorem settle_alone (c : Shared) (i n : Nat) (s : Stage) (x : Shared × Progress) :
    settle ⟨c, ⟨some i, []⟩, [(i, s)], n⟩ i x = alone i n x := by
  obtain ⟨shared, progress⟩ := x
  cases progress <;> simp [settle, retire, put, forget, Turns.pass, alone]

theorem start_alone (c : Shared) (n : Nat) (r : Request) :
    start ⟨c, {}, [], n⟩ r =
      ((alone n (n + 1) ((announce ⟨c, {}, [], n⟩ r).shared.request r)).1, n,
        (alone n (n + 1) ((announce ⟨c, {}, [], n⟩ r).shared.request r)).2) := by
  have entered : entered ⟨c, {}, [], n⟩ r =
      ⟨(announce ⟨c, {}, [], n⟩ r).shared, ⟨some n, []⟩, [(n, .inLine r)], n + 1⟩ := rfl
  have stage := entered_stage? ⟨c, {}, [], n⟩ r
  rw [entered] at stage
  rw [start_eq, entered, turn_eq stage rfl, settle_alone]

theorem deliver_alone (c : Shared) (i n : Nat) (wait : Wait) (o : Outcome) :
    deliver ⟨c, ⟨some i, []⟩, [(i, .waiting wait)], n⟩ i o = alone i n (c.resume wait o) := by
  have stage : stage? ⟨c, ⟨some i, []⟩, [(i, .waiting wait)], n⟩ i = some (.waiting wait) := by
    simp [stage?]
  rw [deliver_eq stage, settle_alone]

theorem abandon_alone (c : Shared) (i n : Nat) (wait : Wait) :
    abandon ⟨c, ⟨some i, []⟩, [(i, .waiting wait)], n⟩ i = ⟨c.abandon wait, {}, [], n⟩ := by
  simp [abandon, stage?, retire, forget, Turns.pass]

end Calls

namespace Shared.Play

variable {c : Shared} {h : History} {i n : Nat}

theorem act_start_alone (used : h.ended = false) (r : Request) :
    act ⟨⟨c, {}, [], n⟩, none, none, h⟩ (.start r) =
      some (follow ⟨⟨c, {}, [], n⟩, none, none, h⟩
        (Calls.alone n (n + 1) ((Calls.announce ⟨c, {}, [], n⟩ r).shared.request r))) := by
  simp only [act, inUse, used, Option.isNone_none, Bool.not_false, Bool.and_self, if_true,
    Calls.start_alone]

theorem act_deliver_alone (wait : Wait) (o : Outcome) :
    act ⟨⟨c, ⟨some i, []⟩, [(i, .waiting wait)], n⟩, none, none, h⟩ (.deliver i o) =
      some (follow ⟨⟨c, {}, [], n⟩, none, none, h.hear c.session.cursor.quota wait o⟩
        (Calls.alone i n (c.resume wait o))) := by
  have stage : Calls.stage? ⟨c, ⟨some i, []⟩, [(i, .waiting wait)], n⟩ i =
      some (.waiting wait) := by
    simp [Calls.stage?]
  simp only [act, stage, Calls.deliver_alone]
  rfl

end Shared.Play

/-! ### Plays in step -/

/-- Two histories with the same answers, of cursors that are in use. -/
structure History.Alike (h h' : History) : Prop where
  answers : h'.answers = h.answers
  inUse : h.ended = false
  inUse' : h'.ended = false

namespace History.Alike

variable {h h' : History}

theorem answer (hh : Alike h h') (a : Answer) : Alike (h.answer a) (h'.answer a) :=
  ⟨by simp [History.answer, hh.answers], hh.inUse, hh.inUse'⟩

theorem hear (hh : Alike h h') (q q' : Quota) (wait : Wait) (result : Except Failure Document) :
    Alike (h.hear q wait (.ofResult result)) (h'.hear q' wait (.ofResult result)) := by
  cases wait with
  | kill saved after => cases result <;> exact hh
  | batch call =>
    cases result <;>
      exact ⟨by simp [Outcome.ofResult, History.hear, hh.answers],
        by simpa [Outcome.ofResult, History.hear] using hh.inUse,
        by simpa [Outcome.ofResult, History.hear] using hh.inUse'⟩

end History.Alike

/-- A blocking cursor and a shared one that are in use by one caller each, and have come equally
far. A close is waiting only if a call has it as its request. -/
inductive Abreast : Blocking.Play → Shared.Play → Prop where
  | idle {b c h h' n} (cursors : b.Agrees c) (histories : History.Alike h h')
      (asked : c.closeRequested = true → c.session.isFinished = true) :
      Abreast ⟨b, none, h⟩ ⟨⟨c, {}, [], n⟩, none, none, h'⟩
  | opening {b c h h' n saved} (cursors : b.Agrees c) (histories : History.Alike h h')
      (asked : c.closeRequested = false) :
      Abreast ⟨b, some (.kill saved .opened), h⟩
        ⟨⟨c, {}, [], n⟩, some (.kill saved .opened), none, h'⟩
  | calling {b c h h' n i wait} (cursors : b.Agrees c) (histories : History.Alike h h')
      (asked : c.closeRequested = true → wait.isClosing = true) :
      Abreast ⟨b, some wait, h⟩ ⟨⟨c, ⟨some i, []⟩, [(i, .waiting wait)], n⟩, none, none, h'⟩

/-- Both cursors were let go. The blocking one is closed only after its clean-up, the shared one
before. -/
inductive Parting : Blocking.Play → Shared.Play → Prop where
  | gone {b c h h' n} (sessions : b.session.Agrees c.session) :
      Parting ⟨b, none, h⟩ ⟨⟨c, {}, [], n⟩, none, none, h'⟩
  | cleaning {b c h h' n saved} (sessions : b.session.close.Agrees c.session) :
      Parting ⟨b, some (.kill saved (.closing .done)), h⟩
        ⟨⟨c, {}, [], n⟩, some (.kill saved .opened), none, h'⟩

open Blocking (Matches)

namespace Abreast

variable {b : Blocking} {c : Shared} {h h' : History} {i n : Nat} {x : Blocking × Progress}
  {y : Shared × Progress}

/-- A call comes equally far with both cursors. -/
theorem landing (hm : Matches x y) (hh : History.Alike h h')
    (answered : ∀ a, y.2 = .answered a → y.1.closeRequested = true →
      y.1.session.isFinished = true)
    (waiting : ∀ sending wait, y.2 = .waiting sending wait → y.1.closeRequested = true →
      wait.isClosing = true) :
    Abreast (.follow h x)
      ⟨(Calls.alone i n y).1, none, none, h'.note (Calls.alone i n y).2⟩ := by
  obtain ⟨b, progress⟩ := x
  obtain ⟨c, progress'⟩ := y
  obtain ⟨cursors, progress⟩ := hm
  cases progress with
  | answered a => exact .idle cursors (hh.answer a) (answered a rfl)
  | waiting sending sending' wait => exact .calling cursors hh (waiting sending' wait rfl)

/-- If a close was asked for, it was answered by the end of the call, or the call is that close. -/
theorem asked_after (asked : c.closeRequested = true → c.session.isFinished = true) {r : Request}
    (hy : (Calls.announce ⟨c, {}, [], n⟩ r).shared.request r = y)
    (hq : y.1.closeRequested = true) :
    (∀ a, y.2 = .answered a → y.1.session.isFinished = true) ∧
      ∀ sending wait, y.2 = .waiting sending wait → wait.isClosing = true := by
  have attends := Shared.request_attends (Calls.announce ⟨c, {}, [], n⟩ r).shared r
  rw [hy] at attends
  by_cases hr : r = .close
  · subst hr
    exact ⟨attends.closed rfl, fun sending wait hw =>
      Wait.serves_close_iff.mp (attends.serves sending wait hw)⟩
  · have same : (Calls.announce ⟨c, {}, [], n⟩ r).shared = c := by
      cases r <;> first | rfl | contradiction
    rw [same] at hy attends
    obtain ⟨c', a, answered, finished, -⟩ :=
      Shared.request_of_finished (asked (attends.stop.symm.trans hq)) r
    cases hy.symm.trans answered
    exact ⟨fun _ _ => finished, fun _ _ hw => (by cases hw)⟩

theorem request (cursors : b.Agrees c) (hh : History.Alike h h')
    (asked : c.closeRequested = true → c.session.isFinished = true) (r : Request) :
    Abreast (Blocking.Play.after ⟨b, none, h⟩ (.request r))
      (Shared.Play.after ⟨⟨c, {}, [], n⟩, none, none, h'⟩ (.start r)) := by
  have blocking : Blocking.Play.after ⟨b, none, h⟩ (.request r) = .follow h (b.request r) := by
    simp [Blocking.Play.after, Blocking.Play.act, Blocking.Play.isFree, hh.inUse]
  rw [blocking]
  simp only [Shared.Play.after, Shared.Play.act, Shared.Play.inUse, hh.inUse', Calls.start_alone]
  generalize hy : (Calls.announce ⟨c, {}, [], n⟩ r).shared.request r = y
  have matched : Matches (b.request r) y := by
    subst hy
    cases r with
    | close =>
      have closing : b.Agrees c.requestClose := ⟨cursors.unstopped, cursors.session⟩
      exact closing.close
    | _ => exact cursors.request asked _
  have closing := asked_after asked hy
  exact landing matched hh (fun a ha hq => (closing hq).1 a ha) fun sending wait hw hq =>
    (closing hq).2 sending wait hw

theorem settle_opening {saved : Option Span} (cursors : b.Agrees c) (hh : History.Alike h h')
    (asked : c.closeRequested = false) (result : Except Failure Document) :
    Abreast
      (Blocking.Play.after ⟨b, some (.kill saved .opened), h⟩ (.outcome (.ofResult result)))
      (Shared.Play.after ⟨⟨c, {}, [], n⟩, some (.kill saved .opened), none, h'⟩
        (.outcome (.ofResult result))) := by
  have opened := cursors.of_session ((cursors.session.deliver result).settleKill saved result)
  have unasked (s : Session) : (⟨s, c.closeRequested⟩ : Shared).closeRequested = true →
      s.isFinished = true := fun hq => by cases hq.symm.trans asked
  cases result with
  | ok d => exact .idle opened (hh.answer .done) (unasked _)
  | error f => exact .idle opened (hh.answer .done) (unasked _)

theorem settle_call {wait : Wait} (cursors : b.Agrees c) (hh : History.Alike h h')
    (asked : c.closeRequested = true → wait.isClosing = true) (result : Except Failure Document) :
    Abreast (Blocking.Play.after ⟨b, some wait, h⟩ (.outcome (.ofResult result)))
      (Shared.Play.after ⟨⟨c, ⟨some i, []⟩, [(i, .waiting wait)], n⟩, none, none, h'⟩
        (.deliver i (.ofResult result))) := by
  have blocking : Blocking.Play.after ⟨b, some wait, h⟩ (.outcome (.ofResult result)) =
      .follow (h.hear b.session.cursor.quota wait (.ofResult result)) (b.settle result wait) := by
    cases result <;> rfl
  have shared := c.resume_ofResult wait result
  rw [blocking]
  simp only [Shared.Play.after, Shared.Play.act, Calls.stage?, List.lookup_cons, beq_self_eq_true,
    Calls.deliver_alone, shared]
  have closing (hq : (c.settle result wait).1.closeRequested = true) :
      Shared.Attends c .close (c.settle result wait) := by
    rw [← shared] at hq ⊢
    rw [Shared.resume_closeRequested] at hq
    exact Shared.resume_attends (Wait.serves_close_iff.mpr (asked hq)) _
  exact landing (cursors.settle asked result) (hh.hear _ _ wait result)
    (fun a ha hq => (closing hq).closed rfl a ha) fun sending wait hw hq =>
    Wait.serves_close_iff.mp ((closing hq).serves sending wait hw)

theorem adjust {p : Blocking.Play} {q : Shared.Play} (hpq : Abreast p q) (deadline : Deadline)
    (clock : Clock) :
    Abreast (p.after (.adjust deadline clock)) (q.after (.adjust deadline clock)) := by
  cases hpq with
  | idle cursors hh asked =>
    exact .idle (cursors.of_session (cursors.session.adjust deadline clock)) hh asked
  | opening cursors hh asked =>
    exact .opening (cursors.of_session (cursors.session.adjust deadline clock)) hh asked
  | calling cursors hh asked =>
    exact .calling (cursors.of_session (cursors.session.adjust deadline clock)) hh asked

end Abreast

/-! ### Letting the cursors go -/

theorem Blocking.drop_eq {b : Blocking} {u : Session} {kill : Option Command}
    (unfinished : b.session.isFinished = false)
    (taken : (b.session.note dropNote).takeKill = (u, kill)) :
    b.drop = match u.cleanUp kill (some false) with
      | (s, .finished) => finishClose .done { b with session := s }
      | (s, .killing sending saved) =>
        ({ b with session := s }, .waiting sending (.kill saved (.closing .done))) := by
  have noted : (b.session.note dropNote).isFinished = false := unfinished
  rcases hx : u.cleanUp kill (some false) with ⟨s, state⟩
  cases state <;>
    simp [drop, unfinished, closeWith, noted, afterCleanup, Session.beginRelease_eq, taken, hx]

theorem Shared.drop_eq {c : Shared} {u : Session} {kill : Option Command}
    (unfinished : c.session.isFinished = false)
    (taken : (c.session.note dropNote).takeKill = (u, kill)) :
    c.drop true =
      ({ c with session := u.close }, if u.leased then .task kill else .finished) := by
  cases hl : u.leased <;> simp [drop, unfinished, taken, hl]

namespace Parting

variable {b : Blocking} {c : Shared} {h h' : History} {n : Nat}

/-- The shared cursor is closed already when its task cleans up, the blocking one only
afterwards. -/
theorem cleanUp {u u' : Session} (agrees : u.Agrees u') (kill : Option Command) :
    Parting
      (.follow h (match u.cleanUp kill (some false) with
        | (s, .finished) => Blocking.finishClose .done { b with session := s }
        | (s, .killing sending saved) =>
          ({ b with session := s }, .waiting sending (.kill saved (.closing .done)))))
      (Shared.Play.after ⟨⟨{ c with session := u'.close }, {}, [], n⟩, none, some kill, h'⟩
        .cleanUp) := by
  have closed := Session.cleanUp_close u kill (some false)
  generalize u.cleanUp kill (some false) = x at closed ⊢
  obtain ⟨w, state⟩ := x
  rcases agrees.close.cleanUp kill (some false) none with
      ⟨v, v', hv, hv', hvv⟩ | ⟨v, v', sending, sending', saved, hv, hv', hvv⟩
  · cases closed.symm.trans hv
    have task : Shared.cleanUp { c with session := u'.close } kill =
        ({ c with session := v' }, .answered .done) := by
      simp only [Shared.cleanUp, hv', Shared.answered]
    simp only [Shared.Play.after, Shared.Play.act, Shared.Play.shared, Option.map_some,
      Option.getD_some, task]
    exact .gone ((Session.Agrees.of_note w.close _).trans hvv)
  · cases closed.symm.trans hv
    have task : Shared.cleanUp { c with session := u'.close } kill =
        ({ c with session := v' }, .waiting sending' (.kill saved .opened)) := by
      simp only [Shared.cleanUp, hv']
    simp only [Shared.Play.after, Shared.Play.act, Shared.Play.shared, Option.map_some,
      Option.getD_some, task]
    exact .cleaning hvv

theorem leave (cursors : b.Agrees c) (hh : History.Alike h h') :
    Parting (Blocking.usage.leave ⟨b, none, h⟩)
      (Shared.usage.leave ⟨⟨c, {}, [], n⟩, none, none, h'⟩) := by
  have blocking : Blocking.usage.leave ⟨b, none, h⟩ = .follow h.retire b.drop := by
    simp [Blocking.usage, Blocking.Play.after, Blocking.Play.act, Blocking.Play.isFree, hh.inUse]
  have shared : Shared.usage.leave ⟨⟨c, {}, [], n⟩, none, none, h'⟩ =
      Shared.Play.after ⟨⟨(c.drop true).1, {}, [], n⟩, none, (c.drop true).2.task?, h'.retire⟩
        .cleanUp := by
    simp [Shared.usage, Shared.Play.after, Shared.Play.act, Shared.Play.inUse, hh.inUse',
      Shared.Play.withShared, Shared.Play.shared]
  rw [blocking, shared]
  cases finished : b.session.isFinished with
  | true =>
    have finished' : c.session.isFinished = true := cursors.session.isFinished_eq.trans finished
    simp only [Blocking.drop, Shared.drop, finished, finished', if_true]
    exact .gone cursors.session
  | false =>
    have finished' : c.session.isFinished = false := cursors.session.isFinished_eq.trans finished
    obtain ⟨u, u', kill, hu, hu', agrees⟩ :=
      (cursors.session.note Blocking.dropNote Shared.dropNote).takeKill
    rw [Blocking.drop_eq finished hu, Shared.drop_eq finished' hu']
    cases leased : u'.leased with
    | false =>
      rw [Session.cleanUp_of_not_leased (agrees.leased_eq.symm.trans leased)]
      exact .gone ((Session.Agrees.of_note u.close _).trans agrees.close)
    | true => exact cleanUp agrees kill

theorem settle {saved : Option Span} (sessions : b.session.close.Agrees c.session)
    (result : Except Failure Document) :
    Parting
      (Blocking.Play.after ⟨b, some (.kill saved (.closing .done)), h⟩
        (.outcome (.ofResult result)))
      (Shared.Play.after ⟨⟨c, {}, [], n⟩, some (.kill saved .opened), none, h'⟩
        (.outcome (.ofResult result))) := by
  have settled := (sessions.deliver result).settleKill saved result
  have closed := Session.settleKill_close (b.session.deliver result) saved result
  have gone : ((b.session.deliver result).settleKill saved result).finishClose.Agrees
      ((c.session.deliver result).settleKill saved result) :=
    (Session.Agrees.of_note _ _).trans (closed ▸ settled)
  cases result with
  | ok d => exact .gone gone
  | error f => exact .gone gone

end Parting

/-- Both openings fail, or they come equally far. -/
theorem Abreast.start (reply : Document) (setting : Setting) :
    (∃ f, Blocking.start reply setting = .error f ∧ Shared.start reply setting = .error f) ∨
    ∃ p q, Blocking.start reply setting = .ok p ∧ Shared.start reply setting = .ok q ∧
      Abreast p q := by
  unfold Blocking.start Shared.start
  rcases Blocking.Agrees.ofReply reply setting with
      ⟨f, hb, hs⟩ | ⟨⟨b, progress⟩, ⟨c, progress'⟩, hb, hs, ⟨cursors, alike⟩, unasked⟩
  · simp only [hb, hs]
    exact .inl ⟨f, rfl, rfl⟩
  · simp only [hb, hs]
    refine .inr ⟨_, _, rfl, rfl, ?_⟩
    have fresh : (History.ofReply reply setting).ended = false := by
      unfold History.ofReply
      split <;> rfl
    have hh : History.Alike (.ofReply reply setting) (.ofReply reply setting) := ⟨rfl, fresh, fresh⟩
    cases alike with
    | answered a => exact .idle cursors (hh.answer a) fun hq => by cases hq.symm.trans unasked
    | waiting sending sending' wait =>
      obtain ⟨saved, rfl⟩ := Shared.ofReply_wait hs rfl
      exact .opening cursors hh unasked

/-- A blocking and a shared cursor keep in step, whatever their caller does. -/
theorem usages_match : Usage.Matches Blocking.usage Shared.usage Abreast Parting where
  start := Abreast.start
  inUse :=
    { waits := fun hq => by cases hq <;> rfl
      hear := fun hq hw result => by
        cases hq with
        | idle cursors hh asked => cases hw
        | opening cursors hh asked => exact Abreast.settle_opening cursors hh asked result
        | calling cursors hh asked => exact Abreast.settle_call cursors hh asked result }
  gone :=
    { waits := fun hp => by cases hp <;> rfl
      hear := fun hp hw result => by
        cases hp with
        | gone sessions => cases hw
        | cleaning sessions => exact Parting.settle sessions result }
  perform hq hw act := by
    cases act with
    | adjust deadline clock => exact hq.adjust deadline clock
    | call r =>
      cases hq with
      | idle cursors hh asked => exact Abreast.request cursors hh asked r
      | opening cursors hh asked => cases hw
      | calling cursors hh asked => cases hw
  leave hq hw := by
    cases hq with
    | idle cursors hh asked => exact Parting.leave cursors hh
    | opening cursors hh asked => cases hw
    | calling cursors hh asked => cases hw
  sight hq := by
    have same {b : Blocking} {c : Shared} {h h' : History} (cursors : b.Agrees c)
        (hh : History.Alike h h') :
        (⟨h'.answers, c.session.bare⟩ : Sight) = ⟨h.answers, b.session.bare⟩ := by
      rw [hh.answers, cursors.session.bare_eq]
    cases hq with
    | idle cursors hh asked => exact same cursors hh
    | opening cursors hh asked => exact same cursors hh
    | calling cursors hh asked => exact same cursors hh
  session hp hw := by
    cases hp with
    | gone sessions => exact sessions.bare_eq
    | cleaning sessions => cases hw

/-- To one caller who does not use the signal, both kinds of cursors show the same at every stop,
whatever the first reply, the setting, the calls and the results of commands: the same answers in
the same order, the same state of the cursor, the same commands under the same time limits, and the
leases held, taken and given back at the same time. So they do once they were let go and all is
cleaned up. The clock of the setting may move on by any delay at each of its readings, and so also
while a command is under way. -/
theorem kinds_agree (reply : Document) (setting : Setting) (acts : List Act)
    (results : List (Except Failure Document)) :
    Shared.usage.record reply setting acts results =
      Blocking.usage.record reply setting acts results :=
  usages_match.record_eq reply setting acts results

/-- Two batches are read before the cursor is closed. The leases are held until then. -/
example :
    (Shared.usage.record (BatchReply.Place.first.reply 7 [item 1]) (plainSetting .unlimited)
        [.call (.iterate .next), .call (.iterate .next), .call .close]
        [.ok (BatchReply.Place.next.reply 7 [item 2]), .ok []]).map
      (fun sights => sights.map fun s => (s.answers, s.session.leased)) =
    .ok [([.done], true), ([.done, .batch [item 1]], true),
      ([.done, .batch [item 1], .batch [item 2]], true),
      ([.done, .batch [item 1], .batch [item 2], .done], false),
      ([.done, .batch [item 1], .batch [item 2], .done], false)] := by
  rfl

end ResultCursor
