import ResultCursor.Proofs.KillDecision
import ResultCursor.Proofs.Protocol
import ResultCursor.Proofs.Stopping.Cleanups
import ResultCursor.Proofs.Stopping.Halting

/-! A blocking cursor that was asked to close. The call under way, or else the next one, closes it
and says so, unless the call has a failure of its own to report; no batch is asked for or handed out
any more. -/

namespace ResultCursor

/-- What is answered after a clean-up by a cursor that was asked to close. -/
def Aftermath.heeded : Aftermath → Answer
  | .opened => .done
  | .fetched call => Blocking.closedAnswer call
  | .failing _ f => .failed f
  | .closing a => a

theorem Aftermath.Fits.heeded {s : Session} {after : Aftermath} (h : after.Fits s) :
    after.heeded.batch? = none := by
  cases after with
  | closing a => exact Answer.batch?_of_ofClose h
  | _ => rfl

namespace Blocking

/-- What a cursor that was asked to close answers to a call whose request came to the outcome. -/
def closingAnswer (call : Call) : Except Failure Unit → Answer
  | .ok () => closedAnswer call
  | .error f => if f.isCancellation then closedAnswer call else .failed f

variable {b : Blocking} {s t : Session} {a : Answer} {call : Call} {after : Aftermath} {f : Failure}
  {r : Blocking × Progress} {p q : Play} {m : Move}

/-! ### Calls that close the cursor -/

/-- The call is answered, with nothing more sent, and the cursor is closed and holds no leases. -/
structure Shuts (s : Session) (a : Answer) (r : Blocking × Progress) : Prop where
  answer : r.2 = .answered a
  finished : r.1.session.isFinished = true
  sendings : r.1.session.sendings = s.sendings

/-- The call lets go of the server's cursor, closes the cursor and answers. If a command is due to
end the server's cursor it is sent once, no signal stops it, and the answer follows it. -/
inductive Closes (s : Session) (a : Answer) (r : Blocking × Progress) : Prop where
  | atOnce (spared : s.takeKill.2 = none) (shuts : Shuts s a r)
  | afterKill {kill : Command} {sending : Sending} {saved : Option Span} {after : Aftermath}
      (due : s.takeKill.2 = some kill) (command : sending.command = kill)
      (unstoppable : sending.stop = some false)
      (sent : r.1.session.sendings = s.sendings ++ [sending])
      (waits : r.2 = .waiting sending (.kill saved after)) (follows : after.heeded = a)
      (called : after.isOpened = false)

theorem Closes.of_parted (spared : s.takeKill.2 = none) (h : Closes s.parted a r) :
    Closes s a r := by
  cases h with
  | atOnce _ shuts =>
    have sent := shuts.sendings.trans Session.parted_sendings
    exact .atOnce spared ⟨shuts.answer, shuts.finished, sent⟩
  | afterKill due =>
    have none := Session.takeKill_eq_none_of_remote (s := s.parted) (by simp)
    cases none.symm.trans due

theorem afterCleanup_closes {go : Blocking → Blocking × Progress}
    (held : b.session.cursor.remote.isSome → b.session.leased = true) (follows : after.heeded = a)
    (called : after.isOpened = false)
    (hgo : Closes b.session.parted a (go { b with session := b.session.parted })) :
    Closes b.session a (b.afterCleanup after go) := by
  cases hk : b.session.takeKill.2 with
  | none =>
    rw [afterCleanup_of_none hk]
    exact hgo.of_parted hk
  | some kill =>
    have remote : b.session.cursor.remote.isSome := by
      by_contra hr
      rw [Session.takeKill_eq_none_of_remote (by simpa using hr)] at hk
      cases hk
    rw [afterCleanup_of_some hk (held remote)]
    exact .afterKill hk rfl rfl Session.ending_sendings rfl follows called

theorem closeWith_closes (held : b.session.cursor.remote.isSome → b.session.leased = true) :
    Closes b.session a (b.closeWith a) := by
  unfold closeWith
  split
  · next finished =>
    have returned := (Session.isFinished_iff.mp finished).2
    refine .atOnce (Session.takeKill_eq_none_of_remote ?_) ⟨rfl, finished, rfl⟩
    exact Option.not_isSome_iff_eq_none.mp fun hr => by cases returned.symm.trans (held hr)
  · refine afterCleanup_closes held rfl rfl (.atOnce ?_ ⟨rfl, ?_, ?_⟩)
    · exact Session.takeKill_eq_none_of_remote (by simp)
    · exact Session.isFinished_iff.mpr ⟨rfl, Session.parted_leased⟩
    · exact (Session.note_quietly _).sendings

theorem fetched_closes (asked : b.signal.closeRequested = true)
    (held : b.session.cursor.remote.isSome → b.session.leased = true) :
    Closes b.session (closedAnswer call) (fetched call b) := by
  simp only [fetched, asked, if_true]
  exact closeWith_closes held

/-- A cancelled call heeds the close request, and another one fails. -/
theorem failing_closes (asked : b.signal.closeRequested = true)
    (held : b.session.cursor.remote.isSome → b.session.leased = true)
    (gone : f.isCancellation = false → b.session.isFinished = true) :
    Closes b.session (closingAnswer call (.error f)) (failing call f b) := by
  have asked : b.signal.acknowledge.closeRequested = true := asked
  cases hf : f.isCancellation with
  | true =>
    simp only [failing, closingAnswer, hf, asked, if_true]
    exact closeWith_closes (b := { b with signal := b.signal.acknowledge }) held
  | false =>
    have finished := gone hf
    have returned := (Session.isFinished_iff.mp finished).2
    simp only [failing, closingAnswer, hf, Bool.false_eq_true, if_false]
    refine .atOnce (Session.takeKill_eq_none_of_remote ?_) ⟨rfl, finished, rfl⟩
    exact Option.not_isSome_iff_eq_none.mp fun hr => by cases returned.symm.trans (held hr)

theorem failWith_closes (asked : b.signal.closeRequested = true) (held : b.session.leased = true)
    (stays : b.session.cursor.phase = .active → f.isCancellation = true)
    (gone : b.session.cursor.phase ≠ .active →
      b.session.cursor.phase = .closed ∧ f.isCancellation = false) :
    Closes b.session (closingAnswer call (.error f)) (b.failWith call f) := by
  unfold failWith
  split
  · next active =>
    refine failing_closes asked (fun _ => held) fun hf => ?_
    cases hf.symm.trans (stays active)
  · next inactive =>
    obtain ⟨closed, hf⟩ := gone inactive
    have answer : Aftermath.heeded (.failing call f) = closingAnswer call (.error f) := by
      simp [Aftermath.heeded, closingAnswer, hf]
    refine afterCleanup_closes (fun _ => held) answer rfl ?_
    refine failing_closes (b := { b with session := b.session.parted }) asked (by simp) fun _ => ?_
    exact Session.isFinished_iff.mpr ⟨by simp [closed], Session.parted_leased⟩

theorem settleBatch_closes (asked : b.signal.closeRequested = true) (asking : b.session.Asking)
    {result : Except Failure Document} {outcome : Except Failure Unit}
    (settled : (b.session.deliver result).settleFetch result = (t, outcome)) :
    Closes t (closingAnswer call outcome) (b.settleBatch call result) := by
  have leased : t.leased = true := asking.still_held settled
  have active : (b.session.deliver result).cursor.phase = .active := asking.active asking.remote
  have came := Session.settleFetch_inactive call settled active
  cases outcome with
  | error f =>
    rw [settleBatch_of_error settled]
    exact failWith_closes (b := { b with session := t }) asked leased
      (Session.isCancellation_of_active settled) came
  | ok done =>
    by_cases active : t.cursor.phase = .active
    · rw [settleBatch_of_active settled active]
      exact fetched_closes (b := { b with session := t }) asked fun _ => leased
    · rw [settleBatch_of_inactive settled active]
      refine afterCleanup_closes (b := { b with session := t }) (fun _ => leased) rfl rfl ?_
      exact fetched_closes (b := { b with session := t.parted }) asked (by simp)

/-- The server's cursor was ended in the course of a call. -/
theorem settleKill_shuts {saved : Option Span} (asked : b.signal.closeRequested = true)
    (remote : b.session.cursor.remote = none) (inactive : after.Inactive b.session)
    (called : after.isOpened = false) (result : Except Failure Document) :
    Shuts b.session after.heeded (b.settle result (.kill saved after)) := by
  let b' := { b with session := (b.session.deliver result).settleKill saved result }
  have gone : b'.session.cursor.remote = none := by simp [b', remote]
  have returned : b'.session.leased = false := Session.settleKill_leased saved result
  have same : b'.session.sendings = b.session.sendings := by simp [b']
  have shuts {r : Blocking × Progress} (h : Closes b'.session after.heeded r) :
      Shuts b.session after.heeded r := by
    cases h with
    | atOnce _ shuts => exact ⟨shuts.answer, shuts.finished, shuts.sendings.trans same⟩
    | afterKill due => cases (Session.takeKill_eq_none_of_remote gone).symm.trans due
  show Shuts b.session after.heeded (b'.resumeAfter after)
  cases after with
  | opened => cases called
  | fetched call => exact shuts (fetched_closes (b := b') asked (by simp [gone]))
  | failing call f =>
    obtain ⟨closed, hf⟩ := inactive
    have finished : b'.session.isFinished = true :=
      Session.isFinished_iff.mpr ⟨by simpa [b'] using closed, returned⟩
    simp only [resumeAfter, failing, hf, Bool.false_eq_true, if_false]
    exact ⟨rfl, finished, same⟩
  | closing a =>
    have sent : b'.session.finishClose.sendings = b.session.sendings :=
      (Session.note_quietly _).sendings.trans same
    exact ⟨rfl, Session.isFinished_iff.mpr ⟨rfl, returned⟩, sent⟩

/-! ### Moves -/

/-- What a move means for a cursor that was asked to close. -/
structure Play.HeedsClose (p : Play) (m : Move) (q : Play) : Prop where
  /-- The next call closes the cursor. -/
  next : ∀ call, m = .request (.iterate call) →
    ∃ r, q = .follow p.history r ∧ Closes p.session (closedAnswer call) r
  /-- Every later one finds it closed. -/
  later : ∀ call, m = .request (.iterate call) → p.session.isFinished = true →
    q = .follow p.history (p.cursor.answered (closedAnswer call))
  /-- A call whose request comes to its outcome closes the cursor. -/
  settled : ∀ call result t outcome, m = .outcome (.ofResult result) →
    p.wait = some (.batch call) → (p.session.deliver result).settleFetch result = (t, outcome) →
    ∃ r, q = .follow (p.hears m) r ∧ Closes t (closingAnswer call outcome) r
  /-- So does a call that has sent the command to end the server's cursor. -/
  ended : ∀ saved after result, m = .outcome (.ofResult result) →
    p.wait = some (.kill saved after) → after.isOpened = false →
    ∃ r, q = .follow (p.hears m) r ∧ Shuts p.session after.heeded r

theorem act_heedsClose (hc : p.situation.Coherent) (ha : p.control.Inactive p.session)
    (asked : p.cursor.signal.closeRequested = true) (hm : p.act m = some q) :
    p.HeedsClose m q where
  next call hr := by
    subst hr
    obtain ⟨_, free⟩ := Play.acts hm
    have rests := Play.settled_of_isFree hc free
    refine ⟨_, rfl, ?_⟩
    simp only [request, iterate, asked, if_true]
    exact closeWith_closes fun hr => rests.leased.trans hr
  later call hr finished := by
    subst hr
    cases Play.acts hm
    have finished : p.cursor.session.isFinished = true := finished
    simp only [request, iterate, asked, if_true, closeWith, finished]
  settled call result t outcome hr waits settled := by
    subst hr
    rw [Play.hears_outcome waits]
    simp only [Play.act, waits, Option.map_some, Option.some.injEq, resume_ofResult] at hm
    subst hm
    exact ⟨_, rfl, settleBatch_closes asked (Play.fits_of_waits hc waits) settled⟩
  ended saved after result hr waits called := by
    subst hr
    rw [Play.hears_outcome waits]
    simp only [Play.act, waits, Option.map_some, Option.some.injEq, resume_ofResult] at hm
    subst hm
    exact ⟨_, rfl, settleKill_shuts asked (Play.fits_of_waits hc waits).1
      (Play.inactive_of_waits ha waits) called result⟩

/-! ### Runs -/

theorem Closes.answer {a' : Answer} (h : Closes s a r) (answered : r.2 = .answered a') :
    a' = a := by
  cases h with
  | atOnce _ shuts =>
    cases shuts.answer.symm.trans answered
    rfl
  | afterKill _ _ _ _ waits => cases waits.symm.trans answered

theorem closingAnswer_batch? (call : Call) (outcome : Except Failure Unit) :
    (closingAnswer call outcome).batch? = none := by
  cases outcome with
  | ok done => rfl
  | error f =>
    by_cases hf : f.isCancellation = true
    · simp only [closingAnswer, hf, if_true]
      rfl
    · simp only [closingAnswer, hf, Bool.false_eq_true, if_false]
      rfl

/-- A call of which no batch comes hands none out. -/
theorem Play.handed_follow (h : History) (none : ∀ a, r.2 = .answered a → a.batch? = none) :
    (Play.follow h r).history.handed = h.handed := by
  obtain ⟨b, progress⟩ := r
  cases progress with
  | answered a => simp [Play.follow, History.follow, History.answer, History.handed, none a rfl]
  | waiting sending wait => rfl
  | crashed text => rfl

theorem Closes.handed (h : Closes s a r) (none : a.batch? = none) (past : History) :
    (Play.follow past r).history.handed = past.handed :=
  Play.handed_follow past fun _ answered => (h.answer answered).symm ▸ none

theorem request_handed (asked : p.cursor.signal.closeRequested = true)
    (rests : p.session.Settled) (request : Request) (past : History) :
    (Play.follow past (p.cursor.request request)).history.handed = past.handed := by
  have held : p.cursor.session.cursor.remote.isSome → p.cursor.session.leased = true :=
    fun hr => rests.leased.trans hr
  cases request with
  | iterate call =>
    simp only [Blocking.request, iterate, asked, if_true]
    exact (closeWith_closes (a := closedAnswer call) held).handed rfl past
  | close => exact (closeWith_closes (a := .done) held).handed rfl past
  | setBatchSize n => exact Play.handed_follow past fun a h => by cases h; rfl
  | inspect => exact Play.handed_follow past fun a h => by cases h; rfl

theorem drop_handed (rests : p.session.Settled) (past : History) :
    (Play.follow past p.cursor.drop).history.handed = past.handed := by
  unfold drop
  split
  · exact Play.handed_follow past fun a h => by cases h; rfl
  · exact (closeWith_closes (b := { p.cursor with session := p.session.note dropNote })
      (a := .done) fun hr => rests.leased.trans hr).handed rfl past

theorem settle_handed (hc : p.situation.Coherent) (ha : p.control.Inactive p.session)
    (asked : p.cursor.signal.closeRequested = true) {wait : Wait} (waits : p.wait = some wait)
    (result : Except Failure Document) (past : History) :
    (Play.follow past (p.cursor.settle result wait)).history.handed = past.handed := by
  cases wait with
  | batch call =>
    rcases settled : (p.session.deliver result).settleFetch result with ⟨t, outcome⟩
    have closes : Closes t (closingAnswer call outcome) (p.cursor.settleBatch call result) :=
      settleBatch_closes asked (Play.fits_of_waits hc waits) settled
    exact closes.handed (closingAnswer_batch? call outcome) past
  | kill saved after =>
    have fits := Play.fits_of_waits hc waits
    have answer : after.heeded.batch? = none := Aftermath.Fits.heeded fits.2.2
    by_cases called : after.isOpened = false
    · have shuts : Shuts p.session after.heeded (p.cursor.settle result (.kill saved after)) :=
        settleKill_shuts asked fits.1 (Play.inactive_of_waits ha waits) called result
      refine Play.handed_follow past fun a answered => ?_
      cases shuts.answer.symm.trans answered
      exact answer
    · cases after with
      | opened => exact Play.handed_follow past fun a h => by cases h; rfl
      | _ => exact absurd rfl called

theorem crash_handed (text : String) (wait : Wait) (past : History) :
    (Play.follow past (b.crash text wait)).history.handed = past.handed := by
  match wait with
  | .batch _ | .kill _ .opened | .kill _ (.fetched _) | .kill _ (.failing ..)
  | .kill _ (.closing _) => rfl

/-- A cursor that was asked to close hands out no batches. -/
theorem act_handed (hc : p.situation.Coherent) (ha : p.control.Inactive p.session)
    (asked : p.cursor.signal.closeRequested = true) (hm : p.act m = some q) :
    q.history.handed = p.history.handed := by
  cases Play.acts hm with
  | request request free =>
    exact request_handed asked (Play.settled_of_isFree hc free) request p.history
  | @outcome wait o waits =>
    have heard := p.hears_answers (.outcome o)
    rw [Play.hears_outcome waits] at heard
    have same : (p.history.hear p.session.cursor.quota wait o).handed = p.history.handed := by
      rw [History.handed, heard]
      rfl
    refine Eq.trans ?_ same
    cases o with
    | reply d => exact settle_handed hc ha asked waits (.ok d) _
    | failure f => exact settle_handed hc ha asked waits (.error f) _
    | crash text => exact crash_handed text wait _
  | drop free => exact drop_handed (Play.settled_of_isFree hc free) p.history.retire
  | _ => rfl

/-- A call is under way, and not the opening of the cursor. -/
def Play.InCall (p : Play) : Prop :=
  ∃ wait, p.wait = some wait ∧ ∀ saved after, wait = .kill saved after → after.isOpened = false

/-- The cursor is closed without leases, or a call is under way. -/
def Play.Yields (p : Play) : Prop := p.session.isFinished = true ∨ p.InCall

theorem Closes.yields (h : Closes s a r) (past : History) : (Play.follow past r).Yields := by
  cases h with
  | atOnce _ shuts => exact .inl shuts.finished
  | afterKill due command unstoppable sent waits follows called =>
    refine .inr ⟨_, by rw [Play.follow, waits]; rfl, fun saved after h => ?_⟩
    cases h
    exact called

/-- Once a call has met the close request, the cursor is closed as soon as nothing is waited for. -/
theorem act_yields (hc : p.situation.Coherent) (ha : p.control.Inactive p.session)
    (asked : p.cursor.signal.closeRequested = true) (yields : p.Yields)
    (returns : m.returns = true) (hm : p.act m = some q) : q.Yields := by
  have heeds := act_heedsClose hc ha asked hm
  rcases yields with finished | ⟨wait, waits, called⟩
  · have course := act_course (Play.KeepsTo.of_all (fun _ => trivial) p m) hm
    exact .inl (Situation.Course.finished course hc finished)
  · have busy : p.isFree = false := by simp [Play.isFree, waits]
    have settles (result : Except Failure Document)
        (hr : m = .outcome (.ofResult result)) : q.Yields := by
      cases wait with
      | batch call =>
        rcases settled : (p.session.deliver result).settleFetch result with ⟨t, outcome⟩
        obtain ⟨r, rfl, closes⟩ := heeds.settled call result t outcome hr waits settled
        exact closes.yields _
      | kill saved after =>
        obtain ⟨r, rfl, shuts⟩ := heeds.ended saved after result hr waits (called saved after rfl)
        exact .inl shuts.finished
    cases Play.acts hm with
    | request request free => cases busy.symm.trans free
    | outcome o =>
      cases o with
      | reply d => exact settles (.ok d) rfl
      | failure f => exact settles (.error f) rfl
      | crash text => cases returns
    | drop free => cases busy.symm.trans free
    | _ => exact .inr ⟨wait, waits, called⟩

variable {reply : Document} {setting : Setting} {moves later : List Move}

/-- What a cursor in `q` has done since it was asked to close, `later` moves ago. -/
structure Play.Heeded (p : Play) (later : List Move) (q : Play) : Prop where
  asked : q.cursor.signal.closeRequested = true
  requests : q.session.requests = p.session.requests
  handed : q.history.handed = p.history.handed
  /-- The call under way, or else the next one, has closed the cursor. -/
  closed : (p.InCall ∨ ∃ call, .request (.iterate call) ∈ later) →
    (∀ m ∈ later, m.returns = true) → q.Yields

theorem Play.Heeded.act {later : List Move} {u : Play} (h : p.Heeded later q)
    (hc : q.situation.Coherent) (ha : q.control.Inactive q.session) (hm : q.act m = some u) :
    p.Heeded (later ++ [m]) u where
  asked := (act_closeRequested hm).mpr (.inl h.asked)
  requests := by
    rcases act_requests ha hm with same | ⟨unstopped, -⟩
    · exact same.trans h.requests
    · simp [Signal.shouldStop, h.asked] at unstopped
  handed := (act_handed hc ha h.asked hm).trans h.handed
  closed met returns := by
    have returned : ∀ n ∈ later, n.returns = true := fun n hn => returns n (by simp [hn])
    by_cases before : p.InCall ∨ ∃ call, .request (.iterate call) ∈ later
    · exact act_yields hc ha h.asked (h.closed before returned) (returns m (by simp)) hm
    · rcases met with inCall | ⟨call, hcall⟩
      · exact absurd (.inl inCall) before
      · rcases List.mem_append.mp hcall with hl | hl
        · exact absurd (.inr ⟨call, hl⟩) before
        · obtain ⟨r, rfl, closes⟩ :=
            (act_heedsClose hc ha h.asked hm).next call (List.mem_singleton.mp hl).symm
          exact closes.yields _

theorem Comes.heeded (run : Comes reply setting moves p)
    (asked : p.cursor.signal.closeRequested = true) (goes : later.foldlM Play.act p = some q) :
    p.Heeded later q := by
  induction later using List.reverseRecOn generalizing q with
  | nil =>
    cases goes
    exact ⟨asked, rfl, rfl, fun met _ => met.elim .inr fun ⟨_, h⟩ => by cases h⟩
  | append_singleton later m ih =>
    simp only [List.foldlM_append, List.foldlM_cons, List.foldlM_nil, Option.bind_eq_bind,
      Option.bind_eq_some_iff, Option.pure_def] at goes
    obtain ⟨u, goes, q', hm, hq⟩ := goes
    cases hq
    have courses := (run.append goes).courses
    exact (ih goes).act courses.coherent courses.inactive hm

theorem Comes.kills (run : Comes reply setting moves p) :
    p.session.commands.countP Command.isKill ≤ 1 := by
  obtain ⟨first, -, informed⟩ := run.courses.informed
  obtain ⟨asks, kill, hcmd, asking, -⟩ := informed.lawful.commands
  have none : asks.countP Command.isKill = 0 := by
    refine List.countP_eq_zero.mpr fun c hc hk => ?_
    cases (Command.isGetMore_of_isKill hk).symm.trans (asking c hc)
  have hcmd : p.session.commands = asks ++ kill.toList := hcmd
  rw [hcmd, List.countP_append, none, Nat.zero_add]
  cases kill with
  | none => simp
  | some c => exact List.countP_le_length

end Blocking

/-- A blocking cursor that was asked to close asks for no batch any more and hands none out. The
call under way, or else the next one, leaves it closed without leases; a command to end the server's
cursor is sent at most once and is not stopped. The call fails because the cursor is closed, unless
its own request failed otherwise, and every later call finds the cursor closed. -/
theorem close_request_heeded {reply : Document} {setting : Setting} {moves : List Blocking.Move}
    {p : Blocking.Play} (run : Blocking.Comes reply setting moves p)
    (asked : p.cursor.signal.closeRequested = true) :
    ∀ (later : List Blocking.Move) (q : Blocking.Play),
      later.foldlM Blocking.Play.act p = some q →
      p.Heeded later q ∧ q.session.commands.countP Command.isKill ≤ 1 ∧
      (∀ m r, q.act m = some r → q.HeedsClose m r) ∧
      ∀ saved after, q.wait = some (.kill saved after) → after.isOpened = false →
        Blocking.Begun reply setting (moves ++ later) after ∧
        ∀ call f, after = .failing call f → f.isCancellation = false := by
  intro later q goes
  have heeded := run.heeded asked goes
  have whole := run.append goes
  have coherent := whole.courses.coherent
  have inactive := whole.courses.inactive
  refine ⟨heeded, whole.kills, fun m r hm => ?_, fun saved after waits called => ?_⟩
  · exact Blocking.act_heedsClose coherent inactive heeded.asked hm
  · refine ⟨whole.begun waits called, fun call f hf => ?_⟩
    subst hf
    exact (Blocking.Play.inactive_of_waits inactive waits).2

/-- The request to close comes with an interrupt while a batch is asked for. The batch that comes is
never handed out. -/
theorem close_request_heeded_with_batch_under_way :
    ∃ p q, Blocking.Comes (BatchReply.Place.first.reply 7 [item 1]) (plainSetting .unlimited)
        [.request (.iterate .next), .request (.iterate .next), .interrupt, .requestClose] p ∧
      [Blocking.Move.outcome (.reply (BatchReply.Place.next.reply 7 [item 2])),
        .outcome (.failure .noMoreElements), .request (.iterate .tryNext)].foldlM
          Blocking.Play.act p = some q ∧
      q.history.handed = [[item 1]] ∧ q.session.isFinished = true ∧
      q.session.requests = p.session.requests ∧
      q.history.answers.getLast? = some (Blocking.closedAnswer .tryNext) := by
  obtain ⟨p, q, run, asked, goes, inCall, rests, before, last⟩ : ∃ p q,
      Blocking.Comes (BatchReply.Place.first.reply 7 [item 1]) (plainSetting .unlimited)
        [.request (.iterate .next), .request (.iterate .next), .interrupt, .requestClose] p ∧
      p.cursor.signal.closeRequested = true ∧
      [Blocking.Move.outcome (.reply (BatchReply.Place.next.reply 7 [item 2])),
        .outcome (.failure .noMoreElements), .request (.iterate .tryNext)].foldlM
          Blocking.Play.act p = some q ∧
      p.wait = some (.batch .next) ∧ q.wait = none ∧ p.history.handed = [[item 1]] ∧
      q.history.answers.getLast? = some (Blocking.closedAnswer .tryNext) :=
    ⟨_, _, ⟨_, rfl, rfl⟩, rfl, rfl, rfl, rfl, rfl, rfl⟩
  have heeded := (close_request_heeded run asked _ q goes).1
  refine ⟨p, q, run, goes, heeded.handed.trans before, ?_, heeded.requests, last⟩
  have called : p.InCall := ⟨_, inCall, fun saved after h => by cases h⟩
  rcases heeded.closed (.inl called) (by simp [Blocking.Move.returns, Outcome.isCrash])
    with finished | ⟨wait, waits, -⟩
  · exact finished
  · cases rests.symm.trans waits

end ResultCursor
