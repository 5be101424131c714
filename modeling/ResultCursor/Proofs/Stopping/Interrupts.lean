import ResultCursor.Proofs.Stopping.Halting

/-! What an interrupt does to a blocking cursor. It ends the first call that needs a batch, or whose
request has come to a result, in place of the rest of that call. The cursor keeps what the request
brought, and it lets go of nothing that the result did not make it let go of. -/

namespace ResultCursor

namespace Blocking

variable {b : Blocking} {call : Call} {after : Aftermath} {a : Answer} {f : Failure}
  {p q : Play} {m : Move}

/-! ### Out of use -/

/-- After it has gone out of use a cursor waits for nothing but the end of its close. -/
def Play.Retired (p : Play) : Prop :=
  p.history.ended = true → ∀ wait, p.wait = some wait → wait.isClosing = true

@[simp] theorem follow_ended (h : History) (progress : Progress) :
    (h.follow progress).ended = h.ended := by
  cases progress <;> rfl

theorem hear_ended (h : History) (q : Quota) (wait : Wait) (result : Except Failure Document) :
    (h.hear q wait (.ofResult result)).ended = h.ended := by
  cases result <;> cases wait <;> simp [Outcome.ofResult, History.hear]

theorem closeWith_isClosing {wait : Wait} (hw : (b.closeWith a).2.wait? = some wait) :
    wait.isClosing = true := by
  unfold closeWith at hw
  split at hw
  · cases hw
  · unfold afterCleanup at hw
    split at hw
    · cases hw
    · cases hw
      rfl

theorem act_retired (hp : p.Retired) (hm : p.act m = some q) : q.Retired := by
  intro ended wait hw
  cases Play.acts hm with
  | request r free =>
    have used : p.history.ended = false := by simp_all [Play.isFree]
    simp [Play.follow, used] at ended
  | @outcome before o waits =>
    -- a close that has its result waits for nothing more
    have settled (result : Except Failure Document)
        (ended : (p.history.hear p.session.cursor.quota before (.ofResult result)).ended = true)
        (hw : (p.cursor.resume before (.ofResult result)).2.wait? = some wait) :
        wait.isClosing = true := by
      rw [hear_ended] at ended
      have closing := hp ended before waits
      rw [resume_ofResult] at hw
      cases before with
      | batch call => cases closing
      | kill saved after =>
        cases after with
        | closing a => cases hw
        | _ => cases closing
    simp only [Play.follow, follow_ended] at ended
    cases o with
    | reply d => exact settled (.ok d) ended hw
    | failure f => exact settled (.error f) ended hw
    | crash text =>
      have none : (p.cursor.crash text before).2.wait? = none := by
        cases before with
        | batch call => rfl
        | kill saved after => cases after <;> rfl
      cases none.symm.trans hw
  | interrupt =>
    exact hp ended wait hw
  | requestClose =>
    exact hp ended wait hw
  | adjust deadline clock =>
    exact hp ended wait hw
  | drop free =>
    have closing : p.cursor.drop.2.wait? = some wait := hw
    unfold drop at closing
    split at closing
    · cases closing
    · exact closeWith_isClosing closing

theorem Comes.retired {reply : Document} {setting : Setting} {moves : List Move}
    (run : Comes reply setting moves p) : p.Retired := by
  obtain ⟨p₀, hs, hr⟩ := run
  refine run_induction (P := Play.Retired) ?_ (fun _ _ _ hp hm => act_retired hp hm) hr
  intro ended
  unfold start at hs
  split at hs
  · cases hs
  · cases hs
    have used : (History.ofReply reply setting).ended = false := by
      unfold History.ofReply
      split <;> rfl
    simp [Play.follow, used] at ended

/-- A cursor in which a call was cancelled can be used on. -/
theorem Play.Halts.used {s : Session} (h : p.Halts m s f) (hp : p.Retired) :
    (p.hears m).ended = false := by
  have inUse {wait : Wait} (waits : p.wait = some wait) (hw : wait.isClosing = false)
      (result : Except Failure Document) :
      (p.hears (.outcome (.ofResult result))).ended = false := by
    rw [hears_outcome waits, hear_ended]
    refine Bool.eq_false_iff.mpr fun ended => ?_
    cases hw.symm.trans (hp ended _ waits)
  cases h with
  | first free needed raised =>
    have used : p.history.ended = false := by simp_all [Play.isFree]
    exact used
  | calledOff waits settled hf => exact inUse waits rfl _
  | met waits more settled active raised => exact inUse waits rfl _
  | last waits more settled inactive spared raised => exact inUse waits rfl _
  | ended waits more raised => exact inUse waits rfl _

/-! ### The batch that stays -/

/-- A move that leaves the buffer to the next call: others use the signal or the deadline, or a call
hands out nothing. -/
def Move.leavesBuffer : Move → Bool
  | .request (.iterate call) => call = .hasNext
  | .request (.setBatchSize _) => true
  | .request .inspect => true
  | .interrupt => true
  | .adjust .. => true
  | _ => false

/-- A cursor between two calls that has the batch. -/
structure Play.Holds (p : Play) (batch : List Document) : Prop where
  free : p.isFree = true
  calm : p.cursor.signal.closeRequested = false
  isOpen : p.session.cursor.phase ≠ .closed
  buffer : p.session.cursor.buffer = some batch

variable {batch : List Document}

/-- A call that finds a batch asks for none, whether or not it is interrupted. -/
theorem Play.Holds.iterate (h : p.Holds batch) (call : Call) :
    p.act (.request (.iterate call)) = some (.follow p.history
      (Blocking.finish { p.cursor with session := p.session.beginCall } call)) := by
  have isOpen : p.cursor.session.cursor.isClosed = false := by
    have isOpen : p.cursor.session.cursor.phase ≠ .closed := h.isOpen
    simpa [Cursor.isClosed] using isOpen
  have settled : p.cursor.session.beginCall.isSettled = true := by
    have buffer : p.cursor.session.cursor.buffer = some batch := h.buffer
    simp [Session.isSettled, Cursor.buffered, buffer]
  simp only [Play.act, h.free, if_true, request, Blocking.iterate, h.calm, Bool.false_eq_true,
    if_false, isOpen, proceed, settled]
  rfl

theorem Play.Holds.follow (h : p.Holds batch) {s : Session} (a : Answer)
    (hp : s.cursor.phase = p.session.cursor.phase)
    (hb : s.cursor.buffer = p.session.cursor.buffer) :
    (Play.follow p.history ({ p.cursor with session := s }, .answered a)).Holds batch where
  free := by
    have used : p.history.ended = false := by
      have free := h.free
      simp_all [isFree]
    simp [isFree, Play.follow, Progress.wait?, used]
  calm := h.calm
  isOpen := by
    show s.cursor.phase ≠ .closed
    rw [hp]
    exact h.isOpen
  buffer := hb.trans h.buffer

theorem Play.Holds.act (h : p.Holds batch) (hl : m.leavesBuffer = true) (hm : p.act m = some q) :
    q.Holds batch ∧ q.session.sendings = p.session.sendings := by
  match m, hl with
  | .request (.iterate .hasNext), _ =>
    rw [h.iterate .hasNext] at hm
    cases hm
    refine ⟨h.follow _ (by simp) (by simp), ?_⟩
    exact Session.beginCall_quietly.sendings
  | .request (.setBatchSize n), _ =>
    simp only [Play.act, h.free, if_true] at hm
    cases hm
    exact ⟨h.follow (s := p.session.setBatchSize n) .done rfl rfl, rfl⟩
  | .request .inspect, _ =>
    simp only [Play.act, h.free, if_true] at hm
    cases hm
    exact ⟨h.follow (s := p.session) _ rfl rfl, rfl⟩
  | .interrupt, _ =>
    cases hm
    exact ⟨⟨h.free, h.calm, h.isOpen, h.buffer⟩, rfl⟩
  | .adjust deadline clock, _ =>
    cases hm
    exact ⟨⟨h.free, h.calm, h.isOpen, h.buffer⟩, rfl⟩

/-- The next call for a batch returns this one and sends no command. -/
def Play.HandsOut (p : Play) (batch : List Document) : Prop :=
  ∀ (between : List Move) (q : Play), (∀ m ∈ between, m.leavesBuffer = true) →
    between.foldlM act p = some q → ∀ call : Call, call ≠ .hasNext →
    ∃ r, q.act (.request (.iterate call)) = some r ∧
      r.history.answers = q.history.answers ++ [.batch batch] ∧
      r.session.sendings = p.session.sendings

theorem Play.Holds.handsOut (h : p.Holds batch) : p.HandsOut batch := by
  intro between q left run call hcall
  have kept := run_induction_of (fun m : Move => m.leavesBuffer = true)
    (P := fun q => q.Holds batch ∧ q.session.sendings = p.session.sendings) ⟨h, rfl⟩
    (fun q q' m hl hq hm => ?_) left run
  · obtain ⟨holds, same⟩ := kept
    refine ⟨_, holds.iterate call, ?_⟩
    have buffer : q.session.beginCall.cursor.buffer = some batch := by simpa using holds.buffer
    have begun : q.session.beginCall.sendings = p.session.sendings :=
      Session.beginCall_quietly.sendings.trans same
    cases call with
    | hasNext => exact absurd rfl hcall
    | next =>
      simp only [Blocking.finish, Session.finish, buffer]
      exact ⟨rfl, begun⟩
    | tryNext =>
      simp only [Blocking.finish, Session.finish, buffer]
      exact ⟨rfl, begun⟩
  · obtain ⟨holds, same⟩ := hq.1.act hl hm
    exact ⟨holds, same.trans hq.2⟩

/-! ### Interrupted calls -/

/-- The move cancels a call. -/
def Play.Cancels (p q : Play) : Prop :=
  ∃ f, f.isCancellation = true ∧ q.history.answers = p.history.answers ++ [.failed f]

/-- The leases stay as they are, and no command is sent. -/
def Play.Spares (p q : Play) : Prop :=
  q.session.leased = p.session.leased ∧ q.session.sendings = p.session.sendings

/-- What a move does while nobody asks for a close. -/
structure Play.HeedsInterrupt (p : Play) (m : Move) (q : Play) : Prop where
  /-- A call that is cancelled has sent nothing since it was last heard of, uses up the interrupt
  and leaves the cursor open, with the batch and the leases that its request left to it. The batch
  is handed out by the next call for one. -/
  cancelled : p.Cancels q → q.cursor.signal.interrupted = false ∧ q.isFree = true ∧
    p.Keeps m q.session ∧
    ∀ batch, (p.found m).cursor.buffer = some batch → q.HandsOut batch
  /-- An interrupted call that needs a batch is cancelled. -/
  needed : ∀ s call, p.Needs m s call → p.cursor.signal.interrupted = true → p.Cancels q
  /-- An interrupted call that waits for more than an empty batch is cancelled when its request went
  well or was given up, at once or after the server's cursor was ended. -/
  during : ∀ call result t outcome, m = .outcome (.ofResult result) →
    p.wait = some (.batch call) → call ≠ .tryNext →
    (p.session.deliver result).settleFetch result = (t, outcome) →
    (∀ f, outcome = .error f → f.isCancellation = true) → p.cursor.signal.interrupted = true →
    p.Cancels q ∨
      q.cursor.signal.interrupted = true ∧ q.session.cursor.buffer = t.cursor.buffer ∧
        ∃ saved, q.wait = some (.kill saved (.fetched call))
  ended : ∀ call result saved, m = .outcome (.ofResult result) →
    p.wait = some (.kill saved (.fetched call)) → call ≠ .tryNext →
    p.cursor.signal.interrupted = true → p.Cancels q
  /-- An interrupt lasts until a call is cancelled, and no request is sent meanwhile. -/
  lasts : p.cursor.signal.interrupted = true →
    q.session.requests = p.session.requests ∧
      (q.cursor.signal.interrupted = true ∨ p.Cancels q)
  /-- Unless it is closed, or the result of a request leaves it with nothing to fetch, an
  interrupted cursor lets go of nothing. -/
  spares : p.cursor.signal.interrupted = true → m ≠ .request .close → m ≠ .drop →
    (∀ wait, p.wait = some wait →
      (∃ call, wait = .batch call) ∧ (p.found m).cursor.phase = .active) →
    p.Spares q

theorem Play.Halts.cancels {s : Session} (h : p.Halts m s f) (hc : p.situation.Coherent)
    (calm : p.cursor.signal.closeRequested = false) (hm : p.act m = some q) : p.Cancels q := by
  rw [h.act hc calm] at hm
  cases hm
  refine ⟨f, ?_, ?_⟩
  · cases h with
    | calledOff waits settled hf => exact hf
    | _ => rfl
  · show (p.hears m).answers ++ _ = _
    rw [hears_answers]

theorem Play.Halts.of_cancels (hc : p.situation.Coherent) (ha : p.control.Inactive p.session)
    (calm : p.cursor.signal.closeRequested = false) (hm : p.act m = some q) (h : p.Cancels q) :
    ∃ s f, p.Halts m s f ∧ q = .follow (p.hears m) (p.cursor.halted s f) := by
  rcases act_halts hc ha calm hm with halts | ⟨-, answers, he, none⟩
  · exact halts
  · obtain ⟨f, hf, he'⟩ := h
    have same : answers = [.failed f] := List.append_cancel_left (he.symm.trans he')
    have uncancelled := none (.failed f) (by simp [same])
    cases hf.symm.trans uncancelled

/-- An interrupted call whose request went well or was given up is cancelled, now or later. -/
theorem during_halts (hc : p.situation.Coherent) (calm : p.cursor.signal.closeRequested = false)
    (raised : p.cursor.signal.interrupted = true) {result : Except Failure Document} {t : Session}
    {outcome : Except Failure Unit} (waits : p.wait = some (.batch call)) (more : call ≠ .tryNext)
    (settled : (p.session.deliver result).settleFetch result = (t, outcome))
    (mild : ∀ f, outcome = .error f → f.isCancellation = true)
    (hm : p.act (.outcome (.ofResult result)) = some q) :
    p.Cancels q ∨
      q.cursor.signal.interrupted = true ∧ q.session.cursor.buffer = t.cursor.buffer ∧
        ∃ saved, q.wait = some (.kill saved (.fetched call)) := by
  have asking : p.session.Asking := Play.fits_of_waits hc waits
  cases outcome with
  | error f => exact .inl ((Play.Halts.calledOff waits settled (mild f rfl)).cancels hc calm hm)
  | ok done =>
    by_cases active : t.cursor.phase = .active
    · exact .inl ((Play.Halts.met waits more settled active raised).cancels hc calm hm)
    · cases hk : t.takeKill.2 with
      | none =>
        exact .inl ((Play.Halts.last waits more settled active hk raised).cancels hc calm hm)
      | some kill =>
        have leased : t.leased = true := asking.still_held settled
        simp only [Play.act, waits, Option.map_some, resume_ofResult, settle, Option.some.injEq,
          settleBatch_of_inactive (b := p.cursor) settled active,
          afterCleanup_of_some (b := { p.cursor with session := t }) hk leased] at hm
        subst hm
        exact .inr ⟨raised, by simp [Play.follow, Play.session], _, rfl⟩

theorem Play.Halts.spares {s : Session} (h : p.Halts m s f) (hc : p.situation.Coherent)
    (ha : p.control.Inactive p.session) (calm : p.cursor.signal.closeRequested = false)
    (active : (p.found m).cursor.phase = .active) (leased : p.session.leased = true)
    (hm : p.act m = some q) : p.Spares q := by
  have keeps := h.keeps hc ha
  rw [h.act hc calm] at hm
  cases hm
  exact ⟨(keeps.leased.mpr active).trans leased.symm, keeps.sendings⟩

theorem request_spares (hc : p.situation.Coherent) (ha : p.control.Inactive p.session)
    (calm : p.cursor.signal.closeRequested = false) (raised : p.cursor.signal.interrupted = true)
    {r : Request} (hclose : r ≠ .close) (hm : p.act (.request r) = some q) : p.Spares q := by
  obtain ⟨_, free⟩ := Play.acts hm
  cases r with
  | iterate call =>
    cases hn : p.session.isSettled with
    | false =>
      obtain ⟨-, active, remote⟩ := Session.isSettled_eq_false_iff.mp hn
      have leased : p.session.leased = true := by
        rw [(Play.settled_of_isFree hc free).leased, remote]
      exact (Play.Halts.first free hn raised).spares hc ha calm active leased hm
    | true =>
      have settled : p.cursor.session.beginCall.isSettled = true :=
        Session.isSettled_beginCall.trans hn
      simp only [request, Blocking.iterate, calm, proceed, settled, Bool.false_eq_true,
        if_false, if_true]
      split
      · exact ⟨rfl, rfl⟩
      · exact ⟨(Session.finish_leased call).trans Session.beginCall_leased,
          (Session.finish_sendings call).trans Session.beginCall_quietly.sendings⟩
  | close => exact absurd rfl hclose
  | setBatchSize n => exact ⟨rfl, rfl⟩
  | inspect => exact ⟨rfl, rfl⟩

theorem result_spares (hc : p.situation.Coherent) (ha : p.control.Inactive p.session)
    (calm : p.cursor.signal.closeRequested = false) (raised : p.cursor.signal.interrupted = true)
    (waits : p.wait = some (.batch call)) (result : Except Failure Document)
    (active : (p.found (.outcome (.ofResult result))).cursor.phase = .active)
    (hm : p.act (.outcome (.ofResult result)) = some q) : p.Spares q := by
  have asking : p.session.Asking := Play.fits_of_waits hc waits
  have leased : p.session.leased = true := asking.held
  rcases settled : (p.session.deliver result).settleFetch result with ⟨t, outcome⟩
  have found := Play.found_batch waits settled
  cases outcome with
  | error f =>
    have mild := Session.isCancellation_of_active settled (found ▸ active)
    exact (Play.Halts.calledOff waits settled mild).spares hc ha calm active leased hm
  | ok done =>
    have stays : t.cursor.phase = .active := found ▸ active
    by_cases more : call = .tryNext
    · simp only [Play.act, waits, Option.map_some, resume_ofResult, settle,
        settleBatch_of_active (b := p.cursor) settled stays, fetched, calm, Bool.false_eq_true,
        if_false, more, if_true, Option.some.injEq] at hm
      subst hm
      exact ⟨(Session.finish_leased _).trans (Session.delivered_leased settled),
        (Session.finish_sendings _).trans (Session.delivered_sendings settled)⟩
    · exact (Play.Halts.met waits more settled stays raised).spares hc ha calm active leased hm

theorem act_spares (hc : p.situation.Coherent) (ha : p.control.Inactive p.session)
    (calm : p.cursor.signal.closeRequested = false) (raised : p.cursor.signal.interrupted = true)
    (hclose : m ≠ .request .close) (hdrop : m ≠ .drop)
    (stays : ∀ wait, p.wait = some wait →
      (∃ call, wait = .batch call) ∧ (p.found m).cursor.phase = .active)
    (hm : p.act m = some q) : p.Spares q := by
  cases Play.acts hm with
  | request r free => exact request_spares hc ha calm raised (fun h => hclose (by rw [h])) hm
  | @outcome wait o waits =>
    obtain ⟨⟨call, rfl⟩, active⟩ := stays wait waits
    cases o with
    | reply d => exact result_spares hc ha calm raised waits (.ok d) active hm
    | failure f => exact result_spares hc ha calm raised waits (.error f) active hm
    | crash text => exact ⟨rfl, rfl⟩
  | interrupt => exact ⟨rfl, rfl⟩
  | requestClose => exact ⟨rfl, rfl⟩
  | adjust deadline clock => exact ⟨rfl, rfl⟩
  | drop free => exact absurd rfl hdrop

theorem act_heedsInterrupt (hc : p.situation.Coherent) (ha : p.control.Inactive p.session)
    (hr : p.Retired) (calm : p.cursor.signal.closeRequested = false) (hm : p.act m = some q) :
    p.HeedsInterrupt m q where
  cancelled h := by
    obtain ⟨s, f, halts, rfl⟩ := Play.Halts.of_cancels hc ha calm hm h
    have keeps := halts.keeps hc ha
    have free : (Play.follow (p.hears m) (p.cursor.halted s f)).isFree = true := by
      simp [Play.isFree, Play.follow, halted, Progress.wait?, halts.used hr]
    refine ⟨rfl, free, keeps, fun batch hb => Play.Holds.handsOut ?_⟩
    exact ⟨free, calm, keeps.isOpen, keeps.buffer.trans hb⟩
  needed s call needs raised := by
    cases needs with
    | first free needed => exact (Play.Halts.first free needed raised).cancels hc calm hm
    | again waits more settled needed =>
      have active := (Session.isSettled_eq_false_iff.mp needed).2.1
      exact (Play.Halts.met waits more settled active raised).cancels hc calm hm
  during call result t outcome hres waits more settled mild raised := by
    subst hres
    exact during_halts hc calm raised waits more settled mild hm
  ended call result saved hres waits more raised := by
    subst hres
    exact (Play.Halts.ended waits more raised).cancels hc calm hm
  lasts raised := by
    constructor
    · refine (act_requests ha hm).resolve_right fun asks => ?_
      simp [Signal.shouldStop, raised] at asks
    · rcases act_halts hc ha calm hm with ⟨s, f, halts, -⟩ | ⟨lasts, -⟩
      · exact .inr (halts.cancels hc calm hm)
      · exact .inl (lasts raised)
  spares raised hclose hdrop stays := act_spares hc ha calm raised hclose hdrop stays hm

/-- The interrupt of `p` has cancelled a call since, or it is still there and no request was sent.
-/
structure Play.Pends (p q : Play) : Prop where
  retired : q.Retired
  calm : q.cursor.signal.closeRequested = false
  pends : ∃ answers, q.history.answers = p.history.answers ++ answers ∧
    ((∃ a ∈ answers, a.isCancelled = true) ∨
      q.cursor.signal.interrupted = true ∧ q.session.requests = p.session.requests)

theorem Play.Pends.act {p q r : Play} (h : p.Pends q) (hc : q.situation.Coherent)
    (ha : q.control.Inactive q.session) (hclose : m ≠ .requestClose) (hm : q.act m = some r) :
    p.Pends r := by
  have calm : r.cursor.signal.closeRequested = false := by
    have asked := act_closeRequested hm
    rw [h.calm] at asked
    exact Bool.eq_false_iff.mpr fun hr => by simp [hclose] at asked; simp [hr] at asked
  obtain ⟨answers, he, pends⟩ := h.pends
  refine ⟨act_retired h.retired hm, calm, ?_⟩
  rcases act_halts hc ha h.calm hm with ⟨s, f, halts, hr⟩ | ⟨lasts, more, hr, -⟩
  · obtain ⟨f, hf, hr⟩ := halts.cancels hc h.calm hm
    refine ⟨answers ++ [.failed f], by rw [hr, he, List.append_assoc], .inl ?_⟩
    exact ⟨.failed f, by simp, hf⟩
  · refine ⟨answers ++ more, by rw [hr, he, List.append_assoc], ?_⟩
    rcases pends with ⟨a, hm, hcan⟩ | ⟨raised, same⟩
    · exact .inl ⟨a, by simp [hm], hcan⟩
    · have still : r.session.requests = q.session.requests :=
        (act_requests ha hm).resolve_right fun asks => by simp [Signal.shouldStop, raised] at asks
      exact .inr ⟨lasts raised, still.trans same⟩

end Blocking

/-- On a cursor that nobody asks to close an interrupt cancels one call. While it lasts no request
is sent, and it lasts until a call is cancelled; that one leaves the cursor open, keeps the batch
and the leases that its request left to it, and uses up the interrupt. -/
theorem interrupt_cancels_one_call {reply : Document} {setting : Setting}
    {moves : List Blocking.Move} {p : Blocking.Play} (run : Blocking.Comes reply setting moves p)
    (calm : p.cursor.signal.closeRequested = false) :
    (∀ m q, p.act m = some q → p.HeedsInterrupt m q) ∧
    (p.cursor.signal.interrupted = true →
      ∀ (later : List Blocking.Move) (q : Blocking.Play), .requestClose ∉ later →
        later.foldlM Blocking.Play.act p = some q →
        (∀ a ∈ q.history.answers.drop p.history.answers.length, a.isCancelled = false) →
        q.cursor.signal.interrupted = true ∧ q.session.requests = p.session.requests) := by
  constructor
  · intro m q hm
    exact Blocking.act_heedsInterrupt run.courses.coherent run.courses.inactive run.retired calm hm
  · intro raised later q unasked hr uncancelled
    have first : p.Pends p := ⟨run.retired, calm, [], by simp, .inr ⟨raised, rfl⟩⟩
    have kept := run_induction_of (· ≠ Blocking.Move.requestClose)
      (P := fun q => Situation.Courses reply setting q.situation ∧ p.Pends q)
      ⟨run.courses, first⟩ (fun q r m hm hq ha => ?_) (fun m hm h => unasked (h ▸ hm)) hr
    · obtain ⟨answers, he, ⟨a, ha, cancelled⟩ | pends⟩ := kept.2.pends
      · rw [he, List.drop_left] at uncancelled
        cases cancelled.symm.trans (uncancelled a ha)
      · exact pends
    · obtain ⟨courses, pends⟩ := hq
      have next := Blocking.act_courses courses ha
      exact ⟨next, pends.act courses.coherent courses.inactive hm ha⟩

/-- An interrupt comes while a request brings the last batch. The call is cancelled, and the next
one returns the batch. -/
theorem interrupt_cancels_one_call_at_last_batch :
    ∃ p q, Blocking.Comes (BatchReply.Place.first.reply 7 [item 1]) (plainSetting .unlimited)
        [.request (.iterate .next), .request (.iterate .next), .interrupt] p ∧
      p.act (.outcome (.reply (BatchReply.Place.next.reply 0 [item 2]))) = some q ∧
      p.Cancels q ∧ q.cursor.signal.interrupted = false ∧ q.session.leased = false ∧
      q.HandsOut [item 2] := by
  obtain ⟨p, q, run, calm, came, cancels, found, returned⟩ : ∃ p q,
      Blocking.Comes (BatchReply.Place.first.reply 7 [item 1]) (plainSetting .unlimited)
        [.request (.iterate .next), .request (.iterate .next), .interrupt] p ∧
      p.cursor.signal.closeRequested = false ∧
      p.act (.outcome (.reply (BatchReply.Place.next.reply 0 [item 2]))) = some q ∧
      p.Cancels q ∧
      (p.found (.outcome (.reply (BatchReply.Place.next.reply 0 [item 2])))).cursor.buffer =
        some [item 2] ∧
      q.session.leased = false :=
    ⟨_, _, ⟨_, rfl, rfl⟩, rfl, rfl, ⟨.cancelled .interrupted, rfl, rfl⟩, rfl, rfl⟩
  have heeds := (interrupt_cancels_one_call run calm).1 _ q came
  obtain ⟨used, -, -, handsOut⟩ := heeds.cancelled cancels
  exact ⟨p, q, run, came, cancels, used, returned, handsOut _ found⟩

end ResultCursor
