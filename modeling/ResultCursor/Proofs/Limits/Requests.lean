import ResultCursor.Proofs.Course.Calls
import ResultCursor.Proofs.Dialogue
import ResultCursor.Proofs.Limits.Quota

/-! What a cursor asks for when it has a cap. A reply that reaches the cap stops the cursor, and a
new batch size can only lower the cap: below what was fetched already, if it is negative. The
cursor does not look at the cap before it asks, and so it asks once more then, without a size. -/

namespace ResultCursor

/-! ### The size that a request names -/

/-- The batch size is left out exactly where it is zero. -/
theorem Command.batchSize_getMore (ns : Namespace) (id : Int64) (size : Int32)
    (maxTime : Option Span) (comment : Option Bson) :
    (getMore ns id size maxTime comment).body.get? "batchSize" =
      if size = 0 then none else some (.int32 size) := by
  by_cases hs : size = 0
  · cases maxTime <;> cases comment <;>
      simp [getMore, getMoreBody, optionalEntry, Document.get?, List.lookup_cons, hs]
  · simp [getMore, getMoreBody, optionalEntry, Document.get?, List.lookup_cons, hs]

/-- Something is left of the quota, and if there is a cap then the command names a batch size, of
at least one and at most what is left. -/
structure Command.Within (q : Quota) (c : Command) : Prop where
  unreached : q.reached = false
  sized : ∀ left, q.remaining = some left →
    ∃ size, c.body.get? "batchSize" = some (.int32 size) ∧ 1 ≤ size.toInt ∧ size.toInt ≤ left

namespace Quota

variable {q : Quota}

theorem reached_iff : q.reached = true ↔ q.remaining = some 0 := by
  simp [reached]

/-- The limit leaves something to fetch. -/
structure Open (q : Quota) : Prop where
  nonneg : 0 ≤ q.limit
  below : q.limit ≠ 0 → q.fetched < magnitude q.limit

/-- The batch size is negative and asks for no more documents than were fetched already. -/
structure Overdrawn (q : Quota) : Prop where
  negative : q.batchSize < 0
  spent : magnitude q.batchSize ≤ q.fetched

theorem Open.not_lt (h : q.Open) : ¬q.limit < 0 := Int32.not_lt.mpr h.nonneg

theorem Open.withBatchSize (h : q.Open) (n : Int32) : (q.withBatchSize n).Open :=
  ⟨h.nonneg, h.below⟩

/-- A quota that does not stop after a batch is open. -/
theorem open_of_not_stops (h : q.stopsAfterBatch = false) : q.Open := by
  simp only [stopsAfterBatch, singleBatch, Bool.or_eq_false_iff, decide_eq_false_iff_not] at h
  obtain ⟨⟨hl, hb⟩, hr⟩ := h
  refine ⟨Int32.not_lt.mp hl, fun hz => ?_⟩
  have hc : q.cap = some (magnitude q.limit) := by simp [cap, hl, hb, hz]
  have hr : ¬q.remaining = some 0 := fun h => by simp [reached_iff.mpr h] at hr
  simp only [remaining, hc, Option.map_some, Option.some.injEq] at hr
  omega

/-- Of an open quota only the batch size can reach the cap. -/
theorem Open.reached_iff_overdrawn (h : q.Open) : q.reached = true ↔ q.Overdrawn := by
  rw [reached_iff, remaining]
  have below := h.below
  by_cases hb : q.batchSize < 0
  · by_cases hz : q.limit = 0
    · have hc : q.cap = some (magnitude q.batchSize) := by simp [cap, hz, hb]
      simp only [hc, Option.map_some, Option.some.injEq]
      exact ⟨fun he => ⟨hb, by omega⟩, fun he => by have := he.spent; omega⟩
    · have hc : q.cap = some (min (magnitude q.limit) (magnitude q.batchSize)) := by
        simp [cap, h.not_lt, hz, hb]
      have below := below hz
      simp only [hc, Option.map_some, Option.some.injEq]
      exact ⟨fun he => ⟨hb, by omega⟩, fun he => by have := he.spent; omega⟩
  · refine ⟨fun he => ?_, fun he => absurd he.negative hb⟩
    by_cases hz : q.limit = 0
    · simp [cap, hz, hb] at he
    · simp only [cap, h.not_lt, hb, hz, if_false, Option.map_some, Option.some.injEq] at he
      have below := below hz
      omega

end Quota

/-- A request asks for what is left: it keeps within a cap that is not reached, and names no batch
size if the cap is reached. -/
theorem Cursor.getMore_within_iff (c : Cursor) (remote : RemoteCursor) (left : Option Span) :
    ((c.getMore remote left).Within c.quota ↔ c.quota.reached = false) ∧
      (c.quota.reached = true → (c.getMore remote left).body.get? "batchSize" = none) := by
  have named : (c.getMore remote left).body.get? "batchSize" = _ :=
    Command.batchSize_getMore c.ns remote.id _ _ _
  have size := c.quota.toInt_effectiveBatchSize
  refine ⟨⟨fun h => h.unreached, fun h => ⟨h, fun n hn => ?_⟩⟩, fun h => ?_⟩
  · have hpos : 0 < n := Nat.pos_of_ne_zero fun hz => by
      simp [Quota.reached_iff.mpr (hz ▸ hn)] at h
    have hle := Quota.effectiveBatchSize_le hn
    have hge := Quota.effectiveBatchSize_pos hn hpos
    refine ⟨_, named.trans (if_neg fun hz => ?_), by omega, by omega⟩
    rw [hz, Int32.toInt_zero] at size
    omega
  · have hle := Quota.effectiveBatchSize_le (Quota.reached_iff.mp h)
    exact named.trans (if_pos (by rw [Nat.le_zero.mp hle]; rfl))

/-- The newest command is the request that the cursor makes with its present quota, and it has no
result so far. -/
def Session.Asks (s : Session) : Prop :=
  ∃ pre sending post remote left, s.journal = pre ++ .sent sending :: post ∧
    (∀ e ∈ post, e.isQuiet = true) ∧ sending.command = s.cursor.getMore remote left

namespace Session

variable {s t : Session}

theorem Asks.quietly (h : s.Asks) (hq : s.Quietly t) (hc : t.cursor = s.cursor) : t.Asks := by
  obtain ⟨pre, sending, post, remote, left, hj, hp, hcmd⟩ := h
  obtain ⟨events, ht, he⟩ := hq
  refine ⟨pre, sending, post ++ events, remote, left, ?_, fun e hm => ?_, hc ▸ hcmd⟩
  · rw [ht, hj, List.append_assoc, List.cons_append]
  · exact (List.mem_append.mp hm).elim (hp e) (he e)

theorem asks_of_beginFetch {stop : Option Bool} {sending : Sending}
    (sent : s.beginFetch stop = (t, .ok sending)) : t.Asks := by
  obtain ⟨-, remote, left, -, -, hcmd, rfl⟩ := beginFetch_ok sent
  exact ⟨s.journal, sending, [], remote, left, rfl, by simp, hcmd⟩

end Session

/-! ### Every situation -/

theorem Control.due_ne_batch (s : Session) (after : Aftermath) (call : Call) :
    due s after ≠ .waiting (.batch call) := by
  unfold due
  split <;> simp

/-- An active cursor is open as far as its limit goes, and what it waits for was asked for with its
present quota. -/
structure Situation.Capped (S : Situation) : Prop where
  opened : S.session.cursor.phase = .active → S.session.cursor.quota.Open
  asks : ∀ call, S.control = .waiting (.batch call) → S.session.Asks

namespace Situation

variable {R : Rules} {S T : Situation} {reply : Document} {setting : Setting}

section

variable {s t : Session} {c d : Control} {h h' : History}

/-- A step after which nothing is asked for keeps the quota, or ends the fetching. -/
theorem Capped.kept (hS : Capped ⟨s, c, h⟩) (hd : ∀ call, d ≠ .waiting (.batch call))
    (hc : t.cursor.phase = .active → s.cursor.phase = .active ∧ t.cursor.quota = s.cursor.quota) :
    Capped ⟨t, d, h'⟩ where
  opened ha := (hc ha).2 ▸ hS.opened (hc ha).1
  asks call hw := absurd hw (hd call)

theorem Capped.same (hS : Capped ⟨s, c, h⟩) (hd : ∀ call, d ≠ .waiting (.batch call))
    (hc : t.cursor = s.cursor) : Capped ⟨t, d, h'⟩ :=
  hS.kept hd fun ha => ⟨hc ▸ ha, by rw [hc]⟩

/-- A step between which and the server nothing is said. -/
theorem Capped.quietly (hS : Capped ⟨s, c, h⟩) (hq : s.Quietly t) (hc : t.cursor = s.cursor) :
    Capped ⟨t, c, h'⟩ where
  opened := by rw [hc]; exact hS.opened
  asks call hw := (hS.asks call hw).quietly hq hc

theorem Capped.shut (hd : ∀ call, d ≠ .waiting (.batch call)) (hp : t.cursor.phase ≠ .active) :
    Capped ⟨t, d, h'⟩ :=
  ⟨fun ha => absurd ha hp, fun call hw => absurd hw (hd call)⟩

theorem Capped.finish (hS : Capped ⟨s, c, h⟩) (call : Call) :
    Capped ⟨(s.finish call).1, .idle, h'⟩ := by
  rcases s.finish_cases call with ⟨batch, -, hf⟩ | ⟨a, hf, -⟩
  · rw [hf]
    exact hS.kept (by simp) fun ha => ⟨ha, rfl⟩
  · rw [hf]
    exact hS.same (by simp) rfl

/-- A reply that leaves the cursor active has left the quota open. -/
theorem Capped.settle {result : Except Failure Document} {outcome : Except Failure Unit}
    {after : Aftermath} (hS : Capped ⟨s, c, h⟩)
    (settled : (s.deliver result).settleFetch result = (t, outcome)) :
    Capped ⟨t, .due t after, h'⟩ := by
  have hd := Control.due_ne_batch t after
  rcases Session.settleFetch_cases settled with
      ⟨r, n, -, -, rfl⟩ | ⟨f, n, -, -, -, rfl⟩ | ⟨f, n, -, -, -, rfl⟩
  · refine ⟨fun ha => ?_, fun call hw => absurd hw (hd call)⟩
    simp only [Session.note_cursor, Cursor.absorb] at ha ⊢
    split at ha
    · cases ha
    · next hn =>
      simp only [Bool.or_eq_true, not_or, Bool.not_eq_true] at hn
      exact Quota.open_of_not_stops hn.2
  · exact hS.kept hd fun ha => ⟨ha, rfl⟩
  · exact .shut hd (by simp [Cursor.fail])

end

theorem Capped.opening {s : Session} (hs : Session.ofReply reply setting = .ok s) :
    (opening reply setting s).Capped := by
  obtain ⟨first, n, -, hc, -⟩ := Session.ofReply_ok hs
  refine ⟨fun ha => ?_, fun call hw => absurd hw (Control.due_ne_batch s .opened call)⟩
  simp only [Situation.opening, hc, Cursor.absorb] at ha ⊢
  split at ha
  · cases ha
  · next hn =>
    simp only [Bool.or_eq_true, not_or, Bool.not_eq_true] at hn
    exact Quota.open_of_not_stops hn.2

theorem Step.capped (step : Step R S T) (hc : S.Coherent) (hS : S.Capped) : T.Capped := by
  cases step with
  | adjust deadline clock => exact hS.quietly (.of_eq rfl) rfl
  | note n => exact hS.quietly (Session.note_quietly n) rfl
  | setBatchSize n =>
    exact ⟨fun ha => (hS.opened ha).withBatchSize n, fun call hw => by cases hw⟩
  | inspect => exact hS.same (by simp) rfl
  | enter call isOpen => exact hS.same (by simp) (by simp)
  | stay closed ha => exact hS.same (by simp) rfl
  | finish settled => exact hS.finish _
  | halt halt => exact hS.same (by simp) rfl
  | ask needed sent =>
    refine ⟨?_, fun _ _ => Session.asks_of_beginFetch sent⟩
    obtain ⟨-, remote, left, -, -, -, rfl⟩ := Session.beginFetch_ok sent
    exact hS.opened
  | refuse allowed needed refused settled =>
    obtain ⟨since, n, -, -, rfl⟩ := hc.refused needed refused settled
    exact .shut (Control.due_ne_batch _ _) (by simp [Cursor.fail])
  | settle result settled => exact hS.settle settled
  | lose => exact hS.same (by simp) rfl
  | takeKill => exact hS.kept (by simp) fun ha => by simpa [Session.takeKill_fst_cursor] using ha
  | spare clean => exact hS.same (by simp) (Session.cleanUp_cursor clean)
  | sendKill clean => exact hS.same (by simp) (Session.cleanUp_cursor clean)
  | settleKill result => exact hS.same (by simp) (by simp)
  | breakKill => exact hS.same (by simp) (by simp)
  | opened => exact hS.same (by simp) rfl
  | again more => exact hS.same (by simp) rfl
  | content => exact hS.finish _
  | fail => exact hS.same (by simp) rfl
  | relent returns => exact hS.same (by simp) rfl
  | shut => exact .shut (by simp) (by simp [Cursor.close])
  | close ha => exact hS.same (by simp) rfl
  | retire finished => exact hS.same (by simp) rfl
  | dropAndClose => exact hS.same (by simp) rfl
  | dropAndLeave => exact .shut (by simp) (by simp [Cursor.close])
  | forsake => exact hS.same (by simp) (by simp)
  | bury ended returned => exact .shut (by simp) (by simp [Cursor.close])

theorem Courses.capped (hS : Courses reply setting S) : S.Capped :=
  hS.induction (fun _ hs => .opening hs) fun _ _ hC hS step => step.capped hC.coherent hS

end Situation

/-- While a cursor waits for a batch, its newest command is the request for it. The request keeps
within the quota if and only if the quota is not overdrawn; if it is, then the cap is reached, and
the request leaves the size to the server. -/
theorem requests_within_cap_iff {reply : Document} {setting : Setting} {S : Situation} {call : Call}
    (hS : Situation.Reached reply setting S) (waits : S.control = .waiting (.batch call)) :
    ∃ pre sending post, S.session.journal = pre ++ .sent sending :: post ∧
      (∀ e ∈ post, e.isQuiet = true) ∧ sending.command.isGetMore = true ∧
      (sending.command.Within S.session.cursor.quota ↔ ¬S.session.cursor.quota.Overdrawn) ∧
      (S.session.cursor.quota.Overdrawn → S.session.cursor.quota.reached = true ∧
        sending.command.body.get? "batchSize" = none) := by
  have active : S.session.cursor.phase = .active := by
    have asking : S.control.Fits S.session := hS.courses.coherent.fits
    rw [waits] at asking
    exact asking.active asking.remote
  have capped := hS.courses.capped
  have reached := (capped.opened active).reached_iff_overdrawn
  obtain ⟨pre, sending, post, remote, left, hj, hq, hcmd⟩ := capped.asks call waits
  obtain ⟨within, unsized⟩ := S.session.cursor.getMore_within_iff remote left
  rw [← hcmd] at within unsized
  refine ⟨pre, sending, post, hj, hq, ?_, ?_, fun ho => ?_⟩
  · rw [hcmd]
    exact Command.isGetMore_getMore _ _ _
  · rw [within, ← reached, Bool.not_eq_true]
  · exact ⟨reached.mpr ho, unsized (reached.mpr ho)⟩

/-- A request under a limit of three, after two documents. -/
theorem request_within_limit :
    ∃ S, Situation.Reached (BatchReply.Place.first.reply 7 [item 1, item 2])
        { plainSetting .unlimited with options := { limit := 3 } } S ∧
      S.control = .waiting (.batch .next) ∧ S.session.cursor.quota.remaining = some 1 ∧
      ∃ pre sending post, S.session.journal = pre ++ .sent sending :: post ∧
        sending.command.Within S.session.cursor.quota := by
  have run : Blocking.Comes (BatchReply.Place.first.reply 7 [item 1, item 2])
      { plainSetting .unlimited with options := { limit := 3 } }
      [.request (.iterate .next), .request (.iterate .next)] _ :=
    ⟨_, rfl, rfl⟩
  obtain ⟨pre, sending, post, hj, -, -, within, -⟩ := requests_within_cap_iff (.blocking run) rfl
  exact ⟨_, .blocking run, rfl, rfl, pre, sending, post, hj,
    within.mpr fun ho => by cases ho.negative⟩

/-- Three documents came and the batch size is set to minus two. The cap is reached then, but the
next call sends a request, and without a size. -/
theorem request_past_cap :
    ¬ ∀ reply setting S call, Situation.Reached reply setting S →
      S.control = .waiting (.batch call) → S.session.cursor.quota.reached = false := by
  intro claim
  have run : Blocking.Comes (BatchReply.Place.first.reply 7 [item 1, item 2, item 3])
      (plainSetting .unlimited)
      [.request (.iterate .next), .request (.setBatchSize (-2)), .request (.iterate .next)] _ :=
    ⟨_, rfl, rfl⟩
  have reached := claim _ _ _ _ (.blocking run) rfl
  cases reached

end ResultCursor
