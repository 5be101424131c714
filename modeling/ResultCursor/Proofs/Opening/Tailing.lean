import ResultCursor.Proofs.Limits.Requests
import ResultCursor.Proofs.Opening.Outcome
import ResultCursor.Proofs.SingleBatch

/-! Opening cursors that tail a collection. Options for tailing with a negative limit are at fault,
since that asks for a single batch. So does a negative batch size, but it is let pass: the cursor is
done when its constructor returns, although it was to stay open. -/

namespace ResultCursor

namespace Options

variable {o : Options}

theorem limit_of_tail (tails : o.tailable = true) (sound : o.fault? = none) : ¬o.limit < 0 := by
  intro below
  simp only [fault?, tails, below, Bool.not_true, Bool.and_false, Bool.false_eq_true, if_false,
    decide_true, Bool.and_true, if_true] at sound
  split at sound <;> cases sound

/-- What is asked of a cursor for tailing is a single batch only by a negative batch size. -/
theorem singleBatch_of_tail (tails : o.tailable = true) (sound : o.fault? = none) :
    o.quota.singleBatch = true ↔ o.batchSize < 0 := by
  have limit := limit_of_tail tails sound
  rw [Quota.singleBatch, Bool.or_eq_true, decide_eq_true_eq, decide_eq_true_eq]
  exact or_iff_right limit

/-- There is a limit, and so many documents reach it. -/
def Sated (o : Options) (count : Nat) : Prop := 0 < o.limit ∧ o.limit.toInt.toNat ≤ count

/-- Without a single batch, the cap is the limit if there is one. -/
theorem cap_of_many (limit : ¬o.limit < 0) (size : ¬o.batchSize < 0) :
    o.quota.cap = if o.limit = 0 then none else some o.limit.toInt.toNat := by
  unfold Quota.cap
  split
  · next below => exact absurd below limit
  · split
    · next negative => exact absurd negative size
    · by_cases given : o.limit = 0
      · simp [quota, given]
      · rw [if_neg given, ← Quota.magnitude_of_pos (pos_of_limit limit given)]
        exact if_neg given

/-- The first batch reaches the cap when it reaches the limit. -/
theorem reached_of_many (limit : ¬o.limit < 0) (size : ¬o.batchSize < 0) (ds : List Document) :
    (o.quota.charge ds).reached = true ↔ o.Sated ds.length := by
  have cap := cap_of_many limit size
  have charged : (o.quota.charge ds).cap = o.quota.cap := rfl
  rw [Quota.reached_iff, Quota.remaining, charged, cap]
  by_cases given : o.limit = 0
  · simp [given, Sated]
  · rw [if_neg given] at cap
    have positive := pos_of_limit limit given
    have fits : o.limit.toInt.toNat ≤ Quota.most := Quota.cap_le_most cap
    have remaining : o.quota.remaining = some o.limit.toInt.toNat := by
      rw [Quota.remaining, cap]
      rfl
    -- the limit fits into the word that counts, so the count stops at nothing else
    have kept : (o.quota.admitted ds).length = min o.limit.toInt.toNat ds.length := by
      rw [Quota.admitted_eq_take remaining, List.length_take]
    have fetched : (o.quota.charge ds).fetched = min o.limit.toInt.toNat ds.length := by
      simp only [Quota.charge, kept]
      simp only [quota]
      omega
    simp only [if_neg given, Option.map_some, fetched, Option.some.injEq, Sated, positive, true_and]
    omega

/-- A cursor for tailing stops after its first batch for a negative batch size, or at its limit. -/
theorem stops_of_tail (tails : o.tailable = true) (sound : o.fault? = none) (ds : List Document) :
    (o.quota.charge ds).stopsAfterBatch = true ↔ o.batchSize < 0 ∨ o.Sated ds.length := by
  have single : (o.quota.charge ds).singleBatch = true ↔ o.batchSize < 0 :=
    singleBatch_of_tail tails sound
  rw [Quota.stopsAfterBatch, Bool.or_eq_true, single]
  by_cases size : o.batchSize < 0
  · simp [size]
  · rw [reached_of_many (limit_of_tail tails sound) size]

end Options

/-! ### What is opened -/

namespace Situation

/-- The cursor is kept open: the server's cursor is there, under both leases, and nothing was sent
to end it. -/
structure KeptOpen (first : BatchReply) (setting : Setting) (S : Situation) : Prop where
  active : S.session.cursor.phase = .active
  remote : ∃ named, S.session.cursor.remote = some ⟨first.id, setting.address, named⟩
  leased : S.session.leased = true
  raised : S.session.counts = setting.counts.raised
  silent : S.session.commands = []

/-- The cursor is done with the server: it had the server's cursor ended and gave its leases
back. -/
structure LetGo (first : BatchReply) (setting : Setting) (S : Situation) : Prop where
  exhausted : S.session.cursor.phase = .exhausted
  remote : S.session.cursor.remote = none
  returned : S.session.leased = false
  counts : S.session.counts = setting.counts
  killed : ∃ kill, S.session.commands = [kill] ∧ kill.isKill = true ∧
    kill.target? = some (first.ns, first.id)

variable {reply : Document} {setting : Setting} {first : BatchReply} {S : Situation}
  (hr : BatchReply.ofDocument .first reply = .ok first) (named : first.id ≠ 0)
  (hS : Opened reply setting S)

include hr named hS

/-- With a server's cursor, only the quota makes a first reply the last. -/
theorem Opened.phase :
    S.session.cursor.phase =
      if (setting.options.quota.charge first.documents).stopsAfterBatch then .exhausted
      else .active := by
  obtain ⟨s, hs, opens, -⟩ := hS.opens
  rw [opens.cursor, Session.opened_phase, Session.phase_of_opening hr hs]
  simp [History.isLast, named]

theorem Opened.keptOpen
    (goes : (setting.options.quota.charge first.documents).stopsAfterBatch = false) :
    S.KeptOpen first setting := by
  have active := hS.phase hr named
  rw [goes, if_neg Bool.false_ne_true] at active
  obtain ⟨s, hs, opens, idle⟩ := hS.opens
  have going : s.cursor.phase ≠ .exhausted := by
    rw [← Session.opened_phase, ← opens.cursor, active]
    decide
  have left : s.opened = (s.cursor, []) := if_neg going
  obtain ⟨found, n, hf, hc, -⟩ := Session.ofReply_ok hs
  cases hr.symm.trans hf
  have leased : S.session.leased = true := hS.leased_iff.mpr active
  exact
    { active
      remote := by
        rw [opens.cursor, left, hc]
        exact ⟨named, dif_neg named⟩
      leased
      raised := congrArg Lending.counts (hS.reached.courses.lending.of_leased leased)
      silent := by rw [opens.said, left] }

theorem Opened.letGo
    (stops : (setting.options.quota.charge first.documents).stopsAfterBatch = true) :
    S.LetGo first setting := by
  have exhausted := hS.phase hr named
  rw [stops, if_pos rfl] at exhausted
  obtain ⟨s, hs, opens, idle⟩ := hS.opens
  have ended : s.cursor.phase = .exhausted := by
    rw [← Session.opened_phase, ← opens.cursor, exhausted]
  have left : s.opened = ({ s.cursor with remote := none }, s.takeKill.2.toList) := if_pos ended
  have returned : S.session.leased = false := Bool.eq_false_iff.mpr fun held => by
    cases exhausted.symm.trans (hS.leased_iff.mp held)
  obtain ⟨kill, due, isKill, target⟩ := BatchReply.kill?_eq_some first setting.address named
  exact
    { exhausted
      remote := by rw [opens.cursor, left]
      returned
      counts := (hS.reached.courses.lending.of_not_leased returned).1
      killed := by
        refine ⟨kill, ?_, isKill, target⟩
        rw [opens.said, left, Session.takeKill_of_opening hr hs, due]
        rfl }

end Situation

/-- A cursor for tailing is opened by options without a fault and a reply that can be read. It is
kept open exactly if the batch size is not negative and the first batch does not reach a limit;
otherwise its constructor is done with the server. A negative batch size is the only way in which
such options ask for a single batch. -/
theorem tailing_kept_iff {reply : Document} {setting : Setting} {first : BatchReply}
    (tails : setting.options.tailable = true) (sound : setting.options.fault? = none)
    (hr : BatchReply.ofDocument .first reply = .ok first) (named : first.id ≠ 0) :
    (setting.options.quota.singleBatch = true ↔ setting.options.batchSize < 0) ∧
    (∃ p, Blocking.start reply setting = .ok p) ∧ (∃ p, Shared.start reply setting = .ok p) ∧
    ∀ S, Situation.Opened reply setting S →
      (S.KeptOpen first setting ↔
        ¬setting.options.batchSize < 0 ∧ ¬setting.options.Sated first.documents.length) ∧
      (S.LetGo first setting ↔
        setting.options.batchSize < 0 ∨ setting.options.Sated first.documents.length) := by
  obtain ⟨s, hs⟩ := Session.ofReply_isOk sound hr
  refine ⟨Options.singleBatch_of_tail tails sound, Blocking.start_isOk hs, Shared.start_isOk hs,
    fun S hS => ?_⟩
  rw [← not_or, ← Options.stops_of_tail tails sound]
  cases stops : (setting.options.quota.charge first.documents).stopsAfterBatch with
  | false =>
    have kept := hS.keptOpen hr named stops
    refine ⟨iff_of_true kept (by simp), iff_of_false (fun gone => ?_) (by simp)⟩
    cases kept.active.symm.trans gone.exhausted
  | true =>
    have gone := hS.letGo hr named stops
    refine ⟨iff_of_false (fun kept => ?_) (by simp), iff_of_true gone rfl⟩
    cases kept.active.symm.trans gone.exhausted

/-- A limit that the first batch does not reach. -/
theorem tailing_kept_below_limit :
    ∃ first S, BatchReply.ofDocument .first (BatchReply.Place.first.reply 7 [item 1]) = .ok first ∧
      Situation.Opened (BatchReply.Place.first.reply 7 [item 1])
        { plainSetting .unlimited with options := { tailable := true, limit := 2 } } S ∧
      S.KeptOpen first
        { plainSetting .unlimited with options := { tailable := true, limit := 2 } } := by
  have opening : Blocking.Comes (BatchReply.Place.first.reply 7 [item 1])
      { plainSetting .unlimited with options := { tailable := true, limit := 2 } } [] _ :=
    ⟨_, rfl, rfl⟩
  have opened := Situation.Opened.blocking opening (by decide) rfl
  obtain ⟨-, -, -, kept⟩ := @tailing_kept_iff (BatchReply.Place.first.reply 7 [item 1])
    { plainSetting .unlimited with options := { tailable := true, limit := 2 } } _ rfl rfl rfl
    (by decide)
  refine ⟨_, _, rfl, opened, (kept _ opened).1.mpr ⟨by decide, fun sated => ?_⟩⟩
  exact absurd sated.2 (by decide)

/-- The options ask for a single batch by their batch size and are let pass. There is no limit, but
the cursor is exhausted, and the server's cursor is ended. -/
theorem tailing_let_go_by_batch_size :
    ∃ first S, ({ tailable := true, batchSize := -1 } : Options).fault? = none ∧
      ({ tailable := true, batchSize := -1 } : Options).quota.singleBatch = true ∧
      BatchReply.ofDocument .first (BatchReply.Place.first.reply 7 [item 1]) = .ok first ∧
      first.id ≠ 0 ∧
      Situation.Opened (BatchReply.Place.first.reply 7 [item 1])
        { plainSetting .unlimited with options := { tailable := true, batchSize := -1 } } S ∧
      S.session.cursor.phase = .exhausted ∧ S.session.cursor.remote = none ∧
      S.session.leased = false ∧
      ∃ kill, S.session.commands = [kill] ∧ kill.target? = some (first.ns, first.id) := by
  have opening : Blocking.Comes (BatchReply.Place.first.reply 7 [item 1])
      { plainSetting .unlimited with options := { tailable := true, batchSize := -1 } }
      [.outcome (.reply (BatchReply.Place.next.reply 0 []))] _ :=
    ⟨_, rfl, rfl⟩
  exact ⟨_, _, rfl, rfl, rfl, by decide, .blocking opening (by decide) rfl, rfl, rfl, rfl, _, rfl,
    rfl⟩

end ResultCursor
