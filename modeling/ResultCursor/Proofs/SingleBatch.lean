import ResultCursor.Proofs.Limits.Quota
import ResultCursor.Proofs.Opening.Runs

/-! Cursors over a single batch. A negative limit or batch size asks for so many documents and no
more: the first reply has them all, and the cursor is done with the server when its constructor
returns, whatever batch size it is given later. -/

namespace ResultCursor

/-! ### The size of a single batch -/

/-- The absolute value. That of the least number does not fit and is read as the greatest. -/
def absolute (n : Int32) : Nat :=
  if n = Int32.minValue then Int32.maxValue.toInt.toNat else n.toInt.natAbs

namespace Options

/-- How many documents a single batch may have. -/
def singleSize (o : Options) : Nat :=
  if o.limit < 0 then absolute o.limit
  else if 0 < o.limit then min o.limit.toInt.toNat (absolute o.batchSize)
  else absolute o.batchSize

/-- What a single batch has of the documents of the first reply. -/
def single (o : Options) (ds : List Document) : List Document :=
  ds.take (min ds.length o.singleSize)

end Options

theorem Quota.magnitude_eq_absolute (n : Int32) : magnitude n = absolute n := by
  have above := n.toInt_le
  have below := n.minValue_le_toInt
  unfold magnitude most absolute
  rw [Int32.toInt_maxValue] at above ⊢
  rw [Int32.toInt_minValue] at below
  split
  · next least =>
    rw [least, Int32.toInt_minValue]
    decide
  · next greater =>
    have apart : n.toInt ≠ Int32.minValue.toInt := fun h => greater (Int32.toInt_inj.mp h)
    rw [Int32.toInt_minValue] at apart
    omega

theorem Quota.magnitude_of_pos {n : Int32} (h : 0 < n) : magnitude n = n.toInt.toNat := by
  have above := n.toInt_le
  rw [Int32.toInt_maxValue] at above
  rw [Int32.lt_iff_toInt_lt, Int32.toInt_zero] at h
  unfold magnitude most
  omega

namespace Options

variable {o : Options}

theorem pos_of_limit (limit : ¬o.limit < 0) (given : o.limit ≠ 0) : 0 < o.limit :=
  (Int32.le_iff_lt_or_eq.mp (Int32.not_lt.mp limit)).resolve_right fun h => given h.symm

variable (single : o.limit < 0 ∨ o.batchSize < 0)

include single

theorem quota_singleBatch : o.quota.singleBatch = true := by
  rw [Quota.singleBatch, Bool.or_eq_true, decide_eq_true_eq, decide_eq_true_eq]
  exact single

/-- The sign of the limit decides first, then that of the batch size. -/
theorem cap_of_single : o.quota.cap = some o.singleSize := by
  simp only [Quota.cap, quota, singleSize, Quota.magnitude_eq_absolute o.batchSize]
  by_cases below : o.limit < 0
  · rw [if_pos below, if_pos below, Quota.magnitude_eq_absolute]
  · have negative : o.batchSize < 0 := single.resolve_left below
    rw [if_neg below, if_neg below, if_pos negative]
    by_cases none : o.limit = 0
    · simp [none]
    · have positive := pos_of_limit below none
      rw [if_neg none, if_pos positive, Quota.magnitude_of_pos positive]

theorem admitted_of_single (ds : List Document) : o.quota.admitted ds = o.single ds := by
  have remaining : o.quota.remaining = some o.singleSize := by
    rw [Quota.remaining, cap_of_single single]
    rfl
  rw [Quota.admitted_eq, remaining]
  rfl

end Options

/-! ### What is opened -/

section

variable {reply : Document} {setting : Setting} {first : BatchReply} {s : Session}

/-- The first reply of a single batch is the last. -/
theorem Session.exhausted_of_single
    (single : setting.options.limit < 0 ∨ setting.options.batchSize < 0)
    (hs : Session.ofReply reply setting = .ok s) : s.cursor.phase = .exhausted := by
  obtain ⟨first, n, hr, -⟩ := Session.ofReply_ok hs
  have last : History.isLast setting.options.quota first = true := by
    have all : (setting.options.quota.charge first.documents).singleBatch = true :=
      Options.quota_singleBatch single
    simp [History.isLast, Quota.stopsAfterBatch, all]
  rw [Session.phase_of_opening hr hs, if_pos last]

end

/-! ### After the first reply -/

namespace Situation

variable {R : Rules} {S T : Situation} {reply : Document} {setting : Setting}
  {first : BatchReply}

/-- The first reply is the only one, and no other is asked for. -/
structure Single (quota : Quota) (first : BatchReply) (S : Situation) : Prop where
  arrivals : S.history.arrivals = [(quota, first)]
  inactive : S.session.cursor.phase ≠ .active
  requests : S.session.requests = []

/-- A request for a batch is under way only while the cursor is active. -/
theorem Coherent.asks_active {call : Call} (hS : S.Coherent)
    (asking : S.control = .waiting (.batch call)) : S.session.cursor.phase = .active := by
  have fits := hS.fits
  rw [asking] at fits
  exact fits.active fits.remote

theorem Step.single {quota : Quota} {before : Counts} {heard : BatchReply} (step : Step R S T)
    (hc : S.Coherent) (hi : S.Informed R before heard) (hS : S.Single quota first) :
    T.Single quota first := by
  have inactive := (step.phase hc).inactive hS.inactive
  refine ⟨?_, inactive, ?_⟩
  · cases step with
    | settle result settled => exact absurd (hc.asks_active rfl) hS.inactive
    | _ => exact hS.arrivals
  · rw [(step.speech hc).requests ?_ hi]
    · exact hS.requests
    · intro call asking
      exact absurd ((step.coherent hc).asks_active asking) inactive

theorem Courses.single (single : setting.options.limit < 0 ∨ setting.options.batchSize < 0)
    (hr : BatchReply.ofDocument .first reply = .ok first) (hS : Courses reply setting S) :
    S.Single setting.options.quota first := by
  refine hS.induction (fun s hs => ?_) fun S T hC h step => ?_
  · have exhausted := Session.exhausted_of_single single hs
    have commands : s.commands = [] := (Session.ofReply_quietly hs).commands
    exact
      { arrivals := by simp [opening, History.ofReply, hr]
        inactive := by simp [opening, exhausted]
        requests := by simp [opening, Session.requests, commands] }
  · obtain ⟨heard, -, informed⟩ := hC.informed
    exact step.single hC.coherent informed h

theorem Courses.admitted_single
    (single : setting.options.limit < 0 ∨ setting.options.batchSize < 0)
    (hr : BatchReply.ofDocument .first reply = .ok first) (hS : Courses reply setting S) :
    S.history.admitted = setting.options.single first.documents := by
  rw [History.admitted, (hS.single single hr).arrivals, List.flatMap_singleton]
  exact Options.admitted_of_single single first.documents

/-- The constructor has ended the server's cursor, if the reply named one, when it returns. -/
theorem Opened.exhausted (single : setting.options.limit < 0 ∨ setting.options.batchSize < 0)
    (hr : BatchReply.ofDocument .first reply = .ok first) (hS : Opened reply setting S) :
    S.session.cursor.phase = .exhausted ∧
      S.session.commands = (first.kill? setting.address).toList ∧
      S.history.handed = [] ∧ S.control = .idle := by
  obtain ⟨s, hs, opens, idle⟩ := hS.opens
  have exhausted := Session.exhausted_of_single single hs
  refine ⟨?_, ?_, opens.unread, idle⟩
  · rw [opens.cursor, Session.opened_phase, exhausted]
  · rw [opens.said, Session.opened, if_pos exhausted, Session.takeKill_of_opening hr hs]

end Situation

/-- A negative limit or batch size asks for a single batch. When the constructor returns, which it
does unless the command of its clean-up breaks off, the cursor is exhausted, the leases are back,
and the server's cursor was ended if the reply named one. The buffer has so many of the first
documents as were asked for, and no others are ever handed out or asked for. -/
theorem single_batch_needs_no_other (reply : Document) {setting : Setting}
    (single : setting.options.limit < 0 ∨ setting.options.batchSize < 0) :
    (∀ p, Blocking.start reply setting = .ok p → p.isFree = true ∨
      ∀ o, o.isCrash = false → ∃ q, p.act (.outcome o) = some q ∧ q.isFree = true) ∧
    (∀ p, Shared.start reply setting = .ok p → p.inUse = true ∨
      ∀ o, o.isCrash = false → ∃ q, p.act (.outcome o) = some q ∧ q.inUse = true) ∧
    ∀ first, BatchReply.ofDocument .first reply = .ok first →
      (∀ S, Situation.Opened reply setting S →
        S.session.cursor.phase = .exhausted ∧
        S.session.leased = false ∧ S.session.counts = setting.counts ∧
        (first.id = 0 → S.session.commands = []) ∧
        (first.id ≠ 0 → ∃ kill, S.session.commands = [kill] ∧ kill.isKill = true ∧
          kill.target? = some (first.ns, first.id)) ∧
        S.session.cursor.buffer.getD [] = setting.options.single first.documents) ∧
      ∀ S, Situation.Reached reply setting S →
        S.session.requests = [] ∧
        S.history.handed.flatten <+: setting.options.single first.documents ∧
        (S.session.cursor.phase ≠ .closed →
          S.history.handed.flatten ++ S.session.cursor.buffer.getD [] =
            setting.options.single first.documents) := by
  refine ⟨?_, ?_, fun first hr => ⟨?_, ?_⟩⟩
  · intro p hp
    obtain ⟨s, hs, -⟩ := Blocking.start_course (R := fun _ => True) hp
    exact Blocking.start_returns hs hp
  · intro p hp
    obtain ⟨s, hs, -⟩ := Shared.start_course (R := fun _ => True) hp
    exact Shared.start_returns hs hp
  · intro S hS
    obtain ⟨exhausted, said, unread, idle⟩ := hS.exhausted single hr
    have courses := hS.reached.courses
    have settled := courses.settled idle
    have returned : S.session.leased = false :=
      settled.not_leased (settled.remote_eq_none (by simp [exhausted]))
    have kept := courses.conserved.kept (by simp [exhausted])
    rw [unread, courses.admitted_single single hr] at kept
    refine ⟨exhausted, returned, (courses.lending.of_not_leased returned).1, ?_, ?_, kept⟩
    · intro none
      rw [said, BatchReply.kill?_eq_none _ _ none]
      rfl
    · intro named
      obtain ⟨kill, due, isKill, target⟩ := BatchReply.kill?_eq_some first setting.address named
      exact ⟨kill, by rw [said, due]; rfl, isKill, target⟩
  · intro S hS
    have courses := hS.courses
    have admitted := courses.admitted_single single hr
    refine ⟨(courses.single single hr).requests, ?_, fun open' => ?_⟩
    · rw [← admitted]
      exact courses.conserved.inOrder
    · rw [← admitted]
      exact courses.conserved.kept open'

/-- The batch size alone is negative, and less than the limit. The command of the constructor's
clean-up fails, and a batch size that is set later asks for nothing more. -/
theorem single_batch_needs_no_other_after_failure :
    ∃ S T, Situation.Opened (BatchReply.Place.first.reply 7 [item 1, item 2, item 3])
        { plainSetting .unlimited with options := { limit := 5, batchSize := -2 } } S ∧
      S.session.cursor.buffer.getD [] = [item 1, item 2] ∧
      S.session.counts = (plainSetting .unlimited).counts ∧
      (∃ kill, S.session.commands = [kill] ∧ kill.target? = some (⟨"db", "items"⟩, 7)) ∧
      Situation.Reached (BatchReply.Place.first.reply 7 [item 1, item 2, item 3])
        { plainSetting .unlimited with options := { limit := 5, batchSize := -2 } } T ∧
      T.history.handed = [[item 1, item 2]] ∧ T.session.requests = [] := by
  have opening : Blocking.Comes (BatchReply.Place.first.reply 7 [item 1, item 2, item 3])
      { plainSetting .unlimited with options := { limit := 5, batchSize := -2 } }
      [.outcome (.failure (.network "reset" none))] _ :=
    ⟨_, rfl, rfl⟩
  have reading : Blocking.Comes (BatchReply.Place.first.reply 7 [item 1, item 2, item 3])
      { plainSetting .unlimited with options := { limit := 5, batchSize := -2 } }
      [.outcome (.failure (.network "reset" none)), .request (.setBatchSize 3),
        .request (.iterate .next), .request (.iterate .next)] _ :=
    ⟨_, rfl, rfl⟩
  have opened := Situation.Opened.blocking opening (by decide) rfl
  have single : { plainSetting .unlimited with
      options := { limit := 5, batchSize := -2 } }.options.batchSize < 0 := by decide
  obtain ⟨-, -, all⟩ := single_batch_needs_no_other
    (BatchReply.Place.first.reply 7 [item 1, item 2, item 3]) (.inr single)
  obtain ⟨atFirst, later⟩ := all _ rfl
  obtain ⟨-, -, counts, -, ended, buffer⟩ := atFirst _ opened
  obtain ⟨kill, said, -, target⟩ := ended (by decide)
  exact ⟨_, _, opened, buffer, counts, ⟨kill, said, target⟩, .blocking reading, rfl,
    (later _ (.blocking reading)).1⟩

end ResultCursor
