import ResultCursor.Proofs.Course.Deadlines
import ResultCursor.Proofs.Draining.Landing
import ResultCursor.Proofs.Exhaustion
import ResultCursor.Proofs.Leases

/-! A cursor that reads a collection, between two calls. Either there is more to fetch, and the
server keeps a cursor at the place where the newest batch ended, or all is fetched, and the server
keeps none. -/

namespace ResultCursor

open Peer (MemoryServer)

/-- The leases are held as before, and the deadline is the same but for its override. -/
structure Session.Holds (s t : Session) : Prop where
  leased : t.leased = s.leased
  counts : t.counts = s.counts
  overall : t.deadline.overall = s.deadline.overall

/-- Without a deadline, the start of a call sets none. -/
theorem Session.beginCall_holds {s : Session} (hd : s.deadline.overall = (none, none)) :
    s.Holds s.beginCall where
  leased := beginCall_leased
  counts := beginCall_counts
  overall := by
    have timeout : s.deadline.timeout = none := congrArg Prod.fst hd
    unfold beginCall
    split
    · rfl
    · simp only [Deadline.restart, timeout]

/-- A collection that is read up to a cap, by a cursor that was opened over these counts. -/
structure Reading where
  collections : List (String × List Document)
  ns : String
  name : Namespace
  named : Namespace.ofText? ns = some name
  cap : Option Nat
  counts : Counts

namespace Reading

/-- The documents of the collection. -/
def documents (r : Reading) : List Document := (r.collections.lookup r.ns).getD []

/-- The documents to be handed out. -/
def goal (r : Reading) : List Document := upTo r.cap r.documents

theorem goal_length_le (r : Reading) : r.goal.length ≤ r.documents.length := by
  unfold goal upTo
  split
  · exact Nat.le_refl _
  · exact List.length_take_le' _ _

/-- What holds whether or not there is more to fetch. -/
structure Calm (r : Reading) (s : Session) (y : MemoryServer) : Prop where
  server : y.Calm r.collections
  unlimited : s.deadline.overall = (none, none)
  lent : s.counts = if s.leased then r.counts.raised else r.counts
  usable : s.cursor.connectionBroken = false
  settled : s.cursor.inFlight = false

/-- Nothing is to be fetched beyond the documents at hand. The server's cursor may be left. -/
structure Spent (r : Reading) (rest : List Document) (s : Session) (y : MemoryServer) : Prop
    extends r.Calm s y where
  phase : s.cursor.phase = .exhausted
  leased : s.cursor.remote.isSome → s.leased = true
  cursors : y.cursors.map (·.id) = s.cursor.remote.toList.map (·.id)
  buffer : s.cursor.buffer = Cursor.bufferOf rest

/-- Nothing is to be fetched, and nothing is left to let go of. -/
structure Done (r : Reading) (rest : List Document) (s : Session) (y : MemoryServer) : Prop
    extends r.Spent rest s y where
  free : s.leased = false

/-- The documents from number `k` on are to be fetched, and a batch may be at hand. -/
structure Open (r : Reading) (k : Nat) (batch : List Document) (s : Session) (y : MemoryServer) :
    Prop extends r.Calm s y where
  phase : s.cursor.phase = .active
  leased : s.leased = true
  cursors : ∃ remote, s.cursor.remote = some remote ∧
    y.cursors = [⟨remote.id, r.ns, k, false, false⟩]
  ns : s.cursor.ns = r.name
  quota : s.cursor.quota.At r.cap k
  plain : s.cursor.quota.singleBatch = false
  more : k < r.documents.length
  below : r.cap ≠ some k
  buffer : s.cursor.buffer = Cursor.bufferOf batch

/-- These documents are still to be handed out. -/
inductive Owes (r : Reading) (rest : List Document) (s : Session) (y : MemoryServer) : Prop where
  | done (h : r.Done rest s y)
  | more {k : Nat} {batch : List Document} (h : r.Open k batch s y)
      (hr : rest = batch ++ r.goal.drop k)

/-- A reply was taken over, after which these documents are to be handed out. -/
inductive Took (r : Reading) (rest : List Document) (s : Session) (y : MemoryServer) : Prop where
  | last (h : r.Spent rest s y)
  | more {k : Nat} {batch : List Document} (h : r.Open k batch s y) (nonempty : batch ≠ [])
      (hr : rest = batch ++ r.goal.drop k)

variable {r : Reading} {s t : Session} {y z : MemoryServer} {rest batch : List Document} {k : Nat}

theorem Calm.holds (h : r.Calm s y) (hold : s.Holds t)
    (hb : t.cursor.connectionBroken = s.cursor.connectionBroken)
    (hf : t.cursor.inFlight = s.cursor.inFlight) : r.Calm t y :=
  ⟨h.server, hold.overall.trans h.unlimited, by rw [hold.counts, hold.leased]; exact h.lent,
    hb.trans h.usable, hf.trans h.settled⟩

theorem Done.remote (h : r.Done rest s y) : s.cursor.remote = none := by
  cases hr : s.cursor.remote with
  | none => rfl
  | some remote => exact absurd (h.leased (by simp [hr])) (by simp [h.free])

theorem Done.no_cursors (h : r.Done rest s y) : y.cursors = [] := by
  simpa [h.remote] using h.cursors

theorem Done.counts_eq (h : r.Done rest s y) : s.counts = r.counts := by
  simpa [h.free] using h.lent

/-- There is always something left to hand out as long as there is more to fetch. -/
theorem Open.goal_drop_ne_nil (h : r.Open k batch s y) : r.goal.drop k ≠ [] := by
  have more := h.more
  have below := h.below
  have quota := h.quota.fetched
  simp only [goal, ne_eq, List.drop_eq_nil_iff]
  cases hc : r.cap with
  | none => simpa [upTo] using more
  | some c =>
    have := (quota c hc).2
    have : c ≠ k := fun he => below (he ▸ hc)
    simp only [upTo, List.length_take]
    omega

/-! ### Replies -/

/-- A reply with the next documents. -/
def reply (r : Reading) (id : Int64) (batch : List Document) : BatchReply :=
  ⟨r.name, id, batch, none, none⟩

variable {c : Cursor} {id : Int64}

/-- A reply after which nothing more is to be fetched. -/
theorem spent_of_absorb (h : r.Calm t y) (hc : t.cursor = c.absorb (r.reply id batch))
    (kept : c.quota.admitted batch = batch)
    (last : id = 0 ∨ (c.quota.charge batch).stopsAfterBatch = true)
    (leased : id ≠ 0 → t.leased = true)
    (cursors : y.cursors.map (·.id) = if id = 0 then [] else [id]) : r.Spent batch t y := by
  have remote : t.cursor.remote = RemoteCursor.ofId? id c.address := by rw [hc]; rfl
  refine ⟨h, ?_, fun hs => leased fun hz => ?_, ?_, ?_⟩
  · have ended : History.isLast c.quota (r.reply id batch) = true :=
      Bool.or_eq_true_iff.mpr (last.imp_left decide_eq_true)
    rw [hc, Cursor.absorb_phase, ended, if_pos rfl]
  · simp [remote, RemoteCursor.ofId?, hz] at hs
  · rw [remote, cursors]
    by_cases hz : id = 0 <;> simp [RemoteCursor.ofId?, hz]
  · rw [hc]
    exact congrArg Cursor.bufferOf kept

/-- A reply after which there is more. -/
theorem open_of_absorb (h : r.Calm t y) (hc : t.cursor = c.absorb (r.reply id batch))
    (phase : c.phase = .active) (quota : c.quota.At r.cap k) (plain : c.quota.singleBatch = false)
    (fits : ∀ n, r.cap = some n → k + batch.length ≤ n) (below : r.cap ≠ some (k + batch.length))
    (more : k + batch.length < r.documents.length) (named : id ≠ 0) (leased : t.leased = true)
    (ns : c.ns = r.name) (cursors : y.cursors = [⟨id, r.ns, k + batch.length, false, false⟩]) :
    r.Open (k + batch.length) batch t y := by
  have charged := quota.charge fits
  have remote : t.cursor.remote = some ⟨id, c.address, named⟩ := by
    rw [hc]
    exact dif_neg named
  have goes : (c.quota.charge batch).stopsAfterBatch = false := by
    rw [Bool.eq_false_iff, ne_eq, charged.stopsAfterBatch_iff, not_or]
    exact ⟨Bool.eq_false_iff.mp plain, below⟩
  refine ⟨h, ?_, leased, ⟨_, remote, cursors⟩, ?_, ?_, ?_, more, below, ?_⟩
  · have goesOn : History.isLast c.quota (r.reply id batch) = false := by
      simp [History.isLast, reply, named, goes]
    rw [hc, Cursor.absorb_phase, goesOn, if_neg Bool.false_ne_true, phase]
  · rw [hc]
    exact ns
  · rw [hc]
    exact charged
  · rw [hc]
    exact plain
  · rw [hc]
    exact congrArg Cursor.bufferOf (quota.admitted_eq fits)

open Peer.MemoryServer (portion moved)

/-- What the server sends next: something, and no more than there is and than the cap allows. -/
theorem Open.portion_fits (more : r.Open k batch s y) :
    ∃ n, portion s.cursor.quota.effectiveBatchSize (r.documents.length - k) = n ∧ 0 < n ∧
      k + n ≤ r.documents.length ∧ ∀ c, r.cap = some c → k + n ≤ c := by
  refine ⟨_, rfl, ?_⟩
  have left := more.more
  cases hc : r.cap with
  | none =>
    refine ⟨?_, ?_, by simp⟩ <;> unfold portion <;> split <;> omega
  | some c =>
    have below : k < c := by
      have fetched := (more.quota.fetched c hc).2
      have : c ≠ k := fun he => more.below (he ▸ hc)
      omega
    obtain ⟨pos, fits⟩ := more.quota.effectiveBatchSize hc below
    have nonzero : s.cursor.quota.effectiveBatchSize ≠ 0 := by omega
    simp only [portion, nonzero, if_false, Option.some.injEq, forall_eq']
    omega

/-- The next documents were taken over. -/
theorem Open.absorbed (more : r.Open k [] s y) {remote : RemoteCursor} {n : Nat} (pos : 0 < n)
    (fits : k + n ≤ r.documents.length) (allowed : ∀ c, r.cap = some c → k + n ≤ c)
    (hc : t.cursor = s.cursor.absorb (r.reply
      (if r.documents.length ≤ k + n then 0 else remote.id) ((r.documents.drop k).take n)))
    (hold : s.Holds t) (server : z.Calm r.collections)
    (cursors : z.cursors = moved ⟨remote.id, r.ns, k, false, false⟩ n r.documents.length) :
    r.Took (r.goal.drop k) t z := by
  have size : ((r.documents.drop k).take n).length = n := by
    rw [List.length_take, List.length_drop]
    omega
  have split : r.goal.drop k = (r.documents.drop k).take n ++ r.goal.drop (k + n) := by
    rw [← take_drop_upTo allowed, ← List.drop_drop]
    exact (List.take_append_drop n _).symm
  have calm : r.Calm t z :=
    { more.toCalm.holds hold (by rw [hc]; rfl) (by rw [hc]; rfl) with server := server }
  have leased : t.leased = true := hold.leased.trans more.leased
  have room : ∀ c, r.cap = some c → k + ((r.documents.drop k).take n).length ≤ c := by
    rwa [size]
  have kept := more.quota.admitted_eq room
  have named := remote.id_ne_zero
  by_cases last : r.documents.length ≤ k + n ∨ r.cap = some (k + n)
  · apply Took.last
    rw [split, goal, drop_upTo_eq_nil last, List.append_nil]
    refine spent_of_absorb calm hc kept ?_ (fun _ => leased) ?_
    · by_cases all : r.documents.length ≤ k + n
      · exact .inl (if_pos all)
      · have reached := last.resolve_left all
        rw [(more.quota.charge room).stopsAfterBatch_iff, size]
        exact .inr (.inr reached)
    · rw [cursors, moved]
      by_cases all : r.documents.length ≤ k + n <;> simp [all, named]
  · rw [not_or] at last
    rw [if_neg last.1] at hc
    rw [moved, if_neg last.1] at cursors
    have opened := open_of_absorb calm hc more.phase more.quota more.plain room
      (by rw [size]; exact last.2) (by rw [size]; omega) named leased more.ns
      (by rw [size]; exact cursors)
    rw [size] at opened
    exact .more opened (List.ne_nil_of_length_pos (by omega)) split

/-! ### Sessions in the same state -/

theorem Owes.of_same (owes : r.Owes rest s y) (hc : t.cursor = s.cursor) (hold : s.Holds t) :
    r.Owes rest t y := by
  have calm (h : r.Calm s y) : r.Calm t y := h.holds hold (by rw [hc]) (by rw [hc])
  cases owes with
  | done done =>
    obtain ⟨⟨still, phase, leased, cursors, buffer⟩, free⟩ := done
    rw [← hc] at phase leased cursors buffer
    rw [← hold.leased] at leased free
    exact .done ⟨⟨calm still, phase, leased, cursors, buffer⟩, free⟩
  | more more hr =>
    obtain ⟨still, phase, leased, cursors, ns, quota, plain, more, below, buffer⟩ := more
    rw [← hc] at phase cursors ns quota plain buffer
    rw [← hold.leased] at leased
    exact .more ⟨calm still, phase, leased, cursors, ns, quota, plain, more, below, buffer⟩ hr

theorem Owes.calm (owes : r.Owes rest s y) : r.Calm s y := by
  cases owes with
  | done done => exact done.toCalm
  | more more hr => exact more.toCalm

theorem Owes.beginCall (owes : r.Owes rest s y) : r.Owes rest s.beginCall y :=
  owes.of_same Session.beginCall_cursor (Session.beginCall_holds owes.calm.unlimited)

/-- A batch size that is not negative changes nothing of what is to be handed out. -/
theorem Owes.setBatchSize (owes : r.Owes rest s y) {size : Int32} (hs : 0 ≤ size) :
    r.Owes rest (s.setBatchSize size) y := by
  cases owes with
  | done done =>
    obtain ⟨⟨calm, phase, leased, cursors, buffer⟩, free⟩ := done
    exact .done ⟨⟨calm.holds ⟨rfl, rfl, rfl⟩ rfl rfl, phase, leased, cursors, buffer⟩, free⟩
  | more more hr =>
    obtain ⟨calm, phase, leased, cursors, ns, quota, plain, more, below, buffer⟩ := more
    have resized : r.Open _ _ (s.setBatchSize size) y :=
      ⟨calm.holds ⟨rfl, rfl, rfl⟩ rfl rfl, phase, leased, cursors, ns, quota.withBatchSize plain hs,
        Quota.singleBatch_withBatchSize plain hs, more, below, buffer⟩
    exact .more resized hr

end Reading

end ResultCursor
