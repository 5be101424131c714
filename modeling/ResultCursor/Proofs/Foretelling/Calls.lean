import ResultCursor.Proofs.Exhaustion
import ResultCursor.Shared

/-! A `hasNext` and a `next` on the same cursor come equally far. They ask for the same batches and
clean up in the same way; at the end the one tells whether there is a batch and the other takes
it. -/

namespace ResultCursor

/-- Where a `hasNext` waits, and a `next` that has come equally far. -/
inductive Wait.Foretells : Wait → Wait → Prop where
  | batch : Foretells (.batch .hasNext) (.batch .next)
  | fetched (saved : Option Span) :
      Foretells (.kill saved (.fetched .hasNext)) (.kill saved (.fetched .next))
  | failing (saved : Option Span) {f : Failure} (real : f ≠ .noMoreElements) :
      Foretells (.kill saved (.failing .hasNext f)) (.kill saved (.failing .next f))

/-- What a `hasNext` answers where there is no batch, and what a `next` does. -/
inductive Answer.Foretells : Answer → Answer → Prop where
  | ended : Foretells (.more false) (.failed .noMoreElements)
  | failed {f : Failure} (real : f ≠ .noMoreElements) : Foretells (.failed f) (.failed f)
  | closed : Foretells (.failed (.closed .cursor)) (.failed (.closed .iterator))

namespace Answer.Foretells

variable {a a' : Answer}

theorem ended_iff (h : a.Foretells a') : a = .more false ↔ a' = .failed .noMoreElements := by
  cases h with
  | ended => simp
  | failed real => simpa using real
  | closed => simp

theorem failed_iff (h : a.Foretells a') {f : Failure} (isOpen : ∀ use, f ≠ .closed use) :
    a = .failed f ↔ f ≠ .noMoreElements ∧ a' = .failed f := by
  cases h with
  | ended => simp [eq_comm]
  | @failed g real =>
    constructor
    · rintro ⟨⟩
      exact ⟨real, rfl⟩
    · exact And.right
  | closed =>
    have cursor := isOpen .cursor
    have iterator := isOpen .iterator
    simp [cursor.symm, iterator.symm]

theorem closed_iff (h : a.Foretells a') :
    (∃ use, a = .failed (.closed use)) ↔ ∃ use, a' = .failed (.closed use) := by
  cases h with
  | ended => simp
  | failed real => rfl
  | closed => simp

theorem not_batch (h : a.Foretells a') : a ≠ .more true ∧ ∀ docs, a' ≠ .batch docs := by
  cases h <;> simp

end Answer.Foretells

/-- What a `hasNext` comes to, and a `next` from the same state. A kind of cursor is given by the
cursors around a session. -/
inductive Foretells {κ : Type} (around : Session → κ) : κ × Progress → κ × Progress → Prop where
  | batch {s : Session} {docs : List Document} (held : s.cursor.buffer = some docs) :
      Foretells around (around s, .answered (.more true))
        (around { s with cursor := s.cursor.take.1 }, .answered (.batch docs))
  | told (s : Session) {a a' : Answer} (answers : a.Foretells a') :
      Foretells around (around s, .answered a) (around s, .answered a')
  | waiting (s : Session) (sending : Sending) {wait wait' : Wait} (waits : wait.Foretells wait') :
      Foretells around (around s, .waiting sending wait) (around s, .waiting sending wait')

/-! ### Failures -/

namespace Session

variable {s t : Session} {result : Except Failure Document} {f : Failure}

/-- A request that fails does not say that there are no more batches, unless the connection did. -/
theorem settleFetch_error_ne (real : result ≠ .error .noMoreElements)
    (settled : s.settleFetch result = (t, .error f)) : f ≠ .noMoreElements := by
  intro said
  rcases settleFetch_cases settled with
      ⟨r, n, -, hf, -⟩ | ⟨g, n, hr, -, hf, -⟩ | ⟨g, n, hr, -, hf, -⟩
  · cases hf
  · cases hf
    exact real (Cursor.readNext_noMoreElements (said ▸ hr))
  · cases hf
    exact real (Cursor.readNext_noMoreElements (Cursor.named_noMoreElements said ▸ hr))

theorem beginFetch_error_ne {stop : Option Bool} (refused : s.beginFetch stop = (t, .error f)) :
    f ≠ .noMoreElements := by
  unfold beginFetch Cursor.beginFetch at refused
  cases remote : s.cursor.remote with
  | none =>
    simp only [remote, Prod.mk.injEq, Except.error.injEq] at refused
    simp [← refused.2]
  | some r =>
    cases left : s.deadline.remaining s.clock.read.1 with
    | error g =>
      obtain ⟨since, rfl⟩ := Deadline.remaining_error left
      simp only [remote, left, Prod.mk.injEq, Except.error.injEq] at refused
      simp [← refused.2]
    | ok left' =>
      simp only [remote, left] at refused
      split at refused
      · cases refused
      · cases refused
        simp

theorem refused_error_ne {u : Session} {g : Failure} {stop : Option Bool}
    (refused : s.beginFetch stop = (t, .error f))
    (settled : t.settleFetch (.error f) = (u, .error g)) : g ≠ .noMoreElements :=
  settleFetch_error_ne (fun said => beginFetch_error_ne refused (Except.error.inj said)) settled

end Session

/-! ### Blocking cursors that nobody stops -/

namespace Blocking

variable (s : Session) {f : Failure}

theorem finish_foretells :
    Foretells (Blocking.mk · {}) (finish ⟨s, {}⟩ .hasNext) (finish ⟨s, {}⟩ .next) := by
  unfold finish Session.finish
  cases held : s.cursor.buffer with
  | some docs => exact .batch held
  | none => exact .told s .ended

theorem failing_foretells (real : f ≠ .noMoreElements) :
    Foretells (Blocking.mk · {}) (failing .hasNext f ⟨s, {}⟩) (failing .next f ⟨s, {}⟩) := by
  unfold failing
  split
  · exact .told s (.failed real)
  · exact .told s (.failed real)

theorem afterCleanup_foretells {after after' : Aftermath} {go go' : Blocking → Blocking × Progress}
    (waits : ∀ saved, (Wait.kill saved after).Foretells (.kill saved after'))
    (goes : ∀ t, Foretells (Blocking.mk · {}) (go ⟨t, {}⟩) (go' ⟨t, {}⟩)) :
    Foretells (Blocking.mk · {}) (afterCleanup ⟨s, {}⟩ after go)
      (afterCleanup ⟨s, {}⟩ after' go') := by
  unfold afterCleanup
  rcases s.beginRelease (some false) with ⟨t, cleanup⟩
  cases cleanup with
  | finished => exact goes t
  | killing sending saved => exact .waiting t sending (waits saved)

theorem failWith_foretells (real : f ≠ .noMoreElements) :
    Foretells (Blocking.mk · {}) (failWith ⟨s, {}⟩ .hasNext f) (failWith ⟨s, {}⟩ .next f) := by
  unfold failWith
  split
  · exact failing_foretells s real
  · exact afterCleanup_foretells s (fun saved => .failing saved real)
      (fun t => failing_foretells t real)

theorem fetch_foretells :
    Foretells (Blocking.mk · {}) (fetch ⟨s, {}⟩ .hasNext) (fetch ⟨s, {}⟩ .next) := by
  unfold fetch
  rcases begun : s.beginFetch _ with ⟨t, f | sending⟩
  · rcases settled : t.settleFetch (.error f) with ⟨u, g | _⟩
    · have real := Session.refused_error_ne begun settled
      simpa only [begun, settled] using failWith_foretells u real
    · simpa only [begun, settled] using finish_foretells u
  · simpa only [begun] using .waiting t sending .batch

theorem proceed_foretells :
    Foretells (Blocking.mk · {}) (proceed ⟨s, {}⟩ .hasNext) (proceed ⟨s, {}⟩ .next) := by
  unfold proceed unlessInterrupted
  split
  · exact finish_foretells s
  · exact fetch_foretells s

/-- Both look again whether a batch came. -/
theorem fetched_foretells :
    Foretells (Blocking.mk · {}) (fetched .hasNext ⟨s, {}⟩) (fetched .next ⟨s, {}⟩) :=
  proceed_foretells s

theorem iterate_foretells :
    Foretells (Blocking.mk · {}) (iterate ⟨s, {}⟩ .hasNext) (iterate ⟨s, {}⟩ .next) := by
  unfold iterate
  split
  · contradiction
  · split
    · exact .told s .closed
    · exact proceed_foretells s.beginCall

theorem settleBatch_foretells {result : Except Failure Document}
    (real : result ≠ .error .noMoreElements) :
    Foretells (Blocking.mk · {}) (settleBatch ⟨s, {}⟩ .hasNext result)
      (settleBatch ⟨s, {}⟩ .next result) := by
  unfold settleBatch
  rcases settled : (s.deliver result).settleFetch result with ⟨t, f | _⟩
  · have real := Session.settleFetch_error_ne real settled
    simpa only [settled] using failWith_foretells t real
  · dsimp only
    split
    · exact fetched_foretells t
    · exact afterCleanup_foretells t .fetched fetched_foretells

theorem settle_foretells {result : Except Failure Document} {wait wait' : Wait}
    (waits : wait.Foretells wait') (real : result ≠ .error .noMoreElements) :
    Foretells (Blocking.mk · {}) (settle ⟨s, {}⟩ result wait) (settle ⟨s, {}⟩ result wait') := by
  cases waits with
  | batch => exact settleBatch_foretells s real
  | fetched saved => exact fetched_foretells ((s.deliver result).settleKill saved result)
  | failing saved real => exact failing_foretells ((s.deliver result).settleKill saved result) real

end Blocking

/-! ### Shared cursors -/

namespace Shared

variable (s : Session) (stop : Bool) {f : Failure}

theorem finish_foretells :
    Foretells (Shared.mk · stop) (finish ⟨s, stop⟩ .hasNext) (finish ⟨s, stop⟩ .next) := by
  unfold finish Session.finish
  cases held : s.cursor.buffer with
  | some docs => exact .batch held
  | none => exact .told s .ended

theorem afterCleanup_foretells {after after' : Aftermath} {go go' : Shared → Shared × Progress}
    (waits : ∀ saved, (Wait.kill saved after).Foretells (.kill saved after'))
    (goes : ∀ t, Foretells (Shared.mk · stop) (go ⟨t, stop⟩) (go' ⟨t, stop⟩)) :
    Foretells (Shared.mk · stop) (afterCleanup ⟨s, stop⟩ after go)
      (afterCleanup ⟨s, stop⟩ after' go') := by
  unfold afterCleanup
  rcases s.beginRelease none with ⟨t, cleanup⟩
  cases cleanup with
  | finished => exact goes t
  | killing sending saved => exact .waiting t sending (waits saved)

theorem failWith_foretells (real : f ≠ .noMoreElements) :
    Foretells (Shared.mk · stop) (failWith ⟨s, stop⟩ .hasNext f) (failWith ⟨s, stop⟩ .next f) := by
  unfold failWith
  split
  · exact .told s (.failed real)
  · exact afterCleanup_foretells s stop (fun saved => .failing saved real)
      (fun t => .told t (.failed real))

theorem fetch_foretells :
    Foretells (Shared.mk · stop) (fetch ⟨s, stop⟩ .hasNext) (fetch ⟨s, stop⟩ .next) := by
  unfold fetch
  rcases begun : s.beginFetch _ with ⟨t, f | sending⟩
  · rcases settled : t.settleFetch (.error f) with ⟨u, g | _⟩
    · have real := Session.refused_error_ne begun settled
      simpa only [begun, settled] using failWith_foretells u stop real
    · simpa only [begun, settled] using finish_foretells u stop
  · simpa only [begun] using .waiting t sending .batch

/-- Where a close was asked for, both are cancelled. -/
theorem proceed_foretells :
    Foretells (Shared.mk · stop) (proceed ⟨s, stop⟩ .hasNext) (proceed ⟨s, stop⟩ .next) := by
  unfold proceed
  split
  · exact finish_foretells s stop
  · split
    · exact .told s (.failed (by simp))
    · exact fetch_foretells s stop

theorem fetched_foretells :
    Foretells (Shared.mk · stop) (fetched .hasNext ⟨s, stop⟩) (fetched .next ⟨s, stop⟩) :=
  proceed_foretells s stop

theorem iterate_foretells :
    Foretells (Shared.mk · stop) (iterate ⟨s, stop⟩ .hasNext) (iterate ⟨s, stop⟩ .next) := by
  unfold iterate
  split
  · exact .told s .closed
  · exact proceed_foretells s.beginCall stop

theorem settleBatch_foretells {result : Except Failure Document}
    (real : result ≠ .error .noMoreElements) :
    Foretells (Shared.mk · stop) (settleBatch ⟨s, stop⟩ .hasNext result)
      (settleBatch ⟨s, stop⟩ .next result) := by
  unfold settleBatch
  rcases settled : (s.deliver result).settleFetch result with ⟨t, f | _⟩
  · have real := Session.settleFetch_error_ne real settled
    simpa only [settled] using failWith_foretells t stop real
  · dsimp only
    split
    · exact fetched_foretells t stop
    · exact afterCleanup_foretells t stop .fetched (fetched_foretells · stop)

theorem settle_foretells {result : Except Failure Document} {wait wait' : Wait}
    (waits : wait.Foretells wait') (real : result ≠ .error .noMoreElements) :
    Foretells (Shared.mk · stop) (settle ⟨s, stop⟩ result wait)
      (settle ⟨s, stop⟩ result wait') := by
  cases waits with
  | batch => exact settleBatch_foretells s stop real
  | fetched saved => exact fetched_foretells ((s.deliver result).settleKill saved result) stop
  | failing saved real =>
    exact .told ((s.deliver result).settleKill saved result) (.failed real)

end Shared

end ResultCursor
