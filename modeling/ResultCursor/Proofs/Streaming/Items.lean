import ResultCursor.Playback.Routine
import ResultCursor.Proofs.Run.Situation
import ResultCursor.Proofs.Sharing.Attending

/-! What a stream passes on. A call for the next batch is answered with a batch or a failure. A
stream makes such calls as long as they are answered with batches; it passes on the batches, and the
failure that ends them unless it says that there are no more. -/

namespace ResultCursor

def Answer.isBatch (a : Answer) : Bool := a.batch?.isSome

def Answer.isFailure : Answer → Bool
  | .failed _ => true
  | _ => false

theorem Answer.isBatch_iff {a : Answer} : a.isBatch = true ↔ ∃ documents, a = .batch documents := by
  cases a <;> simp [isBatch, batch?]

theorem Answer.isFailure_iff {a : Answer} : a.isFailure = true ↔ ∃ f, a = .failed f := by
  cases a <;> simp [isFailure]

/-! ### Calls for the next batch -/

namespace Shared

/-- If this is an answer, it is a batch or a failure. -/
def Hands (x : Shared × Progress) : Prop :=
  ∀ a, x.2 = .answered a → (a.isBatch || a.isFailure) = true

variable {c : Shared}

theorem Hands.waiting (sending : Sending) (wait : Wait) : Hands (c, .waiting sending wait) :=
  fun _ answered => nomatch answered

theorem Hands.crashed (text : String) : Hands (c, .crashed text) :=
  fun _ answered => nomatch answered

theorem Hands.failed (f : Failure) : Hands (c.failed f) := by
  intro a answered
  cases answered
  rfl

theorem finish_hands : Hands (c.finish .next) := by
  intro a answered
  cases buffer : c.session.cursor.buffer with
  | none =>
    simp only [finish, Session.finish, buffer] at answered
    cases answered
    rfl
  | some batch =>
    simp only [finish, Session.finish, buffer] at answered
    cases answered
    rfl

theorem afterCleanup_hands {after : Aftermath} {go : Shared → Shared × Progress}
    (hands : ∀ c', Hands (go c')) : Hands (c.afterCleanup after go) := by
  unfold afterCleanup
  split
  · exact hands _
  · exact .waiting _ _

theorem failWith_hands {call : Call} {f : Failure} : Hands (c.failWith call f) := by
  unfold failWith
  split
  · exact .failed f
  · exact afterCleanup_hands fun _ => .failed f

theorem fetch_hands : Hands (c.fetch .next) := by
  unfold fetch
  split
  · exact .waiting _ _
  · split
    · exact finish_hands
    · exact failWith_hands

theorem proceed_hands : Hands (c.proceed .next) := by
  unfold proceed
  split
  · exact finish_hands
  · split
    · exact .failed _
    · exact fetch_hands

theorem request_hands : Hands (c.request (.iterate .next)) := by
  change Hands (c.iterate .next)
  unfold iterate
  split
  · exact .failed _
  · exact proceed_hands

theorem settleBatch_hands (result : Except Failure Document) :
    Hands (c.settleBatch .next result) := by
  unfold settleBatch
  split
  · exact failWith_hands
  · dsimp only
    split
    · exact proceed_hands
    · exact afterCleanup_hands fun _ => proceed_hands

theorem resumeAfter_hands {after : Aftermath} (serves : after.Serves (.iterate .next)) :
    Hands (c.resumeAfter after) := by
  cases after with
  | opened => exact serves.elim
  | fetched call =>
    cases serves
    exact proceed_hands
  | failing call f => exact .failed f
  | closing answer => cases serves

theorem settle_hands {wait : Wait} (serves : wait.Serves (.iterate .next))
    (result : Except Failure Document) : Hands (c.settle result wait) := by
  cases wait with
  | batch call =>
    cases serves
    exact settleBatch_hands result
  | kill saved after => exact resumeAfter_hands serves

/-- Whatever a call for the next batch waits for, it is answered with a batch or a failure. -/
theorem resume_hands {wait : Wait} (serves : wait.Serves (.iterate .next)) (o : Outcome) :
    Hands (c.resume wait o) := by
  cases o with
  | reply d => exact settle_hands serves (.ok d)
  | failure f => exact settle_hands serves (.error f)
  | crash text =>
    match wait with
    | .batch _ => exact .crashed text
    | .kill _ .opened => exact serves.elim
    | .kill _ (.fetched _) => exact .crashed text
    | .kill _ (.failing ..) => exact .crashed text
    | .kill _ (.closing _) => exact .crashed text

end Shared

/-! ### Streams -/

namespace Playback

variable {most : Nat}

/-- A stream asks for nothing but the next batch: at first, and whenever it got one, as long as it
has not got so many as are wanted. -/
theorem next?_stream_eq_some {r : Request} {history : List Answer} :
    (Routine.stream most).next? history = some r ↔
      r = .iterate .next ∧ history.length < most ∧ ∀ a ∈ history.head?, a.isBatch = true := by
  simp only [Routine.next?, Option.ite_none_right_eq_some]
  rw [and_left_comm]
  refine and_congr_right fun _ => ?_
  match history with
  | [] => simp [@eq_comm _ r]
  | a :: rest => cases a <;> simp [Answer.isBatch, Answer.batch?, @eq_comm _ r]

theorem itemsOf_append (before after : List Answer) :
    itemsOf (before ++ after) = itemsOf before ++ itemsOf after :=
  List.filter_append ..

/-- Every batch is passed on. -/
theorem itemsOf_batches {answers : List Answer} (batches : ∀ a ∈ answers, a.isBatch = true) :
    itemsOf answers = answers := by
  refine List.filter_eq_self.mpr fun a ha => ?_
  obtain ⟨documents, rfl⟩ := Answer.isBatch_iff.mp (batches a ha)
  rfl

theorem itemsOf_failed (f : Failure) :
    itemsOf [.failed f] = if Answer.isEnd (.failed f) then [] else [.failed f] := by
  cases f <;> rfl

end Playback

end ResultCursor
