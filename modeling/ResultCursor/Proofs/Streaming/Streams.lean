import ResultCursor.Proofs.Disposal.Kinds
import ResultCursor.Proofs.Streaming.Reading

/-! Streams of batches. A stream reads a shared cursor by the handle that it was made of. It calls
for the next batch until a call is answered with something else, and then lets its handle go. So it
does what a reader does who makes these calls by hand and stops at the first failure; and when the
other handles are gone too, the cursor is cleaned up as by a close. -/

namespace ResultCursor.Shared

open Playback

namespace Reading

/-- A stream that asks for nothing more lets its handle go. -/
def settle (most : Nat) (s : Reading) : Reading :=
  if s.holds && s.call.isNone && ((Routine.stream most).next? s.answers).isNone then s.letGo else s

def streamAct (most : Nat) (s : Reading) (n : Move) : Option Reading := (s.act n).map (settle most)

/-- A cursor in the hands of a reader, with other handles beside. -/
def of (p : Play) (others : Nat) : Reading := { play := p, others }

def Reads (p : Play) (others : Nat) (moves : List Move) (s : Reading) : Prop :=
  moves.foldlM act (of p others) = some s

def Streams (most : Nat) (p : Play) (others : Nat) (moves : List Move) (s : Reading) : Prop :=
  moves.foldlM (streamAct most) ((of p others).settle most) = some s

variable {reply : Document} {setting : Setting} {before : List Shared.Move} {s t : Reading}
  {most others : Nat} {moves : List Move} {n : Move} {p : Play}

theorem settle_cases (most : Nat) (s : Reading) :
    (s.settle most = s ∧ (s.holds = true → s.call = none →
      (Routine.stream most).next? s.answers = some (.iterate .next))) ∨
    (s.settle most = s.letGo ∧ s.holds = true ∧ s.call = none) := by
  unfold settle
  split
  · next ends =>
    simp only [Bool.and_eq_true, Option.isNone_iff_eq_none] at ends
    exact .inr ⟨rfl, ends.1⟩
  · next going =>
    refine .inl ⟨rfl, fun holds free => ?_⟩
    cases asks : (Routine.stream most).next? s.answers with
    | none => simp [holds, free, asks] at going
    | some r => rw [(next?_stream_eq_some.mp asks).1]

theorem settle_answers (most : Nat) (s : Reading) : (s.settle most).answers = s.answers := by
  rcases settle_cases most s with ⟨same, -⟩ | ⟨ends, -, -⟩
  · rw [same]
  · rw [ends, letGo_answers]

theorem streamAct_eq_some (made : s.streamAct most n = some t) :
    ∃ u, s.act n = some u ∧ t = u.settle most := by
  obtain ⟨u, moves, rfl⟩ := Option.map_eq_some_iff.mp made
  exact ⟨u, moves, rfl⟩

theorem settle_of_given (given : s.holds = false) : s.settle most = s := by
  simp [settle, given]

theorem settle_of_failed {f : Failure} {earlier : List Answer} (holds : s.holds = true)
    (free : s.call = none) (failed : s.answers = .failed f :: earlier) :
    s.settle most = s.letGo := by
  have ends : (Routine.stream most).next? s.answers = none := by
    refine Option.eq_none_iff_forall_ne_some.mpr fun r asks => ?_
    obtain ⟨-, -, newest⟩ := next?_stream_eq_some.mp asks
    cases newest (.failed f) (by simp [failed])
  simp [settle, holds, free, ends]

theorem settle_of_asks {r : Request} (asks : (Routine.stream most).next? s.answers = some r) :
    s.settle most = s := by
  simp [settle, asks]

theorem of_kept (run : Comes reply setting before p) (used : p.inUse = true)
    (alone : others = 0 → p.calls.running = []) : (of p others).Kept reply setting before := by
  have comes : Comes reply setting (before ++ []) p := (List.append_nil before).symm ▸ run
  refine .live (.inl rfl) ⟨⟨[], comes⟩, used, nofun, fun none j _ => ?_⟩
  simp [Calls.stage?, of, alone none]

theorem settle_kept (kept : s.Kept reply setting before) :
    (s.settle most).Kept reply setting before := by
  rcases settle_cases most s with ⟨same, -⟩ | ⟨ends, holds, free⟩
  · rwa [same]
  · rw [ends]
    cases kept with
    | live left live => exact live.letGo free
    | gone given => cases given.symm.trans holds

/-- Without its handle a reader gets no more answers, and no handle. -/
theorem Told.given (told : s.Told t) (given : s.holds = false) :
    t.holds = false ∧ t.answers = s.answers := by
  cases told with
  | nothing same kept =>
    refine ⟨Bool.eq_false_iff.mpr fun holds => ?_, same⟩
    cases given.symm.trans (kept holds)
  | answer a item more held => cases given.symm.trans held

theorem Told.suffix (told : s.Told t) : s.answers <:+ t.answers := by
  cases told with
  | nothing same kept => exact same ▸ List.suffix_refl _
  | answer a item more => exact more ▸ List.suffix_cons a _

theorem run_suffix (kept : s.Kept reply setting before) (run : moves.foldlM act s = some t) :
    s.answers <:+ t.answers := by
  have all := run_induction
    (P := fun t : Reading => t.Kept reply setting before ∧ s.answers <:+ t.answers)
    ⟨kept, List.suffix_refl _⟩
    (fun t u n ht made => ⟨act_kept ht.1 made, ht.2.trans (act_told ht.1 made).suffix⟩) run
  exact all.2

/-! ### Streams and calls by hand -/

/-- A stream without its handle is like any other reader without one. -/
theorem stream_of_given (kept : s.Kept reply setting before) (given : s.holds = false) :
    moves.foldlM (streamAct most) s = moves.foldlM act s := by
  induction moves generalizing s with
  | nil => rfl
  | cons n moves ih =>
    rw [List.foldlM_cons, List.foldlM_cons, streamAct]
    cases made : s.act n with
    | none => rfl
    | some t =>
      have still : t.holds = false := ((act_told kept made).given given).1
      rw [Option.map_some, settle_of_given still]
      exact ih (act_kept kept made) still

/-- A stream makes the moves of a reader by hand, who lets go where the stream does. -/
theorem byHand_of_stream (kept : s.Kept reply setting before)
    (run : moves.foldlM (streamAct most) (s.settle most) = some t) :
    ∃ byHand, byHand.foldlM act s = some t ∧
      (byHand = moves ∨ ∃ pre post, moves = pre ++ post ∧ byHand = pre ++ .leave :: post) := by
  induction moves generalizing s with
  | nil =>
    rcases settle_cases most s with ⟨same, -⟩ | ⟨ends, holds, free⟩
    · rw [same] at run
      exact ⟨[], run, .inl rfl⟩
    · rw [ends] at run
      refine ⟨[.leave], ?_, .inr ⟨[], [], rfl, rfl⟩⟩
      simpa [act, holds, free] using run
  | cons n moves ih =>
    rcases settle_cases most s with ⟨same, -⟩ | ⟨ends, holds, free⟩
    · rw [same] at run
      rw [List.foldlM_cons] at run
      obtain ⟨v, made, run⟩ := Option.bind_eq_some_iff.mp run
      obtain ⟨u, moved, rfl⟩ := streamAct_eq_some made
      obtain ⟨byHand, hand, alike⟩ := ih (act_kept kept moved) run
      refine ⟨n :: byHand, by simpa [moved] using hand, ?_⟩
      rcases alike with rfl | ⟨pre, post, rfl, rfl⟩
      · exact .inl rfl
      · exact .inr ⟨n :: pre, post, rfl, rfl⟩
    · have gone : s.letGo.Kept reply setting before := ends ▸ settle_kept kept
      rw [ends, stream_of_given gone (letGo_holds s)] at run
      refine ⟨.leave :: n :: moves, ?_, .inr ⟨[], n :: moves, rfl, rfl⟩⟩
      simpa [act, holds, free] using run

/-- As long as calls are answered with batches, a stream goes on. -/
theorem stream_of_byHand (kept : s.Kept reply setting before) (run : moves.foldlM act s = some t)
    (batches : ∀ a ∈ t.answers, a.isBatch = true) (few : t.answers.length < most) :
    moves.foldlM (streamAct most) (s.settle most) = some t := by
  induction moves generalizing s with
  | nil =>
    cases run
    have asks := next?_stream_eq_some.mpr
      ⟨rfl, few, fun a ha => batches a (List.mem_of_mem_head? ha)⟩
    rw [settle_of_asks asks]
    rfl
  | cons n moves ih =>
    have suffix := run_suffix kept run
    have asks := next?_stream_eq_some.mpr
      ⟨rfl, Nat.lt_of_le_of_lt suffix.length_le few,
        fun a ha => batches a (suffix.subset (List.mem_of_mem_head? ha))⟩
    rw [List.foldlM_cons] at run
    obtain ⟨u, made, run⟩ := Option.bind_eq_some_iff.mp run
    rw [settle_of_asks asks, List.foldlM_cons, streamAct, made]
    exact ih (act_kept kept made) run

/-! ### What a stream keeps -/

/-- A stream has its handle only while it asks for more; all answers but the newest are batches. -/
structure Streaming (reply : Document) (setting : Setting) (before : List Shared.Move) (most : Nat)
    (s : Reading) : Prop where
  kept : s.Kept reply setting before
  asks : s.holds = true → (Routine.stream most).next? s.answers = some (.iterate .next)
  earlier : ∀ a ∈ s.answers.tail, a.isBatch = true
  items : ∀ a ∈ s.answers, (a.isBatch || a.isFailure) = true
  few : s.answers.length ≤ most

theorem Streaming.batches (h : s.Streaming reply setting before most) (holds : s.holds = true) :
    (∀ a ∈ s.answers, a.isBatch = true) ∧ s.answers.length < most := by
  obtain ⟨-, few, newest⟩ := next?_stream_eq_some.mp (h.asks holds)
  refine ⟨fun a ha => ?_, few⟩
  have earlier := h.earlier
  revert newest ha earlier
  cases s.answers with
  | nil => simp
  | cons b rest =>
    intro newest ha earlier
    rcases List.mem_cons.mp ha with rfl | ha
    · exact newest a rfl
    · exact earlier a ha

theorem streaming_of (run : Comes reply setting before p) (used : p.inUse = true)
    (alone : others = 0 → p.calls.running = []) :
    ((of p others).settle most).Streaming reply setting before most := by
  have kept := of_kept run used alone
  have fresh : ((of p others).settle most).answers = [] := settle_answers most _
  refine ⟨settle_kept kept, fun holds => ?_, by simp [fresh], by simp [fresh], by simp [fresh]⟩
  rcases settle_cases most (of p others) with ⟨same, asks⟩ | ⟨ends, -, -⟩
  · rw [same]
    exact asks rfl rfl
  · rw [ends, letGo_holds] at holds
    cases holds

theorem streamAct_streaming (h : s.Streaming reply setting before most)
    (made : s.streamAct most n = some t) : t.Streaming reply setting before most := by
  obtain ⟨u, moved, rfl⟩ := streamAct_eq_some made
  have kept : (u.settle most).Kept reply setting before := settle_kept (act_kept h.kept moved)
  have told := act_told h.kept moved
  have asks (holds : (u.settle most).holds = true) :
      (Routine.stream most).next? u.answers = some (.iterate .next) := by
    rcases settle_cases most u with ⟨same, asks⟩ | ⟨ends, -, -⟩
    · rw [same] at holds
      cases told with
      | nothing answers held => exact answers ▸ h.asks (held holds)
      | answer a item more held stays free => exact asks holds free
    · rw [ends, letGo_holds] at holds
      cases holds
  rw [← settle_answers most u] at asks
  cases told with
  | nothing answers held =>
    have same := (settle_answers most u).trans answers
    exact ⟨kept, asks, same ▸ h.earlier, same ▸ h.items, same ▸ h.few⟩
  | answer a item more held =>
    have same := (settle_answers most u).trans more
    obtain ⟨batches, few⟩ := h.batches held
    refine ⟨kept, asks, same ▸ batches, fun b hb => ?_, same ▸ few⟩
    rw [same] at hb
    rcases List.mem_cons.mp hb with rfl | hb
    · exact item
    · exact h.items b hb

theorem Streams.streaming (run : Comes reply setting before p) (used : p.inUse = true)
    (alone : others = 0 → p.calls.running = []) (streams : Streams most p others moves s) :
    s.Streaming reply setting before most :=
  run_induction (streaming_of run used alone) (fun _ _ _ h made => streamAct_streaming h made)
    streams

/-! ### What comes of a stream -/

theorem batches_eq {answers : List Answer} (batches : ∀ a ∈ answers, a.isBatch = true) :
    ∃ got : List (List Document), answers = got.map .batch := by
  induction answers with
  | nil => exact ⟨[], rfl⟩
  | cons a rest ih =>
    obtain ⟨documents, rfl⟩ := Answer.isBatch_iff.mp (batches a List.mem_cons_self)
    obtain ⟨got, rfl⟩ := ih fun b hb => batches b (List.mem_cons_of_mem _ hb)
    exact ⟨documents :: got, rfl⟩

/-- The answers to a stream's calls, and what it passes on of them. -/
inductive Passes (s : Reading) : Prop where
  | batches (got : List (List Document)) (answers : s.answers.reverse = got.map .batch)
      (items : itemsOf s.answers.reverse = got.map .batch)
  | failure (got : List (List Document)) (f : Failure) (given : s.holds = false)
      (answers : s.answers.reverse = got.map .batch ++ [.failed f])
      (quiet : f = .noMoreElements → itemsOf s.answers.reverse = got.map .batch)
      (loud : f ≠ .noMoreElements →
        itemsOf s.answers.reverse = got.map .batch ++ [.failed f])

theorem passes_of_batches (batches : ∀ a ∈ s.answers, a.isBatch = true) : s.Passes := by
  have reversed : ∀ a ∈ s.answers.reverse, a.isBatch = true :=
    fun a ha => batches a (List.mem_reverse.mp ha)
  obtain ⟨got, answers⟩ := batches_eq reversed
  exact .batches got answers ((itemsOf_batches reversed).trans answers)

theorem Streaming.passes (h : s.Streaming reply setting before most) : s.Passes := by
  cases answers : s.answers with
  | nil => exact passes_of_batches (by simp [answers])
  | cons a earlier =>
    have batches : ∀ b ∈ earlier, b.isBatch = true := by simpa [answers] using h.earlier
    rcases Bool.or_eq_true_iff.mp (h.items a (by simp [answers])) with batch | failure
    · refine passes_of_batches fun b hb => ?_
      rw [answers] at hb
      rcases List.mem_cons.mp hb with rfl | hb
      · exact batch
      · exact batches b hb
    · obtain ⟨f, rfl⟩ := Answer.isFailure_iff.mp failure
      have given : s.holds = false := by
        refine Bool.eq_false_iff.mpr fun holds => ?_
        cases (h.batches holds).1 (.failed f) (by simp [answers])
      have reversed : ∀ b ∈ earlier.reverse, b.isBatch = true :=
        fun b hb => batches b (List.mem_reverse.mp hb)
      obtain ⟨got, same⟩ := batches_eq reversed
      have all : s.answers.reverse = got.map .batch ++ [.failed f] := by
        rw [answers, List.reverse_cons, same]
      have items : itemsOf s.answers.reverse = got.map .batch ++ itemsOf [.failed f] := by
        rw [all, itemsOf_append, itemsOf_batches (same ▸ reversed)]
      refine .failure got f given all (fun quiet => ?_) fun loud => ?_
      · subst quiet
        rw [items]
        exact List.append_nil _
      · rw [items, itemsOf_failed, if_neg (by cases f <;> simp_all [Answer.isEnd])]

theorem Kept.live_of_holds (kept : s.Kept reply setting before) (holds : s.holds = true) :
    s.Live reply setting before := by
  cases kept with
  | live left live => exact live
  | gone given => cases given.symm.trans holds

/-- A reader with its handle can go on. -/
theorem Live.polls (live : s.Live reply setting before) (holds : s.holds = true) :
    ∃ t, s.act .poll = some t := by
  have acts (r : Request) (i : Nat) : (s.play.act (.start r)).isSome = true ∧
      (s.play.act (.turn i)).isSome = true := by
    simp [Play.act, live.used]
  simp only [act, if_pos holds, ← Option.isSome_iff_exists]
  cases s.call with
  | none => simpa [drive] using (acts (.iterate .next) 0).1
  | some i => simpa [drive] using (acts .close i).2

theorem hears {i : Nat} {wait : Wait} (calls : s.call = some i)
    (waits : s.play.calls.stage? i = some (.waiting wait)) (o : Outcome) :
    ∃ t, s.act (.outcome o) = some t := by
  simp [act, calls, drive, Play.act, waits]

/-- The last handle went: the cursor is cleaned up to the same effect as by a close. -/
structure CleansUp (before : Counts) (q t : Play) : Prop where
  rests : ∃ r, disposal.ComesToRest t r
  closes : ∃ u, disposal.Takes q (.start .close) u
  same : ∀ r u, disposal.ComesToRest t r → disposal.Takes q (.start .close) u →
    r.session.effect = u.session.effect
  restored : ∀ r, disposal.ComesToRest t r → r.session.leased = false ∧
    r.session.counts = before ∧ r.session.deadline.override = q.session.deadline.override

theorem cleansUp {first : List Shared.Move} {q t : Play} (run : Comes reply setting first q)
    (used : q.inUse = true) (idle : q.calls.running = []) (dropped : q.act (.drop true) = some t) :
    CleansUp setting.counts q t := by
  have disposable := run.disposable used idle
  have ends {r : Play} (rests : disposal.ComesToRest t r) : disposal.Ends q r :=
    .drop ⟨t, dropped, rests⟩
  obtain ⟨closes, ⟨r, u, made, rests⟩, -⟩ := disposable.possible
  cases dropped.symm.trans made
  exact
    { rests := ⟨r, rests⟩
      closes
      same := fun r u rests closed => disposable.same r u (ends rests) (.close closed)
      restored := fun r rests => disposable.restored r (ends rests) }

/-- What has come of a stream so far. -/
structure Streamed (reply : Document) (setting : Setting) (before : List Shared.Move) (most : Nat)
    (p : Play) (others : Nat) (moves : List Move) (s : Reading) : Prop where
  /-- All this comes of calls by hand too, with the handle let go at the same moment. -/
  byHand : ∃ byHand, Reads p others byHand s ∧
    (byHand = moves ∨ ∃ pre post, moves = pre ++ post ∧ byHand = pre ++ .leave :: post)
  passes : s.Passes
  asks : s.holds = true → (Routine.stream most).next? s.answers = some (.iterate .next) ∧
    ∃ t, s.streamAct most .poll = some t
  hears : ∀ i wait, s.call = some i → s.play.calls.stage? i = some (.waiting wait) →
    ∀ o, ∃ t, s.streamAct most (.outcome o) = some t
  ended : s.holds = false → s.streamAct most .poll = none ∧
    ∀ (later : List Move) t, later.foldlM (streamAct most) s = some t →
      t.holds = false ∧ t.answers = s.answers
  cleaned : s.holds = false → s.others = 0 →
    ∃ (during later : List Shared.Move) (q t : Play), Comes reply setting (before ++ during) q ∧
      q.act (.drop true) = some t ∧ later.foldlM Play.act t = some s.play ∧
      CleansUp setting.counts q t

theorem Streaming.ended (h : s.Streaming reply setting before most) (given : s.holds = false)
    (run : moves.foldlM (streamAct most) s = some t) :
    t.holds = false ∧ t.answers = s.answers := by
  rw [stream_of_given h.kept given] at run
  have all := run_induction
    (P := fun t : Reading => t.Kept reply setting before ∧ t.holds = false ∧ t.answers = s.answers)
    ⟨h.kept, given, rfl⟩ (fun u v n hu made => ?_) run
  · exact all.2
  · obtain ⟨kept, given, same⟩ := hu
    obtain ⟨still, answers⟩ := (act_told kept made).given given
    exact ⟨act_kept kept made, still, answers.trans same⟩

theorem Streams.streamed (run : Comes reply setting before p) (used : p.inUse = true)
    (alone : others = 0 → p.calls.running = []) (streams : Streams most p others moves s) :
    Streamed reply setting before most p others moves s := by
  have h := streams.streaming run used alone
  have goes {n : Move} (possible : ∃ t, s.act n = some t) : ∃ t, s.streamAct most n = some t := by
    obtain ⟨t, made⟩ := possible
    exact ⟨_, congrArg (Option.map (settle most)) made⟩
  exact
    { byHand := byHand_of_stream (of_kept run used alone) streams
      passes := h.passes
      asks := fun holds => ⟨h.asks holds, goes ((h.kept.live_of_holds holds).polls holds)⟩
      hears := fun i wait calls waits o => goes (Reading.hears calls waits o)
      ended := fun given => ⟨by simp [streamAct, act, given], fun later t run => h.ended given run⟩
      cleaned := fun given none => by
        cases h.kept with
        | live left live => simp [given, none] at left
        | gone _ _ _ buried =>
          obtain ⟨during, later, q, t, comes, used, idle, dropped, after⟩ := buried
          exact ⟨during, later, q, t, comes, dropped, after, cleansUp comes used idle dropped⟩ }

/-- With the first call that fails, a stream has had the same answers, and lets its handle go. -/
theorem stream_of_failed {byHand : List Move} {u : Reading} {f : Failure}
    (kept : t.Kept reply setting before)
    (streams : byHand.foldlM (streamAct most) (s.settle most) = some t) (made : t.act n = some u)
    (failed : u.answers = .failed f :: t.answers) :
    (byHand ++ [n]).foldlM (streamAct most) (s.settle most) = some u.letGo := by
  cases act_told kept made with
  | nothing same => simp [same] at failed
  | answer a item more held holds free =>
    have ends : u.settle most = u.letGo := settle_of_failed holds free failed
    simp [List.foldlM_append, streams, streamAct, made, ends]

theorem Reads.kept (run : Comes reply setting before p) (used : p.inUse = true)
    (alone : others = 0 → p.calls.running = []) (reads : Reads p others moves s) :
    s.Kept reply setting before :=
  run_induction (of_kept run used alone) (fun _ _ _ kept made => act_kept kept made) reads

/-- A stream of a cursor in use, with any number of other handles, is a reader by hand who lets go
at the first failure. Whatever the others and the connection do, it comes to where calls for the
next batch come; it passes on their batches, in order, and the failure that ends them unless that
says that there are no more; then nothing follows. While it has its handle it goes on, and it asks
for nothing else. As long as such calls are answered with batches, a stream of more items comes to
where they do, and at the first failure it has had the same answers. When the last handle has gone,
the cursor is cleaned up as by a close. -/
theorem stream_is_calls_for_next (run : Comes reply setting before p) (used : p.inUse = true)
    (alone : others = 0 → p.calls.running = []) (most : Nat) :
    (∀ moves s, Streams most p others moves s →
      Streamed reply setting before most p others moves s) ∧
    ∀ byHand t, Reads p others byHand t → (∀ a ∈ t.answers, a.isBatch = true) →
      t.answers.length < most → Streams most p others byHand t ∧
      ∀ n u f, t.act n = some u → u.answers = .failed f :: t.answers →
        Streams most p others (byHand ++ [n]) u.letGo := by
  refine ⟨fun moves s streams => streams.streamed run used alone, ?_⟩
  intro byHand t reads batches few
  have streams := stream_of_byHand (of_kept run used alone) reads batches few
  refine ⟨streams, fun n u f made failed => ?_⟩
  exact stream_of_failed (Reads.kept run used alone reads) streams made failed

/-- A stream that two batches come to, the second of them after somebody asked for a close, which is
made before the stream goes on; and one that is given up, with the only handle, while it waits for
the second. -/
theorem stream_is_calls_for_next_beside_close :
    ∃ p, Comes (BatchReply.Place.first.reply 7 [item 1]) (plainSetting .unlimited) [] p ∧
      (∃ s, Streams 5 p 1 [.poll, .poll, .other (.start .close),
          .outcome (.reply (BatchReply.Place.next.reply 7 [item 2])), .other (.turn 2),
          .other (.deliver 2 (.reply [])), .poll, .quit] s ∧
        itemsOf s.answers.reverse =
          [.batch [item 1], .batch [item 2], .failed (.closed .iterator)] ∧
        s.Passes ∧ s.holds = false ∧ s.others = 0 ∧ s.play.session.commands.length = 2) ∧
      ∃ s q t, Streams 5 p 0 [.poll, .poll, .leave] s ∧ q.act (.drop true) = some t ∧
        CleansUp ⟨1, 1⟩ q t := by
  obtain ⟨p, run, used, idle, ⟨s, closed, items, given, none, sent⟩, u, given', none', left⟩ :
      ∃ p, Comes (BatchReply.Place.first.reply 7 [item 1]) (plainSetting .unlimited) [] p ∧
        p.inUse = true ∧ p.calls.running = [] ∧
        (∃ s, Streams 5 p 1 [.poll, .poll, .other (.start .close),
            .outcome (.reply (BatchReply.Place.next.reply 7 [item 2])), .other (.turn 2),
            .other (.deliver 2 (.reply [])), .poll, .quit] s ∧
          itemsOf s.answers.reverse =
            [.batch [item 1], .batch [item 2], .failed (.closed .iterator)] ∧
          s.holds = false ∧ s.others = 0 ∧ s.play.session.commands.length = 2) ∧
        ∃ u : Reading, u.holds = false ∧ u.others = 0 ∧ Streams 5 p 0 [.poll, .poll, .leave] u :=
    ⟨_, ⟨_, rfl, rfl⟩, rfl, rfl, ⟨_, rfl, rfl, rfl, rfl, rfl⟩, _, rfl, rfl, rfl⟩
  have another : 1 = 0 → p.calls.running = [] := nofun
  have alone : 0 = 0 → p.calls.running = [] := fun _ => idle
  have besideOne := (stream_is_calls_for_next run used another 5).1
  obtain ⟨during, later, q, t, -, dropped, -, cleans⟩ :=
    ((stream_is_calls_for_next run used alone 5).1 _ _ left).cleaned given' none'
  exact ⟨p, run, ⟨s, closed, items, (besideOne _ _ closed).passes, given, none, sent⟩, u, q, t,
    left, dropped, cleans⟩

end Reading

end ResultCursor.Shared
