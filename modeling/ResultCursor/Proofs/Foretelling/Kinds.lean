import ResultCursor.Proofs.Foretelling.Pairs

/-! What `hasNext` says about `next` in both kinds of cursors. The two calls keep abreast through
every sequence of outcomes, and a batch that was foretold is handed out without another command. -/

namespace ResultCursor

/-! ### Blocking cursors -/

namespace Blocking

variable {p q : Play}

def reader : Reader Play Move where
  act := Play.act
  call call := .request (.iterate call)
  hear _ o := .outcome o
  rests p := p.wait.isNone
  session p := p.session
  answers p := p.history.answers

/-- No call is under way, and nobody stops the next one. -/
inductive Play.Unstopped : Play → Prop where
  | intro {s : Session} {h : History} (used : h.ended = false) : Unstopped ⟨⟨s, {}⟩, none, h⟩

theorem reader_follows :
    reader.Follows Play.Unstopped (Blocking.mk · {}) Play.follow resume where
  session h s x := rfl
  rests h s x := rfl
  answers h s x := rfl
  free h s x used stopped := by
    cases x with
    | answered a => exact .intro used
    | crashed text => exact .intro used
    | waiting sending wait => cases stopped
  hears h s sending wait o := rfl
  hears_none h s x o stopped := by
    cases x with
    | answered a => rfl
    | crashed text => rfl
    | waiting sending wait => cases stopped
  settles s wait wait' result waits real := by
    rw [resume_ofResult, resume_ofResult]
    exact settle_foretells s waits real
  breaks s wait wait' text waits := by
    cases waits with
    | batch => exact ⟨s, rfl, rfl⟩
    | fetched saved => exact ⟨s.breakKill saved, rfl, rfl⟩
    | failing saved real => exact ⟨s.breakKill saved, rfl, rfl⟩

/-- With a batch there a call is over at once. -/
theorem act_of_offers {s : Session} {h : History} {docs : List Document} (offers : s.Offers docs)
    (used : h.ended = false) (call : Call) :
    Play.act ⟨⟨s, {}⟩, none, h⟩ (.request (.iterate call)) =
      some ⟨⟨(s.beginCall.finish call).1, {}⟩, none, h.answer (s.beginCall.finish call).2⟩ := by
  have atOnce : iterate ⟨s, {}⟩ call = finish ⟨s.beginCall, {}⟩ call := by
    simp only [iterate, proceed, offers.not_closed, offers.isSettled, if_true, Bool.false_eq_true,
      if_false]
  have free : Play.isFree ⟨⟨s, {}⟩, none, h⟩ = true := by simp [Play.isFree, used]
  simp only [Play.act, free, if_true, request, atOnce]
  rfl

theorem reader_lawful :
    reader.Lawful Play.Unstopped (Reader.Pair (Blocking.mk · {}) Play.follow) where
  begins := by
    rintro p ⟨used⟩
    refine ⟨_, _, if_pos ?_, if_pos ?_, .lands rfl used (iterate_foretells _)⟩
    all_goals simp [Play.isFree, used]
  hears before p q o pair real := reader_follows.hears_pair pair real
  abreast before p q pair := reader_follows.abreast pair
  free before p q pair rests := reader_follows.pair_free pair rests
  again := by
    rintro p docs ⟨used⟩ offers
    refine ⟨_, act_of_offers offers used .hasNext, ?_⟩
    rw [offers.finish_hasNext]
    exact ⟨.intro used, rfl, rfl⟩
  takes := by
    rintro p docs ⟨used⟩ offers
    refine ⟨_, act_of_offers offers used .next, ?_⟩
    rw [offers.finish_next]
    exact ⟨rfl, rfl⟩

theorem Comes.predicts {reply : Document} {setting : Setting} {moves : List Move}
    {outcomes : List Outcome} (run : Comes reply setting moves p) (free : p.isFree = true)
    (unstopped : p.cursor.signal = {}) (real : ∀ o ∈ outcomes, o ≠ .failure .noMoreElements) :
    reader.Predicts p outcomes := by
  refine reader_lawful.predicts ?_ ?_ real
  · obtain ⟨⟨s, signal⟩, wait, h⟩ := p
    obtain ⟨rests, used⟩ := by simpa [Play.isFree] using free
    subst rests
    cases unstopped
    exact .intro used
  · rintro q read ⟨used⟩
    obtain ⟨later, read⟩ := Reader.run_of_reads read
    exact (run.append read).courses.sound rfl

end Blocking

/-! ### Shared cursors -/

namespace Shared

variable {p q : Play}

def reader : Reader Play Move where
  act := Play.act
  call call := .start (.iterate call)
  hear p o :=
    match p.calls.running with
    | (i, _) :: _ => .deliver i o
    | [] => .outcome o
  rests p := p.calls.running.isEmpty
  session p := p.session
  answers p := p.history.answers

/-- The cursor is in use, and no call is under way or in line. -/
inductive Play.Vacant : Play → Prop where
  | intro {c : Shared} {n : Nat} {h : History} (used : h.ended = false) :
      Vacant ⟨⟨c, {}, [], n⟩, none, none, h⟩

/-- The one call on a cursor has come so far. -/
def Play.lands (i n : Nat) (h : History) (x : Shared × Progress) : Play :=
  ⟨(Calls.alone i n x).1, none, none, h.note (Calls.alone i n x).2⟩

theorem reader_follows (stop : Bool) (i n : Nat) :
    reader.Follows Play.Vacant (Shared.mk · stop) (Play.lands i n) resume where
  session h s x := by cases x <;> rfl
  rests h s x := by cases x <;> rfl
  answers h s x := by cases x <;> rfl
  free h s x used stopped := by
    cases x with
    | answered a => exact .intro used
    | crashed text => exact .intro used
    | waiting sending wait => cases stopped
  hears h s sending wait o := Play.act_deliver_alone wait o
  hears_none h s x o stopped := by
    cases x with
    | answered a => rfl
    | crashed text => rfl
    | waiting sending wait => cases stopped
  settles s wait wait' result waits real := by
    rw [resume_ofResult, resume_ofResult]
    exact settle_foretells s stop waits real
  breaks s wait wait' text waits := by
    cases waits with
    | batch => exact ⟨s, rfl, rfl⟩
    | fetched saved => exact ⟨s.breakKill saved, rfl, rfl⟩
    | failing saved real => exact ⟨s.breakKill saved, rfl, rfl⟩

/-- The pairs of calls on a shared cursor. Both calls have the same number. -/
def Play.Paired (before : List Answer) (p q : Play) : Prop :=
  ∃ stop i n, Reader.Pair (Shared.mk · stop) (Play.lands i n) before p q

/-- With a batch there a call is over at once, also where a close was asked for. -/
theorem act_of_offers {s : Session} {stop : Bool} {h : History} {n : Nat} {docs : List Document}
    (offers : s.Offers docs) (used : h.ended = false) (call : Call) :
    Play.act ⟨⟨⟨s, stop⟩, {}, [], n⟩, none, none, h⟩ (.start (.iterate call)) =
      some ⟨⟨⟨(s.beginCall.finish call).1, stop⟩, {}, [], n + 1⟩, none, none,
        h.answer (s.beginCall.finish call).2⟩ := by
  have atOnce : iterate ⟨s, stop⟩ call = finish ⟨s.beginCall, stop⟩ call := by
    simp only [iterate, proceed, offers.not_closed, offers.isSettled, if_true, Bool.false_eq_true,
      if_false]
  rw [Play.act_start_alone used]
  simp only [Calls.announce, request, atOnce]
  rfl

theorem reader_lawful : reader.Lawful Play.Vacant Play.Paired where
  begins := by
    rintro p ⟨used⟩
    refine ⟨_, _, Play.act_start_alone used _, Play.act_start_alone used _, ?_⟩
    exact ⟨_, _, _, .lands rfl used (iterate_foretells _ _)⟩
  hears := by
    rintro before p q o ⟨stop, i, n, pair⟩ real
    rcases (reader_follows stop i n).hears_pair pair real with neither | ⟨p', q', hp, hq, pair⟩
    · exact .inl neither
    · exact .inr ⟨p', q', hp, hq, stop, i, n, pair⟩
  abreast := by
    rintro before p q ⟨stop, i, n, pair⟩
    exact (reader_follows stop i n).abreast pair
  free := by
    rintro before p q ⟨stop, i, n, pair⟩ rests
    exact (reader_follows stop i n).pair_free pair rests
  again := by
    rintro p docs ⟨used⟩ offers
    refine ⟨_, act_of_offers offers used .hasNext, ?_⟩
    rw [offers.finish_hasNext]
    exact ⟨.intro used, rfl, rfl⟩
  takes := by
    rintro p docs ⟨used⟩ offers
    refine ⟨_, act_of_offers offers used .next, ?_⟩
    rw [offers.finish_next]
    exact ⟨rfl, rfl⟩

theorem Comes.predicts {reply : Document} {setting : Setting} {moves : List Move}
    {outcomes : List Outcome} (run : Comes reply setting moves p) (used : p.inUse = true)
    (alone : p.calls.running = []) (real : ∀ o ∈ outcomes, o ≠ .failure .noMoreElements) :
    reader.Predicts p outcomes := by
  obtain ⟨used, c, n, hp⟩ := run.alone used alone
  refine reader_lawful.predicts (hp ▸ .intro used) ?_ real
  rintro q read ⟨used⟩
  obtain ⟨later, read⟩ := Reader.run_of_reads read
  exact (run.append read).courses.sound rfl

end Shared

/-- In every state that a run leaves a cursor in, `hasNext` says what `next` would do with the same
outcomes of commands. It tells of a batch exactly where `next` hands one out, of an end exactly
where `next` says that there are no more, and fails as `next` does, but for the words about a closed
cursor. A batch that was told of is there: `hasNext` can be asked again and again, and `next` hands
the batch out without another command, so that all of them come to what `next` alone comes to. The
connection itself does not say that there are no more batches, and nobody stops a blocking
cursor. -/
theorem hasNext_foretells_next (reply : Document) (setting : Setting) {outcomes : List Outcome}
    (real : ∀ o ∈ outcomes, o ≠ .failure .noMoreElements) :
    (∀ moves p, Blocking.Comes reply setting moves p → p.isFree = true → p.cursor.signal = {} →
      Blocking.reader.Predicts p outcomes) ∧
    ∀ moves p, Shared.Comes reply setting moves p → p.inUse = true → p.calls.running = [] →
      Shared.reader.Predicts p outcomes := by
  refine ⟨?_, ?_⟩
  · intro moves p run free unstopped
    exact run.predicts free unstopped real
  · intro moves p run used alone
    exact run.predicts used alone real

/-- The first batch was read. The next reply has no documents, and the one after it has the last. -/
theorem hasNext_foretells_next_after_empty_batch :
    ∃ p, Blocking.Comes (BatchReply.Place.first.reply 7 [item 1]) (plainSetting .unlimited)
        [.request (.iterate .next)] p ∧
      ∃ t u, Blocking.reader.reads p .hasNext
          [.reply (BatchReply.Place.next.reply 7 []),
            .reply (BatchReply.Place.next.reply 0 [item 2])] = some t ∧
        Blocking.reader.reads p .next
          [.reply (BatchReply.Place.next.reply 7 []),
            .reply (BatchReply.Place.next.reply 0 [item 2])] = some u ∧
        t.history.answers = p.history.answers ++ [.more true] ∧
        (∃ docs, u.history.answers = p.history.answers ++ [.batch docs]) ∧
        t.session.sendings.length = 2 ∧ u.session.sendings = t.session.sendings ∧
        0 < t.session.cursor.available := by
  have run : Blocking.Comes (BatchReply.Place.first.reply 7 [item 1]) (plainSetting .unlimited)
      [.request (.iterate .next)] _ :=
    ⟨_, rfl, rfl⟩
  have real : ∀ o ∈ [Outcome.reply (BatchReply.Place.next.reply 7 []),
      .reply (BatchReply.Place.next.reply 0 [item 2])], o ≠ .failure .noMoreElements := by simp
  obtain ⟨blocking, -⟩ := hasNext_foretells_next (BatchReply.Place.first.reply 7 [item 1])
    (plainSetting .unlimited) real
  have predicts := blocking _ _ run rfl rfl
  have foretold := predicts.foretold _ _ rfl rfl
  have kept := predicts.keeps _ _ rfl rfl rfl
  exact ⟨_, run, _, _, rfl, rfl, rfl, foretold.more.mp rfl, rfl, foretold.commands,
    kept.available⟩

end ResultCursor
