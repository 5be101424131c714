import ResultCursor.Proofs.Limits.Milliseconds
import ResultCursor.Proofs.Querying.Documents

/-! How long the server may wait for documents. A request of a cursor that awaits them names the
smaller of the times that bound the wait, in whole milliseconds and rounded up. Something is left of
a deadline whenever a request is sent, and so only a longest wait of no length at all, which the
options let pass, is named as zero. -/

namespace ResultCursor

/-! ### The times that bound a wait -/

namespace Options

variable {o : Options} {d : Deadline} {now : Instant} {b : Nat}

/-- What bounds a wait for documents, in nanoseconds: the longest wait that was asked for and the
time left of the deadline, each if there is one. -/
def waitBounds (o : Options) (d : Deadline) (now : Instant) : List Nat :=
  (o.maxAwait.map Span.nanos).toList ++ (d.limit.map (· - now)).toList

theorem mem_waitBounds : b ∈ o.waitBounds d now ↔
    (∃ await, o.maxAwait = some await ∧ await.nanos = b) ∨
      ∃ limit, d.limit = some limit ∧ limit - now = b := by
  simp [waitBounds]

/-- Where the limit lies ahead, only a wait of no length brings the bounds down to nothing. -/
theorem waitBounds_pos (ahead : ∀ limit, d.limit = some limit → now < limit)
    (least : (o.waitBounds d now).min? = some b) : 0 < b ↔ o.maxAwait ≠ some .zero := by
  obtain ⟨bound, below⟩ := List.min?_eq_some_iff.mp least
  constructor
  · intro pos none
    exact absurd (below 0 (mem_waitBounds.mpr (.inl ⟨.zero, none, rfl⟩))) (Nat.not_le.mpr pos)
  · intro some
    rcases mem_waitBounds.mp bound with ⟨⟨nanos⟩, ha, rfl⟩ | ⟨limit, hl, rfl⟩
    · refine Nat.pos_of_ne_zero fun (zero : nanos = 0) => some ?_
      rw [ha, zero]
      rfl
    · exact Nat.sub_pos_of_lt (ahead limit hl)

end Options

/-- A cursor that awaits documents names the smallest of the bounds, and no time without any. -/
theorem Cursor.maxTime_eq {o : Options} {d : Deadline} {now : Instant} {left : Option Span}
    (awaits : o.awaits = true) (hd : d.remaining now = .ok left) :
    maxTime o left = (o.waitBounds d now).min?.map Span.mk := by
  rw [Deadline.left_of_remaining hd]
  unfold maxTime Options.waitBounds
  cases o.maxAwait with
  | none => cases d.limit <;> simp [awaits]
  | some await =>
    cases d.limit with
    | none => simp [awaits]
    | some limit =>
      have smaller : min await ⟨limit - now⟩ = ⟨min await.nanos (limit - now)⟩ :=
        congrArg Span.mk (Span.min_nanos await ⟨limit - now⟩)
      simp [awaits, smaller, List.min?_cons]

/-- The time is named just where there is one. -/
theorem Command.maxTime_getMore (c : Cursor) (remote : RemoteCursor) (left : Option Span) :
    (c.getMore remote left).body.get? "maxTimeMS" =
      (Cursor.maxTime c.options left).map fun t => .int64 (Int64.ofNat t.millis) := by
  unfold Cursor.getMore getMore getMoreBody
  by_cases hs : Int32.ofNat c.quota.effectiveBatchSize = 0 <;>
    cases Cursor.maxTime c.options left <;> cases c.options.comment <;>
      simp [optionalEntry, Document.get?, List.lookup_cons, hs]

namespace Session

variable {s : Session} {c : Command} {now : Instant} {least : Nat}

/-- A request names the smallest of the bounds in whole milliseconds. That is a positive number
unless the longest wait that was asked for has no length. -/
theorem HasAsked.wait (h : s.HasAsked c now) (awaits : s.cursor.options.awaits = true)
    (smallest : (s.cursor.options.waitBounds s.deadline now).min? = some least) :
    ∃ m whole, c.body.get? "maxTimeMS" = some (.int64 m) ∧
      IsLeast {k | least ≤ k * 1000000} whole ∧ m.toInt = min whole Span.maxMillis ∧
      (0 < m ↔ s.cursor.options.maxAwait ≠ some .zero) := by
  obtain ⟨remote, left, -, hd, rfl⟩ := h.asks
  refine ⟨Int64.ofNat (Span.mk least).millis, Span.wholeMillis least, ?_,
    Span.wholeMillis_isLeast least, Span.toInt_millis ⟨least⟩, ?_⟩
  · rw [Command.maxTime_getMore, Cursor.maxTime_eq awaits hd, smallest]
    rfl
  · rw [Int64.lt_iff_toInt_lt, Int64.toInt_zero, Span.toInt_millis, Int.natCast_pos,
      Span.millis_pos]
    exact Options.waitBounds_pos (fun limit hl => Deadline.lt_of_remaining hd hl) smallest

end Session

/-- A cursor awaits documents, and a longest wait or a deadline is set. Each request that it sends
names the smaller of the two times, measured at an instant of the move that sends the request, when
the limit is still ahead: in whole milliseconds, rounded up, and cut off only at the largest number
that can be sent. This is a positive number if and only if the longest wait is not zero. -/
theorem waits_limited_iff {reply : Document} {setting : Setting} {S : Situation}
    {earlier later : List Command} {c : Command} (tails : setting.options.tailable = true)
    (awaits : setting.options.awaitData = true) (hS : Situation.Reached reply setting S)
    (found : S.session.requests = earlier ++ c :: later) :
    ∃ Q T now, Situation.Poses reply setting S earlier c Q T ∧
      Q.session.clock.now ≤ now ∧ now ≤ T.session.clock.now ∧
      (∀ limit, T.session.deadline.limit = some limit → now < limit) ∧
      (setting.options.maxAwait.isSome ∨ T.session.deadline.limit.isSome →
        ∃ least m whole, (setting.options.waitBounds T.session.deadline now).min? = some least ∧
          c.body.get? "maxTimeMS" = some (.int64 m) ∧
          IsLeast {k | least ≤ k * 1000000} whole ∧ m.toInt = min whole Span.maxMillis ∧
          (0 < m ↔ setting.options.maxAwait ≠ some .zero)) := by
  obtain ⟨Q, T, poses⟩ := hS.poses found
  obtain ⟨courses, now, asks⟩ := poses.asks
  obtain ⟨remote, left, -, hd, -⟩ := asks.asked.asks
  refine ⟨Q, T, now, poses, asks.since, asks.asked.past,
    fun limit hl => Deadline.lt_of_remaining hd hl, fun bounded => ?_⟩
  have waits : setting.options.awaits = true := by simp [Options.awaits, tails, awaits]
  have some : setting.options.waitBounds T.session.deadline now ≠ [] := fun none => by
    simp only [Options.waitBounds, List.append_eq_nil_iff, Option.toList_eq_nil_iff,
      Option.map_eq_none_iff] at none
    simp [none] at bounded
  obtain ⟨least, smallest⟩ := Option.isSome_iff_exists.mp (List.isSome_min?_iff.mpr some)
  rw [← courses.options] at smallest waits ⊢
  obtain ⟨m, whole, named, rounded, cut, pos⟩ := asks.asked.wait waits smallest
  exact ⟨least, m, whole, smallest, named, rounded, cut, pos⟩

/-- A deadline that ends a nanosecond after the request is begun, and a longest wait of a second.
The time that is named is a millisecond. -/
theorem waits_limited_to_last_nanosecond :
    ∃ S c Q T, Situation.Reached (BatchReply.Place.first.reply 7 [item 1])
        { plainSetting ⟨none, some 1, none⟩ with
          options := { tailable := true, awaitData := true } } S ∧
      Situation.Poses (BatchReply.Place.first.reply 7 [item 1])
        { plainSetting ⟨none, some 1, none⟩ with
          options := { tailable := true, awaitData := true } } S [] c Q T ∧
      c.body.get? "maxTimeMS" = some (.int64 1) := by
  have run : Blocking.Comes (BatchReply.Place.first.reply 7 [item 1])
      { plainSetting ⟨none, some 1, none⟩ with
        options := { tailable := true, awaitData := true } }
      [.request (.iterate .next), .request (.iterate .next)] _ :=
    ⟨_, rfl, rfl⟩
  obtain ⟨Q, T, now, poses, -⟩ :=
    @waits_limited_iff _ _ _ [] [] _ rfl rfl (.blocking run) rfl
  exact ⟨_, _, Q, T, .blocking run, poses, by decide +kernel⟩

/-- The options have no fault and set a longest wait of zero. Under a deadline of an hour the
request names a time of zero. -/
theorem wait_unlimited_by_zero :
    ∃ S c,
      ({ tailable := true, awaitData := true, maxAwait := some .zero } : Options).fault? = none ∧
      Situation.Reached (BatchReply.Place.first.reply 7 [item 1])
        { plainSetting (.start (some (.ofMillis 3600000)) 0) with
          options := { tailable := true, awaitData := true, maxAwait := some .zero } } S ∧
      S.session.requests = [c] ∧ S.session.deadline.limit = some 3600000000000 ∧
      c.body.get? "maxTimeMS" = some (.int64 0) := by
  have run : Blocking.Comes (BatchReply.Place.first.reply 7 [item 1])
      { plainSetting (.start (some (.ofMillis 3600000)) 0) with
        options := { tailable := true, awaitData := true, maxAwait := some .zero } }
      [.request (.iterate .next), .request (.iterate .next)] _ :=
    ⟨_, rfl, rfl⟩
  exact ⟨_, _, rfl, .blocking run, rfl, rfl, by decide +kernel⟩

end ResultCursor
