import ResultCursor.Proofs.Dialogue
import ResultCursor.Proofs.Speech

/-! What a cursor says to the server: it asks for batches, and with its last command it may end
the server's cursor. Each command names the cursor of the newest reply, in the collection of the
first one, and is sent while the leases are held. -/

namespace ResultCursor

theorem Event.command?_eq_some {e : Event} {c : Command} (h : e.command? = some c) :
    ∃ sending, e = .sent sending ∧ sending.command = c := by
  cases e with
  | sent sending => exact ⟨sending, rfl, Option.some.inj h⟩
  | _ => cases h

theorem Dialogue.kills_settle (d : Dialogue) (result : Except Failure Document) :
    (d.settle result).kills = d.kills := by
  unfold settle
  split <;> rfl

theorem Dialogue.kills_foldl (d : Dialogue) (events : List Event) :
    (events.foldl hear d).kills =
      d.kills + (events.filterMap Event.command?).countP Command.isKill := by
  induction events generalizing d with
  | nil => rfl
  | cons e events ih =>
    rw [List.foldl_cons, ih]
    cases e with
    | sent sending =>
      have hc : (Event.sent sending).command? = some sending.command := rfl
      have hk : (d.hear (.sent sending)).kills =
          d.kills + if sending.command.isKill then 1 else 0 := rfl
      rw [List.filterMap_cons_some hc, List.countP_cons, hk]
      omega
    | delivered result =>
      have hk : (d.hear (.delivered result)).kills = d.kills := by
        simp only [hear]
        split
        · exact d.kills_settle result
        · rfl
      rw [List.filterMap_cons_none rfl, hk]
    | _ => rfl

namespace Session

variable {s : Session} {before : Counts} {first : BatchReply}

theorem Lawful.known {c : Command} (h : s.Lawful before first) (hc : c ∈ s.commands) :
    c.isGetMore = true ∨ c.isKill = true := by
  obtain ⟨e, he, hs⟩ := List.mem_filterMap.mp hc
  obtain ⟨sending, rfl, rfl⟩ := Event.command?_eq_some hs
  obtain ⟨pre, post, hj⟩ := List.append_of_mem he
  exact (h pre sending post hj).known

/-- Nothing ends the server's cursor before the last command. -/
theorem Lawful.alive {c : Command} {asks : List Command} (h : s.Lawful before first)
    (hc : s.commands = asks ++ [c]) : ∀ a ∈ asks, a.isKill = false := by
  obtain ⟨past, rest, hj, rfl, hr⟩ := List.filterMap_eq_append_iff.mp hc
  obtain ⟨quiet, e, post, rfl, hq, he, -⟩ := List.filterMap_eq_cons_iff.mp hr
  obtain ⟨sending, rfl, rfl⟩ := Event.command?_eq_some he
  have alive := (h (past ++ quiet) sending post (by rw [hj, List.append_assoc])).alive
  have silent : quiet.filterMap Event.command? = [] := List.filterMap_eq_nil_iff.mpr hq
  have none : (past.filterMap Event.command?).countP Command.isKill = 0 := by
    have hk := Dialogue.kills_foldl ⟨first.id, false, 0, false⟩ (past ++ quiet)
    rw [List.filterMap_append, silent, List.append_nil] at hk
    exact (Nat.zero_add _).symm.trans (hk.symm.trans alive)
  intro a ha
  exact Bool.eq_false_iff.mpr (List.countP_eq_zero.mp none a ha)

/-- Requests for batches come first, and one command at most follows them. -/
theorem Lawful.commands (h : s.Lawful before first) :
    ∃ asks kill, s.commands = asks ++ Option.toList kill ∧
      (∀ c ∈ asks, c.isGetMore = true) ∧ ∀ c ∈ kill, c.isKill = true := by
  rcases List.eq_nil_or_concat' s.commands with hc | ⟨asks, c, hc⟩
  · exact ⟨[], none, hc, by simp, by simp⟩
  · have asking : ∀ a ∈ asks, a.isGetMore = true := by
      intro a ha
      rcases h.known (c := a) (by simp [hc, ha]) with hg | hk
      · exact hg
      · simp [h.alive hc a ha] at hk
    rcases h.known (c := c) (by simp [hc]) with hg | hk
    · refine ⟨asks ++ [c], none, by simp [hc], fun a ha => ?_, by simp⟩
      rcases List.mem_append.mp ha with ha | ha
      · exact asking a ha
      · exact List.mem_singleton.mp ha ▸ hg
    · exact ⟨asks, some c, hc, asking, by simpa using hk⟩

end Session

/-- The commands are requests for batches, and after them at most one to end the server's cursor.
Each is sent while the leases are held, to the collection of the first reply, and names the
server's cursor of the newest reply, which is there. -/
theorem commands_follow_protocol {reply : Document} {setting : Setting} {S : Situation}
    (hS : Situation.Reached reply setting S) :
    ∃ first, BatchReply.ofDocument .first reply = .ok first ∧
      (∃ asks kill, S.session.commands = asks ++ Option.toList kill ∧
        (∀ c ∈ asks, c.isGetMore = true) ∧ ∀ c ∈ kill, c.isKill = true) ∧
      ∀ pre sending post, S.session.journal = pre ++ .sent sending :: post →
        pre.filter Event.isLease = Session.takings ∧ sending.counts = setting.counts.raised ∧
        sending.command.target? = some (first.ns, (first.heard pre).newest) ∧
        (first.heard pre).newest ≠ 0 := by
  obtain ⟨s, hs, course⟩ := hS.courses
  obtain ⟨first, hr, informed⟩ := Situation.Course.informed hs course
  refine ⟨first, hr, informed.lawful.commands, ?_⟩
  intro pre sending post hj
  have lawful := informed.lawful pre sending post hj
  exact ⟨lawful.leased, lawful.counts, lawful.target, lawful.newest⟩

/-- The second reply names another collection and another cursor. The command that ends the cursor
is sent to the collection of the first reply and names the cursor of the second. -/
theorem kill_names_newest_cursor :
    ∃ S pre sending, Situation.Reached (BatchReply.Place.first.reply 7 [item 1])
        (plainSetting .unlimited) S ∧
      S.session.journal = pre ++ [.sent sending] ∧ sending.command.isKill = true ∧
      sending.command.target? = some (⟨"db", "items"⟩, 9) ∧
      pre.filter Event.isLease = Session.takings := by
  have run : Shared.Comes (BatchReply.Place.first.reply 7 [item 1]) (plainSetting .unlimited)
      [.start (.iterate .next), .start (.iterate .next),
        .deliver 1 (.reply [("cursor", .document [("id", .int64 9), ("ns", .string "db.others"),
          ("nextBatch", .array [.document (item 2)])])]),
        .start .close] _ :=
    ⟨_, rfl, rfl⟩
  obtain ⟨first, -, -, lawful⟩ := commands_follow_protocol (.shared run)
  have sent := lawful _ _ [] rfl
  exact ⟨_, _, _, .shared run, rfl, rfl, rfl, sent.1⟩

end ResultCursor
