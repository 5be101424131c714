import ResultCursor.Proofs.Timing.Punctual

/-! The moments at which requests for batches are sent. A move sends one of them at most, so each
request of a run has a moment of its own, right after the move that has sent it, and what it says is
read off the cursor, the deadline and the clock there. -/

namespace ResultCursor

/-- Where each move leaves a list as it is or adds one element, each element that comes to be there
was added by one of the moves. -/
theorem run_growth {σ μ α : Type} {act : σ → μ → Option σ} (list : σ → List α) {P : σ → Prop}
    (move : ∀ p q m, P p → act p m = some q →
      P q ∧ (list q = list p ∨ ∃ a, list q = list p ++ [a]))
    {p₀ p : σ} {moves : List μ} {before after : List α} {a : α} (first : P p₀)
    (run : moves.foldlM act p₀ = some p) (earlier : (list p₀).length ≤ before.length)
    (found : list p = before ++ a :: after) :
    ∃ pre m post q r, moves = pre ++ m :: post ∧ pre.foldlM act p₀ = some q ∧ act q m = some r ∧
      post.foldlM act r = some p ∧ list q = before ∧ list r = before ++ [a] := by
  induction moves generalizing p₀ with
  | nil =>
    cases run
    rw [found, List.length_append, List.length_cons] at earlier
    omega
  | cons m moves ih =>
    simp only [List.foldlM_cons, Option.bind_eq_bind, Option.bind_eq_some_iff] at run
    obtain ⟨q, hm, hr⟩ := run
    obtain ⟨hq, grown⟩ := move p₀ q m first hm
    by_cases still : (list q).length ≤ before.length
    · obtain ⟨pre, n, post, r, u, rfl, hp, hn, goes, old, new⟩ := ih hq hr still
      refine ⟨m :: pre, n, post, r, u, rfl, ?_, hn, goes, old, new⟩
      simpa only [List.foldlM_cons, hm, Option.bind_eq_bind, Option.bind_some] using hp
    · -- the element is the one that the first move adds, as nothing is ever taken away
      obtain ⟨b, hb⟩ : ∃ b, list q = list p₀ ++ [b] :=
        grown.resolve_left fun same => still (same ▸ earlier)
      have kept : P p ∧ list q <+: list p := by
        refine run_induction (P := fun r => P r ∧ list q <+: list r) ⟨hq, List.prefix_refl _⟩ ?_ hr
        rintro r u n ⟨hr, shown⟩ hn
        obtain ⟨hu, same | ⟨c, more⟩⟩ := move r u n hr hn
        · exact ⟨hu, same ▸ shown⟩
        · exact ⟨hu, more ▸ shown.trans (List.prefix_append _ _)⟩
      have whole : list p₀ ++ [b] <+: before ++ [a] ++ after := by
        rw [← hb, List.append_assoc, List.singleton_append, ← found]
        exact kept.2
      have size : (list p₀ ++ [b]).length = (before ++ [a]).length := by
        simp only [hb, List.length_append, List.length_singleton] at still ⊢
        omega
      have same := List.append_inj (List.prefix_iff_eq_append.mp whole) size
      obtain ⟨rfl, hab⟩ := List.append_inj' same.1 rfl
      cases hab
      exact ⟨[], m, moves, p₀, q, rfl, rfl, hm, hr, rfl, hb⟩

namespace Session

variable {s t : Session}

/-- The session has just sent the command: the request that its cursor makes with the time that the
deadline left at this instant. -/
structure HasAsked (s : Session) (c : Command) (now : Instant) : Prop where
  asks : ∃ remote left, s.cursor.remote = some remote ∧ s.deadline.remaining now = .ok left ∧
    c = s.cursor.getMore remote left
  past : now ≤ s.clock.now

theorem hasAsked_of_beginFetch {stop : Option Bool} {sending : Sending}
    (sent : s.beginFetch stop = (t, .ok sending)) :
    t.HasAsked sending.command s.clock.read.1 := by
  obtain ⟨-, remote, left, hr, hd, hc, rfl⟩ := beginFetch_ok sent
  refine ⟨⟨remote, left, hr, hd, hc⟩, ?_⟩
  calc
    s.clock.read.1 = s.clock.read.2.now := s.clock.read_snd_now.symm
    _ ≤ s.clock.read.2.read.1 := s.clock.read.2.now_le_read
    _ = s.clock.read.2.read.2.now := s.clock.read.2.read_snd_now.symm

theorem requests_of_asked {stop : Option Bool} {sending : Sending}
    (sent : s.beginFetch stop = (t, .ok sending)) :
    t.requests = s.requests ++ [sending.command] := by
  obtain ⟨-, remote, left, -, -, hc, rfl⟩ := beginFetch_ok sent
  have asks : sending.command.isGetMore = true := hc ▸ Command.isGetMore_getMore _ _ _
  rw [requests_eq_sendings, requests_eq_sendings, sendings_sent rfl]
  simp [asks]

theorem Wants.requests {s₀ : Session} (h : s₀.Wants s) : s.requests = s₀.requests :=
  requests_of_sendings h.sendings

theorem beginCall_clock (s : Session) : s.clock.now ≤ s.beginCall.clock.now := by
  unfold beginCall
  split
  · exact Nat.le_refl _
  · exact Nat.le_trans s.clock.now_le_read (Nat.le_of_eq s.clock.read_snd_now.symm)

end Session

/-- A move sends the command as a request for a batch, and comes to wait for the result. The
instant is the one at which the time left was looked at. -/
structure Situation.Asks (S T : Situation) (c : Command) (now : Instant) : Prop where
  waits : ∃ call, T.control = .waiting (.batch call)
  requests : T.session.requests = S.session.requests ++ [c]
  asked : T.session.HasAsked c now
  since : S.session.clock.now ≤ now

namespace Situation.Asks

variable {S : Situation} {s t : Session} {h : History} {call : Call} {stop : Option Bool}
  {sending : Sending}

theorem of_beginFetch (wants : S.session.Wants s) (since : S.session.clock.now ≤ s.clock.now)
    (sent : s.beginFetch stop = (t, .ok sending)) :
    Asks S ⟨t, .waiting (.batch call), h⟩ sending.command s.clock.read.1 where
  waits := ⟨call, rfl⟩
  requests := (Session.requests_of_asked sent).trans (by rw [wants.requests])
  asked := Session.hasAsked_of_beginFetch sent
  since := Nat.le_trans since s.clock.now_le_read

end Situation.Asks

/-! ### Blocking cursors -/

namespace Blocking

variable {b : Blocking} {p q : Play} {m : Move} {s t : Session} {call : Call} {h : History}
  {sending : Sending} {reply : Document} {setting : Setting} {moves : List Move}

theorem fetch_lands (began : b.session.beginFetch (some b.signal.shouldStop) = (t, .ok sending)) :
    landing h (b.fetch call) = ⟨t, .waiting (.batch call), h⟩ := by
  simp only [fetch, began]
  rfl

theorem Play.Needs.since (needs : p.Needs m s call) :
    p.session.clock.now ≤ s.clock.now := by
  cases needs with
  | first free needed => exact p.session.beginCall_clock
  | again waits more settled needed =>
    rcases Session.settleFetch_cases settled with
      ⟨r, n, -, -, rfl⟩ | ⟨f, n, -, -, -, rfl⟩ | ⟨f, n, -, -, -, rfl⟩
    all_goals exact Nat.le_refl _

/-- A move sends one request, or none. -/
theorem act_asks (hS : Situation.Courses reply setting p.situation) (hm : p.act m = some q) :
    q.session.requests = p.session.requests ∨
      ∃ c now, Situation.Asks p.situation q.situation c now := by
  rcases (act_punctual hS hm).asks with same | ⟨s, call, ⟨unstopped, needs⟩, ahead, -⟩
  · exact .inl same
  · obtain ⟨left, hd⟩ := (s.deadline.remaining_cases s.clock.read.1).resolve_right
      fun ⟨limit, hl, late⟩ => Nat.not_lt.mpr late (ahead limit hl)
    have wants := needs.wants hS.coherent hS.usable
    obtain ⟨t, sending, began, -⟩ := wants.sends hd (some p.cursor.signal.shouldStop)
    obtain ⟨h, landed⟩ := needs.lands unstopped hm
    rw [landed, fetch_lands (b := { p.cursor with session := s }) began]
    exact .inr ⟨_, _, .of_beginFetch wants needs.since began⟩

end Blocking

/-! ### Shared cursors -/

namespace Shared

variable {c : Shared} {p q : Play} {m : Move} {s t : Session} {call : Call} {h : History}
  {sending : Sending} {reply : Document} {setting : Setting} {moves : List Move}

theorem fetch_lands (began : c.session.beginFetch none = (t, .ok sending)) :
    landing h (c.fetch call) = ⟨t, .waiting (.batch call), h⟩ := by
  simp only [fetch, began]
  rfl

theorem Play.Needs.since (needs : p.Needs m s call) :
    p.session.clock.now ≤ s.clock.now := by
  cases needs with
  | first admits needed => exact p.session.beginCall_clock
  | again waits more settled needed =>
    rcases Session.settleFetch_cases settled with
      ⟨r, n, -, -, rfl⟩ | ⟨f, n, -, -, -, rfl⟩ | ⟨f, n, -, -, -, rfl⟩
    all_goals exact Nat.le_refl _

/-- A move sends one request, or none. -/
theorem act_asks (hp : p.Orderly) (hS : Situation.Courses reply setting p.situation)
    (hm : p.act m = some q) :
    q.session.requests = p.session.requests ∨
      ∃ c now, Situation.Asks p.situation q.situation c now := by
  rcases (act_punctual hp hS hm).asks with same | ⟨s, call, ⟨unstopped, needs⟩, ahead, -⟩
  · exact .inl same
  · obtain ⟨left, hd⟩ := (s.deadline.remaining_cases s.clock.read.1).resolve_right
      fun ⟨limit, hl, late⟩ => Nat.not_lt.mpr late (ahead limit hl)
    have wants := needs.wants hp hS.coherent hm hS.usable
    obtain ⟨t, sending, began, -⟩ := wants.sends hd none
    obtain ⟨h, landed⟩ := needs.lands hp unstopped hm
    rw [landed, fetch_lands (c := { p.shared with session := s }) began]
    exact .inr ⟨_, _, .of_beginFetch wants needs.since began⟩

end Shared

/-! ### Both kinds of cursors -/

/-- In a run that comes to the situation `S`, a move leads from `Q` to `T`, and after it the
requests for batches that were sent are the earlier ones and this command. -/
inductive Situation.Poses (reply : Document) (setting : Setting) (S : Situation)
    (earlier : List Command) (c : Command) : Situation → Situation → Prop where
  | blocking {moves later : List Blocking.Move} {m : Blocking.Move} {p q r : Blocking.Play}
      (run : Blocking.Comes reply setting moves q) (acts : q.act m = some r)
      (goes : later.foldlM Blocking.Play.act r = some p) (here : p.situation = S)
      (old : q.session.requests = earlier) (new : r.session.requests = earlier ++ [c]) :
      Poses reply setting S earlier c q.situation r.situation
  | shared {moves later : List Shared.Move} {m : Shared.Move} {p q r : Shared.Play}
      (run : Shared.Comes reply setting moves q) (acts : q.act m = some r)
      (goes : later.foldlM Shared.Play.act r = some p) (here : p.situation = S)
      (old : q.session.requests = earlier) (new : r.session.requests = earlier ++ [c]) :
      Poses reply setting S earlier c q.situation r.situation

namespace Situation

variable {reply : Document} {setting : Setting} {Q S T : Situation} {earlier later : List Command}
  {c : Command}

/-- Each request of a run was sent by one of its moves. -/
theorem Reached.poses (hS : Reached reply setting S)
    (found : S.session.requests = earlier ++ c :: later) :
    ∃ Q T, Poses reply setting S earlier c Q T := by
  cases hS with
  | blocking run =>
    obtain ⟨p₀, hs, goes⟩ := run
    have started : Blocking.Comes reply setting [] p₀ := ⟨p₀, hs, rfl⟩
    have fresh : p₀.session.requests = [] := (Blocking.start_fresh hs).requests
    obtain ⟨pre, m, post, q, r, -, before, acts, after, old, new⟩ :=
      run_growth (fun p : Blocking.Play => p.session.requests)
        (P := fun p => Situation.Courses reply setting p.situation)
        (fun p q m hp hm => ⟨Blocking.act_courses hp hm,
          (Blocking.act_asks hp hm).imp_right fun ⟨c, _, asks⟩ => ⟨c, asks.requests⟩⟩)
        started.courses goes (by simp [fresh]) found
    exact ⟨_, _, .blocking ⟨p₀, hs, before⟩ acts after rfl old new⟩
  | shared run =>
    obtain ⟨p₀, hs, goes⟩ := run
    have started : Shared.Comes reply setting [] p₀ := ⟨p₀, hs, rfl⟩
    have fresh : p₀.session.requests = [] := (Shared.start_fresh hs).requests
    obtain ⟨pre, m, post, q, r, -, before, acts, after, old, new⟩ :=
      run_growth (fun p : Shared.Play => p.session.requests)
        (P := fun p => p.Orderly ∧ Situation.Courses reply setting p.situation)
        (fun p q m hp hm => ⟨⟨Shared.act_orderly hp.1 hm, Shared.act_courses hp.1 hp.2 hm⟩,
          (Shared.act_asks hp.1 hp.2 hm).imp_right fun ⟨c, _, asks⟩ => ⟨c, asks.requests⟩⟩)
        ⟨started.orderly, started.courses⟩ goes (by simp [fresh]) found
    exact ⟨_, _, .shared ⟨p₀, hs, before⟩ acts after rfl old new⟩

/-- A move that adds a request asks for a batch with it. -/
theorem Poses.asks (poses : Poses reply setting S earlier c Q T) :
    Courses reply setting T ∧ ∃ now, Asks Q T c now := by
  have only {U : Situation} (old : Q.session.requests = earlier)
      (new : T.session.requests = earlier ++ [c])
      (asks : T.session.requests = Q.session.requests ∨ ∃ d now, Asks Q T d now) :
      ∃ now, Asks Q T c now := by
    rcases asks with same | ⟨d, now, asks⟩
    · simp [old, new] at same
    · have added := asks.requests
      rw [old, new, List.append_cancel_left_eq, List.singleton_inj] at added
      exact ⟨now, added ▸ asks⟩
  cases poses with
  | blocking run acts goes here old new =>
    exact ⟨Blocking.act_courses run.courses acts,
      only (U := S) old new (Blocking.act_asks run.courses acts)⟩
  | shared run acts goes here old new =>
    exact ⟨Shared.act_courses run.orderly run.courses acts,
      only (U := S) old new (Shared.act_asks run.orderly run.courses acts)⟩

end Situation

end ResultCursor
