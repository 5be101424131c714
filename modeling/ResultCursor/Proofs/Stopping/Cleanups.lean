import Mathlib.Data.List.Induction
import ResultCursor.Proofs.Stopping.Requests

/-! How the clean-ups in the calls of a blocking cursor begin: with a command that no signal stops,
and if a failure is to follow, with a request of the same call that failed. -/

namespace ResultCursor.Blocking

variable {b : Blocking} {call : Call} {after : Aftermath} {f : Failure}
  {because : Call → Failure → Prop} {r : Blocking × Progress} {p q : Play} {m : Move}

/-- If a part of a call waits for a clean-up, it has sent the command for it; a failure that is to
follow has a cause. -/
def CleansUp (s : Session) (because : Call → Failure → Prop) (r : Blocking × Progress) : Prop :=
  ∀ sending saved after, r.2 = .waiting sending (.kill saved after) →
    r.1.session.sendings = s.sendings ++ [sending] ∧ sending.command.isKill = true ∧
      sending.stop = some false ∧ ∀ call f, after = .failing call f → because call f

theorem CleansUp.of_answered (s : Session) (b : Blocking) (a : Answer) :
    CleansUp s because (b, .answered a) := by
  intro sending saved after h
  cases h

theorem CleansUp.of_sendings {s t : Session} (h : CleansUp t because r)
    (same : t.sendings = s.sendings) : CleansUp s because r := by
  intro sending saved after hw
  rw [← same]
  exact h sending saved after hw

theorem afterCleanup_cleansUp {go : Blocking → Blocking × Progress}
    (cause : ∀ call f, after = .failing call f → because call f)
    (hgo : ∀ b' : Blocking, b'.session = b.session.parted → CleansUp b'.session because (go b')) :
    CleansUp b.session because (b.afterCleanup after go) := by
  unfold afterCleanup
  split
  · next t clean =>
    have gone := Session.beginRelease_finished clean
    refine (hgo { b with session := t } gone).of_sendings ?_
    rw [gone]
    exact Session.parted_sendings
  · next t sending saved clean =>
    intro sending' saved' after' h
    cases h
    obtain ⟨due, stop, sent⟩ := Session.beginRelease_killing clean
    exact ⟨sent, Session.isKill_of_takeKill due, stop, cause⟩

theorem closeWith_cleansUp (a : Answer) : CleansUp b.session because (b.closeWith a) := by
  unfold closeWith
  split
  · exact .of_answered _ _ _
  · apply afterCleanup_cleansUp
    · intro call f h
      cases h
    · exact fun b' _ => .of_answered _ _ _

theorem failing_cleansUp : CleansUp b.session because (failing call f b) := by
  unfold failing
  split
  · dsimp only
    split
    · exact closeWith_cleansUp (b := { b with signal := b.signal.acknowledge }) _
    · exact .of_answered _ _ _
  · exact .of_answered _ _ _

theorem failWith_cleansUp (cause : because call f) :
    CleansUp b.session because (b.failWith call f) := by
  unfold failWith
  split
  · exact failing_cleansUp
  · apply afterCleanup_cleansUp
    · intro call' f' h
      cases h
      exact cause
    · exact fun b' _ => failing_cleansUp

/-- A request that is needed cannot be sent, and fails so. -/
def Refuses (s : Session) (stop : Option Bool) (f : Failure) : Prop :=
  ∃ t u g, s.beginFetch stop = (t, .error g) ∧ t.settleFetch (.error g) = (u, .error f)

theorem fetch_cleansUp (call : Call)
    (cause : ∀ f, Refuses b.session (some b.signal.shouldStop) f → because call f) :
    CleansUp b.session because (b.fetch call) := by
  unfold fetch
  split
  · intro sending saved after h
    cases h
  · next t g refused =>
    split
    · exact (CleansUp.of_answered b.session _ _)
    · next u f settled =>
      have same : u.sendings = b.session.sendings :=
        (Session.settleFetch_quietly settled).sendings.trans (Session.refused_sendings refused)
      exact (failWith_cleansUp (b := { b with session := u })
        (cause f ⟨t, u, g, refused, settled⟩)).of_sendings same

theorem unlessInterrupted_cleansUp {go : Blocking → Blocking × Progress}
    (hgo : b.signal.interrupted = false → CleansUp b.session because (go b)) :
    CleansUp b.session because (b.unlessInterrupted go) := by
  unfold unlessInterrupted
  split
  · exact .of_answered _ _ _
  · next quiet => exact hgo (by simpa using quiet)

theorem proceed_cleansUp (call : Call)
    (cause : ∀ f, b.session.isSettled = false → b.signal.interrupted = false →
      Refuses b.session (some b.signal.shouldStop) f → because call f) :
    CleansUp b.session because (b.proceed call) := by
  unfold proceed
  split
  · exact .of_answered _ _ _
  · next needed =>
    exact unlessInterrupted_cleansUp fun quiet =>
      fetch_cleansUp call fun f => cause f (by simpa using needed) quiet

theorem fetched_cleansUp (call : Call)
    (cause : ∀ f, call ≠ .tryNext → b.session.isSettled = false →
      b.signal.shouldStop = false → Refuses b.session (some false) f → because call f) :
    CleansUp b.session because (fetched call b) := by
  unfold fetched
  split
  · exact closeWith_cleansUp _
  · next calm =>
    split
    · exact .of_answered _ _ _
    · next more =>
      refine unlessInterrupted_cleansUp fun quiet =>
        proceed_cleansUp call fun f needed _ refuses => ?_
      have unstopped : b.signal.shouldStop = false := by simp [Signal.shouldStop, quiet, calm]
      rw [unstopped] at refuses
      exact cause f more needed unstopped refuses

theorem iterate_cleansUp (call : Call)
    (cause : ∀ f, b.session.isSettled = false → b.signal.shouldStop = false →
      Refuses b.session.beginCall (some false) f → because call f) :
    CleansUp b.session because (b.iterate call) := by
  unfold iterate
  split
  · exact closeWith_cleansUp _
  · next calm =>
    split
    · exact .of_answered _ _ _
    · refine CleansUp.of_sendings (proceed_cleansUp (b := { b with session := b.session.beginCall })
        call fun f needed quiet refuses => ?_) Session.beginCall_quietly.sendings
      have quiet : b.signal.interrupted = false := quiet
      have unstopped : b.signal.shouldStop = false := by simp [Signal.shouldStop, quiet, calm]
      rw [unstopped] at refuses
      exact cause f (Session.isSettled_beginCall.symm.trans needed) unstopped refuses

theorem settleBatch_cleansUp (call : Call) (result : Except Failure Document)
    (came : ∀ t f, (b.session.deliver result).settleFetch result = (t, .error f) → because call f)
    (cause : ∀ t f, (b.session.deliver result).settleFetch result = (t, .ok ()) →
      call ≠ .tryNext → t.isSettled = false → b.signal.shouldStop = false →
      Refuses t (some false) f → because call f) :
    CleansUp b.session because (b.settleBatch call result) := by
  unfold settleBatch
  split
  · next t f settled =>
    exact CleansUp.of_sendings (failWith_cleansUp (b := { b with session := t }) (came t f settled))
      (Session.delivered_sendings settled)
  · next t settled =>
    have same := Session.delivered_sendings settled
    have goes : CleansUp t because (fetched call { b with session := t }) :=
      fetched_cleansUp (b := { b with session := t }) call fun f more needed unstopped refuses =>
        cause t f settled more needed unstopped refuses
    dsimp only
    split
    · exact goes.of_sendings same
    · next inactive =>
      refine CleansUp.of_sendings (afterCleanup_cleansUp (b := { b with session := t })
        (fun call' f h => by cases h) fun b' gone => ?_) same
      -- a cursor that is not active needs nothing
      refine fetched_cleansUp call fun f _ needed => ?_
      rw [gone] at needed
      have remote := (Session.isSettled_eq_false_iff.mp needed).2.2
      simp at remote

theorem settleKill_cleansUp {saved : Option Span} (result : Except Failure Document)
    (remote : b.session.cursor.remote = none) :
    CleansUp b.session because (b.settle result (.kill saved after)) := by
  let b' := { b with session := (b.session.deliver result).settleKill saved result }
  suffices h : CleansUp b'.session because (b'.resumeAfter after) from
    h.of_sendings (by simp [b'])
  cases after with
  | opened => exact .of_answered _ _ _
  | fetched call =>
    refine fetched_cleansUp call fun f _ needed => ?_
    have held := (Session.isSettled_eq_false_iff.mp needed).2.2
    simp [b', remote] at held
  | failing call f => exact failing_cleansUp
  | closing a => exact .of_answered _ _ _

theorem crash_cleansUp (text : String) (wait : Wait) :
    CleansUp b.session because (b.crash text wait) := by
  intro sending saved after h
  match wait with
  | .batch _ | .kill _ .opened | .kill _ (.fetched _) | .kill _ (.failing ..)
  | .kill _ (.closing _) => cases h

/-! ### Moves -/

/-- In a move the request of a call fails, or it is needed and cannot be sent. -/
inductive Play.FailsFetch (p : Play) : Move → Call → Failure → Prop where
  | came {call : Call} {result : Except Failure Document} {t : Session} {f : Failure}
      (waits : p.wait = some (.batch call))
      (settled : (p.session.deliver result).settleFetch result = (t, .error f)) :
      FailsFetch p (.outcome (.ofResult result)) call f
  | refused {m : Move} {s : Session} {call : Call} {f : Failure} (needs : p.Needs m s call)
      (refuses : Refuses s (some false) f) : FailsFetch p m call f

/-- Others use the signal or the deadline, and no call goes on. -/
def Move.isAside : Move → Bool
  | .interrupt => true
  | .requestClose => true
  | .adjust .. => true
  | _ => false

theorem Play.act_aside (ha : m.isAside = true) (hm : p.act m = some q) :
    q.wait = p.wait ∧ q.history = p.history ∧ q.session.cursor = p.session.cursor ∧
      q.session.journal = p.session.journal := by
  match m, ha with
  | .interrupt, _ | .requestClose, _ | .adjust .., _ =>
    cases hm
    exact ⟨rfl, rfl, rfl, rfl⟩

/-- The move begins the clean-up that the cursor waits for. -/
structure Play.Begins (p : Play) (m : Move) (after : Aftermath) (q : Play) : Prop where
  sent : ∃ sending, q.session.sendings = p.session.sendings ++ [sending] ∧
    sending.command.isKill = true ∧ sending.stop = some false
  cause : ∀ call f, after = .failing call f → p.FailsFetch m call f

theorem CleansUp.begins {h : History} (hr : CleansUp p.session (p.FailsFetch m) r)
    {saved : Option Span} (waits : (Play.follow h r).wait = some (.kill saved after)) :
    p.Begins m after (.follow h r) := by
  obtain ⟨b, progress⟩ := r
  cases progress with
  | answered a => cases waits
  | crashed text => cases waits
  | waiting sending wait =>
    cases waits
    obtain ⟨sent, kill, stop, cause⟩ := hr sending saved after rfl
    exact ⟨⟨sending, sent, kill, stop⟩, cause⟩

/-- A move after which the cursor waits for a clean-up is one of others, or it began it. -/
theorem act_begins (hc : p.situation.Coherent) (hm : p.act m = some q) {saved : Option Span}
    (waits : q.wait = some (.kill saved after)) : m.isAside = true ∨ p.Begins m after q := by
  cases Play.acts hm with
  | request r free =>
    refine .inr (CleansUp.begins ?_ waits)
    cases r with
    | iterate call =>
      exact iterate_cleansUp call fun f needed _ refuses => .refused (.first free needed) refuses
    | close => exact closeWith_cleansUp .done
    | setBatchSize n => exact .of_answered _ _ _
    | inspect => exact .of_answered _ _ _
  | @outcome before o was =>
    refine .inr (CleansUp.begins ?_ waits)
    have settles (result : Except Failure Document) : CleansUp p.session
        (p.FailsFetch (.outcome (.ofResult result))) (p.cursor.settle result before) := by
      cases before with
      | batch call =>
        exact settleBatch_cleansUp call result (fun t f settled => .came was settled)
          fun t f settled more needed _ refuses => .refused (.again was more settled needed) refuses
      | kill saved after => exact settleKill_cleansUp result (Play.fits_of_waits hc was).1
    cases o with
    | reply d => exact settles (.ok d)
    | failure f => exact settles (.error f)
    | crash text => exact crash_cleansUp text before
  | drop free =>
    refine .inr (CleansUp.begins ?_ waits)
    unfold drop
    split
    · exact .of_answered _ _ _
    · exact CleansUp.of_sendings
        (closeWith_cleansUp (b := { p.cursor with session := p.session.note dropNote }) .done)
        (Session.note_quietly dropNote).sendings
  | _ => exact .inl rfl

/-! ### Runs -/

variable {reply : Document} {setting : Setting} {moves : List Move}

theorem start_isOpened (hs : start reply setting = .ok p) {saved : Option Span}
    (waits : p.wait = some (.kill saved after)) : after.isOpened = true := by
  unfold start at hs
  cases hr : Blocking.ofReply reply setting with
  | error f => simp [hr] at hs
  | ok r =>
    simp only [hr, Except.ok.injEq] at hs
    subst hs
    rw [Blocking.ofReply_eq] at hr
    split at hr
    · cases hr
    · next s _ =>
      cases hr
      dsimp only [Play.follow] at waits
      split at waits
      · unfold afterCleanup at waits
        split at waits
        · cases waits
        · cases waits
          rfl
      · cases waits

theorem comes_concat {m : Move} :
    Comes reply setting (moves ++ [m]) q ↔ ∃ p, Comes reply setting moves p ∧ p.act m = some q := by
  simp only [Comes, List.foldlM_append, List.foldlM_cons, List.foldlM_nil, Option.bind_eq_bind,
    Option.bind_eq_some_iff, Option.pure_def]
  constructor
  · rintro ⟨p₀, hs, p, hp, r, hm, hr⟩
    cases hr
    exact ⟨p, ⟨p₀, hs, hp⟩, hm⟩
  · rintro ⟨p, ⟨p₀, hs, hp⟩, hm⟩
    exact ⟨p₀, hs, p, hp, q, hm, rfl⟩

/-- A move of the run began the clean-up, and since then only others moved. -/
def Begun (reply : Document) (setting : Setting) (moves : List Move) (after : Aftermath) : Prop :=
  ∃ pre m between q r, moves = pre ++ m :: between ∧ Comes reply setting pre q ∧
    q.act m = some r ∧ q.Begins m after r ∧ ∀ n ∈ between, n.isAside = true

theorem Begun.aside (h : Begun reply setting moves after) (ha : m.isAside = true) :
    Begun reply setting (moves ++ [m]) after := by
  obtain ⟨pre, n, between, q, r, hs, run, hn, begins, asides⟩ := h
  refine ⟨pre, n, between ++ [m], q, r, by simp [hs], run, hn, begins, fun k hk => ?_⟩
  rcases List.mem_append.mp hk with hk | hk
  · exact asides k hk
  · rw [List.mem_singleton.mp hk, ha]

/-- A clean-up in a call was begun in the run. -/
theorem Comes.begun (run : Comes reply setting moves p) {saved : Option Span}
    (waits : p.wait = some (.kill saved after)) (called : after.isOpened = false) :
    Begun reply setting moves after := by
  induction moves using List.reverseRecOn generalizing p with
  | nil =>
    obtain ⟨p₀, hs, hr⟩ := run
    cases hr
    cases called.symm.trans (start_isOpened hs waits)
  | append_singleton moves m ih =>
    obtain ⟨q, run, hm⟩ := comes_concat.mp run
    rcases act_begins run.courses.coherent hm waits with aside | begins
    · have same := (Play.act_aside aside hm).1
      exact (ih run (same ▸ waits)).aside aside
    · exact ⟨moves, m, [], q, p, rfl, run, hm, begins, by simp⟩

end ResultCursor.Blocking
