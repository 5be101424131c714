import ResultCursor.Proofs.Opening.Runs

/-! What comes of a constructor. Options and reply alone decide whether it fails, and it fails
before it touches anything. If it does not fail it returns, whatever becomes of the command that it
may have to send, and keeps the leases of a cursor that stays active. -/

namespace ResultCursor

/-- How a kind of constructor comes out in any world. Options at fault are refused before the reply
is looked at, and then a reply that cannot be read; either leaves the world as it was. -/
structure Constructs {α : Type} (reply : Document) (options : Options)
    (openIn : World → World × Except Failure α) : Prop where
  refuses (w : World) (fault : BadArgument) :
    (openIn w).2 = .error (.invalidArgument fault) ↔ options.fault? = some fault
  misreads (w : World) :
    (∃ fault, (openIn w).2 = .error (.invalidReply fault)) ↔
      options.fault? = none ∧ ∀ first, BatchReply.ofDocument .first reply ≠ .ok first
  opens (w : World) :
    (∃ a, (openIn w).2 = .ok a) ↔
      options.fault? = none ∧ ∃ first, BatchReply.ofDocument .first reply = .ok first
  untouched (w : World) (f : Failure) : (openIn w).2 = .error f → (openIn w).1 = w

section

variable {α : Type} {reply : Document} (address : Address) {options : Options}
  {openIn : World → World × Except Failure α}

/-- A constructor comes out as the cursor's own part of it does. -/
theorem Constructs.of_cursor
    (fails : ∀ f, Cursor.ofReply reply address options = .error f → ∀ w, openIn w = (w, .error f))
    (goes : ∀ c, Cursor.ofReply reply address options = .ok c → ∀ w, ∃ a, (openIn w).2 = .ok a) :
    Constructs reply options openIn := by
  cases hf : options.fault? with
  | some fault =>
    have failed := fails (.invalidArgument fault) (by rw [Cursor.ofReply, hf])
    exact
      { refuses := by simp [failed, hf]
        misreads := by simp [failed, hf]
        opens := by simp [failed, hf]
        untouched := by simp [failed] }
  | none =>
    cases hr : BatchReply.ofDocument .first reply with
    | error f =>
      obtain ⟨fault, rfl⟩ := BatchReply.ofDocument_onlyInvalid .first reply f hr
      have failed := fails (.invalidReply fault) (by rw [Cursor.ofReply, hf, hr])
      exact
        { refuses := by simp [failed, hf]
          misreads := by simp [failed, hf, hr]
          opens := by simp [failed, hr]
          untouched := by simp [failed] }
    | ok first =>
      have opened := goes _ (by rw [Cursor.ofReply, hf, hr])
      have silent (w : World) (f : Failure) : (openIn w).2 ≠ .error f := by
        obtain ⟨a, ha⟩ := opened w
        simp [ha]
      exact
        { refuses := by simp [silent, hf]
          misreads := by simp [silent, hr]
          opens := by simp [opened, hf, hr]
          untouched := fun w f failed => absurd failed (silent w f) }

end

section

variable (w : World) {reply : Document} {address : Address} {options : Options}

theorem Session.openIn_of_ok {c : Cursor × Note}
    (h : Cursor.ofReply reply address options = .ok c) :
    ∃ u s, openIn w reply address options = (u, .ok s) := by
  rw [openIn, h]
  exact ⟨_, _, rfl⟩

end

theorem Blocking.constructs (reply : Document) (address : Address) (options : Options) :
    Constructs reply options (openIn · reply address options) := by
  refine .of_cursor address (fun f h w => openIn_of_error h w) fun c h w => ?_
  obtain ⟨u, s, opened⟩ := Session.openIn_of_ok w h
  rw [openIn, opened]
  exact ⟨_, rfl⟩

theorem Shared.constructs (reply : Document) (address : Address) (options : Options) :
    Constructs reply options (openIn · reply address options) := by
  refine .of_cursor address (fun f h w => openIn_of_error h w) fun c h w => ?_
  obtain ⟨u, s, opened⟩ := Session.openIn_of_ok w h
  rw [openIn, opened]
  exact ⟨_, rfl⟩

/-! ### A constructor that does not fail -/

section

variable {reply : Document} {setting : Setting} {first : BatchReply}

theorem Session.ofReply_isOk (sound : setting.options.fault? = none)
    (hr : BatchReply.ofDocument .first reply = .ok first) :
    ∃ s, ofReply reply setting = .ok s := by
  rw [ofReply_eq, Cursor.ofReply, sound, hr]
  exact ⟨_, rfl⟩

theorem Blocking.start_isOk {s : Session} (hs : Session.ofReply reply setting = .ok s) :
    ∃ p, start reply setting = .ok p := by
  rw [start, Blocking.ofReply_eq, hs]
  exact ⟨_, rfl⟩

theorem Shared.start_isOk {s : Session} (hs : Session.ofReply reply setting = .ok s) :
    ∃ p, start reply setting = .ok p := by
  rw [start, Shared.ofReply_eq, hs]
  exact ⟨_, rfl⟩

/-- A cursor that was opened and has not been used holds its leases exactly while it is active. -/
theorem Situation.Opened.leased_iff {S : Situation} (hS : Opened reply setting S) :
    S.session.leased = true ↔ S.session.cursor.phase = .active := by
  obtain ⟨s, hs, opens, idle⟩ := hS.opens
  have settled := hS.reached.courses.settled idle
  rw [settled.leased]
  refine ⟨settled.active, fun active => ?_⟩
  have going : s.cursor.phase = .active := by
    rw [← Session.opened_phase, ← opens.cursor, active]
  obtain ⟨first, n, -, hc, -⟩ := Session.ofReply_ok hs
  rw [opens.cursor, Session.opened, if_neg (by simp [going]), hc]
  rw [hc] at going
  exact Cursor.absorb_remote_of_active going

end

/-- A constructor of either kind fails exactly for options at fault, whatever the reply is, and
otherwise for a reply that cannot be read; it has then sent nothing, leased nothing and left the
deadline alone. In every other case it opens a cursor and returns, whatever comes of the command
that it may have to send. Both resources are leased once if the cursor is active, and otherwise
not at all or until the constructor returned. -/
theorem opens_wholly_or_not (reply : Document) (setting : Setting) :
    Constructs reply setting.options (Blocking.openIn · reply setting.address setting.options) ∧
    Constructs reply setting.options (Shared.openIn · reply setting.address setting.options) ∧
    (setting.options.fault? = none → ∀ first, BatchReply.ofDocument .first reply = .ok first →
      (∃ p, Blocking.start reply setting = .ok p ∧ (p.isFree = true ∨
        ∀ o, o.isCrash = false → ∃ q, p.act (.outcome o) = some q ∧ q.isFree = true)) ∧
      ∃ p, Shared.start reply setting = .ok p ∧ (p.inUse = true ∨
        ∀ o, o.isCrash = false → ∃ q, p.act (.outcome o) = some q ∧ q.inUse = true)) ∧
    ∀ S, Situation.Opened reply setting S →
      (S.session.leased = true ↔ S.session.cursor.phase = .active) ∧
      (S.session.cursor.phase = .active →
        S.session.counts = setting.counts.raised ∧ S.session.leaseEvents = Session.takings) ∧
      (S.session.cursor.phase ≠ .active →
        S.session.counts = setting.counts ∧
        (S.session.leaseEvents = [] ∨
          S.session.leaseEvents = Session.takings ++ Session.returns)) := by
  refine ⟨Blocking.constructs .., Shared.constructs .., fun sound first hr => ?_, fun S hS => ?_⟩
  · obtain ⟨s, hs⟩ := Session.ofReply_isOk sound hr
    obtain ⟨p, hp⟩ := Blocking.start_isOk hs
    obtain ⟨q, hq⟩ := Shared.start_isOk hs
    exact ⟨⟨p, hp, Blocking.start_returns hs hp⟩, q, hq, Shared.start_returns hs hq⟩
  · have fair := hS.reached.courses.lending
    refine ⟨hS.leased_iff, fun active => ?_, fun inactive => ?_⟩
    · have held := fair.of_leased (hS.leased_iff.mpr active)
      exact ⟨congrArg Lending.counts held, congrArg Lending.events held⟩
    · have returned : S.session.leased = false :=
        Bool.eq_false_iff.mpr fun held => inactive (hS.leased_iff.mp held)
      exact fair.of_not_leased returned

/-- The first reply reaches the limit, and the command that ends the server's cursor fails. Without
the limit the cursor stays active. -/
theorem opens_wholly_or_not_after_failure :
    ∃ S T, Situation.Opened (BatchReply.Place.first.reply 7 [item 1])
        { plainSetting .unlimited with options := { limit := 1 } } S ∧
      S.session.leased = false ∧ S.session.counts = (plainSetting .unlimited).counts ∧
      S.session.leaseEvents = Session.takings ++ Session.returns ∧
      Situation.Opened (BatchReply.Place.first.reply 7 [item 1]) (plainSetting .unlimited) T ∧
      T.session.leased = true ∧ T.session.counts = (plainSetting .unlimited).counts.raised := by
  have ending : Blocking.Comes (BatchReply.Place.first.reply 7 [item 1])
      { plainSetting .unlimited with options := { limit := 1 } }
      [.outcome (.failure (.network "reset" none))] _ :=
    ⟨_, rfl, rfl⟩
  have going : Shared.Comes (BatchReply.Place.first.reply 7 [item 1]) (plainSetting .unlimited)
      [] _ :=
    ⟨_, rfl, rfl⟩
  have ended := Situation.Opened.blocking ending (by decide) rfl
  have goes := Situation.Opened.shared going (by decide) rfl
  obtain ⟨-, -, -, atEnd⟩ := opens_wholly_or_not (BatchReply.Place.first.reply 7 [item 1])
    { plainSetting .unlimited with options := { limit := 1 } }
  obtain ⟨-, -, -, atFirst⟩ := opens_wholly_or_not (BatchReply.Place.first.reply 7 [item 1])
    (plainSetting .unlimited)
  obtain ⟨-, -, returned⟩ := atEnd _ ended
  obtain ⟨held, raised, -⟩ := atFirst _ goes
  exact ⟨_, _, ended, rfl, (returned (by decide)).1, rfl, goes, held.mpr rfl, (raised rfl).1⟩

end ResultCursor
