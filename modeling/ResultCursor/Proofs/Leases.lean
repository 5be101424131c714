import ResultCursor.Loan
import ResultCursor.Proofs.Course.Calls
import ResultCursor.Proofs.Course.Coherence

/-! Leases are taken once at most and given back once. A step of a session either leaves them
alone or gives both back, so that the counts and the journal of leases can be read off from
whether they are held. -/

namespace ResultCursor

/-! ### What a session says of its leases -/

def Event.isLease : Event → Bool
  | .retained _ => true
  | .released _ => true
  | _ => false

/-- One more of each. -/
def Counts.raised (c : Counts) : Counts := ⟨c.connection + 1, c.source + 1⟩

/-- One less of each. -/
def Counts.lowered (c : Counts) : Counts := ⟨c.connection - 1, c.source - 1⟩

@[simp] theorem Counts.lowered_raised (c : Counts) : c.raised.lowered = c := by
  simp [lowered, raised]

/-- The leases of a session: whether they are held, the counts of the resources, and when they
were taken and given back. -/
structure Lending where
  leased : Bool
  counts : Counts
  events : List Event

namespace Lending

def giveBack (l : Lending) : Lending :=
  if l.leased then ⟨false, l.counts.lowered, l.events ++ Session.returns⟩ else l

/-- The courses that leases can take from the counts before them. -/
inductive Fair (before : Counts) : Lending → Prop where
  | unused : Fair before ⟨false, before, []⟩
  | held : Fair before ⟨true, before.raised, Session.takings⟩
  | returned : Fair before ⟨false, before, Session.takings ++ Session.returns⟩

theorem Fair.giveBack {before : Counts} {l : Lending} (h : l.Fair before) :
    l.giveBack.Fair before := by
  cases h with
  | unused => exact .unused
  | held => simpa [Lending.giveBack] using Fair.returned
  | returned => exact .returned

theorem Fair.of_leased {before : Counts} {l : Lending} (h : l.Fair before)
    (hl : l.leased = true) : l = ⟨true, before.raised, Session.takings⟩ := by
  cases h with
  | unused => cases hl
  | held => rfl
  | returned => cases hl

theorem Fair.of_not_leased {before : Counts} {l : Lending} (h : l.Fair before)
    (hl : l.leased = false) :
    l.counts = before ∧
      (l.events = [] ∨ l.events = Session.takings ++ Session.returns) := by
  cases h with
  | unused => exact ⟨rfl, .inl rfl⟩
  | held => cases hl
  | returned => exact ⟨rfl, .inr rfl⟩

end Lending

namespace Session

variable {s t : Session}

/-- When the leases were taken and given back. -/
def leaseEvents (s : Session) : List Event := s.journal.filter Event.isLease

def lending (s : Session) : Lending := ⟨s.leased, s.counts, s.leaseEvents⟩

theorem lending_of_eq {events : List Event} (hl : t.leased = s.leased) (hc : t.counts = s.counts)
    (hj : t.journal = s.journal ++ events) (he : events.filter Event.isLease = []) :
    t.lending = s.lending := by
  simp [lending, leaseEvents, hl, hc, hj, he]

@[simp] theorem note_lending (n : Note) : (s.note n).lending = s.lending :=
  lending_of_eq rfl rfl rfl rfl

@[simp] theorem deliver_lending (r : Except Failure Document) : (s.deliver r).lending = s.lending :=
  lending_of_eq rfl rfl rfl rfl

@[simp] theorem putBack_lending (saved : Option Span) : (s.putBack saved).lending = s.lending :=
  rfl

@[simp] theorem beginCall_lending : s.beginCall.lending = s.lending := by
  simp [lending, leaseEvents]

@[simp] theorem finish_lending (call : Call) : (s.finish call).1.lending = s.lending := by
  rcases finish_cases s call with ⟨batch, -, h⟩ | ⟨a, h, -⟩
  · rw [h]
    rfl
  · rw [h]

@[simp] theorem giveBack_lending : s.giveBack.lending = s.lending.giveBack := by
  cases hl : s.leased with
  | true =>
    rw [giveBack_of_leased hl]
    simp [lending, leaseEvents, Lending.giveBack, hl, Counts.lowered, returns, Event.isLease]
  | false =>
    rw [giveBack_of_not_leased hl]
    simp [lending, Lending.giveBack, hl]

theorem settleFetch_lending {result : Except Failure Document} {outcome : Except Failure Unit}
    (h : s.settleFetch result = (t, outcome)) : t.lending = s.lending := by
  rcases settleFetch_cases h with ⟨r, n, -, -, rfl⟩ | ⟨f, n, -, -, -, rfl⟩ | ⟨f, n, -, -, -, rfl⟩
  all_goals exact note_lending n

theorem takeKill_lending : s.takeKill.1.lending = s.lending := by
  obtain ⟨notes, ht⟩ := takeKill_fst s
  rw [ht]
  exact lending_of_eq rfl rfl rfl (by simp [Event.isLease])

theorem breakKill_lending (saved : Option Span) :
    (s.breakKill saved).lending = s.lending.giveBack := by
  rcases (s.putBack saved).giveBackOnDrop_eq with h | ⟨n, h⟩
  · rw [breakKill, h, giveBack_lending, putBack_lending]
  · rw [breakKill, h, giveBack_lending, note_lending, putBack_lending]

end Session

@[simp] theorem History.ended_settle (h : History) (q : Quota) (result : Except Failure Document) :
    (h.settle q result).ended = h.ended := by
  unfold settle
  split <;> rfl

namespace Situation

variable {R : Rules} {S T : Situation} {reply : Document} {setting : Setting}

/-- A step leaves the leases alone or gives both back. -/
theorem Step.lending (step : Step R S T) (hS : S.Coherent) :
    T.session.lending = S.session.lending ∨ T.session.lending = S.session.lending.giveBack := by
  cases step with
  | adjust deadline clock => exact .inl rfl
  | note n => exact .inl (Session.note_lending n)
  | setBatchSize n => exact .inl rfl
  | inspect => exact .inl rfl
  | enter call isOpen => exact .inl Session.beginCall_lending
  | stay closed ha => exact .inl rfl
  | finish settled => exact .inl (Session.finish_lending _)
  | halt halt => exact .inl rfl
  | ask needed sent =>
    obtain ⟨-, remote, left, -, -, -, rfl⟩ := Session.beginFetch_ok sent
    exact .inl (Session.lending_of_eq rfl rfl rfl rfl)
  | refuse allowed needed refused settled =>
    obtain ⟨since, n, -, -, rfl⟩ := hS.refused needed refused settled
    exact .inl (Session.note_lending n)
  | settle result settled =>
    exact .inl ((Session.settleFetch_lending settled).trans (Session.deliver_lending result))
  | lose => exact .inl rfl
  | takeKill => exact .inl Session.takeKill_lending
  | spare clean =>
    cases Session.cleanUp_finished clean
    exact .inr Session.giveBack_lending
  | sendKill clean =>
    obtain ⟨-, command, -, rfl⟩ := Session.cleanUp_killing clean
    exact .inl (Session.lending_of_eq rfl rfl rfl rfl)
  | @settleKill s saved after h result =>
    simp only [Session.settleKill, Session.giveBack_lending, Session.note_lending,
      Session.putBack_lending, Session.deliver_lending]
    exact .inr trivial
  | breakKill => exact .inr (Session.breakKill_lending _)
  | opened => exact .inl rfl
  | again more => exact .inl rfl
  | content => exact .inl (Session.finish_lending .tryNext)
  | fail => exact .inl rfl
  | relent returns => exact .inl rfl
  | shut => exact .inl rfl
  | close ha => exact .inl rfl
  | retire finished => exact .inl rfl
  | dropAndClose => exact .inl rfl
  | dropAndLeave => exact .inl Session.takeKill_lending
  | forsake => exact .inr Session.giveBack_lending
  | bury ended returned => exact .inl rfl

theorem Step.fair {before : Counts} (step : Step R S T) (hc : S.Coherent)
    (hl : S.session.lending.Fair before) : T.session.lending.Fair before := by
  rcases step.lending hc with h | h
  · exact h ▸ hl
  · exact h ▸ hl.giveBack

theorem opening_fair {s : Session} (hs : Session.ofReply reply setting = .ok s) :
    s.lending.Fair setting.counts := by
  rcases Session.ofReply_ok hs with ⟨first, n, -, -, -, ⟨hl, hc, hj⟩ | ⟨hl, hc, hj⟩⟩
  · have h : s.lending = ⟨false, setting.counts, []⟩ := by
      simp [Session.lending, Session.leaseEvents, hl, hc, hj, Event.isLease]
    exact h ▸ .unused
  · have h : s.lending = ⟨true, setting.counts.raised, Session.takings⟩ := by
      simp [Session.lending, Session.leaseEvents, hl, hc, hj, Event.isLease, Session.takings,
        Counts.raised]
    exact h ▸ .held

theorem Courses.lending (hS : Courses reply setting S) :
    S.session.lending.Fair setting.counts :=
  hS.induction (P := fun S => S.session.lending.Fair setting.counts) (fun _ hs => opening_fair hs)
    fun _ _ hC hS step => step.fair hC.coherent hS

/-! ### Going out of use -/

/-- A cursor out of use has no server's cursor, except while a close is about to let go of it. -/
def Gone (S : Situation) : Prop :=
  S.history.ended = true →
    S.session.cursor.remote = none ∨ ∃ a, S.control = .leaving (.closing a)

theorem Gone.keep (hS : S.Gone) (hc : ∀ a, S.control ≠ .leaving (.closing a))
    (he : T.history.ended = S.history.ended)
    (hr : S.session.cursor.remote = none → T.session.cursor.remote = none) : T.Gone := by
  intro h
  rcases hS (he ▸ h) with hn | ⟨a, ha⟩
  · exact .inl (hr hn)
  · exact absurd ha (hc a)

theorem Step.gone (step : Step R S T) (hc : S.Coherent) (hS : S.Gone) : T.Gone := by
  cases step with
  | adjust deadline clock => exact hS
  | note n => exact hS
  | setBatchSize n => exact hS.keep (by simp) rfl id
  | inspect => exact hS.keep (by simp) rfl id
  | enter call isOpen => exact hS.keep (by simp) rfl (by simp)
  | stay closed ha => exact hS.keep (by simp) rfl id
  | @finish s call h settled =>
    rcases s.finish_cases call with ⟨batch, -, hf⟩ | ⟨a, hf, -⟩
    all_goals
      rw [hf]
      exact hS.keep (by simp) rfl id
  | halt halt => exact hS.keep (by simp) rfl id
  | ask needed sent =>
    obtain ⟨-, remote, left, -, -, -, rfl⟩ := Session.beginFetch_ok sent
    exact hS.keep (by simp) rfl id
  | refuse allowed needed refused settled =>
    obtain ⟨since, n, -, -, rfl⟩ := hc.refused needed refused settled
    exact hS.keep (by simp) rfl (by simp +contextual [Cursor.fail])
  | @settle s t call h outcome result settled =>
    have hr : s.cursor.remote.isSome := hc.fits.remote
    intro he
    rcases hS (by simpa using he) with hn | ⟨a, ha⟩
    · simp only at hn
      simp [hn] at hr
    · cases ha
  | lose => exact hS.keep (by simp) rfl id
  | @takeKill s after h =>
    obtain ⟨notes, ht⟩ := Session.takeKill_fst s
    exact fun _ => .inl (by simp [ht])
  | spare clean =>
    have ht := Session.cleanUp_cursor clean
    exact hS.keep (by simp) rfl (by simp [ht])
  | sendKill clean =>
    have ht := Session.cleanUp_cursor clean
    exact hS.keep (by simp) rfl (by simp [ht])
  | settleKill result => exact hS.keep (by simp) rfl (by simp)
  | @breakKill s saved after h =>
    have hr : s.cursor.remote = none := hc.fits.1
    exact fun _ => .inl (by simpa using hr)
  | opened => exact hS.keep (by simp) rfl id
  | again more => exact hS.keep (by simp) rfl id
  | @content s h =>
    rcases s.finish_cases .tryNext with ⟨batch, -, hf⟩ | ⟨a, hf, -⟩
    all_goals
      rw [hf]
      exact hS.keep (by simp) rfl id
  | fail => exact hS.keep (by simp) rfl id
  | relent returns => exact hS.keep (by simp) rfl id
  | shut => exact fun _ => .inl rfl
  | close ha => exact fun _ => .inr ⟨_, rfl⟩
  | @retire s h finished =>
    have hp := (Session.isFinished_iff.mp finished).1
    exact fun _ => .inl (Session.Settled.remote_eq_none hc.fits (by simp [hp]))
  | dropAndClose => exact fun _ => .inr ⟨_, rfl⟩
  | dropAndLeave => exact fun _ => .inl rfl
  | forsake => exact hS.keep (by simp) rfl (by simp)
  | bury ended returned => exact fun _ => .inl rfl

theorem Courses.gone (hS : Courses reply setting S) : S.Gone := by
  refine hS.induction (P := Gone) (fun s hs => ?_) fun S T hC hS step => step.gone hC.coherent hS
  intro he
  simp only [Situation.opening, History.ofReply] at he
  split at he <;> cases he

end Situation

/-! ### The leases one by one -/

/-- As what a resource is leased. -/
def Resource.label : Resource → String
  | connection => "connection"
  | source => "connection source"

/-- What an event does to the lease on a resource. -/
def Event.action? (r : Resource) : Event → Option Loan.Action
  | .retained taken => if taken = r then some (.acquire r.label) else none
  | .released given => if given = r then some (.release 0) else none
  | _ => none

/-- What a session did with its lease on a resource. -/
def Session.actions (s : Session) (r : Resource) : List Loan.Action :=
  s.journal.filterMap (Event.action? r)

theorem Session.actions_eq (s : Session) (r : Resource) :
    s.actions r = s.leaseEvents.filterMap (Event.action? r) := by
  rw [Session.leaseEvents, List.filterMap_filter]
  refine List.filterMap_congr fun e _ => ?_
  cases e <;> rfl

/-- Actions that leave the count as it was and that no lease answers with a warning or a crash. -/
def Loan.Clean (l : Loan) (actions : List Loan.Action) : Prop :=
  (l.performAll actions).1.count = l.count ∧ (l.performAll actions).1.notes = l.notes ∧
    ∀ step ∈ (l.performAll actions).2, ∀ text, step.1 ≠ .crashed text

theorem Loan.performAll_round (n : Nat) (label : String) :
    Loan.performAll { count := n } [.acquire label, .release 0, .drop 0] =
      ({ count := n, leases := [{ label, held := false }] },
        [(.index 0, n + 1), (.nothing, n), (.nothing, n)]) := rfl

/-- To drop a lease that was given back does nothing. -/
theorem Lending.Fair.drop {before : Counts} {l : Lending} (h : l.Fair before)
    (hl : l.leased = false) (r : Resource) (n : Nat) :
    Loan.Clean { count := n } (l.events.filterMap (Event.action? r) ++ [.drop 0]) := by
  cases h with
  | unused => simp [Loan.Clean, Loan.performAll, Loan.perform, Loan.onHeld, Loan.held?]
  | held => cases hl
  | returned =>
    have ha : (Session.takings ++ Session.returns).filterMap (Event.action? r) ++ [.drop 0] =
        [.acquire r.label, .release 0, .drop 0] := by
      cases r <;> rfl
    rw [ha]
    simp [Loan.Clean, Loan.performAll_round]

/-! ### Constructors -/

theorem Session.ofReply_error {reply : Document} {setting : Setting} {f : Failure}
    (h : Session.ofReply reply setting = .error f) :
    Cursor.ofReply reply setting.address setting.options = .error f := by
  rw [Session.ofReply_eq] at h
  split at h
  · next hc =>
    cases h
    exact hc
  · cases h

theorem Blocking.start_error {reply : Document} {setting : Setting} {f : Failure}
    (h : start reply setting = .error f) :
    Cursor.ofReply reply setting.address setting.options = .error f := by
  refine Session.ofReply_error ?_
  rw [start, Blocking.ofReply_eq] at h
  cases hs : Session.ofReply reply setting with
  | error g => simpa [hs] using h
  | ok s => simp [hs] at h

theorem Shared.start_error {reply : Document} {setting : Setting} {f : Failure}
    (h : start reply setting = .error f) :
    Cursor.ofReply reply setting.address setting.options = .error f := by
  refine Session.ofReply_error ?_
  rw [start, Shared.ofReply_eq] at h
  cases hs : Session.ofReply reply setting with
  | error g => simpa [hs] using h
  | ok s => simp [hs] at h

section

variable {reply : Document} {address : Address} {options : Options} {f : Failure}
  (h : Cursor.ofReply reply address options = .error f) (w : World)

include h

theorem Session.openIn_of_error : openIn w reply address options = (w, .error f) := by
  rw [openIn, h]

theorem Blocking.openIn_of_error : openIn w reply address options = (w, .error f) := by
  rw [openIn, Session.openIn_of_error h]

theorem Shared.openIn_of_error : openIn w reply address options = (w, .error f) := by
  rw [openIn, Session.openIn_of_error h]

end

/-- A constructor that fails has leased nothing yet, and leaves the counts and all the world as they
are. Between calls the counts are those before the cursor, and one more of each while the server
holds a cursor. Each lease is given back once, the connection before its source, and a lease that is
dropped was given back. -/
theorem leases_symmetric {reply : Document} {setting : Setting} :
    (∀ f, Blocking.start reply setting = .error f ∨ Shared.start reply setting = .error f →
      Cursor.ofReply reply setting.address setting.options = .error f ∧
      ∀ w, Blocking.openIn w reply setting.address setting.options = (w, .error f) ∧
        Shared.openIn w reply setting.address setting.options = (w, .error f)) ∧
    ∀ S, Situation.Reached reply setting S → S.control = .idle →
      (S.session.cursor.remote.isSome →
        S.session.counts = setting.counts.raised ∧ S.session.leaseEvents = Session.takings) ∧
      (S.session.cursor.remote = none →
        S.session.counts = setting.counts ∧
        (S.session.leaseEvents = [] ∨
          S.session.leaseEvents = Session.takings ++ Session.returns) ∧
        ∀ r n, Loan.Clean { count := n } (S.session.actions r ++ [.drop 0])) ∧
      (S.history.ended = true → S.session.cursor.remote = none) := by
  constructor
  · intro f hf
    have failed := hf.elim Blocking.start_error Shared.start_error
    exact ⟨failed, fun w => ⟨Blocking.openIn_of_error failed w, Shared.openIn_of_error failed w⟩⟩
  intro S hS idle
  have fits := hS.courses.coherent.fits
  rw [idle] at fits
  have hl : S.session.leased = S.session.cursor.remote.isSome := fits.leased
  have fair := hS.courses.lending
  refine ⟨?_, ?_, ?_⟩
  · intro hr
    have h := fair.of_leased (hl.trans hr)
    exact ⟨congrArg Lending.counts h, congrArg Lending.events h⟩
  · intro hr
    have hn : S.session.leased = false := by rw [hl, hr, Option.isSome_none]
    obtain ⟨hc, hj⟩ := fair.of_not_leased hn
    refine ⟨hc, hj, ?_⟩
    intro r n
    rw [Session.actions_eq]
    exact fair.drop hn r n
  · intro he
    rcases hS.courses.gone he with hn | ⟨a, ha⟩
    · exact hn
    · simp [idle] at ha

/-- A close is given up while its command is under way, and the cursor is dropped. -/
theorem leases_symmetric_after_abandon :
    ∃ S, Situation.Reached (BatchReply.Place.first.reply 7 [item 1]) (plainSetting .unlimited) S ∧
      S.control = .idle ∧ S.history.ended = true ∧
      S.session.counts = (plainSetting .unlimited).counts ∧
      S.session.leaseEvents = Session.takings ++ Session.returns := by
  have run : Shared.Comes (BatchReply.Place.first.reply 7 [item 1]) (plainSetting .unlimited)
      [.start .close, .abandon 0, .drop true] _ :=
    ⟨_, rfl, rfl⟩
  obtain ⟨-, hr, he⟩ := leases_symmetric.2 _ (.shared run) rfl
  exact ⟨_, .shared run, rfl, rfl, (hr (he rfl)).1, rfl⟩

end ResultCursor
