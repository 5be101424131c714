import ResultCursor.Proofs.Course.Calls
import ResultCursor.Proofs.Inquiry

/-! Commands that end the server's cursor go over the connection only while no request for a batch
is without its result, with one exception. A call that needs a batch after the deadline has passed
is treated like a failed request although it sent none, and what is remembered of an earlier request
without a result is forgotten with it. -/

namespace ResultCursor

/-! ### What keeps commands off the connection -/

/-- A session in which no request is without its result. -/
def Session.answered (s : Session) : Prop := s.inquiry.pending = false

/-- Calls go without the request that they need only while no request is without its result. -/
def answering : Rules
  | .refuse s => s.answered
  | _ => True

def Control.Safe (s : Session) : Control → Prop
  | .waiting (.batch _) => s.inquiry.asked = true
  | .waiting (.kill ..) => s.inquiry.asked = false
  | .cleaning (some command) _ => command.isGetMore = false ∧ s.answered
  | _ => True

/-- A request without a result is remembered as long as the server's cursor is held. -/
structure Situation.Safe (S : Situation) : Prop where
  control : S.control.Safe S.session
  remembered : S.session.inquiry.pending = true → S.session.cursor.remote.isSome →
    S.session.cursor.inFlight = true
  usable : S.session.cursor.phase = .active → S.session.cursor.connectionBroken = false

theorem Control.Safe.of_eq {s t : Session} {c : Control} (h : c.Safe s)
    (hi : t.inquiry = s.inquiry) : c.Safe t := by
  cases c with
  | waiting wait => cases wait <;> simpa only [Control.Safe, hi] using h
  | cleaning kill after =>
    cases kill with
    | none => trivial
    | some command => simpa only [Control.Safe, Session.answered, hi] using h
  | _ => trivial

theorem Control.Safe.due (s : Session) (after : Aftermath) : (Control.due s after).Safe s := by
  unfold Control.due
  split <;> trivial

/-- A command to end the server's cursor is due only while every request has its result. -/
theorem Control.Safe.takeKill {s t : Session} {after : Aftermath}
    (hr : s.inquiry.pending = true → s.cursor.remote.isSome → s.cursor.inFlight = true)
    (hi : t.inquiry = s.inquiry) : (Control.cleaning s.takeKill.2 after).Safe t := by
  cases hk : s.takeKill.2 with
  | none => trivial
  | some command =>
    have hs : s.cursor.remote.isSome := Session.remote_isSome_of_takeKill (by simp [hk])
    rw [Session.takeKill_snd, Cursor.takeKill_kill] at hk
    split at hk
    · cases hk
    · next hb =>
      obtain ⟨remote, -, rfl⟩ := Option.map_eq_some_iff.mp hk
      refine ⟨Command.isGetMore_kill _ _, ?_⟩
      simp only [Bool.or_eq_true, not_or, Bool.not_eq_true] at hb
      rw [Session.answered, hi]
      exact Bool.eq_false_iff.mpr fun hp => by simp [hr hp hs] at hb

namespace Situation

variable {R : Rules} {S T : Situation} {reply : Document} {setting : Setting}

section

variable {s t : Session} {c d : Control} {h h' : History}

/-- A step that sends nothing and hears of nothing. -/
theorem Safe.kept (hS : Safe ⟨s, c, h⟩) (hi : t.inquiry = s.inquiry)
    (hr : t.cursor.remote.isSome →
      s.cursor.remote.isSome ∧ t.cursor.inFlight = s.cursor.inFlight)
    (hu : t.cursor.phase = .active →
      s.cursor.phase = .active ∧ t.cursor.connectionBroken = s.cursor.connectionBroken)
    (hd : d.Safe t) :
    Safe ⟨t, d, h'⟩ ∧ t.inquiry.strays = s.inquiry.strays := by
  refine ⟨⟨hd, fun hp hs => ?_, fun ha => ?_⟩, by rw [hi]⟩
  · obtain ⟨hs, hf⟩ := hr hs
    exact hf.trans (hS.remembered (hi ▸ hp) hs)
  · obtain ⟨ha, hb⟩ := hu ha
    exact hb.trans (hS.usable ha)

/-- The same for a cursor that stays as it is. -/
theorem Safe.same (hS : Safe ⟨s, c, h⟩) (hi : t.inquiry = s.inquiry) (hc : t.cursor = s.cursor)
    (hd : d.Safe t) : Safe ⟨t, d, h'⟩ ∧ t.inquiry.strays = s.inquiry.strays :=
  hS.kept hi (fun hs => ⟨hc ▸ hs, by rw [hc]⟩) (fun ha => ⟨hc ▸ ha, by rw [hc]⟩) hd

/-- Without a server's cursor there is nothing to remember. -/
theorem Safe.gone (hS : Safe ⟨s, c, h⟩) (hi : t.inquiry = s.inquiry)
    (hr : t.cursor.remote = none)
    (hu : t.cursor.phase = .active →
      s.cursor.phase = .active ∧ t.cursor.connectionBroken = s.cursor.connectionBroken)
    (hd : d.Safe t) : Safe ⟨t, d, h'⟩ ∧ t.inquiry.strays = s.inquiry.strays :=
  hS.kept hi (fun hs => by simp [hr] at hs) hu hd

theorem Safe.finish (hS : Safe ⟨s, c, h⟩) (call : Call) :
    Safe ⟨(s.finish call).1, .idle, h'⟩ ∧
      (s.finish call).1.inquiry.strays = s.inquiry.strays := by
  rcases s.finish_cases call with ⟨batch, -, hf⟩ | ⟨a, hf, -⟩
  · rw [hf]
    exact hS.kept rfl (fun hs => ⟨hs, rfl⟩) (fun ha => ⟨ha, rfl⟩) trivial
  · rw [hf]
    exact hS.same rfl rfl trivial

theorem Safe.asked {call : Call} {stop : Option Bool} {sending : Sending}
    (hS : Safe ⟨s, c, h⟩) (sent : s.beginFetch stop = (t, .ok sending)) :
    Safe ⟨t, .waiting (.batch call), h'⟩ ∧ t.inquiry.strays = s.inquiry.strays := by
  obtain ⟨-, remote, left, -, -, hcmd, ht⟩ := Session.beginFetch_ok sent
  have hg : sending.command.isGetMore = true := by
    rw [hcmd]
    rfl
  have hi := Session.inquiry_sent_getMore (congrArg Session.journal ht) hg
  refine ⟨⟨congrArg Inquiry.asked hi, fun _ _ => ?_, fun ha => ?_⟩, by rw [hi]⟩
  · simp only [ht]
  · simp only [ht] at ha ⊢
    exact hS.usable ha

/-- The result is that of the newest request: no other command goes out while a call waits. -/
theorem Safe.settled {call : Call} {result : Except Failure Document}
    {outcome : Except Failure Unit} (hS : Safe ⟨s, .waiting (.batch call), h⟩)
    (hp : s.cursor.phase = .active)
    (settled : (s.deliver result).settleFetch result = (t, outcome)) :
    Safe ⟨t, .due t (.ofFetch call outcome), h'⟩ ∧ t.inquiry.strays = s.inquiry.strays := by
  have ha : s.inquiry.asked = true := hS.control
  have hi : t.inquiry = ⟨false, false, s.inquiry.strays⟩ := by
    rw [Session.settleFetch_inquiry settled, Session.deliver_inquiry]
    simp [Inquiry.hear, ha]
  refine ⟨⟨.due _ _, fun hn => ?_, ?_⟩, by rw [hi]⟩
  · simp [hi] at hn
  · have hu := hS.usable hp
    rcases Session.settleFetch_cases settled with
        ⟨r, n, -, -, rfl⟩ | ⟨f, n, -, -, -, rfl⟩ | ⟨f, n, -, -, -, rfl⟩
    · exact fun _ => hu
    · exact fun _ => hu
    · intro hp
      cases hp

/-- A command that is due meets no request without a result. -/
theorem Safe.killing {kill : Option Command} {after : Aftermath} {stop : Option Bool}
    {sending : Sending} {saved : Option Span} (hS : Safe ⟨s, .cleaning kill after, h⟩)
    (clean : s.cleanUp kill stop = (t, .killing sending saved)) :
    Safe ⟨t, .waiting (.kill saved after), h'⟩ ∧ t.inquiry.strays = s.inquiry.strays := by
  obtain ⟨-, command, rfl, rfl⟩ := Session.cleanUp_killing clean
  obtain ⟨hg, ha⟩ := hS.control
  have hp : s.inquiry.pending = false := ha
  have hi := Session.inquiry_sent_other (s := s)
    (t := (s.underKillTime.send command stop).1) rfl hg
  simp only [hp, Bool.and_false, Bool.false_eq_true, if_false, Nat.add_zero] at hi
  refine ⟨⟨congrArg Inquiry.asked hi, fun hn => ?_, hS.usable⟩, by rw [hi]⟩
  cases (congrArg Inquiry.pending hi).symm.trans hn

end

/-- Where calls go without a request only when all requests have their results, no command to end
the server's cursor meets a request without one. -/
theorem Step.safe (step : Step answering S T) (hc : S.Coherent) (hS : S.Safe) :
    T.Safe ∧ T.session.inquiry.strays = S.session.inquiry.strays := by
  cases step with
  | adjust deadline clock => exact hS.same rfl rfl (hS.control.of_eq rfl)
  | note n => exact hS.same (Session.note_inquiry n) rfl (hS.control.of_eq (by simp))
  | setBatchSize n => exact hS.kept rfl (fun hs => ⟨hs, rfl⟩) (fun ha => ⟨ha, rfl⟩) trivial
  | inspect => exact hS.same rfl rfl trivial
  | enter call isOpen => exact hS.same (by simp) (by simp) trivial
  | stay closed ha => exact hS.same rfl rfl trivial
  | finish settled => exact hS.finish _
  | halt halt => exact hS.same rfl rfl trivial
  | ask needed sent => exact hS.asked sent
  | refuse allowed needed refused settled =>
    -- the mark of a request in flight goes, so only `allowed` says that there is none
    obtain ⟨since, n, rfl, -, rfl⟩ := hc.refused needed refused settled
    refine ⟨⟨.due _ _, fun hp => ?_, fun ha => by cases ha⟩, by rw [Session.note_inquiry]; rfl⟩
    rw [Session.note_inquiry] at hp
    exact absurd hp (Bool.eq_false_iff.mp allowed)
  | settle result settled => exact hS.settled (hc.fits.active hc.fits.remote) settled
  | lose => exact hS.same rfl rfl trivial
  | @takeKill s after h =>
    have ht := Session.takeKill_fst_cursor (s := s)
    exact hS.gone (by simp) (by simp [ht]) (fun ha => by simpa [ht] using ha)
      (.takeKill hS.remembered (by simp))
  | spare clean =>
    cases Session.cleanUp_finished clean
    exact hS.same (by simp) (by simp) trivial
  | sendKill clean => exact hS.killing clean
  | @settleKill s saved after h result =>
    have ha : s.inquiry.asked = false := hS.control
    exact hS.same (by simp [Inquiry.hear, ha]) (by simp) trivial
  | @breakKill s saved after h => exact hS.same (by simp) (by simp) trivial
  | opened => exact hS.same rfl rfl trivial
  | again more => exact hS.same rfl rfl trivial
  | content => exact hS.finish .tryNext
  | fail => exact hS.same rfl rfl trivial
  | relent returns => exact hS.same rfl rfl trivial
  | shut => exact hS.gone rfl rfl (by simp [Cursor.close]) trivial
  | close ha => exact hS.same rfl rfl trivial
  | retire finished => exact hS.same rfl rfl trivial
  | dropAndClose => exact hS.same rfl rfl trivial
  | dropAndLeave =>
    exact hS.gone Session.takeKill_inquiry rfl (by simp [Cursor.close])
      (.takeKill hS.remembered Session.takeKill_inquiry)
  | forsake => exact hS.same (by simp) (by simp) trivial
  | bury ended returned => exact hS.gone rfl rfl (by simp [Cursor.close]) trivial

/-- The same of a whole course. -/
theorem Course.safe (course : Course answering S T) (hc : S.Coherent) (hS : S.Safe) :
    T.Safe ∧ T.session.inquiry.strays = S.session.inquiry.strays := by
  induction course with
  | refl => exact ⟨hS, rfl⟩
  | tail course step ih =>
    obtain ⟨hsafe, hn⟩ := ih
    obtain ⟨hsafe', hn'⟩ := step.safe (Course.coherent course hc) hsafe
    exact ⟨hsafe', hn'.trans hn⟩

theorem Safe.opening {s : Session} (hs : Session.ofReply reply setting = .ok s) :
    (opening reply setting s).Safe ∧ s.inquiry.strays = 0 := by
  obtain ⟨first, n, -, hc, -, hj⟩ := Session.ofReply_ok hs
  have hi : s.inquiry = {} := by
    rcases hj with ⟨-, -, hj⟩ | ⟨-, -, hj⟩ <;>
      simp [Session.inquiry, hj, Session.takings, Inquiry.hear]
  refine ⟨⟨.due _ _, fun hp => ?_, fun _ => ?_⟩, by rw [hi]⟩
  · simp [Situation.opening, hi] at hp
  · simp [Situation.opening, hc, Cursor.absorb, Cursor.fresh]

theorem opened_safe
    (opened : ∃ s, Session.ofReply reply setting = .ok s ∧
      Course answering (opening reply setting s) S) :
    (S.Coherent ∧ S.Safe) ∧ S.session.inquiry.strays = 0 := by
  obtain ⟨s, hs, course⟩ := opened
  obtain ⟨safe, zero⟩ := Safe.opening hs
  obtain ⟨safe, same⟩ := Course.safe course (.opening hs) safe
  exact ⟨⟨Course.coherent course (.opening hs), safe⟩, same.trans zero⟩

/-- What a call comes to when the outcome that it waits for is there: it asks again only after the
request before has its result. -/
theorem Safe.keepsTo {s : Session} {wait : Wait} {h : History}
    (hS : Safe ⟨s, .waiting wait, h⟩) (hc : Coherent ⟨s, .waiting wait, h⟩) :
    wait.KeepsTo answering s := by
  cases wait with
  | batch call =>
    refine fun result t settled _ => ⟨trivial, fun stop u f _ => ?_⟩
    have ha : s.inquiry.asked = true := hS.control
    simp [answering, Session.answered, Session.settleFetch_inquiry settled, Inquiry.hear, ha]
  | kill saved after =>
    intro result needed
    have hr : s.cursor.remote = none := hc.fits.1
    have hn := (Session.isSettled_eq_false_iff.mp needed).2.2
    simp [hr] at hn

end Situation

/-! ### Calls past the deadline -/

namespace Session

variable {s t : Session}

/-- The deadline has passed at the next look at the clock. -/
def isLate (s : Session) : Bool :=
  match s.deadline.remaining s.clock.read.1 with
  | .error _ => true
  | .ok _ => false

/-- A call that needs a batch would come too late to ask for it, and an earlier request is still
without a result. -/
def Strands (s : Session) : Prop :=
  s.inquiry.pending = true ∧ s.isSettled = false ∧ s.beginCall.isLate = true

theorem isSettled_beginCall : s.beginCall.isSettled = s.isSettled := by
  simp [isSettled]

/-- Unless a call is stranded, it goes without a request only when all have their results. -/
theorem Settled.keepsTo (hs : s.Settled) (hn : ¬s.Strands) : s.beginCall.KeepsTo answering := by
  intro needed
  refine ⟨trivial, fun stop t f h => ?_⟩
  rw [isSettled_beginCall] at needed
  have hr : s.beginCall.cursor.remote.isSome := by
    simpa using (isSettled_eq_false_iff.mp needed).2.2
  have hl : s.beginCall.leased = true := by
    simpa [hs.leased] using hr
  have late := (beginFetch_error hr hl h).2
  refine Bool.eq_false_iff.mpr fun hp => hn ⟨by simpa using hp, needed, ?_⟩
  simp [isLate, late]

/-- A needed request past the deadline closes the cursor and forgets that one was in flight. -/
theorem fetch_late (needed : s.isSettled = false) (late : s.isLate = true) (stop : Option Bool) :
    ∃ t since n, s.beginFetch stop = (t, .error (.timeout (.passed since))) ∧
      t.settleFetch (.error (.timeout (.passed since))) =
        (({ s with
          clock := s.clock.read.2
          cursor := { s.cursor with inFlight := false }.fail (.timeout (.passed since)) } :
          Session).note n, .error (.timeout (.passed since))) := by
  obtain ⟨remote, hr⟩ := Option.isSome_iff_exists.mp (isSettled_eq_false_iff.mp needed).2.2
  unfold isLate at late
  split at late
  · next f hd =>
    obtain ⟨since, rfl⟩ := Deadline.remaining_error hd
    exact ⟨_, since, _, beginFetch_passed hr hd, rfl⟩
  · cases late

/-- Letting go of the server's cursor sends a command over a connection that can be used. -/
theorem release_sends (hr : s.cursor.remote.isSome) (hl : s.leased = true)
    (hb : s.cursor.connectionBroken = false) (hf : s.cursor.inFlight = false)
    (stop : Option Bool) :
    ∃ v sending saved, s.beginRelease stop = (v, .killing sending saved) ∧
      v.cursor = { s.cursor with remote := none } ∧
      v.inquiry = { s.inquiry with
        asked := false
        strays := s.inquiry.strays + if s.inquiry.pending then 1 else 0 } := by
  obtain ⟨remote, hr⟩ := Option.isSome_iff_exists.mp hr
  have hk : s.takeKill.2 = some (.kill s.cursor.ns remote) := by
    rw [takeKill_snd, Cursor.takeKill_kill, hr]
    simp [hb, hf]
  obtain ⟨notes, ht⟩ := takeKill_fst s
  have hl' : s.takeKill.1.leased = true := by rw [ht, hl]
  have hc : s.beginRelease stop =
      ((s.takeKill.1.underKillTime.send (.kill s.cursor.ns remote) stop).1,
        .killing (s.takeKill.1.underKillTime.send (.kill s.cursor.ns remote) stop).2
          s.takeKill.1.deadline.override) := by
    rw [beginRelease_eq, hk]
    simp only [cleanUp, hl', if_true, sendKill_eq]
  refine ⟨_, _, _, hc, ?_, ?_⟩
  · exact takeKill_fst_cursor
  · have hi := inquiry_sent_other (s := s.takeKill.1)
      (t := (s.takeKill.1.underKillTime.send (.kill s.cursor.ns remote) stop).1) rfl
      (Command.isGetMore_kill s.cursor.ns remote)
    simpa using hi

/-- A session whose command to end the server's cursor met a request without a result. -/
structure Strayed (s v : Session) : Prop where
  remote : v.cursor.remote = none
  phase : v.cursor.phase = .closed
  asked : v.inquiry.asked = false
  strays : v.inquiry.strays = s.inquiry.strays + 1

/-- A stranded call closes the cursor without a request, and sends a command to end the server's
cursor. -/
theorem Strands.release (h : s.Strands) (hs : s.Settled)
    (hb : s.cursor.phase = .active → s.cursor.connectionBroken = false)
    (stop stop' : Option Bool) :
    ∃ t f u v sending saved, s.beginCall.beginFetch stop = (t, .error f) ∧
      t.settleFetch (.error f) = (u, .error f) ∧ u.cursor.phase = .closed ∧
      u.beginRelease stop' = (v, .killing sending saved) ∧ Strayed s v := by
  obtain ⟨hp, needed, late⟩ := h
  obtain ⟨-, hactive, hr⟩ := isSettled_eq_false_iff.mp needed
  obtain ⟨t, since, n, hf, hu⟩ := fetch_late (isSettled_beginCall.trans needed) late stop
  let u := (({ s.beginCall with
    clock := s.beginCall.clock.read.2
    cursor := { s.beginCall.cursor with inFlight := false }.fail (.timeout (.passed since)) } :
    Session).note n)
  have hi : u.inquiry = s.inquiry := (note_inquiry n).trans beginCall_inquiry
  have hc : u.cursor = { s.cursor with inFlight := false }.fail (.timeout (.passed since)) := by
    simp [u]
  have hl : u.leased = true := by simp [u, hs.leased, hr]
  obtain ⟨v, sending, saved, hv, hvc, hvi⟩ := release_sends (s := u) (by simpa [hc, Cursor.fail])
    hl (by simp [hc, Cursor.fail, hb hactive, Failure.breaksConnection]) (by simp [hc, Cursor.fail])
    stop'
  refine ⟨t, _, u, v, sending, saved, hf, hu, by rw [hc]; rfl, hv, ?_⟩
  exact {
    remote := by rw [hvc]
    phase := by rw [hvc, hc]; rfl
    asked := by rw [hvi]
    strays := by rw [hvi, hi, hp]; rfl }

end Session

/-- The situation after it was counted, and is like any other. -/
theorem Session.Strayed.safe {s v : Session} (hv : Strayed s v) (saved : Option Span)
    (after : Aftermath) (h : History) :
    Situation.Safe ⟨v, .waiting (.kill saved after), h⟩ where
  control := hv.asked
  remembered _ hr := by simp [hv.remote] at hr
  usable ha := by cases hv.phase.symm.trans ha

/-! ### Stranded calls on both kinds of cursors -/

namespace Blocking

variable {b : Blocking} {h : History} {p q : Play} {m : Move}

theorem request_strands {r : Request} (ha : b.asks r) (hs : b.session.Strands)
    (hc : b.session.Settled)
    (hb : b.session.cursor.phase = .active → b.session.cursor.connectionBroken = false) :
    (landing h (b.request r)).Safe ∧
      (landing h (b.request r)).session.inquiry.strays = b.session.inquiry.strays + 1 := by
  cases r with
  | iterate call =>
    obtain ⟨hq, hi⟩ := ha
    have needed : b.session.beginCall.isSettled = false :=
      Session.isSettled_beginCall.trans hs.2.1
    have hopen : b.session.cursor.isClosed = false := by
      simp [Cursor.isClosed, (Session.isSettled_eq_false_iff.mp hs.2.1).2.1]
    obtain ⟨t, f, u, v, sending, saved, hf, hu, hp, hv, strayed⟩ :=
      hs.release hc hb (some b.signal.shouldStop) (some false)
    have hr : b.request (.iterate call) =
        ({ b with session := v }, .waiting sending (.kill saved (.failing call f))) := by
      simp [request, iterate, proceed, unlessInterrupted, fetch, failWith, afterCleanup, hq, hi,
        needed, hopen, hf, hu, hp, hv]
    rw [hr]
    exact ⟨strayed.safe saved _ h, strayed.strays⟩
  | _ => exact ha.elim

/-- The move makes a call that is stranded. -/
def Play.Strands (p : Play) : Move → Prop
  | .request r => p.cursor.asks r ∧ p.session.Strands
  | _ => False

/-- All other moves go without a request only when all have their results. -/
theorem Play.keepsTo_answering (hc : p.situation.Coherent) (hS : p.situation.Safe)
    (hm : p.act m = some q) (hn : ¬p.Strands m) : p.KeepsTo answering m := by
  refine ⟨trivial, ?_, ?_, fun _ _ _ => trivial, fun _ _ => trivial, fun _ _ _ => trivial⟩
  · rintro r rfl ha
    obtain ⟨_, free⟩ := Play.acts hm
    rw [Play.situation_of_isFree free] at hc
    exact Session.Settled.keepsTo hc.fits fun hs => hn ⟨ha, hs⟩
  · rintro o rfl wait hw
    have hp : p.situation = ⟨p.session, .waiting wait, p.history⟩ := by
      simp [Play.situation, Play.control, Control.ofWait, hw]
    rw [hp] at hc hS
    exact hS.keepsTo hc

theorem act_strands (hc : p.situation.Coherent) (hS : p.situation.Safe) (hm : p.act m = some q)
    (hs : p.Strands m) :
    q.situation.Safe ∧ q.session.inquiry.strays = p.session.inquiry.strays + 1 := by
  cases Play.acts hm with
  | request r free =>
    rw [Play.situation_of_isFree free] at hc
    exact request_strands hs.1 hs.2 hc.fits hS.usable
  | _ => exact hs.elim

end Blocking

namespace Shared

variable {c : Shared} {h : History}

theorem request_strands {r : Request} (ha : c.asks r) (hs : c.session.Strands)
    (hc : c.session.Settled)
    (hb : c.session.cursor.phase = .active → c.session.cursor.connectionBroken = false) :
    (landing h (c.request r)).Safe ∧
      (landing h (c.request r)).session.inquiry.strays = c.session.inquiry.strays + 1 := by
  cases r with
  | iterate call =>
    have hq : c.closeRequested = false := ha
    have needed : c.session.beginCall.isSettled = false :=
      Session.isSettled_beginCall.trans hs.2.1
    have hopen : c.session.cursor.isClosed = false := by
      simp [Cursor.isClosed, (Session.isSettled_eq_false_iff.mp hs.2.1).2.1]
    obtain ⟨t, f, u, v, sending, saved, hf, hu, hp, hv, strayed⟩ := hs.release hc hb none none
    have hr : c.request (.iterate call) =
        ({ c with session := v }, .waiting sending (.kill saved (.failing call f))) := by
      simp [request, iterate, proceed, fetch, failWith, afterCleanup, hq, needed, hopen, hf, hu,
        hp, hv]
    rw [hr]
    exact ⟨strayed.safe saved _ h, strayed.strays⟩
  | _ => exact ha.elim

end Shared

namespace Calls

variable {c : Calls} {h : History} {i : Nat}

/-- It is the turn of a call that is stranded. -/
def Strands (c : Calls) (i : Nat) : Prop :=
  ∃ r, c.stage? i = some (.inLine r) ∧ c.turns.holder = some i ∧ c.shared.asks r ∧
    c.shared.session.Strands

/-- A call in line whose turn it is finds the session at rest. -/
theorem Orderly.settled_of_turn {r : Request} (hc : c.Orderly) (hi : c.stage? i = some (.inLine r))
    (ht : c.turns.holder = some i) (hS : (c.situation h).Coherent) : c.shared.session.Settled := by
  rw [situation, hc.wait?_of_inLine hi ht] at hS
  exact hS.fits

theorem Orderly.turn_strands (hc : c.Orderly) (hs : c.Strands i)
    (hS : (c.situation h).Coherent) (hu : (c.situation h).Safe) :
    ((c.turn i).1.situation (h.note (c.turn i).2)).Safe ∧
      (c.turn i).1.shared.session.inquiry.strays = c.shared.session.inquiry.strays + 1 := by
  obtain ⟨r, hi, ht, ha, hs⟩ := hs
  have hsettled := hc.settled_of_turn hi ht hS
  have hturn : c.turn i = c.settle i (c.shared.request r) := by
    simp [Calls.turn, hi, Turns.isTurnOf, ht]
  have landed := hc.settle_situation (h := h) ht (c.shared.request r)
  rw [← hturn] at landed
  obtain ⟨hsafe, hn⟩ := Shared.request_strands (h := h) ha hs hsettled hu.usable
  rw [← landed] at hsafe hn
  exact ⟨hsafe, hn⟩

theorem Orderly.keepsTo_answering (hc : c.Orderly) (hn : ¬c.Strands i)
    (hS : (c.situation h).Coherent) : c.KeepsTo answering i :=
  fun r hi ht => ⟨fun ha => (hc.settled_of_turn hi ht hS).keepsTo fun hs => hn ⟨r, hi, ht, ha, hs⟩,
    fun _ _ _ => trivial, fun _ _ => trivial⟩

end Calls

namespace Shared

variable {p q : Play} {m : Move}

/-- The move makes a call, or lets one have its turn, that is stranded. -/
def Play.Strands (p : Play) : Move → Prop
  | .start r => (p.calls.entered r).Strands p.calls.fresh
  | .turn i => p.calls.Strands i
  | _ => False

/-- All other moves go without a request only when all have their results. -/
theorem Play.keepsTo_answering (hp : p.Orderly) (hc : p.situation.Coherent)
    (hS : p.situation.Safe) (hm : p.act m = some q) (hn : ¬p.Strands m) :
    p.KeepsTo answering m := by
  have acts := Play.acts hm
  clear hm
  obtain ⟨calls, wait, task, h⟩ := p
  cases acts with
  | start r used =>
    obtain ⟨rfl, rfl⟩ := hp.inUse used
    rw [Play.situation_calls, ← hp.calls.entered_situation r] at hc
    exact (hp.calls.entered r).keepsTo_answering hn hc
  | turn i used =>
    obtain ⟨rfl, rfl⟩ := hp.inUse used
    exact hp.calls.keepsTo_answering hn hc
  | deliver o waits =>
    intro wait' hi
    obtain ⟨rfl, rfl⟩ := hp.of_stage hi
    have hw := hp.calls.wait?_eq_some (Calls.mem_of_stage? hi)
    rw [Play.situation_calls, Calls.situation, hw] at hc hS
    exact ⟨fun _ => hS.keepsTo hc, fun _ _ => trivial, fun _ => trivial⟩
  | outcome o waits =>
    intro wait' hw
    cases hw
    cases hp.of_wait rfl
    rw [Play.situation_alone (hp.alone (.inl rfl))] at hc hS
    exact ⟨fun _ => hS.keepsTo hc, fun _ _ => trivial, fun _ => trivial⟩
  | drop tasksRun => exact fun _ => trivial
  | _ => trivial

theorem act_strands (hp : p.Orderly) (hc : p.situation.Coherent) (hS : p.situation.Safe)
    (hm : p.act m = some q) (hs : p.Strands m) :
    q.situation.Safe ∧ q.session.inquiry.strays = p.session.inquiry.strays + 1 := by
  have acts := Play.acts hm
  clear hm
  obtain ⟨calls, wait, task, h⟩ := p
  cases acts with
  | start r used =>
    obtain ⟨rfl, rfl⟩ := hp.inUse used
    rw [Play.situation_calls, ← hp.calls.entered_situation r] at hc hS
    obtain ⟨hsafe, hn⟩ := (hp.calls.entered r).turn_strands hs hc hS
    simp only [Calls.start_eq]
    exact ⟨hsafe, hn.trans (by simp [Play.session, Play.shared, Calls.entered])⟩
  | turn i used =>
    obtain ⟨rfl, rfl⟩ := hp.inUse used
    exact hp.calls.turn_strands hs hc hS
  | _ => exact hs.elim

end Shared

/-! ### Runs -/

namespace Blocking

variable {reply : Document} {setting : Setting} {p q : Play} {m : Move} {moves : List Move}

theorem act_strays (hp : p.situation.Coherent ∧ p.situation.Safe) (hm : p.act m = some q) :
    (q.situation.Coherent ∧ q.situation.Safe) ∧
      (p.Strands m → q.session.inquiry.strays = p.session.inquiry.strays + 1) ∧
      (¬p.Strands m → q.session.inquiry.strays = p.session.inquiry.strays) := by
  obtain ⟨hc, hS⟩ := hp
  have hc' := Situation.Course.coherent (act_course (.of_all (fun _ => trivial) p m) hm) hc
  by_cases hs : p.Strands m
  · obtain ⟨hS', hn⟩ := act_strands hc hS hm hs
    exact ⟨⟨hc', hS'⟩, fun _ => hn, fun hg => absurd hs hg⟩
  · have hR := Play.keepsTo_answering hc hS hm hs
    obtain ⟨hS', hn⟩ := Situation.Course.safe (act_course hR hm) hc hS
    exact ⟨⟨hc', hS'⟩, fun hg => absurd hg hs, fun _ => hn⟩

theorem Comes.strays_iff (run : Comes reply setting moves p) :
    p.session.inquiry.strays = 0 ↔
      ∀ pre m post q, moves = pre ++ m :: post → Comes reply setting pre q → ¬q.Strands m :=
  run_zero_iff Play.Strands (fun p => p.session.inquiry.strays)
    (P := fun p => p.situation.Coherent ∧ p.situation.Safe)
    (fun _ hs => Situation.opened_safe (start_course hs)) (fun _ _ _ hp hm => act_strays hp hm) run

end Blocking

namespace Shared

variable {reply : Document} {setting : Setting} {p q : Play} {m : Move} {moves : List Move}

theorem act_strays (hp : p.Orderly ∧ p.situation.Coherent ∧ p.situation.Safe)
    (hm : p.act m = some q) :
    (q.Orderly ∧ q.situation.Coherent ∧ q.situation.Safe) ∧
      (p.Strands m → q.session.inquiry.strays = p.session.inquiry.strays + 1) ∧
      (¬p.Strands m → q.session.inquiry.strays = p.session.inquiry.strays) := by
  obtain ⟨ho, hc, hS⟩ := hp
  have ho' := act_orderly ho hm
  have hc' := Situation.Course.coherent (act_course ho (.of_all (fun _ => trivial) p m) hm) hc
  by_cases hs : p.Strands m
  · obtain ⟨hS', hn⟩ := act_strands ho hc hS hm hs
    exact ⟨⟨ho', hc', hS'⟩, fun _ => hn, fun hg => absurd hs hg⟩
  · have hR := Play.keepsTo_answering ho hc hS hm hs
    obtain ⟨hS', hn⟩ := Situation.Course.safe (act_course ho hR hm) hc hS
    exact ⟨⟨ho', hc', hS'⟩, fun hg => absurd hg hs, fun _ => hn⟩

theorem Comes.strays_iff (run : Comes reply setting moves p) :
    p.session.inquiry.strays = 0 ↔
      ∀ pre m post q, moves = pre ++ m :: post → Comes reply setting pre q → ¬q.Strands m := by
  refine run_zero_iff Play.Strands (fun p => p.session.inquiry.strays)
    (P := fun p => p.Orderly ∧ p.situation.Coherent ∧ p.situation.Safe) (fun p₀ hs => ?_)
    (fun _ _ _ hp hm => act_strays hp hm) run
  obtain ⟨hsafe, hn⟩ := Situation.opened_safe (start_course hs)
  exact ⟨⟨start_orderly hs, hsafe⟩, hn⟩

end Shared

/-- Commands that end the server's cursor meet no request without a result, if and only if no call
that needs a batch comes after the deadline while an earlier request has no result. -/
theorem kills_answered_iff_none_stranded {reply : Document} {setting : Setting} :
    (∀ moves p, Blocking.Comes reply setting moves p →
      (p.session.KillsAnswered ↔ ∀ pre m post q, moves = pre ++ m :: post →
        Blocking.Comes reply setting pre q → ¬q.Strands m)) ∧
    (∀ moves p, Shared.Comes reply setting moves p →
      (p.session.KillsAnswered ↔ ∀ pre m post q, moves = pre ++ m :: post →
        Shared.Comes reply setting pre q → ¬q.Strands m)) := by
  constructor
  · intro moves p run
    exact p.session.killsAnswered_iff.trans run.strays_iff
  · intro moves p run
    exact p.session.killsAnswered_iff.trans run.strays_iff

/-- A request for a batch is given up, and the close that follows sends nothing. -/
theorem kills_answered_after_abandoned_request :
    ∃ p, Shared.Comes (BatchReply.Place.first.reply 7 [item 1]) (plainSetting .unlimited)
        [.start (.iterate .next), .start (.iterate .next), .abandon 1, .start .close] p ∧
      p.session.inquiry.pending = true ∧ p.session.KillsAnswered ∧
      ∀ pre m post q, [.start (.iterate .next), .start (.iterate .next), .abandon 1,
          .start .close] = pre ++ m :: post →
        Shared.Comes (BatchReply.Place.first.reply 7 [item 1]) (plainSetting .unlimited) pre q →
        ¬q.Strands m := by
  have run : Shared.Comes (BatchReply.Place.first.reply 7 [item 1]) (plainSetting .unlimited)
      [.start (.iterate .next), .start (.iterate .next), .abandon 1, .start .close] _ :=
    ⟨_, rfl, rfl⟩
  refine ⟨_, run, rfl, (Session.killsAnswered_iff _).mpr rfl, ?_⟩
  exact (kills_answered_iff_none_stranded.2 _ _ run).mp ((Session.killsAnswered_iff _).mpr rfl)

/-- A request for a batch is given up, and the next call comes after the deadline. It sends no
request, but a command to end the server's cursor. -/
theorem kill_unanswered_after_deadline :
    ¬ ∀ reply setting S, Situation.Reached reply setting S → S.session.KillsAnswered := by
  intro claim
  have run : Shared.Comes (BatchReply.Place.first.reply 7 [item 1])
      (plainSetting (.start (some (.ofMillis 100)) 0))
      [.start (.iterate .next), .start (.iterate .next), .abandon 1,
        .adjust (.start (some (.ofMillis 100)) 0) ⟨200000000, []⟩, .start (.iterate .next)] _ :=
    ⟨_, rfl, rfl⟩
  have strays := (Session.killsAnswered_iff _).mp (claim _ _ _ (.shared run))
  cases strays

end ResultCursor
