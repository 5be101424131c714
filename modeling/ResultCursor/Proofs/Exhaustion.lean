import ResultCursor.Proofs.Course.Calls
import ResultCursor.Proofs.Course.Coherence
import ResultCursor.Proofs.Replies

/-! When a cursor may say that there are no more batches. It does so at the end of the result, and
falsely in one case: a close that breaks off has let go of the server's cursor but has not closed
the cursor, which from then on looks like one that came to its end. -/

namespace ResultCursor

def Event.isEnd : Event → Bool
  | .delivered (.error .noMoreElements) => true
  | _ => false

/-- The connection itself said that there are no more elements. -/
def Session.heardEnd (s : Session) : Bool := s.journal.any Event.isEnd

/-- A failure that is about to be answered says that there is no more only if the connection
did. -/
def Aftermath.Honest (s : Session) : Aftermath → Prop
  | .failing _ f => f = .noMoreElements → s.heardEnd = true
  | _ => True

/-- Only a close takes the server's cursor, if there is one, from an active cursor, and from no
other. -/
def Aftermath.Takes (s : Session) (present : Bool) (after : Aftermath) : Prop :=
  if after.isClosing then present = true → s.cursor.phase = .active
  else s.cursor.phase ≠ .active

/-- A cursor that looks active without a server's cursor comes from a close that broke off. -/
def History.Explains (h : History) (s : Session) : Prop :=
  s.cursor.phase = .active → s.cursor.remote = none → h.closeCutOff = true

def Control.Honest (s : Session) (h : History) : Control → Prop
  | .idle => h.Explains s
  | .calling _ => h.Explains s
  | .waiting (.batch _) => True
  | .waiting (.kill _ after) => after.Takes s true ∧ after.Honest s
  | .cleaning kill after => after.Takes s kill.isSome ∧ after.Honest s
  | .leaving after => after.Takes s s.cursor.remote.isSome ∧ after.Honest s
  | .resuming after => (after.isClosing = false → h.Explains s) ∧ after.Honest s

structure Situation.Honest (S : Situation) : Prop where
  control : S.control.Honest S.session S.history
  exhausted : S.session.cursor.phase = .exhausted → S.history.complete = true
  complete : S.history.complete = true → S.session.cursor.phase ≠ .active
  cutOff : S.history.closeCutOff = true →
    S.session.cursor.remote = none ∧ S.session.cursor.phase ≠ .exhausted ∧
      S.history.complete = false
  ends : ∀ a ∈ S.history.answers, a.isEnd = true →
    S.history.complete = true ∨ S.history.closeCutOff = true ∨ S.session.heardEnd = true

/-! ### What settles a request -/

theorem Cursor.absorb_phase (c : Cursor) (r : BatchReply) :
    (c.absorb r).phase = if History.isLast c.quota r then .exhausted else c.phase := by
  have hr : (RemoteCursor.ofId? r.id c.address).isNone = decide (r.id = 0) := by
    unfold RemoteCursor.ofId?
    split <;> simp_all
  simp only [absorb, History.isLast, hr]
  congr

theorem Cursor.named_noMoreElements {c : Cursor} {f : Failure} (h : c.named f = .noMoreElements) :
    f = .noMoreElements := by
  rcases c.named_eq_or f with hn | ⟨id, address, hn⟩
  · exact hn ▸ h
  · simp [hn] at h

theorem Cursor.readNext_noMoreElements {result : Except Failure Document}
    (h : readNext result = .error .noMoreElements) : result = .error .noMoreElements := by
  cases result with
  | error f =>
    cases h
    rfl
  | ok reply =>
    obtain ⟨fault, hf⟩ := BatchReply.ofDocument_onlyInvalid .next reply _ h
    cases hf

theorem Answer.isEnd_of_ofClose {a : Answer} (ha : a.ofClose = true) : a.isEnd = false := by
  cases a with
  | failed f => cases f <;> simp_all [Answer.ofClose, Answer.isEnd]
  | _ => simp_all [Answer.ofClose, Answer.isEnd]

namespace Session

variable {s t : Session}

theorem heardEnd_mono (h : s.heardEnd = true) (hj : s.journal <+: t.journal) :
    t.heardEnd = true := by
  obtain ⟨e, he, hi⟩ := List.any_eq_true.mp h
  exact List.any_eq_true.mpr ⟨e, hj.subset he, hi⟩

end Session

namespace History

variable {h h' : History}

theorem complete_eq (ha : h'.arrivals = h.arrivals) : h'.complete = h.complete := by
  simp [complete, ha]

theorem closeCutOff_eq (hb : h'.broken = h.broken) : h'.closeCutOff = h.closeCutOff := by
  simp [closeCutOff, hb]

theorem complete_settle_ok {q : Quota} {r : BatchReply} {result : Except Failure Document}
    (hr : Cursor.readNext result = .ok r) : (h.settle q result).complete = isLast q r := by
  simp [settle, hr, complete]

theorem arrivals_settle_error {q : Quota} {f : Failure} {result : Except Failure Document}
    (hr : Cursor.readNext result = .error f) : (h.settle q result).arrivals = h.arrivals := by
  simp [settle, hr]

@[simp] theorem broken_settle (q : Quota) (result : Except Failure Document) :
    (h.settle q result).broken = h.broken := by
  unfold settle
  split <;> rfl

@[simp] theorem answers_settle (q : Quota) (result : Except Failure Document) :
    (h.settle q result).answers = h.answers := by
  unfold settle
  split <;> rfl

end History

theorem Aftermath.Honest.mono {s t : Session} {after : Aftermath} (h : after.Honest s)
    (hj : s.journal <+: t.journal) : after.Honest t := by
  cases after with
  | failing call f => exact fun hf => Session.heardEnd_mono (h hf) hj
  | _ => trivial

theorem Aftermath.Takes.of_phase {s t : Session} {present : Bool} {after : Aftermath}
    (h : after.Takes s present) (hp : t.cursor.phase = s.cursor.phase) : after.Takes t present := by
  simpa only [Takes, hp] using h

theorem Aftermath.Takes.weaken {s : Session} {present left : Bool} {after : Aftermath}
    (h : after.Takes s present) (hp : left = true → present = true) : after.Takes s left := by
  unfold Takes at h ⊢
  split
  · next hc =>
    rw [if_pos hc] at h
    exact fun hl => h (hp hl)
  · next hc => rwa [if_neg hc] at h

theorem Aftermath.Takes.not_active {s : Session} {present : Bool} {after : Aftermath}
    (h : after.Takes s present) (hc : after.isClosing = false) : s.cursor.phase ≠ .active := by
  simpa [Takes, hc] using h

theorem Aftermath.Takes.closing {s : Session} {present : Bool} {a : Answer}
    (h : present = true → s.cursor.phase = .active) :
    (Aftermath.closing a).Takes s present := by
  simpa [Takes, isClosing] using h

theorem Aftermath.Takes.of_not_active {s : Session} {present : Bool} {after : Aftermath}
    (hp : s.cursor.phase ≠ .active) (hc : after.isClosing = false) : after.Takes s present := by
  simpa [Takes, hc] using hp

theorem History.Explains.of_not_active {s : Session} {h : History}
    (hp : s.cursor.phase ≠ .active) : h.Explains s :=
  fun ha => absurd ha hp

theorem History.Explains.of_remote {s : Session} {h : History} (hr : s.cursor.remote.isSome) :
    h.Explains s :=
  fun _ hn => by simp [hn] at hr

/-- After a request a call goes on, or the server's cursor is let go of. -/
theorem Control.Honest.due {s : Session} {h : History} {after : Aftermath}
    (hr : s.cursor.phase = .active → s.cursor.remote.isSome) (hc : after.isClosing = false)
    (ha : after.Honest s) : (Control.due s after).Honest s h := by
  unfold Control.due
  split
  · next hp => exact ⟨fun _ => .of_remote (hr hp), ha⟩
  · next hp => exact ⟨.of_not_active hp hc, ha⟩

@[simp] theorem History.complete_breakOff (h : History) (after : Aftermath) :
    (h.breakOff after).complete = h.complete := rfl

theorem History.closeCutOff_breakOff (h : History) (after : Aftermath) :
    (h.breakOff after).closeCutOff = (h.closeCutOff || after.isClosing) := by
  simp [closeCutOff, breakOff]

theorem History.Explains.of_eq {s t : Session} {h h' : History} (he : h.Explains s)
    (hp : t.cursor.phase = s.cursor.phase) (hr : t.cursor.remote = s.cursor.remote)
    (hb : h'.broken = h.broken) : h'.Explains t := by
  simpa only [Explains, hp, hr, History.closeCutOff_eq hb] using he

theorem Control.Honest.of_eq {s t : Session} {h h' : History} {c : Control} (hc : c.Honest s h)
    (hp : t.cursor.phase = s.cursor.phase) (hr : t.cursor.remote = s.cursor.remote)
    (hj : s.journal <+: t.journal) (hb : h'.broken = h.broken) : c.Honest t h' := by
  cases c with
  | idle => exact History.Explains.of_eq hc hp hr hb
  | calling call => exact History.Explains.of_eq hc hp hr hb
  | waiting wait =>
    cases wait with
    | batch call => trivial
    | kill saved after => exact ⟨hc.1.of_phase hp, hc.2.mono hj⟩
  | cleaning kill after => exact ⟨hc.1.of_phase hp, hc.2.mono hj⟩
  | leaving after => exact ⟨hr ▸ hc.1.of_phase hp, hc.2.mono hj⟩
  | resuming after => exact ⟨fun hn => (hc.1 hn).of_eq hp hr hb, hc.2.mono hj⟩

namespace Situation

variable {R : Rules} {S T : Situation} {reply : Document} {setting : Setting}

section

variable {s t : Session} {c d : Control} {h h' : History}

/-- A step that takes over no reply and gives nothing but an honest answer. -/
theorem Honest.kept (hS : Honest ⟨s, c, h⟩)
    (hp : t.cursor.phase = s.cursor.phase ∨ t.cursor.phase = .closed)
    (hr : s.cursor.remote = none → t.cursor.remote = none) (hj : s.journal <+: t.journal)
    (ha : h'.arrivals = h.arrivals) (hb : h'.broken = h.broken)
    (he : ∀ a ∈ h'.answers, a.isEnd = true → a ∈ h.answers ∨
      (h.complete = true ∨ h.closeCutOff = true ∨ s.heardEnd = true)) (hd : d.Honest t h') :
    Honest ⟨t, d, h'⟩ where
  control := hd
  exhausted ht := by
    rw [History.complete_eq ha]
    rcases hp with hp | hp
    · exact hS.exhausted (hp ▸ ht)
    · simp [hp] at ht
  complete hc := by
    rcases hp with hp | hp
    · exact hp ▸ hS.complete (History.complete_eq ha ▸ hc)
    · simp [hp]
  cutOff hc := by
    obtain ⟨hn, hx, hf⟩ := hS.cutOff (History.closeCutOff_eq hb ▸ hc)
    refine ⟨hr hn, ?_, (History.complete_eq ha).trans hf⟩
    rcases hp with hp | hp
    · exact hp ▸ hx
    · simp [hp]
  ends a hm hi := by
    rw [History.complete_eq ha, History.closeCutOff_eq hb]
    rcases (he a hm hi).elim (fun hm => hS.ends a hm hi) id with hc | hc | hc
    · exact .inl hc
    · exact .inr (.inl hc)
    · exact .inr (.inr (Session.heardEnd_mono hc hj))

/-- A step that neither answers nor moves the cursor. -/
theorem Honest.same (hS : Honest ⟨s, c, h⟩) (hp : t.cursor.phase = s.cursor.phase)
    (hr : t.cursor.remote = s.cursor.remote) (hj : s.journal <+: t.journal)
    (hd : d.Honest t h) : Honest ⟨t, d, h⟩ :=
  hS.kept (.inl hp) (fun hn => hr.trans hn) hj rfl rfl (fun _ hm _ => .inl hm) hd

/-- A step that answers with no end. -/
theorem Honest.answer {a : Answer} (hS : Honest ⟨s, c, h⟩)
    (ha : a.isEnd = true → h.complete = true ∨ h.closeCutOff = true ∨ s.heardEnd = true)
    (hp : t.cursor.phase = s.cursor.phase) (hr : t.cursor.remote = s.cursor.remote)
    (hj : s.journal <+: t.journal) (hd : h.Explains t) : Honest ⟨t, .idle, h.answer a⟩ := by
  refine hS.kept (.inl hp) (fun hn => hr.trans hn) hj rfl rfl (fun b hm hb => ?_) hd
  rcases List.mem_append.mp hm with hm | hm
  · exact .inl hm
  · cases List.mem_singleton.mp hm
    exact .inr (ha hb)

/-- A call that ends without a request says so only at the end, or after a close broke off. -/
theorem Honest.finish {call : Call} (hS : Honest ⟨s, c, h⟩) (hx : h.Explains s)
    (hend : call ≠ .tryNext → s.cursor.phase ≠ .closed ∧ s.isSettled = true) :
    Honest ⟨(s.finish call).1, .idle, h.answer (s.finish call).2⟩ := by
  rcases s.finish_cases call with ⟨batch, -, hf⟩ | ⟨a, hf, -, he⟩
  · rw [hf]
    exact hS.answer (fun hb => by cases hb) rfl rfl (List.prefix_refl _) hx
  · rw [hf]
    refine hS.answer (fun hi => ?_) rfl rfl (List.prefix_refl _) hx
    obtain ⟨hb, hn⟩ := he hi
    obtain ⟨hopen, hs⟩ := hend hn
    cases hp : s.cursor.phase with
    | closed => exact absurd hp hopen
    | exhausted => exact .inl (hS.exhausted hp)
    | active =>
      refine .inr (.inl (hx hp ?_))
      simpa [Session.isSettled, Cursor.buffered, Cursor.canFetch, hb, hp] using hs

/-- The result of a request is taken over, and the cursor stays active only if there is more. -/
theorem Honest.settled {call : Call} {result : Except Failure Document}
    {outcome : Except Failure Unit} (hS : Honest ⟨s, .waiting (.batch call), h⟩)
    (hc : Coherent ⟨s, .waiting (.batch call), h⟩)
    (hs : (s.deliver result).settleFetch result = (t, outcome))
    (hj : s.journal <+: t.journal) :
    Honest ⟨t, .due t (.ofFetch call outcome), h.settle s.cursor.quota result⟩ := by
  have hr : s.cursor.remote.isSome := hc.fits.remote
  have hp : s.cursor.phase = .active := hc.fits.active hr
  rcases Session.settleFetch_cases hs with
      ⟨r, n, hn, rfl, ht⟩ | ⟨f, n, hn, hf, rfl, rfl⟩ | ⟨f, n, hn, hf, rfl, rfl⟩
  · -- nothing explains an active cursor, so all ends so far were reported by the connection
    have hcut : h.closeCutOff = false := by
      cases hb : h.closeCutOff with
      | false => rfl
      | true =>
        have hnone : s.cursor.remote = none := (hS.cutOff hb).1
        simp [hnone] at hr
    have hcomplete : h.complete = false := by
      cases hb : h.complete with
      | false => rfl
      | true => exact absurd hp (hS.complete hb)
    have hphase : t.cursor.phase =
        if History.isLast s.cursor.quota r then .exhausted else .active := by
      rw [ht, ← hp]
      exact Cursor.absorb_phase _ r
    have hsame : (h.settle s.cursor.quota result).closeCutOff = h.closeCutOff :=
      History.closeCutOff_eq (History.broken_settle _ _)
    have hlast := History.complete_settle_ok (h := h) (q := s.cursor.quota) hn
    have hremote : t.cursor.phase = .active → t.cursor.remote.isSome := by
      rw [ht]
      exact Cursor.absorb_remote_of_active
    refine ⟨.due hremote rfl trivial, fun hx => ?_, fun hx => ?_, fun hx => ?_,
      fun a hm hi => ?_⟩
    · simp only [hphase] at hx
      split at hx
      · next hl => exact hlast.trans hl
      · cases hx
    · simp [hphase, hlast.symm.trans hx]
    · cases hcut.symm.trans (hsame.symm.trans hx)
    · rcases hS.ends a (by simpa using hm) hi with he | he | he
      · cases hcomplete.symm.trans he
      · cases hcut.symm.trans he
      · exact .inr (.inr (Session.heardEnd_mono he hj))
  · refine hS.kept (.inl rfl) id hj (History.arrivals_settle_error hn) (by simp)
      (fun _ hm _ => .inl (by simpa using hm)) (.due (fun _ => hr) rfl ?_)
    intro he
    subst he
    cases hf
  · refine hS.kept (.inr rfl) (by simp +contextual [Cursor.fail]) hj
      (History.arrivals_settle_error hn) (by simp) (fun _ hm _ => .inl (by simpa using hm))
      (.due (by simp [Cursor.fail]) rfl ?_)
    intro he
    have hend := Cursor.readNext_noMoreElements (Cursor.named_noMoreElements he ▸ hn)
    subst hend
    simp [Session.heardEnd, Event.isEnd]

/-- A clean-up that breaks off leaves the cursor in its phase. After a close that is still the
active one. -/
theorem Honest.brokenOff {saved : Option Span} {after : Aftermath}
    (hS : Honest ⟨s, .waiting (.kill saved after), h⟩) (hr : s.cursor.remote = none)
    (hj : s.journal <+: (s.breakKill saved).journal) :
    Honest ⟨s.breakKill saved, .idle, h.breakOff after⟩ := by
  have htakes : after.Takes s true := hS.control.1
  refine ⟨fun ha _ => ?_, by simpa using hS.exhausted, by simpa using hS.complete,
    fun hb => ⟨by simpa using hr, ?_⟩, fun a hm hi => ?_⟩
  · rw [History.closeCutOff_breakOff]
    cases hn : after.isClosing with
    | true => simp
    | false => exact absurd (by simpa using ha) (htakes.not_active hn)
  · rw [History.closeCutOff_breakOff] at hb
    cases hn : after.isClosing with
    | true =>
      have ha : s.cursor.phase = .active := by simpa [Aftermath.Takes, hn] using htakes
      exact ⟨by simp [ha], Bool.eq_false_iff.mpr fun hx => hS.complete hx ha⟩
    | false => simpa using (hS.cutOff (by simpa [hn] using hb)).2
  · rw [History.closeCutOff_breakOff]
    rcases hS.ends a hm hi with he | he | he
    · exact .inl he
    · exact .inr (.inl (by simp only at he; simp [he]))
    · exact .inr (.inr (Session.heardEnd_mono he hj))

end

theorem Step.honest (step : Step R S T) (hc : S.Coherent) (hS : S.Honest) : T.Honest := by
  have hj := step.journal hc
  cases step with
  | adjust deadline clock => exact hS.same rfl rfl hj (hS.control.of_eq rfl rfl hj rfl)
  | note n => exact hS.same rfl rfl hj (hS.control.of_eq rfl rfl hj rfl)
  | setBatchSize n => exact hS.answer (fun he => by cases he) rfl rfl hj hS.control
  | inspect => exact hS.answer (fun he => by cases he) rfl rfl hj hS.control
  | enter call isOpen =>
    exact hS.same (by simp) (by simp) hj (History.Explains.of_eq hS.control (by simp) (by simp) rfl)
  | stay closed ha =>
    exact hS.answer (fun he => by simp [Answer.isEnd_of_ofClose ha] at he) rfl rfl hj hS.control
  | @finish s call h settled => exact hS.finish hS.control fun _ => ⟨hc.fits.2, settled⟩
  | halt halt => exact hS.answer (fun he => by cases he) rfl rfl hj hS.control
  | ask needed sent =>
    obtain ⟨-, remote, left, -, -, -, rfl⟩ := Session.beginFetch_ok sent
    exact hS.same rfl rfl hj trivial
  | refuse allowed needed refused settled =>
    obtain ⟨since, n, rfl, -, rfl⟩ := hc.refused needed refused settled
    exact hS.kept (.inr rfl) (by simp +contextual [Cursor.fail]) hj rfl rfl
      (fun _ hm _ => .inl hm) (.due (by simp [Cursor.fail]) rfl (fun he => by cases he))
  | settle result settled => exact hS.settled hc settled hj
  | lose =>
    exact hS.kept (.inl rfl) id hj rfl rfl (fun _ hm _ => .inl hm) (.of_remote hc.fits.remote)
  | @takeKill s after h =>
    obtain ⟨notes, ht⟩ := Session.takeKill_fst s
    exact hS.kept (.inl (by simp [ht])) (by simp [ht]) hj rfl rfl (fun _ hm _ => .inl hm)
      ⟨(hS.control.1.weaken Session.remote_isSome_of_takeKill).of_phase (by simp [ht]),
        hS.control.2.mono hj⟩
  | spare clean =>
    have ht := Session.cleanUp_cursor clean
    exact hS.same (by rw [ht]) (by rw [ht]) hj
      ⟨fun hn => .of_not_active (by rw [ht]; exact hS.control.1.not_active hn),
        hS.control.2.mono hj⟩
  | sendKill clean =>
    have ht := Session.cleanUp_cursor clean
    obtain ⟨-, command, rfl, -⟩ := Session.cleanUp_killing clean
    exact hS.same (by rw [ht]) (by rw [ht]) hj
      ⟨(hS.control.1.weaken fun _ => rfl).of_phase (by rw [ht]), hS.control.2.mono hj⟩
  | @settleKill s saved after h result =>
    have hx : after.isClosing = false → s.cursor.phase ≠ .active := hS.control.1.not_active
    exact hS.same (by simp) (by simp) hj
      ⟨fun hn => .of_not_active (by simpa using hx hn), hS.control.2.mono hj⟩
  | breakKill => exact hS.brokenOff hc.fits.1 hj
  | opened => exact hS.answer (fun he => by cases he) rfl rfl hj (hS.control.1 rfl)
  | again more => exact hS.same rfl rfl hj (hS.control.1 rfl)
  | content => exact hS.finish (hS.control.1 rfl) fun hn => absurd rfl hn
  | @fail s call f h =>
    refine hS.answer (fun he => .inr (.inr (hS.control.2 ?_))) rfl rfl hj (hS.control.1 rfl)
    cases f <;> first | rfl | cases he
  | @relent s after h returns =>
    have hn : after.isClosing = false := by cases after <;> first | rfl | cases returns
    exact hS.same rfl rfl hj (hS.control.1 hn)
  | @shut s a h =>
    refine hS.kept (.inr rfl) (fun _ => rfl) hj rfl rfl (fun b hm hb => ?_)
      (.of_not_active (by simp [Cursor.close]))
    rcases List.mem_append.mp hm with hm | hm
    · exact .inl hm
    · cases List.mem_singleton.mp hm
      simp [Answer.isEnd_of_ofClose hc.fits.2.2] at hb
  | close ha =>
    exact hS.same rfl rfl hj
      ⟨.closing fun hr => Session.Settled.active hc.fits hr, trivial⟩
  | retire finished =>
    exact hS.kept (.inl rfl) id hj rfl rfl (fun _ hm _ => .inl hm)
      (hS.control.of_eq rfl rfl hj rfl)
  | dropAndClose =>
    exact hS.kept (.inl rfl) id hj rfl rfl (fun _ hm _ => .inl hm)
      ⟨.closing fun hr => Session.Settled.active hc.fits hr, trivial⟩
  | dropAndLeave =>
    exact hS.kept (.inr rfl) (fun _ => rfl) hj rfl rfl (fun _ hm _ => .inl hm)
      ⟨.of_not_active (by simp [Cursor.close]) rfl, trivial⟩
  | forsake =>
    exact hS.same (by simp) (by simp) hj
      (.of_not_active (by simpa using hS.control.1.not_active rfl))
  | bury ended returned =>
    exact hS.kept (.inr rfl) (fun _ => rfl) hj rfl rfl (fun _ hm _ => .inl hm)
      (.of_not_active (by simp [Cursor.close]))

theorem Honest.opening {s : Session} (hs : Session.ofReply reply setting = .ok s) :
    (opening reply setting s).Honest := by
  obtain ⟨first, n, hr, hc, -⟩ := Session.ofReply_ok hs
  have hh : History.ofReply reply setting = { arrivals := [(setting.options.quota, first)] } := by
    simp [History.ofReply, hr]
  have hphase : s.cursor.phase =
      if History.isLast setting.options.quota first then .exhausted else .active := by
    rw [hc]
    exact Cursor.absorb_phase _ first
  have hremote : s.cursor.phase = .active → s.cursor.remote.isSome := by
    rw [hc]
    exact Cursor.absorb_remote_of_active
  have hlast : (History.ofReply reply setting).complete =
      History.isLast setting.options.quota first := by
    simp [hh, History.complete]
  refine ⟨.due hremote rfl trivial, fun hx => ?_, fun hx => ?_, fun hx => ?_, fun a ha => ?_⟩
  · simp only [Situation.opening, hphase] at hx
    split at hx
    · next hl => exact hlast.trans hl
    · cases hx
  · simp [Situation.opening, hphase, hlast.symm.trans hx]
  · simp [Situation.opening, hh, History.closeCutOff] at hx
  · simp [Situation.opening, hh] at ha

theorem Courses.honest (hS : Courses reply setting S) : S.Honest :=
  hS.induction (fun _ hs => .opening hs) fun _ _ hC hS step => step.honest hC.coherent hS

end Situation

/-! ### Calls after the server's cursor was lost -/

/-- Without a buffer and without a server's cursor a call that wants a batch answers that there is
none. -/
theorem Session.finish_isEnd {s : Session} {call : Call} (hb : s.cursor.buffer = none)
    (hn : call ≠ .tryNext) : (s.finish call).2.isEnd = true := by
  cases call with
  | next => simp [finish, hb, Answer.isEnd]
  | hasNext => simp [finish, hb, Answer.isEnd]
  | tryNext => exact absurd rfl hn

theorem Session.isSettled_of_lost {s : Session} (hr : s.cursor.remote = none) :
    s.isSettled = true := by
  simp [isSettled, Cursor.canFetch, hr]

theorem Blocking.request_of_closed {b : Blocking} (hp : b.session.cursor.phase = .closed)
    (hl : b.session.leased = false) (call : Call) :
    (b.request (.iterate call)).2 = .answered (.failed (.closed call.closure)) := by
  have hf : b.session.isFinished = true := Session.isFinished_iff.mpr ⟨hp, hl⟩
  have hc : b.session.cursor.isClosed = true := Cursor.isClosed_iff.mpr hp
  simp only [request, iterate, closeWith, hf, hc, if_true]
  split <;> rfl

/-- A close request is heeded by every call, also after a close broke off. -/
theorem Blocking.request_of_shut {b : Blocking} (hq : b.signal.closeRequested = true)
    (hr : b.session.cursor.remote = none) (call : Call) :
    (b.request (.iterate call)).2 = .answered (.failed (.closed call.closure)) := by
  have hk : b.session.takeKill.2 = none := by
    rw [Session.takeKill_snd, Cursor.takeKill_kill, hr]
    simp
  have hc (stop : Option Bool) :
      b.session.beginRelease stop = (b.session.takeKill.1.giveBack, .finished) := by
    rw [Session.beginRelease_eq, hk]
    rfl
  simp only [request, iterate, closeWith, afterCleanup, hq, hc, if_true]
  split <;> rfl

theorem Blocking.request_of_lost {b : Blocking} {call : Call}
    (hq : b.signal.closeRequested = false) (hp : b.session.cursor.phase ≠ .closed)
    (hr : b.session.cursor.remote = none) (hb : b.session.cursor.buffer = none)
    (hn : call ≠ .tryNext) :
    ∃ a, (b.request (.iterate call)).2 = .answered a ∧ a.isEnd = true := by
  have hc : b.session.cursor.isClosed = false := by simpa [Cursor.isClosed] using hp
  have hs : b.session.beginCall.isSettled = true := Session.isSettled_of_lost (by simpa using hr)
  refine ⟨(b.session.beginCall.finish call).2, ?_, Session.finish_isEnd (by simpa using hb) hn⟩
  simp [request, iterate, proceed, finish, answered, hq, hc, hs]

theorem Shared.request_of_closed {c : Shared} (hp : c.session.cursor.phase = .closed)
    (call : Call) :
    (c.request (.iterate call)).2 = .answered (.failed (.closed call.closure)) := by
  have hc : c.session.cursor.isClosed = true := Cursor.isClosed_iff.mpr hp
  simp [request, iterate, hc, failed, answered]

theorem Shared.request_of_lost {c : Shared} {call : Call} (hp : c.session.cursor.phase ≠ .closed)
    (hr : c.session.cursor.remote = none) (hb : c.session.cursor.buffer = none)
    (hn : call ≠ .tryNext) :
    ∃ a, (c.request (.iterate call)).2 = .answered a ∧ a.isEnd = true := by
  have hc : c.session.cursor.isClosed = false := by simpa [Cursor.isClosed] using hp
  have hs : c.session.beginCall.isSettled = true := Session.isSettled_of_lost (by simpa using hr)
  refine ⟨(c.session.beginCall.finish call).2, ?_, Session.finish_isEnd (by simpa using hb) hn⟩
  simp [request, iterate, proceed, finish, answered, hc, hs]

/-- How calls answer while no call is under way and the server's cursor was lost before the end of
the result: that the cursor is closed, if it is or is asked to be by each call. Otherwise a close
broke off, and whoever wants a batch is told that there are no more. -/
def Situation.AnswersLoss (S : Situation) (shut : Bool) (answer : Call → Progress) : Prop :=
  S.session.cursor.remote = none → S.history.complete = false →
    ((S.session.cursor.phase = .closed ∨ shut = true) ∧
      ∀ call, answer call = .answered (.failed (.closed call.closure))) ∨
    (S.session.cursor.phase ≠ .closed ∧ S.history.closeCutOff = true ∧
      (S.session.cursor.buffer = none → ∀ call, call ≠ .tryNext →
        ∃ a, answer call = .answered a ∧ a.isEnd = true))

/-- A server's cursor is lost before the end only to a close that broke off, or with the cursor. -/
theorem Situation.Courses.lost_cases {reply : Document} {setting : Setting} {S : Situation}
    (hS : Courses reply setting S) (idle : S.control = .idle)
    (hr : S.session.cursor.remote = none) (hx : S.history.complete = false) :
    (S.session.cursor.phase = .closed ∧ S.session.leased = false) ∨
    (S.session.cursor.phase ≠ .closed ∧ S.history.closeCutOff = true) := by
  have fits := hS.coherent.fits
  have control := hS.honest.control
  rw [idle] at fits control
  cases hp : S.session.cursor.phase with
  | closed => exact .inl ⟨rfl, Session.Settled.not_leased fits hr⟩
  | exhausted => cases hx.symm.trans (hS.honest.exhausted hp)
  | active => exact .inr ⟨by simp, control hp hr⟩

/-- Unless the connection itself speaks of an end, an answer that there are no more batches is
right if and only if no close broke off. A close that broke off makes it wrong every time: until
the cursor is closed, calls that want a batch answer so. -/
theorem ends_right_iff_no_close_cut_off {reply : Document} {setting : Setting} :
    (∀ S, Situation.Reached reply setting S → S.session.heardEnd = false →
      ∀ a ∈ S.history.answers, a.isEnd = true →
        (S.history.complete = true ↔ S.history.closeCutOff = false)) ∧
    (∀ moves p, Blocking.Comes reply setting moves p → p.isFree = true →
      p.situation.AnswersLoss p.cursor.signal.closeRequested
        fun call => (p.cursor.request (.iterate call)).2) ∧
    (∀ moves p, Shared.Comes reply setting moves p → p.situation.control = .idle →
      p.situation.AnswersLoss false fun call => (p.shared.request (.iterate call)).2) := by
  refine ⟨?_, ?_, ?_⟩
  · intro S hS hh a ha he
    have honest := hS.courses.honest
    constructor
    · intro hx
      cases hb : S.history.closeCutOff with
      | false => rfl
      | true => cases (honest.cutOff hb).2.2.symm.trans hx
    · intro hb
      rcases honest.ends a ha he with hx | hx | hx
      · exact hx
      · cases hb.symm.trans hx
      · cases hh.symm.trans hx
  · intro moves p hp free hr hx
    have idle : p.situation.control = .idle := by rw [Blocking.Play.situation_of_isFree free]
    rcases hp.courses.lost_cases idle hr hx with ⟨hc, hl⟩ | ⟨hc, hb⟩
    · exact .inl ⟨.inl hc, Blocking.request_of_closed hc hl⟩
    · cases hq : p.cursor.signal.closeRequested with
      | true => exact .inl ⟨.inr rfl, Blocking.request_of_shut hq hr⟩
      | false => exact .inr ⟨hc, hb, fun hn _ => Blocking.request_of_lost hq hc hr hn⟩
  · intro moves p hp idle hr hx
    rcases hp.courses.lost_cases idle hr hx with ⟨hc, -⟩ | ⟨hc, hb⟩
    · exact .inl ⟨.inl hc, Shared.request_of_closed hc⟩
    · exact .inr ⟨hc, hb, fun hn _ => Shared.request_of_lost hc hr hn⟩

/-- The right end: the last reply names no server's cursor. -/
theorem end_right_after_last_reply :
    ∃ S, Situation.Reached (BatchReply.Place.first.reply 7 [item 1]) (plainSetting .unlimited) S ∧
      (∃ a ∈ S.history.answers, a.isEnd = true) ∧ S.history.complete = true := by
  have run : Blocking.Comes (BatchReply.Place.first.reply 7 [item 1]) (plainSetting .unlimited)
      [.request (.iterate .next), .request (.iterate .hasNext),
        .outcome (.reply (BatchReply.Place.next.reply 0 []))] _ :=
    ⟨_, rfl, rfl⟩
  have he := ends_right_iff_no_close_cut_off.1 _ (.blocking run) rfl (.more false)
    (.tail _ (.tail _ (.head _))) rfl
  exact ⟨_, .blocking run, ⟨.more false, .tail _ (.tail _ (.head _)), rfl⟩, he.mpr rfl⟩

/-- The wrong end: a close is given up while its command is under way, and `hasNext` answers that
there is no more, though the last reply named a server's cursor and nothing stopped the cursor. -/
theorem end_wrong_after_abandoned_close :
    ¬ ∀ reply setting S, Situation.Reached reply setting S → S.session.heardEnd = false →
      ∀ a ∈ S.history.answers, a.isEnd = true → S.history.complete = true := by
  intro claim
  have run : Shared.Comes (BatchReply.Place.first.reply 7 [item 1]) (plainSetting .unlimited)
      [.start (.iterate .next), .start .close, .abandon 1, .start (.iterate .hasNext)] _ :=
    ⟨_, rfl, rfl⟩
  have hx := claim _ _ _ (.shared run) rfl (.more false) (.tail _ (.tail _ (.head _))) rfl
  cases hx

end ResultCursor
