import ResultCursor.Proofs.Agreement.Kinds

/-! A close that was asked for of a blocking cursor stays asked for: calls use up interrupts, but
nothing takes a close request back. -/

namespace ResultCursor.Blocking

variable {b : Blocking} {call : Call} {after : Aftermath}

theorem afterCleanup_closeRequested {go : Blocking → Blocking × Progress}
    (hgo : ∀ b' : Blocking, (go b').1.signal.closeRequested = b'.signal.closeRequested) :
    (b.afterCleanup after go).1.signal.closeRequested = b.signal.closeRequested := by
  unfold afterCleanup
  split
  · exact hgo _
  · rfl

@[simp] theorem closeWith_closeRequested (a : Answer) :
    (b.closeWith a).1.signal.closeRequested = b.signal.closeRequested := by
  unfold closeWith
  split
  · rfl
  · exact afterCleanup_closeRequested fun _ => rfl

@[simp] theorem failing_closeRequested (call : Call) (f : Failure) :
    (failing call f b).1.signal.closeRequested = b.signal.closeRequested := by
  unfold failing
  split
  · dsimp only
    split
    · exact closeWith_closeRequested (b := { b with signal := b.signal.acknowledge }) _
    · rfl
  · rfl

@[simp] theorem failWith_closeRequested (call : Call) (f : Failure) :
    (b.failWith call f).1.signal.closeRequested = b.signal.closeRequested := by
  unfold failWith
  split
  · exact failing_closeRequested call f
  · exact afterCleanup_closeRequested fun _ => failing_closeRequested call f

@[simp] theorem fetch_closeRequested (call : Call) :
    (b.fetch call).1.signal.closeRequested = b.signal.closeRequested := by
  unfold fetch
  split
  · rfl
  · split
    · rfl
    · next u f _ => exact failWith_closeRequested (b := { b with session := u }) call f

theorem unlessInterrupted_closeRequested {go : Blocking → Blocking × Progress}
    (hgo : (go b).1.signal.closeRequested = b.signal.closeRequested) :
    (b.unlessInterrupted go).1.signal.closeRequested = b.signal.closeRequested := by
  unfold unlessInterrupted
  split
  · rfl
  · exact hgo

@[simp] theorem proceed_closeRequested (call : Call) :
    (b.proceed call).1.signal.closeRequested = b.signal.closeRequested := by
  unfold proceed
  split
  · rfl
  · exact unlessInterrupted_closeRequested (fetch_closeRequested call)

@[simp] theorem fetched_closeRequested (call : Call) :
    (fetched call b).1.signal.closeRequested = b.signal.closeRequested := by
  unfold fetched
  split
  · exact closeWith_closeRequested _
  · split
    · rfl
    · exact unlessInterrupted_closeRequested (proceed_closeRequested call)

@[simp] theorem request_closeRequested (r : Request) :
    (b.request r).1.signal.closeRequested = b.signal.closeRequested := by
  cases r with
  | iterate call =>
    show (b.iterate call).1.signal.closeRequested = _
    unfold iterate
    split
    · exact closeWith_closeRequested _
    · split
      · rfl
      · exact proceed_closeRequested (b := { b with session := b.session.beginCall }) call
  | close => exact closeWith_closeRequested .done
  | setBatchSize n => rfl
  | inspect => rfl

@[simp] theorem drop_closeRequested :
    b.drop.1.signal.closeRequested = b.signal.closeRequested := by
  unfold drop
  split
  · rfl
  · exact closeWith_closeRequested (b := { b with session := b.session.note dropNote }) .done

theorem settle_closeRequested (result : Except Failure Document) (wait : Wait) :
    (b.settle result wait).1.signal.closeRequested = b.signal.closeRequested := by
  cases wait with
  | batch call =>
    simp only [settle, settleBatch]
    split
    · next t f _ => exact failWith_closeRequested (b := { b with session := t }) call f
    · next t _ =>
      split
      · exact fetched_closeRequested (b := { b with session := t }) call
      · exact afterCleanup_closeRequested (b := { b with session := t }) fun _ =>
          fetched_closeRequested call
  | kill saved after =>
    let b' := { b with session := (b.session.deliver result).settleKill saved result }
    show (b'.resumeAfter after).1.signal.closeRequested = b'.signal.closeRequested
    cases after with
    | opened => rfl
    | fetched call => exact fetched_closeRequested call
    | failing call f => exact failing_closeRequested call f
    | closing a => rfl

theorem resume_closeRequested (wait : Wait) (o : Outcome) :
    (b.resume wait o).1.signal.closeRequested = b.signal.closeRequested := by
  cases o with
  | reply d => exact settle_closeRequested (.ok d) wait
  | failure f => exact settle_closeRequested (.error f) wait
  | crash text =>
    match wait with
    | .batch _ | .kill _ .opened | .kill _ (.fetched _) | .kill _ (.failing ..)
    | .kill _ (.closing _) => rfl

/-- A close is asked for by the signal only, and stays asked for. -/
theorem act_closeRequested {p q : Play} {m : Move} (hm : p.act m = some q) :
    q.cursor.signal.closeRequested = true ↔
      p.cursor.signal.closeRequested = true ∨ m = .requestClose := by
  cases Play.acts hm with
  | request r free =>
    simp [Play.follow]
  | @outcome wait o waits =>
    simp [Play.follow, resume_closeRequested]
  | interrupt =>
    simp [Play.withSignal, Signal.interrupt]
  | requestClose =>
    simp [Play.withSignal, Signal.requestClose]
  | adjust deadline clock =>
    simp
  | drop free =>
    simp [Play.follow]

end ResultCursor.Blocking
