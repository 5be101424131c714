import ResultCursor.Failure.Message

/-! Faults of the client library as failures. A fault that has a kind among the failures becomes one
of that kind, and any other is kept as it is. The report on the failure and the report on the fault
are made apart from each other; they tell the same but for the names of the kinds. What the failure
says of the connection and of the server's code is what its report says, unless the fault is marked
as one of the network: that is reported, and the connection is used on. -/

namespace ResultCursor

/-- Whether the fault is one of the network by a mark only. -/
def DriverFault.isMarked : DriverFault → Bool
  | other _ ofNetwork => ofNetwork
  | _ => false

/-- The report is on the network, in the words of a cursor or of the library. -/
def Report.IsOfNetwork (r : Report) : Prop :=
  r.kind = some "cursor.network_error" ∨ r.kind = some "mongo.network_error"

namespace Failure

variable {f : Failure} {fault : DriverFault}

/-- A fault is kept as one only where it has no kind among the failures. -/
def Converted (f : Failure) : Prop := ∀ fault, f = driver fault → ofDriverFault fault = driver fault

theorem converted_ofDriverFault (fault : DriverFault) : (ofDriverFault fault).Converted := by
  cases fault <;> intro other same <;> cases same <;> rfl

theorem Converted.report_code (h : f.Converted) : f.report.code = f.serverCode? := by
  cases f with
  | driver fault =>
    cases fault with
    | command code name message => exact nomatch h _ rfl
    | _ => rfl
  | _ => rfl

/-- A failure with a cause is reported as a missed time limit, whatever the cause. -/
theorem Converted.report_isOfNetwork (h : f.Converted)
    (unmarked : ∀ fault, f = driver fault → fault.isMarked = false) :
    f.report.IsOfNetwork ↔ f.isNetwork = true := by
  cases f with
  | driver fault =>
    cases fault with
    | socket text => exact nomatch h _ rfl
    | other text ofNetwork =>
      have plain : ofNetwork = false := unmarked _ rfl
      simp [report, Report.ofDriverFault, Report.IsOfNetwork, isNetwork, plain]
    | _ => simp [report, Report.ofDriverFault, Report.IsOfNetwork, isNetwork]
  | _ => simp [report, Report.IsOfNetwork, isNetwork]

theorem breaksConnection_ofDriverFault (fault : DriverFault) :
    (ofDriverFault fault).breaksConnection = (ofDriverFault fault).isNetwork := by
  cases fault <;> rfl

theorem eq_of_ofDriverFault {other : DriverFault} (kept : ofDriverFault fault = driver other) :
    other = fault := by
  cases fault <;> cases kept <;> rfl

/-- Only the kind of a report tells whether it was made of the fault or of the failure. -/
theorem report_ofDriverFault (fault : DriverFault) :
    (ofDriverFault fault).report =
      { Report.ofDriverFault fault with kind := (ofDriverFault fault).report.kind } := by
  cases fault <;> rfl

theorem report_isOfNetwork_ofDriverFault (fault : DriverFault) :
    (ofDriverFault fault).report.IsOfNetwork ↔ (Report.ofDriverFault fault).IsOfNetwork := by
  cases fault <;> simp [ofDriverFault, report, Report.ofDriverFault, Report.IsOfNetwork]

/-- A marked fault is reported as one of the network, but it does not condemn the connection. -/
theorem report_of_marked (marked : fault.isMarked = true) :
    (ofDriverFault fault).report.IsOfNetwork ∧ (ofDriverFault fault).breaksConnection = false := by
  cases fault with
  | other text ofNetwork =>
    cases ofNetwork with
    | true => exact ⟨.inr rfl, rfl⟩
    | false => cases marked
  | _ => cases marked

/-- A fault that is not marked has one account of itself, and the failure that it becomes acts by
that account. -/
theorem fault_reported_alike (fault : DriverFault) (unmarked : fault.isMarked = false) :
    let f := ofDriverFault fault
    let direct := Report.ofDriverFault fault
    f.report.code = direct.code ∧ f.report.name = direct.name ∧
      f.report.message = direct.message ∧ f.report.details = direct.details ∧
      (f.report.IsOfNetwork ↔ f.breaksConnection = true) ∧
      (direct.IsOfNetwork ↔ f.breaksConnection = true) ∧
      f.report.code = f.serverCode? := by
  intro f direct
  have converted : f.Converted := converted_ofDriverFault fault
  have same := report_ofDriverFault fault
  have ofNetwork : f.report.IsOfNetwork ↔ f.breaksConnection = true := by
    rw [breaksConnection_ofDriverFault]
    exact converted.report_isOfNetwork fun other kept => eq_of_ofDriverFault kept ▸ unmarked
  exact ⟨(congrArg Report.code same).trans rfl, (congrArg Report.name same).trans rfl,
    (congrArg Report.message same).trans rfl, (congrArg Report.details same).trans rfl, ofNetwork,
    (report_isOfNetwork_ofDriverFault fault).symm.trans ofNetwork, converted.report_code⟩

/-- A name that the server does not give is found by the code, and one that it gives is kept where
the code has none. -/
theorem fault_reported_alike_of_command :
    DriverFault.isMarked (.command 43 "" "no such cursor") = false ∧
      (Report.ofDriverFault (.command 43 "" "no such cursor")).name = some "CursorNotFound" ∧
      (ofDriverFault (.command 43 "" "no such cursor")).report.name = some "CursorNotFound" ∧
      (ofDriverFault (.command 11600 "Shutdown" "going down")).report.name = some "Shutdown" :=
  ⟨rfl, rfl, (fault_reported_alike (.command 43 "" "no such cursor") rfl).2.1,
    (fault_reported_alike (.command 11600 "Shutdown" "going down") rfl).2.1⟩

end Failure

end ResultCursor
