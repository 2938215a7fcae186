import RegressionDetection.Persistence.Models

/-! The lifecycle statements on one run row: the condition and the assignments
of every UPDATE, and what the object-relational flush writes. -/

namespace RegressionDetection.Persistence

open Foundation Specification Providers Policy Execution

/-- `RunRow.lease_expires_at < moment`; NULL is not before anything. -/
def RunRow.leaseBefore (run : RunRow) (moment : Time) : Bool :=
  run.leaseExpiresAt.any (fun lease => decide (lease < moment))

/-- The two branches of `claim_next_run`. -/
inductive ClaimBranch where
  | created
  | expired
deriving DecidableEq

/-- `candidate_state`. -/
def ClaimBranch.state : ClaimBranch → RunState
  | .created => .created
  | .expired => .running

/-- `extra_condition`, the condition of the SELECT. -/
def ClaimBranch.candidate (branch : ClaimBranch) (now : Time) (run : RunRow) : Bool :=
  match branch with
  | .created => decide (run.state = .created)
  | .expired => decide (run.state = .running) && run.leaseBefore now

/-- The assignments of the claim's UPDATE. -/
def claimRow (workerId : String) (lease : Time) (run : RunRow) : RunRow :=
  { run with state := .running, workerId := some workerId, leaseExpiresAt := some lease }

/-- The condition of `heartbeat`, apart from the id. -/
def heartbeatMatches (workerId : String) (run : RunRow) : Bool :=
  decide (run.workerId = some workerId) && decide (run.state = .running)

def heartbeatRow (lease : Time) (run : RunRow) : RunRow := { run with leaseExpiresAt := some lease }

/-- The condition of each UPDATE of `reconcile_stranded_runs`. -/
def ReconcileReason.matches (reason : ReconcileReason) (cutoff : Time) (run : RunRow) : Bool :=
  match reason with
  | .leaseExpired => decide (run.state = .running) && run.leaseBefore cutoff
  | .cancelledLeaseExpired => decide (run.state = .cancelling) && run.leaseBefore cutoff
  | .staleCreated => decide (run.state = .created) && decide (run.createdAt < cutoff)

/-- The assignments of each UPDATE of `reconcile_stranded_runs`. -/
def reconcileRow (reason : ReconcileReason) (now : Time) (run : RunRow) : RunRow :=
  match reason with
  | .leaseExpired | .staleCreated =>
    { run with state := .failed, executionStatus := some .reconciled, gateOutcome := some .error,
               completedAt := some now, metrics := some (.reconciled now reason) }
  | .cancelledLeaseExpired =>
    { run with state := .cancelled, completedAt := some now,
               metrics := some (.reconciled now reason) }

/-- `cancel_run` on a loaded row: its answer and the row after the assignments. -/
def cancelRow (now : Time) (run : RunRow) : Bool × RunRow :=
  match run.state with
  | .cancelling | .cancelled => (true, run)
  | .created => (true, { run with state := .cancelled, completedAt := some now })
  | .running => (true, { run with state := .cancelling })
  | .completed | .failed => (false, run)

/-- `worker_id is None or run.worker_id == worker_id`. -/
def RunRow.heldBy (run : RunRow) (workerId : Option String) : Bool :=
  workerId.all (fun worker => decide (run.workerId = some worker))

/-- The columns a report fills in. -/
def storeReport (report : LocalEvaluationReport) (run : RunRow) : RunRow :=
  { run with
    executionStatus := some (.reported report.run.status)
    gateOutcome := some report.gate.outcome
    totalCases := some report.run.totalCases
    metrics := some (.gate report.gate.metrics) }

/-- The assignments of `complete_run`. -/
def completeRow (now : Time) (report : LocalEvaluationReport) (run : RunRow) : RunRow :=
  { storeReport report run with
    state := if report.run.status = .completed then .completed else .failed
    completedAt := some now }

/-- The assignments of `acknowledge_cancellation`. -/
def acknowledgeRow (now : Time) (report : Option LocalEvaluationReport) (run : RunRow) : RunRow :=
  { report.elim run (fun partialReport => storeReport partialReport run) with
    state := .cancelled, completedAt := some now }

/-- `{case.case_key: case for case in report.gate.cases}`. -/
def summariesByKey (report : LocalEvaluationReport) : List (String × CaseSummary) :=
  report.gate.cases.map (fun summary => (summary.caseKey, summary))

/-- The case rows a report adds to a run. -/
def caseRows (runId : String) (report : LocalEvaluationReport) : Except PyError (List CaseRow) :=
  report.run.cases.mapM fun case => do
    let summary ← getItem (summariesByKey report) case.caseKey
    return { runId, caseKey := case.caseKey, ordinal := case.ordinal, outcome := summary.outcome,
             providerStatus := case.providerResult.status, cost := case.providerResult.cost,
             evidence := case }

/-- One column of a flush: written only where the assignment changed the loaded value. -/
def mergeColumn [DecidableEq α] (loaded changed current : α) : α :=
  if changed = loaded then current else changed

/-- The UPDATE a flush emits for a loaded row, on the row as it is by then: it
sets the assigned columns whose value changed since the load. -/
def RunRow.flush (loaded changed current : RunRow) : RunRow :=
  { current with
    state := mergeColumn loaded.state changed.state current.state
    executionStatus :=
      mergeColumn loaded.executionStatus changed.executionStatus current.executionStatus
    gateOutcome := mergeColumn loaded.gateOutcome changed.gateOutcome current.gateOutcome
    totalCases := mergeColumn loaded.totalCases changed.totalCases current.totalCases
    metrics := mergeColumn loaded.metrics changed.metrics current.metrics
    completedAt := mergeColumn loaded.completedAt changed.completedAt current.completedAt }

@[simp] theorem mergeColumn_current [DecidableEq α] (loaded changed : α) :
    mergeColumn loaded changed loaded = changed := by
  unfold mergeColumn
  split
  · rename_i same
    exact same.symm
  · rfl

@[simp] theorem mergeColumn_unchanged [DecidableEq α] (loaded current : α) :
    mergeColumn loaded loaded current = current := by
  simp [mergeColumn]

@[simp] theorem RunRow.flush_unchanged (loaded current : RunRow) :
    RunRow.flush loaded loaded current = current := by
  simp [RunRow.flush]

@[simp] theorem RunRow.flush_cancelRow (now : Time) (run : RunRow) :
    RunRow.flush run (cancelRow now run).2 run = (cancelRow now run).2 := by
  unfold cancelRow
  split <;> simp [RunRow.flush]

@[simp] theorem RunRow.flush_completeRow (now : Time) (report : LocalEvaluationReport)
    (run : RunRow) : RunRow.flush run (completeRow now report run) run = completeRow now report run := by
  simp [RunRow.flush, completeRow, storeReport]

@[simp] theorem RunRow.flush_acknowledgeRow (now : Time) (report : Option LocalEvaluationReport)
    (run : RunRow) :
    RunRow.flush run (acknowledgeRow now report run) run = acknowledgeRow now report run := by
  cases report <;> simp [RunRow.flush, acknowledgeRow, storeReport]

@[simp] theorem claimRow_id (workerId : String) (lease : Time) (run : RunRow) :
    (claimRow workerId lease run).id = run.id := rfl

@[simp] theorem heartbeatRow_id (lease : Time) (run : RunRow) :
    (heartbeatRow lease run).id = run.id := rfl

@[simp] theorem reconcileRow_id (reason : ReconcileReason) (now : Time) (run : RunRow) :
    (reconcileRow reason now run).id = run.id := by
  cases reason <;> rfl

@[simp] theorem RunRow.flush_id (loaded changed current : RunRow) :
    (RunRow.flush loaded changed current).id = current.id := rfl

@[simp] theorem cancelRow_workerId (now : Time) (run : RunRow) :
    (cancelRow now run).2.workerId = run.workerId := by
  unfold cancelRow
  split <;> rfl

@[simp] theorem acknowledgeRow_workerId (now : Time) (report : Option LocalEvaluationReport)
    (run : RunRow) : (acknowledgeRow now report run).workerId = run.workerId := by
  cases report <;> rfl

@[simp] theorem reconcileRow_workerId (reason : ReconcileReason) (now : Time) (run : RunRow) :
    (reconcileRow reason now run).workerId = run.workerId := by
  cases reason <;> rfl

/-- Every stored case of a report is one of its cases, under the run's id. -/
theorem caseRows_keys {runId : String} {report : LocalEvaluationReport} {rows : List CaseRow}
    (built : caseRows runId report = .ok rows) :
    rows.map CaseRow.key = report.run.cases.map (fun case => (runId, case.caseKey)) := by
  refine map_eq_of_mapM built fun case row own => ?_
  obtain ⟨summary, _, made⟩ := bind_eq_ok.mp own
  cases made
  rfl

/-- The stored cases carry the ordinals of the results. -/
theorem caseRows_ordinals {runId : String} {report : LocalEvaluationReport} {rows : List CaseRow}
    (built : caseRows runId report = .ok rows) :
    rows.map CaseRow.ordinal = report.run.cases.map CaseExecutionResult.ordinal := by
  refine map_eq_of_mapM built fun case row own => ?_
  obtain ⟨summary, _, made⟩ := bind_eq_ok.mp own
  cases made
  rfl

/-- With one summary for each result, in order, the stored cases carry their outcomes. -/
theorem caseRows_outcomes {runId : String} {report : LocalEvaluationReport} {rows : List CaseRow}
    (built : caseRows runId report = .ok rows)
    (summaries : report.gate.cases.map CaseSummary.caseKey =
      report.run.cases.map CaseExecutionResult.caseKey)
    (distinct : (report.run.cases.map CaseExecutionResult.caseKey).Nodup) :
    rows.map CaseRow.outcome = report.gate.cases.map CaseSummary.outcome := by
  have found : ∀ summary ∈ report.gate.cases,
      getItem (summariesByKey report) summary.caseKey = .ok summary := by
    intro summary member
    refine getItem_of_mem ?_ (List.mem_map.mpr ⟨summary, member, rfl⟩)
    simpa [summariesByKey, Function.comp_def, summaries] using distinct
  have pairs := mapM_eq_ok.mp built
  clear built distinct
  generalize summariesByKey report = entries at found pairs
  generalize report.gate.cases = listed at found summaries ⊢
  generalize report.run.cases = cases at summaries pairs
  induction pairs generalizing listed with
  | nil => rw [List.map_eq_nil_iff.mp summaries, List.map_nil, List.map_nil]
  | @cons case row cases rows own _ ih =>
    cases listed with
    | nil => cases summaries
    | cons summary others =>
      obtain ⟨key, rest⟩ := List.cons.inj summaries
      obtain ⟨other, read, made⟩ := bind_eq_ok.mp own
      have same := found summary List.mem_cons_self
      rw [key, read] at same
      cases same
      cases made
      rw [List.map_cons, List.map_cons,
        ih others (fun later member => found later (List.mem_cons_of_mem _ member)) rest]

theorem caseRows_runId {runId : String} {report : LocalEvaluationReport} {rows : List CaseRow}
    (built : caseRows runId report = .ok rows) : ∀ row ∈ rows, row.runId = runId := by
  intro row member
  have keyed : row.key ∈ report.run.cases.map (fun case => (runId, case.caseKey)) :=
    caseRows_keys built ▸ List.mem_map.mpr ⟨row, member, rfl⟩
  obtain ⟨case, _, same⟩ := List.mem_map.mp keyed
  exact (congrArg Prod.fst same).symm

/-- The same where an acknowledged cancellation may come without a report. -/
theorem reportRows_runId {runId : String} {report : Option LocalEvaluationReport}
    {rows : List CaseRow} (built : report.elim (.ok []) (caseRows runId) = .ok rows) :
    ∀ row ∈ rows, row.runId = runId := by
  cases report with
  | none =>
    cases built
    simp
  | some given => exact caseRows_runId built

/-- The gate of the report summarises every case of its run. -/
def Summarised (report : LocalEvaluationReport) : Prop :=
  ∀ case ∈ report.run.cases, case.caseKey ∈ report.gate.cases.map CaseSummary.caseKey
deriving Decidable

theorem caseRows_returns {runId : String} {report : LocalEvaluationReport} :
    (∃ rows, caseRows runId report = .ok rows) ↔ Summarised report := by
  have keys : (summariesByKey report).map Prod.fst = report.gate.cases.map CaseSummary.caseKey := by
    simp [summariesByKey, Function.comp_def]
  constructor
  · rintro ⟨rows, built⟩ case member
    obtain ⟨row, made⟩ := returns_of_mem_mapM built member
    obtain ⟨summary, found, _⟩ := bind_eq_ok.mp made
    rw [← keys]
    exact List.mem_map.mpr ⟨_, mem_of_lookup (getItem_eq_ok.mp found), rfl⟩
  · intro summarised
    apply mapM_returns
    intro case member
    obtain ⟨summary, found⟩ := getItem_returns (keys.symm ▸ summarised case member)
    exact ⟨_, bind_eq_ok.mpr ⟨summary, found, rfl⟩⟩

end RegressionDetection.Persistence
