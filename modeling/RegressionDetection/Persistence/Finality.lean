import RegressionDetection.Persistence.Lifecycle

/-! When a terminal run stays frozen and an accepted cancellation stays final:
as long as no late completion by the recorded worker gets through. -/

namespace RegressionDetection.Persistence

open Foundation Specification Providers Policy Execution

/-- The flush of the report's case rows goes through: every case has a summary,
the keys are distinct, and none of them is stored for the run yet. -/
structure StorableReport (store : Store) (runId : String) (report : LocalEvaluationReport) : Prop where
  summarised : Summarised report
  distinct : (report.run.cases.map CaseExecutionResult.caseKey).Nodup
  fresh : ∀ case ∈ report.run.cases, (runId, case.caseKey) ∉ store.cases.rows.map CaseRow.key

theorem storableReport_of_inserted {store : Store} {runId : String} {report : LocalEvaluationReport}
    {rows : List CaseRow} {table : Table CaseRow.key} (built : caseRows runId report = .ok rows)
    (inserted : store.cases.insertAll? rows = some table) : StorableReport store runId report := by
  have distinct := (Table.insertAll?_eq_some_iff.mp inserted).2
  rw [caseRows_keys built, List.nodup_append] at distinct
  obtain ⟨_, own, apart⟩ := distinct
  refine ⟨caseRows_returns.mp ⟨rows, built⟩, ?_, ?_⟩
  · have same : report.run.cases.map (fun case => (runId, case.caseKey)) =
        (report.run.cases.map CaseExecutionResult.caseKey).map (Prod.mk runId) := by simp
    rw [same] at own
    exact own.of_map
  · intro case member stored
    exact apart _ stored _ (List.mem_map.mpr ⟨case, member, rfl⟩) rfl

/-- A completion that goes through on a run in one of the given states: issued
by the worker the row records, with a storable report. -/
def CompletesIn (states : RunState → Prop) (runId : String) (store : Store) (event : Event) : Prop :=
  ∃ report workerId run, event.operation = .completeRun runId report workerId ∧
    store.runs.find? runId = some run ∧ states run.state ∧ run.workerId = some workerId ∧
    StorableReport store runId report

/-- A completion of a run that has already ended. -/
def LateCompletion (store : Store) (event : Event) : Prop :=
  ∃ runId, CompletesIn (fun state => state.terminal = true) runId store event

/-- A completion of the run although its cancellation was accepted. -/
def CompletesCancelled (runId : String) (store : Store) (event : Event) : Prop :=
  CompletesIn (fun state => state = .cancelling ∨ state = .cancelled) runId store event

section Steps

variable {store : Store} {runId : String} {event : Event} {view next : RunView}

theorem completesIn_of_completed {states : RunState → Prop} {now : Time}
    {report : LocalEvaluationReport} {workerId : String} {rows : List CaseRow}
    {table : Table CaseRow.key} (found : store.view runId = some view) (state : states view.run.state)
    (held : view.run.heldBy (some workerId) = true) (built : caseRows runId report = .ok rows)
    (inserted : store.cases.insertAll? rows = some table) :
    CompletesIn states runId store ⟨now, .completeRun runId report workerId⟩ :=
  ⟨report, workerId, view.run, rfl, (Store.view_eq_some.mp found).1, state,
    by simpa [RunRow.heldBy] using held, storableReport_of_inserted built inserted⟩

/-- Short of a late completion, no operation touches a terminal run. -/
theorem Transition.terminal (moved : Transition store runId event view next)
    (found : store.view runId = some view) (ended : view.run.state.terminal = true)
    (punctual : ¬ CompletesIn (fun state => state.terminal = true) runId store event) :
    next = view := by
  cases moved with
  | kept => rfl
  | claimed branch candidate =>
    rw [candidate_state candidate] at ended
    cases branch <;> cases ended
  | extended held =>
    simp only [heartbeatMatches, Bool.and_eq_true, decide_eq_true_eq] at held
    rw [held.2] at ended
    cases ended
  | cancelled =>
    cases state : view.run.state <;> simp [state, RunState.terminal, cancelRow] at ended ⊢
  | acknowledged cancelling =>
    rw [cancelling] at ended
    cases ended
  | completed held built inserted =>
    exact absurd (completesIn_of_completed found ended held built inserted) punctual
  | reconciled reason cutoff stranded =>
    cases state : view.run.state <;> cases reason <;>
      simp [state, RunState.terminal, ReconcileReason.matches] at ended stranded

/-- Short of a completion, a run with an accepted cancellation only becomes cancelled. -/
theorem Transition.cancelling (moved : Transition store runId event view next)
    (found : store.view runId = some view)
    (accepted : view.run.state = .cancelling ∨ view.run.state = .cancelled)
    (honoured : ¬ CompletesCancelled runId store event) :
    next.run.state = .cancelling ∨ next.run.state = .cancelled := by
  cases moved with
  | kept => exact accepted
  | claimed branch candidate =>
    rw [candidate_state candidate] at accepted
    cases branch <;> simp [ClaimBranch.state] at accepted
  | extended held => exact accepted
  | cancelled => rcases accepted with state | state <;> simp [cancelRow, state]
  | acknowledged => exact .inr rfl
  | completed held built inserted =>
    exact absurd (completesIn_of_completed found accepted held built inserted) honoured
  | reconciled reason cutoff stranded =>
    rcases accepted with state | state <;> cases reason <;>
      simp [state, ReconcileReason.matches, reconcileRow] at stranded ⊢

end Steps

/-- As long as no late completion goes through, a terminal run keeps its whole
row and all its case rows, whatever operations follow. -/
theorem terminal_frozen {store : Store} {runId : String} {view : RunView} {events : List Event}
    (found : store.view runId = some view) (ended : view.run.state.terminal = true)
    (punctual : Guarded perform (fun current event => ¬ LateCompletion current event) store events) :
    (run perform store events).view runId = some view := by
  refine run_invariant (fun current => current.view runId = some view) ?_ punctual found
  intro current event allowed stored
  obtain ⟨next, after, moved⟩ := perform_view stored event
  rw [after, moved.terminal stored ended fun late => allowed ⟨runId, late⟩]

/-- `cancel_run` answered True: the run is cancelling or cancelled. -/
theorem cancelRun_accepted {now : Time} {runId : String} {store next : Store}
    (accepted : cancelRun now runId store = .ok (true, next)) :
    ∃ view, next.view runId = some view ∧
      (view.run.state = .cancelling ∨ view.run.state = .cancelled) := by
  obtain ⟨run, loaded, made⟩ := bind_eq_ok.mp accepted
  obtain ⟨answer, rfl⟩ := Prod.mk.inj (Except.ok.inj made)
  have found : store.view runId = some ⟨run, store.casesOf runId⟩ :=
    Store.view_eq_some.mpr ⟨findRun_eq_ok.mp loaded, rfl⟩
  have changed := view_flushRun found run (cancelRow now run).2
  rw [if_pos rfl, RunRow.flush_cancelRow] at changed
  refine ⟨_, changed, ?_⟩
  cases state : run.state <;> simp [cancelRow, state] at answer ⊢

/-- As long as no completion of the run goes through, an accepted cancellation is
final: whatever operations follow, the run is cancelling or cancelled and no
promotion takes it. -/
theorem cancellation_final {now : Time} {runId : String} {store accepted : Store}
    {events : List Event} (answered : cancelRun now runId store = .ok (true, accepted))
    (honoured : Guarded perform (fun current event => ¬ CompletesCancelled runId current event)
      accepted events) :
    ∃ view, (run perform accepted events).view runId = some view ∧
      (view.run.state = .cancelling ∨ view.run.state = .cancelled) ∧
      ∀ now projectId channel reason,
        promoteRun now projectId channel runId reason (run perform accepted events) =
          .ok (none, run perform accepted events) := by
  obtain ⟨view, found, state⟩ : ∃ view, (run perform accepted events).view runId = some view ∧
      (view.run.state = .cancelling ∨ view.run.state = .cancelled) := by
    refine run_invariant (fun current => ∃ view, current.view runId = some view ∧
      (view.run.state = .cancelling ∨ view.run.state = .cancelled)) ?_ honoured
      (cancelRun_accepted answered)
    rintro current event allowed ⟨view, stored, state⟩
    obtain ⟨next, after, moved⟩ := perform_view stored event
    exact ⟨next, after, moved.cancelling stored state allowed⟩
  refine ⟨view, found, state, ?_⟩
  intro now projectId channel reason
  have ineligible : view.run.promotable = false := by
    rcases state with state | state <;> simp [RunRow.promotable, state]
  simp [promoteRun, (Store.view_eq_some.mp found).1, ineligible]

section Histories

/-- An empty database with one project. -/
def projectStore : Store :=
  { Store.empty with
    projects := ⟨[{ id := "project", slug := "project", name := "project" }], by decide⟩ }

/-- Submission of a one-case run. -/
def submitted : Event :=
  ⟨0, .createRun "project" ⟨plainDocument "Say ok" ["first"] {}, greeting_valid⟩ HexDigest.zero
    HexDigest.zero none none "run"⟩

/-- A worker claims the oldest run at time zero. -/
def claimedBy (workerId : String) : Event := ⟨0, .claimNextRun workerId 60⟩

/-- The worker's completion with a passing report. -/
def completedBy (workerId : String) (now : Time) : Event :=
  ⟨now, .completeRun "run" (gradedReport true) workerId⟩

/-- The state of the run after the events. -/
def stateAfter (events : List Event) : Option RunState :=
  ((run perform projectStore events).view "run").map (fun view => view.run.state)

end Histories

/-- A worker that finishes after its run was reconciled to failed turns it into completed. -/
theorem reconciled_run_completed :
    stateAfter [submitted, claimedBy "worker", ⟨seconds 200, .reconcileStrandedRuns 30 none⟩] =
      some .failed ∧
    stateAfter [submitted, claimedBy "worker", ⟨seconds 200, .reconcileStrandedRuns 30 none⟩,
      completedBy "worker" (seconds 201)] = some .completed := by decide

/-- A run cancelled before any claim is left alone by a heartbeat and a reconciliation. -/
theorem cancelled_run_frozen : ∃ view,
    (run perform projectStore [submitted, ⟨1, .cancelRun "run"⟩]).view "run" = some view ∧
    (run perform (run perform projectStore [submitted, ⟨1, .cancelRun "run"⟩])
      [⟨2, .heartbeat "run" "worker" 60⟩, ⟨3, .reconcileStrandedRuns 30 none⟩]).view "run" =
      some view := by
  refine ⟨_, rfl, terminal_frozen rfl rfl ?_⟩
  refine ⟨?_, ?_, trivial⟩ <;> rintro ⟨_, _, _, _, impossible, _⟩ <;> cases impossible

/-- The worker of a run whose cancellation was accepted completes it all the same. -/
theorem cancelling_run_completed :
    (cancelRun 1 "run" (run perform projectStore [submitted, claimedBy "worker"])).map Prod.fst =
      .ok true ∧
    stateAfter [submitted, claimedBy "worker", ⟨1, .cancelRun "run"⟩, completedBy "worker" 2] =
      some .completed := by decide

/-- A cancelled unclaimed run stays cancelled when the next claim comes. -/
theorem cancelled_run_final : ∃ accepted,
    cancelRun 1 "run" (run perform projectStore [submitted]) = .ok (true, accepted) ∧
    ∃ view, (run perform accepted [claimedBy "worker"]).view "run" = some view ∧
      (view.run.state = .cancelling ∨ view.run.state = .cancelled) ∧
      ∀ now projectId channel reason,
        promoteRun now projectId channel "run" reason (run perform accepted [claimedBy "worker"]) =
          .ok (none, run perform accepted [claimedBy "worker"]) := by
  have answered : (cancelRun 1 "run" (run perform projectStore [submitted])).map Prod.fst = .ok true := by
    decide
  cases outcome : cancelRun 1 "run" (run perform projectStore [submitted]) with
  | error error =>
    rw [outcome] at answered
    cases answered
  | ok result =>
    obtain ⟨answer, accepted⟩ := result
    rw [outcome] at answered
    cases answered
    refine ⟨accepted, rfl, cancellation_final outcome ⟨?_, trivial⟩⟩
    rintro ⟨_, _, _, impossible, _⟩
    cases impossible

end RegressionDetection.Persistence
