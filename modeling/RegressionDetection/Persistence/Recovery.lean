import RegressionDetection.Persistence.Calls
import RegressionDetection.Persistence.Finality
import RegressionDetection.Persistence.Histories

/-! What a run's columns are in each of its states, in every state a history of
operations reaches, and what follows for recovery: reconciliation late enough
leaves no run running or cancelling. -/

namespace RegressionDetection.Persistence

open Foundation Execution

/-- The columns and case rows of a run, state by state. -/
structure WellFormed (view : RunView) : Prop where
  created : view.run.state = .created → view.run.workerId = none ∧
    view.run.leaseExpiresAt = none ∧ view.run.gateOutcome = none ∧ view.cases = []
  active : view.run.state = .running ∨ view.run.state = .cancelling →
    view.run.workerId.isSome = true ∧ view.run.leaseExpiresAt.isSome = true ∧
      view.run.gateOutcome = none ∧ view.run.completedAt = none ∧ view.cases = []
  ended : view.run.completedAt.isSome = view.run.state.terminal
  completed : view.run.state = .completed →
    view.run.gateOutcome.isSome = true ∧ view.run.totalCases.isSome = true
  failed : view.run.state = .failed → view.run.gateOutcome = some .error

/-- A worker completes a run with a report of status completed only. -/
def CompletesEvaluated (_ : Store) (event : Event) : Prop :=
  ∀ runId report workerId, event.operation = .completeRun runId report workerId →
    report.run.status = .completed

/-- Every lease is over by more than the grace period. -/
def LeasesOver (now : Time) (leaseGraceSeconds : Int) (store : Store) : Prop :=
  ∀ run ∈ store.runs.rows, ∀ lease ∈ run.leaseExpiresAt, lease + seconds leaseGraceSeconds < now
deriving Decidable

section States

theorem Submitted.wellFormed {view : RunView} (submitted : Submitted view) : WellFormed view := by
  obtain ⟨now, runId, projectId, specification, configurationHash, datasetHash, rfl⟩ := submitted
  constructor <;> simp [createdRow, RunState.terminal]

/-- A terminal run with its columns as a report leaves them. -/
theorem wellFormed_of_terminal {view : RunView} (ended : view.run.state.terminal = true)
    (stamped : view.run.completedAt.isSome = true)
    (completed : view.run.state = .completed →
      view.run.gateOutcome.isSome = true ∧ view.run.totalCases.isSome = true)
    (failed : view.run.state = .failed → view.run.gateOutcome = some .error) : WellFormed view where
  created state := by
    rw [state] at ended
    cases ended
  active state := by
    rcases state with state | state <;> rw [state] at ended <;> cases ended
  ended := stamped.trans ended.symm
  completed := completed
  failed := failed

/-- What a claimable run is short of. -/
theorem WellFormed.undecided {view : RunView} (formed : WellFormed view) {now : Time}
    {branch : ClaimBranch} (candidate : branch.candidate now view.run = true) :
    view.run.gateOutcome = none ∧ view.run.completedAt = none ∧ view.cases = [] := by
  have state := candidate_state candidate
  cases branch with
  | created =>
    obtain ⟨_, _, gate, unevaluated⟩ := formed.created state
    refine ⟨gate, ?_, unevaluated⟩
    simpa [state, ClaimBranch.state, RunState.terminal] using formed.ended
  | expired => exact (formed.active (.inl state)).2.2

variable {store : Store} {runId : String} {event : Event} {view next : RunView}

/-- Every transition keeps the columns of a run in order. -/
theorem Transition.wellFormed (moved : Transition store runId event view next)
    (evaluated : CompletesEvaluated store event) (formed : WellFormed view) : WellFormed next := by
  cases moved with
  | kept => exact formed
  | claimed branch candidate =>
    have undecided := formed.undecided candidate
    constructor <;> simp [claimRow, undecided, RunState.terminal]
  | extended held =>
    simp only [heartbeatMatches, Bool.and_eq_true, decide_eq_true_eq] at held
    obtain ⟨worker, _, undecided⟩ := formed.active (.inl held.2)
    constructor <;> simp [heartbeatRow, held.2, worker, undecided, RunState.terminal]
  | cancelled =>
    cases state : view.run.state with
    | created =>
      apply wellFormed_of_terminal <;> simp [cancelRow, state, RunState.terminal]
    | running =>
      obtain ⟨worker, lease, undecided⟩ := formed.active (.inl state)
      constructor <;> simp [cancelRow, state, worker, lease, undecided, RunState.terminal]
    | completed | failed | cancelling | cancelled => simpa [cancelRow, state] using formed
  | acknowledged cancelling held built inserted =>
    apply wellFormed_of_terminal <;> simp [acknowledgeRow, RunState.terminal]
  | completed held built inserted =>
    have finished := evaluated _ _ _ rfl
    apply wellFormed_of_terminal <;> simp [completeRow, storeReport, finished, RunState.terminal]
  | reconciled reason cutoff stranded =>
    cases reason <;> apply wellFormed_of_terminal <;> simp [reconcileRow, RunState.terminal]

end States

/-- A submitted run keeps its columns in order through every history. -/
theorem run_wellFormed {store : Store} {events : List Event} (empty : NoRuns store)
    (evaluated : Guarded perform CompletesEvaluated store events) :
    EveryRun WellFormed (run perform store events) :=
  run_everyRun (fun _ submitted => submitted.wellFormed)
    (fun _ _ _ _ _ allowed _ formed moved => moved.wellFormed allowed formed) empty evaluated

theorem reconcileRow_inactive (reason : ReconcileReason) (now : Time) (row : RunRow) :
    (reconcileRow reason now row).state ≠ .running ∧
      (reconcileRow reason now row).state ≠ .cancelling := by
  cases reason <;> simp [reconcileRow]

/-- A reconciliation selects every active run with a lease that is over. -/
theorem reconcileStatements_select {view : RunView} {now : Time} {leaseGraceSeconds : Int}
    (formed : WellFormed view)
    (expired : ∀ lease ∈ view.run.leaseExpiresAt, lease + seconds leaseGraceSeconds < now)
    (maxCreatedAgeSeconds : Option Int)
    (active : view.run.state = .running ∨ view.run.state = .cancelling) :
    ∃ statement ∈ reconcileStatements now leaseGraceSeconds maxCreatedAgeSeconds,
      statement.1.matches statement.2 view.run = true := by
  obtain ⟨_, leased, _⟩ := formed.active active
  obtain ⟨lease, recorded⟩ := Option.isSome_iff_exists.mp leased
  have before : view.run.leaseBefore (now - seconds leaseGraceSeconds) = true := by
    simpa [RunRow.leaseBefore, recorded] using lt_sub_iff_add_lt.mpr (expired lease recorded)
  rcases active with state | state
  · exact ⟨(.leaseExpired, now - seconds leaseGraceSeconds), by simp [reconcileStatements],
      by simp [ReconcileReason.matches, state, before]⟩
  · exact ⟨(.cancelledLeaseExpired, now - seconds leaseGraceSeconds), by simp [reconcileStatements],
      by simp [ReconcileReason.matches, state, before]⟩

/-- Once every lease is over, a reconciliation leaves no run running or cancelling. -/
theorem reconcileStrandedRuns_recovers {store : Store} {now : Time} {leaseGraceSeconds : Int}
    (formed : EveryRun WellFormed store) (expired : LeasesOver now leaseGraceSeconds store)
    (maxCreatedAgeSeconds : Option Int) :
    ∀ row ∈ (reconcileStrandedRuns now store leaseGraceSeconds maxCreatedAgeSeconds).2.runs.rows,
      row.state ≠ .running ∧ row.state ≠ .cancelling := by
  intro row member
  have stored := Table.find?_of_mem member
  cases before : store.runs.find? row.id with
  | none =>
    have absent : Absent (reconcileStrandedRuns now store leaseGraceSeconds
        maxCreatedAgeSeconds).2 row.id :=
      reconcileStrandedRuns_absent ⟨before, formed.absent _ before⟩ leaseGraceSeconds
        maxCreatedAgeSeconds
    cases absent.row.symm.trans stored
  | some run =>
    have found : store.view row.id = some ⟨run, store.casesOf row.id⟩ :=
      Store.view_eq_some.mpr ⟨before, rfl⟩
    have agrees : (reconcileStrandedRuns now store leaseGraceSeconds maxCreatedAgeSeconds).2.view
        row.id = some (reconcileAll now (reconcileStatements now leaseGraceSeconds
          maxCreatedAgeSeconds) ⟨run, store.casesOf row.id⟩).2 :=
      reconcileStrandedRuns_agrees found leaseGraceSeconds maxCreatedAgeSeconds
    rw [Option.some.inj (stored.symm.trans (Store.view_eq_some.mp agrees).1)]
    by_cases selected : ∃ statement ∈ reconcileStatements now leaseGraceSeconds maxCreatedAgeSeconds,
        statement.1.matches statement.2 run = true
    · obtain ⟨statement, listed, hit⟩ := selected
      rw [reconcileAll_hit listed hit]
      exact reconcileRow_inactive _ _ _
    · have missed : ∀ statement ∈ reconcileStatements now leaseGraceSeconds maxCreatedAgeSeconds,
          statement.1.matches statement.2 run = false := by
        intro statement listed
        by_contra hit
        exact selected ⟨statement, listed, by simpa using hit⟩
      rw [reconcileAll_miss missed]
      refine not_or.mp fun active => selected ?_
      exact reconcileStatements_select (formed.stored _ _ found)
        (expired run (Table.mem_of_find? before)) maxCreatedAgeSeconds active

/-- As long as workers complete runs with completed reports only, every reachable run is
well formed, and a reconciliation later than all leases and the grace period strands none. -/
theorem runs_recover {store : Store} {events : List Event} (empty : NoRuns store)
    (evaluated : Guarded perform CompletesEvaluated store events) :
    (∀ runId view, (run perform store events).view runId = some view → WellFormed view) ∧
    ∀ now leaseGraceSeconds maxCreatedAgeSeconds,
      LeasesOver now leaseGraceSeconds (run perform store events) →
      ∀ row ∈ (reconcileStrandedRuns now (run perform store events) leaseGraceSeconds
        maxCreatedAgeSeconds).2.runs.rows, row.state ≠ .running ∧ row.state ≠ .cancelling := by
  have formed := run_wellFormed empty evaluated
  refine ⟨formed.stored, ?_⟩
  intro now leaseGraceSeconds maxCreatedAgeSeconds expired
  exact reconcileStrandedRuns_recovers formed expired maxCreatedAgeSeconds

/-- A claimed run whose cancellation was accepted is recovered. -/
theorem cancelling_recovers :
    (∀ runId view, (run perform projectStore
      [submitted, claimedBy "worker", ⟨1, .cancelRun "run"⟩]).view runId = some view →
      WellFormed view) ∧
    ∀ row ∈ (reconcileStrandedRuns (seconds 100) (run perform projectStore
      [submitted, claimedBy "worker", ⟨1, .cancelRun "run"⟩]) 30 none).2.runs.rows,
      row.state ≠ .running ∧ row.state ≠ .cancelling := by
  have evaluated : Guarded perform CompletesEvaluated projectStore
      [submitted, claimedBy "worker", ⟨1, .cancelRun "run"⟩] := by
    refine ⟨?_, ?_, ?_, trivial⟩ <;> intro _ _ _ impossible <;> cases impossible
  have recovers := runs_recover ⟨rfl, rfl, rfl⟩ evaluated
  exact ⟨recovers.1, recovers.2 _ _ _ (by decide)⟩

end RegressionDetection.Persistence
