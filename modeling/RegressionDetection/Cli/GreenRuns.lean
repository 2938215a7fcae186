import RegressionDetection.Cli.Commands
import RegressionDetection.Execution.Cancellation
import RegressionDetection.Persistence.StoredEvidence
import RegressionDetection.Workers.Completion
import RegressionDetection.Workers.Fleet

/-! Green exits. A command that exits with code 0 has seen a completed run with a result for
every case, as long as no cancellation is acknowledged with a report that passes. -/

namespace RegressionDetection.Cli

open Foundation Specification Policy Execution Persistence Workers

/-- The run is completed, with a stored result for every case of its snapshot. -/
structure FullyEvaluated (view : RunView) : Prop where
  completed : view.run.state = .completed
  cases : ∀ case ∈ view.run.snapshot.val.cases, ∃ row ∈ view.cases, row.caseKey = case.key

/-- A gate that passed is that of a full evaluation. -/
def PassedInFull (view : RunView) : Prop := view.run.gateOutcome = some .pass → FullyEvaluated view

/-- How the fleet finalises a run: a completion stores a full report, and an accepted
acknowledgement none that passes. -/
structure FinalisesInFull (store : Store) (event : Event) : Prop where
  completes : ∀ runId report workerId run, event.operation = .completeRun runId report workerId →
    store.runs.find? runId = some run → Complete run.snapshot report
  acknowledges : ∀ runId report workerId run,
    event.operation = .acknowledgeCancellation runId workerId (some report) →
    store.runs.find? runId = some run → run.state = .cancelling →
    run.heldBy (some workerId) = true → report.gate.outcome ≠ .pass

section Transitions

theorem submitted_passedInFull {view : RunView} (submitted : Submitted view) : PassedInFull view := by
  obtain ⟨now, runId, projectId, specification, configurationHash, datasetHash, rfl⟩ := submitted
  intro passed
  cases passed

variable {store : Store} {runId : String} {event : Event} {view next : RunView}

/-- A run that has not completed has no passing gate. -/
theorem PassedInFull.undecided (sound : PassedInFull view) (state : view.run.state ≠ .completed) :
    view.run.gateOutcome ≠ some .pass := fun passed => state (sound passed).completed

/-- The rows of a full report cover the snapshot. -/
theorem fullyEvaluated_of_complete {report : LocalEvaluationReport} {rows : List CaseRow} {now : Time}
    (complete : Complete view.run.snapshot report) (built : caseRows runId report = .ok rows) :
    FullyEvaluated ⟨completeRow now report view.run, view.cases ++ rows⟩ where
  completed := by simp [completeRow, complete.status]
  cases case member := by
    have listed : case.key ∈ report.run.cases.map CaseExecutionResult.caseKey :=
      complete.keys ▸ List.mem_map.mpr ⟨case, member, rfl⟩
    obtain ⟨result, present, same⟩ := List.mem_map.mp listed
    have keyed : (runId, result.caseKey) ∈ rows.map CaseRow.key :=
      caseRows_keys built ▸ List.mem_map.mpr ⟨result, present, rfl⟩
    obtain ⟨row, stored, key⟩ := List.mem_map.mp keyed
    exact ⟨row, List.mem_append_right _ stored, (congrArg Prod.snd key).trans same⟩

/-- What an operation keeps of a run. -/
theorem transition_passedInFull (moved : Transition store runId event view next)
    (found : store.view runId = some view) (finalises : FinalisesInFull store event)
    (sound : PassedInFull view) :
    PassedInFull next := by
  have row := (Store.view_eq_some.mp found).1
  cases moved with
  | kept => exact sound
  | claimed branch candidate =>
    have state : view.run.state ≠ .completed := by
      rw [candidate_state candidate]
      cases branch <;> decide
    exact fun passed => absurd passed (sound.undecided state)
  | extended => exact fun passed => ⟨(sound passed).completed, (sound passed).cases⟩
  | cancelled =>
    cases state : view.run.state with
    | created | running =>
      have undecided := sound.undecided (by simp [state])
      exact fun passed => absurd (by simpa [cancelRow, state] using passed) undecided
    | completed | failed | cancelling | cancelled => simpa [cancelRow, state] using sound
  | acknowledged cancelling held built inserted =>
    rename_i rows table now workerId report
    intro passed
    cases report with
    | none => exact absurd passed (sound.undecided (by simp [cancelling]))
    | some report =>
      exact absurd (Option.some.inj passed) (finalises.acknowledges _ _ _ _ rfl row cancelling held)
  | completed held built inserted =>
    exact fun _ => fullyEvaluated_of_complete (finalises.completes _ _ _ _ rfl row) built
  | reconciled reason cutoff stranded =>
    intro passed
    cases reason with
    | leaseExpired | staleCreated => cases passed
    | cancelledLeaseExpired =>
      have state : view.run.state = .cancelling := by
        simp only [ReconcileReason.matches, Bool.and_eq_true, decide_eq_true_eq] at stranded
        exact stranded.1
      exact absurd passed (sound.undecided (by simp [state]))

end Transitions

section Fleets

variable {Index σ : Type} [DecidableEq Index] {environment : Environment}
  {workers : Index → Worker σ} {fleet : Fleet Index σ}

/-- No worker's acknowledgement of a cancellation stores a report that passes. -/
def AcknowledgesUnpassed (workers : Index → Worker σ) (fleet : Fleet Index σ)
    (event : FleetEvent Index) : Prop :=
  ∀ index now runId report run, event = .advance index now →
    (fleet.workers index).phase = .reported runId report true →
    fleet.store.runs.find? runId = some run → run.state = .cancelling →
    run.workerId = some (workers index).workerId → report.gate.outcome ≠ .pass

omit [DecidableEq Index] in
/-- The operation that ends a `run_once` finalises in full. -/
theorem concludes_finalisesInFull {index : Index} {now : Time} {operation : Operation}
    (concludes : Concludes (workers index) (fleet.workers index).phase operation)
    (covered : fleet.Covered) (unpassed : AcknowledgesUnpassed workers fleet (.advance index now)) :
    FinalisesInFull fleet.store ⟨now, operation⟩ := by
  have covers := covered index
  generalize phase : (fleet.workers index).phase = current at concludes covers
  constructor
  · rintro runId report workerId run completes found
    cases concludes with
    | withdraw | acknowledge => cases completes
    | complete =>
      cases completes
      obtain ⟨specification, ⟨row, stored, rfl⟩, complete⟩ := covers
      cases stored.symm.trans found
      exact complete rfl
  · rintro runId report workerId run acknowledges found cancelling held
    cases concludes with
    | withdraw | complete => cases acknowledges
    | acknowledge =>
      cases acknowledges
      have owner : run.workerId = some (workers index).workerId := by simpa [RunRow.heldBy] using held
      exact unpassed index now runId report run rfl phase found cancelling owner

/-- Other operations finalise nothing. -/
theorem finalisesInFull_of_none {store : Store} {event : Event}
    (none : event.operation.finalisation = none) : FinalisesInFull store event := by
  constructor <;> rintro runId report workerId run issued <;> rw [issued] at none <;> cases none

/-- A step of the fleet keeps every run's passing gate that of a full evaluation. -/
theorem fleetStep_passedInFull {event : FleetEvent Index} (covered : fleet.Covered)
    (unpassed : AcknowledgesUnpassed workers fleet event)
    (every : EveryRun PassedInFull fleet.store) :
    EveryRun PassedInFull (fleetStep environment workers fleet event).store := by
  have performed {event : Event} (finalises : FinalisesInFull fleet.store event) :
      EveryRun PassedInFull (perform fleet.store event) :=
    perform_everyRun (fun _ submitted => submitted_passedInFull submitted)
      (fun _ _ _ found sound moved => transition_passedInFull moved found finalises sound) every
  have stepped {issues : Operation → Prop} {index : Index} {now : Time}
      {after : WorkerState σ × Store}
      (step : WorkerStep issues now fleet.store (fleet.workers index) after)
      (finalises : ∀ operation, issues operation → FinalisesInFull fleet.store ⟨now, operation⟩) :
      EveryRun PassedInFull (fleet.moved index after).store := by
    change EveryRun PassedInFull after.2
    rcases step.store with same | ⟨operation, issued, result⟩
    · rwa [same]
    · rw [result]
      exact performed (finalises operation issued)
  cases event with
  | call call =>
    obtain ⟨⟨now, operation⟩, outside⟩ := call
    refine performed (finalisesInFull_of_none ?_)
    cases operation with
    | createRun | cancelRun | reconcileStrandedRuns | promoteRun => rfl
    | claimNextRun | heartbeat | acknowledgeCancellation | completeRun => cases outside
  | poll index now =>
    exact stepped poll_step fun _ claims => finalisesInFull_of_none (by rw [claims]; rfl)
  | advance index now =>
    exact stepped advance_step fun _ concludes => concludes_finalisesInFull concludes covered unpassed
  | beat index now =>
    exact stepped beat_step fun _ ⟨_, beats⟩ => finalisesInFull_of_none (by rw [beats]; rfl)

end Fleets

section Examples

/-- One idle worker on a database with one project. -/
def sampleFleet : Fleet Unit Unit := { store := projectStore, workers := fun _ => idleWorker }

def sampleStep : Fleet Unit Unit → FleetEvent Unit → Fleet Unit Unit :=
  fleetStep Environment.plain fun _ => sampleWorker

/-- Submission of a run of two cases, claimed and begun. -/
def begun : List (FleetEvent Unit) :=
  [.call ⟨submission (literalSuite ["first", "second"] {} twoGreetings_valid), rfl⟩,
    .poll () 1, .advance () 2, .advance () 3]

/-- Both cases are executed, and the run is completed. -/
def evaluatedInFull : List (FleetEvent Unit) :=
  begun ++ [.advance () 4, .advance () 5, .advance () 6, .advance () 7]

/-- The run is cancelled while its first case executes; the heartbeat finds out. -/
def cancelledMidway : List (FleetEvent Unit) :=
  begun ++ [.call ⟨⟨4, .cancelRun "run"⟩, rfl⟩, .advance () 5, .beat () 6, .advance () 7, .advance () 8]

/-- The worker is about to acknowledge a cancellation with a report. -/
def acknowledging (fleet : Fleet Unit Unit) : Bool :=
  match (fleet.workers ()).phase with
  | .reported _ _ token => token
  | _ => false

/-- A worker that acknowledges no cancellation is within the condition. -/
theorem acknowledgesUnpassed_of_not {fleet : Fleet Unit Unit} {event : FleetEvent Unit}
    (busy : acknowledging fleet = false) :
    AcknowledgesUnpassed (fun _ => sampleWorker) fleet event := by
  intro index now runId report run _ phase
  simp [acknowledging, phase] at busy

end Examples

end RegressionDetection.Cli
