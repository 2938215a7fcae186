import Mathlib.Logic.Function.Basic
import RegressionDetection.Execution.Evidence
import RegressionDetection.Persistence.Histories
import RegressionDetection.Workers.Worker

/-! Any number of workers on one database, with API calls in between. What a worker reports
when nothing cancelled it covers the snapshot of the run it claimed. -/

namespace RegressionDetection.Workers

open Foundation Specification Providers Policy Execution Persistence

/-- The operations that no worker issues while it runs: those of the API and the
reconciliation at a worker's startup. -/
def external : Operation → Bool
  | .createRun .. | .cancelRun _ | .reconcileStrandedRuns .. | .promoteRun .. => true
  | .claimNextRun .. | .heartbeat .. | .acknowledgeCancellation .. | .completeRun .. => false

structure ExternalCall where
  event : Event
  external : external event.operation = true

/-- The database and the workers that share it. -/
structure Fleet (Index σ : Type) where
  store : Store
  workers : Index → WorkerState σ

inductive FleetEvent (Index : Type) where
  | call (call : ExternalCall)
  | poll (index : Index) (now : Time)
  | advance (index : Index) (now : Time)
  | beat (index : Index) (now : Time)

variable {Index σ : Type} [DecidableEq Index]

/-- The fleet after a worker's own step. -/
def Fleet.moved (fleet : Fleet Index σ) (index : Index) (after : WorkerState σ × Store) :
    Fleet Index σ :=
  { store := after.2, workers := Function.update fleet.workers index after.1 }

@[simp]
theorem Fleet.moved_store (fleet : Fleet Index σ) (index : Index) (after : WorkerState σ × Store) :
    (fleet.moved index after).store = after.2 := rfl

@[simp]
theorem Fleet.moved_own (fleet : Fleet Index σ) (index : Index) (after : WorkerState σ × Store) :
    (fleet.moved index after).workers index = after.1 := by
  simp [Fleet.moved]

theorem Fleet.moved_apart (fleet : Fleet Index σ) {index other : Index} (apart : other ≠ index)
    (after : WorkerState σ × Store) : (fleet.moved index after).workers other = fleet.workers other :=
  Function.update_of_ne apart _ _

def fleetStep (environment : Environment) (workers : Index → Worker σ) (fleet : Fleet Index σ) :
    FleetEvent Index → Fleet Index σ
  | .call call => { fleet with store := perform fleet.store call.event }
  | .poll index now => fleet.moved index (poll (workers index) now fleet.store (fleet.workers index))
  | .advance index now =>
    fleet.moved index (advance environment (workers index) now fleet.store (fleet.workers index))
  | .beat index now => fleet.moved index (beat (workers index) now fleet.store (fleet.workers index))

/-- Every worker is between two calls of `run_once`. -/
def Fleet.AllIdle (fleet : Fleet Index σ) : Prop :=
  ∀ index, ∃ processed, (fleet.workers index).phase = .idle processed

section Coverage

/-- The run is stored with this snapshot. -/
def Snapshot (store : Store) (runId : String) (specification : EvaluationSpecification) : Prop :=
  ∃ row, store.runs.find? runId = some row ∧ row.snapshot = specification

/-- The report is about every case of the specification. -/
structure Complete (specification : EvaluationSpecification) (report : LocalEvaluationReport) : Prop where
  status : report.run.status = .completed
  keys : report.run.cases.map CaseExecutionResult.caseKey =
    specification.val.cases.map GoldenCase.key

/-- An execution has the results of the cases before its boundary; an uncancelled report
has those of all. -/
def Covers (store : Store) : Phase σ → Prop
  | .executing active =>
    Snapshot store active.runId active.specification ∧
      active.loop.results.map CaseExecutionResult.caseKey ++ active.remaining.map GoldenCase.key =
        active.specification.val.cases.map GoldenCase.key
  | .reported runId report token =>
    ∃ specification, Snapshot store runId specification ∧
      (token = false → Complete specification report)
  | .idle _ | .claimed _ | .cancelSeen _ | .admitted _ | .raised _ => True

variable {environment : Environment} {worker : Worker σ} {store : Store} {now : Time}

/-- No operation takes a run away or changes its snapshot. -/
theorem Snapshot.perform {runId : String} {specification : EvaluationSpecification}
    (held : Snapshot store runId specification) (event : Event) :
    Snapshot (perform store event) runId specification := by
  obtain ⟨row, found, rfl⟩ := held
  have viewed : store.view runId = some ⟨row, store.casesOf runId⟩ :=
    Store.view_eq_some.mpr ⟨found, rfl⟩
  obtain ⟨next, after, moved⟩ := perform_view viewed event
  exact ⟨next.run, (Store.view_eq_some.mp after).1, moved.snapshot⟩

theorem Covers.perform {phase : Phase σ} (covers : Covers store phase) (event : Event) :
    Covers (perform store event) phase := by
  cases phase with
  | executing active => exact ⟨covers.1.perform event, covers.2⟩
  | reported runId report token =>
    obtain ⟨specification, held, complete⟩ := covers
    exact ⟨specification, held.perform event, complete⟩
  | idle | claimed | cancelSeen | admitted | raised => trivial

/-- The execution of a snapshot starts with no result and every case ahead. -/
theorem beginExecution_covers {runId : String} {specification : EvaluationSpecification}
    (held : Snapshot store runId specification) (state : WorkerState σ) :
    Covers store (beginExecution environment state runId specification) := by
  unfold beginExecution
  split
  · trivial
  · exact ⟨held, rfl⟩

/-- An uncancelled report is made after the last case. -/
theorem finishExecution_covers {active : ActiveRun σ} (covers : Covers store (.executing active))
    (stopped : Bool) (done : active.token = false → stopped = false ∧ active.remaining = []) :
    Covers store (finishExecution environment active stopped).phase := by
  obtain ⟨held, keys⟩ := covers
  simp only [finishExecution]
  split
  · trivial
  · rename_i report made
    refine ⟨_, held, fun unset => ?_⟩
    obtain ⟨rfl, last⟩ := done unset
    obtain ⟨same, _⟩ := reportOf_ok made
    refine ⟨by rw [same]; rfl, ?_⟩
    rw [same, ← keys, last]
    simp [runResult]

theorem continueExecution_covers {active : ActiveRun σ} (covers : Covers store (.executing active)) :
    Covers store (continueExecution environment worker active).phase := by
  unfold continueExecution
  split
  · rename_i done
    exact finishExecution_covers covers false fun _ => ⟨rfl, done⟩
  · rename_i case rest remaining
    split
    · rename_i token
      exact finishExecution_covers covers true fun unset => absurd (token.symm.trans unset) (by decide)
    · split
      · trivial
      · rename_i loop executed
        obtain ⟨held, keys⟩ := covers
        obtain ⟨result, grown, key, _⟩ := executeCase_ok executed
        refine ⟨held, ?_⟩
        rw [← keys, remaining]
        simp [grown, key]

end Coverage

section Steps

/-- The operation that ends a `run_once`, by the phase it is in. -/
inductive Concludes (worker : Worker σ) : Phase σ → Operation → Prop where
  | withdraw : Concludes worker (.cancelSeen runId)
      (.acknowledgeCancellation runId worker.workerId none)
  | acknowledge : Concludes worker (.reported runId report true)
      (.acknowledgeCancellation runId worker.workerId (some report))
  | complete : Concludes worker (.reported runId report false)
      (.completeRun runId report worker.workerId)

/-- A worker's step: at most one operation on the store, and a phase that keeps covering. -/
structure WorkerStep (issues : Operation → Prop) (now : Time) (store : Store)
    (before : WorkerState σ) (after : WorkerState σ × Store) : Prop where
  covers : Covers store before.phase → Covers store after.1.phase
  store : after.2 = store ∨ ∃ operation, issues operation ∧ after.2 = perform store ⟨now, operation⟩

variable {environment : Environment} {worker : Worker σ} {store : Store} {now : Time}
  {state : WorkerState σ}

theorem poll_step : WorkerStep (· = .claimNextRun worker.workerId worker.leaseSeconds) now store state
    (poll worker now store state) := by
  obtain ⟨phase, provider⟩ := state
  cases phase with
  | idle processed =>
    simp only [poll]
    cases claims : claimNextRun now worker.workerId worker.leaseSeconds store with
    | mk claimed next =>
      have performed : next =
          perform store ⟨now, .claimNextRun worker.workerId worker.leaseSeconds⟩ := by
        simp only [perform, claims]
      cases claimed with
      | none => exact ⟨fun _ => trivial, .inr ⟨_, rfl, performed⟩⟩
      | some runId => exact ⟨fun _ => trivial, .inr ⟨_, rfl, performed⟩⟩
  | executing | reported | claimed | cancelSeen | admitted | raised => exact ⟨id, .inl rfl⟩

theorem beat_step :
    WorkerStep (fun operation => ∃ runId, operation = .heartbeat runId worker.workerId worker.leaseSeconds)
      now store state (beat worker now store state) := by
  obtain ⟨phase, provider⟩ := state
  cases phase with
  | executing active =>
    simp only [beat]
    split
    · exact ⟨id, .inl rfl⟩
    · exact ⟨id, .inr ⟨_, ⟨_, rfl⟩, rfl⟩⟩
  | idle | reported | claimed | cancelSeen | admitted | raised => exact ⟨id, .inl rfl⟩

/-- The last transaction of `run_once`. -/
theorem conclude_step {outcome : Except PyError (Bool × Store)} {operation : Operation}
    (concludes : Concludes worker state.phase operation)
    (settled : settle store outcome = perform store ⟨now, operation⟩) :
    WorkerStep (Concludes worker state.phase) now store state (conclude store state outcome) := by
  cases outcome with
  | error error => exact ⟨fun _ => trivial, .inl rfl⟩
  | ok result => exact ⟨fun _ => trivial, .inr ⟨operation, concludes, settled⟩⟩

theorem advance_step : WorkerStep (Concludes worker state.phase) now store state
    (advance environment worker now store state) := by
  obtain ⟨phase, provider⟩ := state
  cases phase with
  | idle | raised => exact ⟨id, .inl rfl⟩
  | claimed runId =>
    refine ⟨fun _ => ?_, .inl rfl⟩
    simp only [advance]
    split <;> trivial
  | cancelSeen runId => exact conclude_step .withdraw rfl
  | admitted runId =>
    simp only [advance, getRun]
    cases found : store.runs.find? runId with
    | none => exact ⟨fun _ => trivial, .inl rfl⟩
    | some row => exact ⟨fun _ => beginExecution_covers ⟨row, found, rfl⟩ _, .inl rfl⟩
  | executing active => exact ⟨continueExecution_covers, .inl rfl⟩
  | reported runId report token =>
    cases token with
    | false => exact conclude_step .complete rfl
    | true => exact conclude_step .acknowledge rfl

end Steps

section Fleets

variable {environment : Environment} {workers : Index → Worker σ} {fleet : Fleet Index σ}

/-- What every worker reports is about the run it names. -/
def Fleet.Covered (fleet : Fleet Index σ) : Prop :=
  ∀ index, Covers fleet.store (fleet.workers index).phase

omit [DecidableEq Index] in
theorem Fleet.AllIdle.covered (idle : fleet.AllIdle) : fleet.Covered := by
  intro index
  obtain ⟨processed, phase⟩ := idle index
  rw [phase]
  trivial

/-- A worker's step keeps what operations keep of each worker and its own phase keeps of it. -/
theorem Fleet.moved_each {fact : Index → Store → Phase σ → Prop} {issues : Operation → Prop}
    {index : Index} {now : Time} {after : WorkerState σ × Store}
    (kept : ∀ other store phase event, fact other store phase → fact other (perform store event) phase)
    (each : ∀ index, fact index fleet.store (fleet.workers index).phase)
    (step : WorkerStep issues now fleet.store (fleet.workers index) after)
    (own : fact index fleet.store after.1.phase) (other : Index) :
    fact other (fleet.moved index after).store ((fleet.moved index after).workers other).phase := by
  have lasting {worker : Index} {phase : Phase σ} (holds : fact worker fleet.store phase) :
      fact worker after.2 phase := by
    rcases step.store with same | ⟨operation, _, performed⟩
    · exact same ▸ holds
    · exact performed ▸ kept _ _ _ _ holds
  by_cases moved : other = index
  · subst moved
    simpa using lasting own
  · simpa [Fleet.moved_apart, moved] using lasting (each other)

/-- The same for a fact of every worker alike. -/
theorem Fleet.moved_every {fact : Store → Phase σ → Prop} {issues : Operation → Prop} {index : Index}
    {now : Time} {after : WorkerState σ × Store}
    (kept : ∀ store phase event, fact store phase → fact (perform store event) phase)
    (every : ∀ index, fact fleet.store (fleet.workers index).phase)
    (step : WorkerStep issues now fleet.store (fleet.workers index) after)
    (own : fact fleet.store after.1.phase) (other : Index) :
    fact (fleet.moved index after).store ((fleet.moved index after).workers other).phase :=
  Fleet.moved_each (fun _ => kept) every step own other

theorem Fleet.Covered.moved {issues : Operation → Prop} {index : Index} {now : Time}
    {after : WorkerState σ × Store} (covered : fleet.Covered)
    (step : WorkerStep issues now fleet.store (fleet.workers index) after) :
    (fleet.moved index after).Covered :=
  fleet.moved_every (fun _ _ event covers => covers.perform event) covered step
    (step.covers (covered index))

theorem fleetStep_covered (event : FleetEvent Index) (covered : fleet.Covered) :
    (fleetStep environment workers fleet event).Covered := by
  cases event with
  | call call => exact fun index => (covered index).perform call.event
  | poll index now => exact covered.moved poll_step
  | advance index now => exact covered.moved advance_step
  | beat index now => exact covered.moved beat_step

end Fleets

end RegressionDetection.Workers
