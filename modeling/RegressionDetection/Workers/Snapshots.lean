import RegressionDetection.Policy.CaseSets
import RegressionDetection.Specification.Validation
import RegressionDetection.Workers.Completion
import RegressionDetection.Workers.Fleet

/-! A submitted specification on its way through the database. The snapshot column reads
back as the document that was dumped into it, so the workers execute that document and
report the hashes that are stored with it. -/

namespace RegressionDetection.Workers

open Foundation Specification Providers Policy Execution Persistence

/-- The `snapshot` column: `specification.model_dump(mode="json")`. -/
def snapshotColumn (row : RunRow) : Json := row.snapshot.val.modelDump false

/-- The run of a report and the row of a run name the specification by its hashes. -/
structure Hashes (runtime : Runtime) (specification : EvaluationSpecification)
    (configurationHash datasetHash : HexDigest) : Prop where
  configuration : configurationHash = (specificationHashes runtime specification.val).configuration
  dataset : datasetHash = (specificationHashes runtime specification.val).dataset

/-- The run is stored with the snapshot and the hashes of the specification. -/
def StoredAs (runtime : Runtime) (store : Store) (runId : String)
    (specification : EvaluationSpecification) : Prop :=
  ∃ row, store.runs.find? runId = some row ∧ row.snapshot = specification ∧
    Hashes runtime specification row.configurationHash row.datasetHash

/-- The submission of a specification as the API makes it. -/
def submitting (runtime : Runtime) (now : Time) (projectId : String)
    (specification : EvaluationSpecification) (idempotencyKey requestHash : Option String)
    (runId : String) : ExternalCall where
  event :=
    { now
      operation := .createRun projectId specification
        (specificationHashes runtime specification.val).configuration
        (specificationHashes runtime specification.val).dataset idempotencyKey requestHash runId }
  external := rfl

/-- `run_once` from the admission of a run to the start of its execution, the snapshot
read from its column. -/
def readSnapshot (lax : LaxMode) (environment : Environment) (store : Store) (state : WorkerState σ)
    (runId : String) : WorkerState σ :=
  match getRun runId store with
  | none => { state with phase := .idle true }
  | some (row, _) =>
    match modelValidate lax (snapshotColumn row) with
    | .error error => { state with phase := .raised error }
    | .ok specification =>
      { state with phase := beginExecution environment state runId specification }

/-- An execution of the run is one of the specification; a report carries the row's hashes. -/
def Follows (specification : EvaluationSpecification) (row : RunRow) : Phase σ → Prop
  | .executing active => active.runId = row.id → active.specification = specification
  | .reported runId report _ =>
    runId = row.id → report.run.configurationHash = row.configurationHash ∧
      report.run.datasetHash = row.datasetHash
  | .idle _ | .claimed _ | .cancelSeen _ | .admitted _ | .raised _ => True

/-- A report carries the hashes of the snapshot of its run. -/
def Identified (environment : Environment) (store : Store) : Phase σ → Prop
  | .reported runId report _ =>
    ∃ specification, Snapshot store runId specification ∧
      Hashes environment.runtime specification report.run.configurationHash report.run.datasetHash
  | .executing _ | .idle _ | .claimed _ | .cancelSeen _ | .admitted _ | .raised _ => True

section Storage

variable {runtime : Runtime} {store : Store} {runId : String}
  {specification : EvaluationSpecification}

/-- No operation takes the run away or changes what identifies it. -/
theorem StoredAs.perform (stored : StoredAs runtime store runId specification) (event : Event) :
    StoredAs runtime (perform store event) runId specification := by
  obtain ⟨row, found, same, hashes⟩ := stored
  have viewed : store.view runId = some ⟨row, store.casesOf runId⟩ :=
    Store.view_eq_some.mpr ⟨found, rfl⟩
  obtain ⟨next, after, moved⟩ := perform_view viewed event
  obtain ⟨snapshot, configuration, dataset⟩ := moved.identity
  exact ⟨next.run, (Store.view_eq_some.mp after).1, snapshot.trans same,
    configuration.trans hashes.configuration, dataset.trans hashes.dataset⟩

/-- A submission that stores a row under its fresh id stores the specification there. -/
theorem submitting_stores {now : Time} {projectId : String}
    {idempotencyKey requestHash : Option String} (absent : store.runs.find? runId = none)
    (stored : (perform store (submitting runtime now projectId specification idempotencyKey
      requestHash runId).event).runs.find? runId ≠ none) :
    StoredAs runtime (perform store (submitting runtime now projectId specification idempotencyKey
      requestHash runId).event) runId specification := by
  let hashes := specificationHashes runtime specification.val
  let row := createdRow now runId projectId specification hashes.configuration hashes.dataset
  -- The inserted row is found whatever happens to the idempotency records.
  have placed {next : Store} (inserted : insertRun store row = .ok next) {later : Store}
      (kept : later.runs = next.runs) : StoredAs runtime later runId specification := by
    obtain ⟨_, runs, added, rfl⟩ := insertRun_eq_ok.mp inserted
    refine ⟨row, ?_, rfl, rfl, rfl⟩
    rw [kept]
    exact (Table.find?_insert added runId).trans (if_pos rfl)
  simp only [submitting, perform] at stored ⊢
  cases outcome : createRun now runId store store projectId specification hashes.configuration
      hashes.dataset idempotencyKey requestHash with
  | error error =>
    rw [outcome] at stored
    exact absurd absent stored
  | ok result =>
    rw [outcome] at stored
    obtain ⟨inserted, added, rest⟩ := bind_eq_ok.mp outcome
    cases idempotencyKey with
    | none =>
      cases rest
      exact placed added rfl
    | some key =>
      simp only at rest
      split at rest
      · cases rest
        exact placed added rfl
      · obtain ⟨existing, _, made⟩ := bind_eq_ok.mp rest
        cases made
        exact absurd absent stored

end Storage

section Steps

variable {environment : Environment} {worker : Worker σ} {store : Store} {now : Time}
  {state : WorkerState σ}

theorem Identified.perform {phase : Phase σ} (identified : Identified environment store phase)
    (event : Event) : Identified environment (perform store event) phase := by
  cases phase with
  | reported runId report token =>
    obtain ⟨specification, held, hashes⟩ := identified
    exact ⟨specification, held.perform event, hashes⟩
  | executing | idle | claimed | cancelSeen | admitted | raised => trivial

theorem poll_identified (identified : Identified environment store state.phase) :
    Identified environment store (poll worker now store state).1.phase := by
  obtain ⟨phase, provider⟩ := state
  cases phase with
  | idle processed =>
    simp only [poll]
    split <;> trivial
  | executing | reported | claimed | cancelSeen | admitted | raised => exact identified

theorem beat_identified (identified : Identified environment store state.phase) :
    Identified environment store (beat worker now store state).1.phase := by
  obtain ⟨phase, provider⟩ := state
  cases phase with
  | executing active =>
    simp only [beat]
    split <;> trivial
  | idle | reported | claimed | cancelSeen | admitted | raised => exact identified

/-- The report of an execution names the specification that was executed. -/
theorem finishExecution_identified {active : ActiveRun σ}
    (held : Snapshot store active.runId active.specification) (stopped : Bool) :
    Identified environment store (finishExecution environment active stopped).phase := by
  simp only [finishExecution]
  split
  · trivial
  · rename_i report made
    obtain ⟨same, _⟩ := reportOf_ok made
    exact ⟨active.specification, held, by rw [same]; rfl, by rw [same]; rfl⟩

theorem continueExecution_identified {active : ActiveRun σ}
    (held : Snapshot store active.runId active.specification) :
    Identified environment store (continueExecution environment worker active).phase := by
  unfold continueExecution
  split
  · exact finishExecution_identified held false
  · split
    · exact finishExecution_identified held true
    · split <;> trivial

theorem conclude_identified {outcome : Except PyError (Bool × Store)} :
    Identified environment store (conclude store state outcome).1.phase := by
  cases outcome <;> trivial

theorem advance_identified (covers : Covers store state.phase)
    (identified : Identified environment store state.phase) :
    Identified environment store (advance environment worker now store state).1.phase := by
  obtain ⟨phase, provider⟩ := state
  cases phase with
  | idle | raised => exact identified
  | claimed runId =>
    simp only [advance]
    split <;> trivial
  | cancelSeen runId => exact conclude_identified
  | admitted runId =>
    simp only [advance, beginExecution]
    split
    · trivial
    · split <;> trivial
  | executing active => exact continueExecution_identified covers.1
  | reported runId report token =>
    cases token <;> exact conclude_identified

/-- The model's step begins with the specification that the column reads back as. -/
theorem advance_reads (lax : LaxMode) {runId : String} (admitted : state.phase = .admitted runId) :
    advance environment worker now store state =
      (readSnapshot lax environment store state runId, store) := by
  unfold advance readSnapshot
  rw [admitted]
  cases found : getRun runId store with
  | none => simp only [found]
  | some pair => simp only [found, snapshotColumn, modelValidate_modelDump]

end Steps

section Fleets

variable {Index : Type} [DecidableEq Index] {environment : Environment}
  {workers : Index → Worker σ} {fleet : Fleet Index σ}

/-- Every execution and every report of the fleet is of the snapshot of its run. -/
def Fleet.Identified (environment : Environment) (fleet : Fleet Index σ) : Prop :=
  ∀ index, Covers fleet.store (fleet.workers index).phase ∧
    Workers.Identified environment fleet.store (fleet.workers index).phase

theorem fleetStep_identified (event : FleetEvent Index) (identified : fleet.Identified environment) :
    (fleetStep environment workers fleet event).Identified environment := by
  have kept (store : Store) (phase : Phase σ) (event : Event)
      (both : Covers store phase ∧ Workers.Identified environment store phase) :
      Covers (perform store event) phase ∧
        Workers.Identified environment (perform store event) phase :=
    ⟨both.1.perform event, both.2.perform event⟩
  cases event with
  | call call => exact fun index => kept _ _ call.event (identified index)
  | poll index now =>
    have own := identified index
    exact fleet.moved_every kept identified poll_step ⟨poll_step.covers own.1, poll_identified own.2⟩
  | advance index now =>
    have own := identified index
    exact fleet.moved_every kept identified advance_step
      ⟨advance_step.covers own.1, advance_identified own.1 own.2⟩
  | beat index now =>
    have own := identified index
    exact fleet.moved_every kept identified beat_step ⟨beat_step.covers own.1, beat_identified own.2⟩

omit [DecidableEq Index] in
theorem Fleet.AllIdle.identified (idle : fleet.AllIdle) : fleet.Identified environment := by
  intro index
  obtain ⟨processed, phase⟩ := idle index
  rw [phase]
  exact ⟨trivial, trivial⟩

theorem fleetStep_storedAs {runtime : Runtime} {runId : String}
    {specification : EvaluationSpecification} (event : FleetEvent Index)
    (stored : StoredAs runtime fleet.store runId specification) :
    StoredAs runtime (fleetStep environment workers fleet event).store runId specification := by
  have kept {after : Store} {issues : Operation → Prop} {now : Time}
      (moved : after = fleet.store ∨
        ∃ operation, issues operation ∧ after = perform fleet.store ⟨now, operation⟩) :
      StoredAs runtime after runId specification := by
    rcases moved with same | ⟨operation, _, performed⟩
    · exact same ▸ stored
    · exact performed ▸ stored.perform _
  cases event with
  | call call => exact stored.perform call.event
  | poll index now => exact kept poll_step.store
  | advance index now => exact kept advance_step.store
  | beat index now => exact kept beat_step.store

omit [DecidableEq Index] in
/-- What the fleet does under the id of a stored run is done with its specification. -/
theorem Fleet.Identified.follows {runId : String} {specification : EvaluationSpecification}
    {row : RunRow} (identified : fleet.Identified environment)
    (found : fleet.store.runs.find? runId = some row)
    (snapshot : row.snapshot = specification)
    (hashes : Hashes environment.runtime specification row.configurationHash row.datasetHash)
    (index : Index) : Follows specification row (fleet.workers index).phase := by
  have key := Table.key_of_find? found
  have own {other : EvaluationSpecification} (held : Snapshot fleet.store runId other) :
      other = specification := by
    obtain ⟨same, present, kept⟩ := held
    cases found.symm.trans present
    exact kept.symm.trans snapshot
  obtain ⟨covers, named⟩ := identified index
  cases phase : (fleet.workers index).phase with
  | executing active =>
    rw [phase] at covers
    intro same
    have held := covers.1
    rw [same, key] at held
    exact own held
  | reported reported report token =>
    rw [phase] at named
    obtain ⟨other, held, named⟩ := named
    intro same
    rw [same, key] at held
    rw [own held] at named
    exact ⟨named.configuration.trans hashes.configuration.symm,
      named.dataset.trans hashes.dataset.symm⟩
  | idle | claimed | cancelSeen | admitted | raised => trivial

/-- A fleet of one idle worker over a database with one project. -/
def idleFleet : Fleet Unit Unit :=
  { store := projectStore, workers := fun _ => idleWorker }

end Fleets

end RegressionDetection.Workers
