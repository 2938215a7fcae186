import RegressionDetection.Execution.Resumption
import RegressionDetection.Persistence.ApprovedBaselines
import RegressionDetection.Workers.Completion
import RegressionDetection.Workers.Fleet

/-! The fleet refined to the repository and to `execute_local_evaluation`. Whatever the workers
and the API do, the database goes through a history of repository operations, and every report
in it is what one worker's evaluation of the run's own snapshot ends in. -/

namespace RegressionDetection.Workers

open Foundation Specification Providers Policy Execution Persistence

/-- The worker's evaluation of the specification ends in the report, its token found set from
the boundary on or never. -/
def EvaluatesTo (environment : Environment) (worker : Worker σ)
    (specification : EvaluationSpecification) (boundary : Option Nat)
    (report : LocalEvaluationReport) : Prop :=
  ∃ start later, executeLocalEvaluation environment worker.retrying specification (setFrom boundary)
    start = .ok (report, later)

/-- An execution in its loop has gone through the cases before its boundary, uncancelled. -/
structure Midway (environment : Environment) (worker : Worker σ) (active : ActiveRun σ) : Prop where
  passed : preflightCheck environment.runtime active.specification.val = .ok ()
  executed : ∃ start done, active.specification.val.cases = done ++ active.remaining ∧
    active.ordinal = done.length ∧
    executeCases environment worker.retrying active.specification neverCancelled 0 done
      (initialLoop start) = .ok (active.loop, false)

/-- The worker is in an evaluation of the stored snapshot, or reports the end of one, which
nothing cancelled when the token is unset. -/
def Evaluates (environment : Environment) (worker : Worker σ) (store : Store) : Phase σ → Prop
  | .executing active =>
    Snapshot store active.runId active.specification ∧ Midway environment worker active
  | .reported runId report token =>
    ∃ specification boundary, Snapshot store runId specification ∧
      EvaluatesTo environment worker specification boundary report ∧ (token = false → boundary = none)
  | .idle _ | .claimed _ | .cancelSeen _ | .admitted _ | .raised _ => True

/-- An operation as the fleet issues it. The reports it stores come from evaluations of the run's
snapshot, those of a completion from uncancelled ones, and a claim is one of the workers'. -/
structure FleetOperation (environment : Environment) (workers : Index → Worker σ) (store : Store)
    (event : Event) : Prop where
  completes : ∀ runId report workerId run, event.operation = .completeRun runId report workerId →
    store.runs.find? runId = some run →
    ∃ index, EvaluatesTo environment (workers index) run.snapshot none report
  acknowledges : ∀ runId report workerId run,
    event.operation = .acknowledgeCancellation runId workerId (some report) →
    store.runs.find? runId = some run →
    ∃ index boundary, EvaluatesTo environment (workers index) run.snapshot boundary report
  claims : ∀ workerId leaseSeconds, event.operation = .claimNextRun workerId leaseSeconds →
    ∃ index, workerId = (workers index).workerId

/-- What is stored of a run: no result, or one worker's evaluation of its snapshot, uncancelled
when the run is completed. -/
def Evidenced (environment : Environment) (workers : Index → Worker σ) (view : RunView) : Prop :=
  view.cases = [] ∧ view.run.state ≠ .completed ∨ view.run.state.terminal = true ∧
    ∃ index boundary report, EvaluatesTo environment (workers index) view.run.snapshot boundary report ∧
      StoredFrom report view ∧ (view.run.state = .completed → boundary = none)

section Steps

variable {environment : Environment} {worker : Worker σ} {store : Store} {now : Time}
  {state : WorkerState σ}

theorem EvaluatesTo.reportFor {specification : EvaluationSpecification} {boundary : Option Nat}
    {report : LocalEvaluationReport}
    (evaluates : EvaluatesTo environment worker specification boundary report) :
    ReportFor specification report := by
  obtain ⟨start, later, returned⟩ := evaluates
  exact ⟨σ, environment, worker.retrying, setFrom boundary, start, later, returned⟩

theorem Evaluates.perform {phase : Phase σ} (evaluates : Evaluates environment worker store phase)
    (event : Event) : Evaluates environment worker (perform store event) phase := by
  cases phase with
  | executing active => exact ⟨evaluates.1.perform event, evaluates.2⟩
  | reported runId report token =>
    obtain ⟨specification, boundary, held, rest⟩ := evaluates
    exact ⟨specification, boundary, held.perform event, rest⟩
  | idle | claimed | cancelSeen | admitted | raised => trivial

theorem poll_evaluates (evaluates : Evaluates environment worker store state.phase) :
    Evaluates environment worker store (poll worker now store state).1.phase := by
  obtain ⟨phase, provider⟩ := state
  cases phase with
  | idle processed =>
    simp only [poll]
    split <;> trivial
  | executing | reported | claimed | cancelSeen | admitted | raised => exact evaluates

theorem beat_evaluates (evaluates : Evaluates environment worker store state.phase) :
    Evaluates environment worker store (beat worker now store state).1.phase := by
  obtain ⟨phase, provider⟩ := state
  cases phase with
  | executing active =>
    simp only [beat]
    split
    · exact evaluates
    · exact ⟨evaluates.1, evaluates.2.passed, evaluates.2.executed⟩
  | idle | reported | claimed | cancelSeen | admitted | raised => exact evaluates

/-- Before the first case, nothing has been executed yet. -/
theorem beginExecution_evaluates {runId : String} {specification : EvaluationSpecification}
    (held : Snapshot store runId specification) (state : WorkerState σ) :
    Evaluates environment worker store (beginExecution environment state runId specification) := by
  unfold beginExecution
  cases passed : preflightCheck environment.runtime specification.val with
  | error error => trivial
  | ok _ => exact ⟨held, passed, state.provider, [], rfl, rfl, rfl⟩

/-- The report made at a boundary is that of an evaluation which ends there. -/
theorem finishExecution_evaluates {active : ActiveRun σ}
    (evaluates : Evaluates environment worker store (.executing active)) :
    (active.remaining = [] →
      Evaluates environment worker store (finishExecution environment active false).phase) ∧
    (active.remaining ≠ [] → active.token = true →
      Evaluates environment worker store (finishExecution environment active true).phase) := by
  obtain ⟨held, passed, start, done, split, place, executed⟩ := evaluates
  -- What is left is one loop over all cases, with the token as it was found at the boundary.
  have reports (boundary : Option Nat) (stopped : Bool)
      (looped : executeCases environment worker.retrying active.specification (setFrom boundary) 0
        active.specification.val.cases (initialLoop start) = .ok (active.loop, stopped))
      (unset : active.token = false → boundary = none) :
      Evaluates environment worker store (finishExecution environment active stopped).phase := by
    simp only [finishExecution]
    cases made : reportOf environment active.specification
        (runResult environment active.specification stopped active.loop.results) with
    | error error => trivial
    | ok report =>
      refine ⟨_, boundary, held, ⟨start, active.loop.provider, ?_⟩, unset⟩
      exact executeLocalEvaluation_eq_ok.mpr ⟨passed, _, stopped, looped, made, rfl⟩
  constructor
  · intro last
    refine reports none false ?_ fun _ => rfl
    rw [split, last, List.append_nil]
    exact executed
  · intro ahead set
    refine reports (some done.length) true ?_ fun unset => absurd (set.symm.trans unset) (by decide)
    rw [split]
    exact executeCases_stopped executed ahead

theorem continueExecution_evaluates {active : ActiveRun σ}
    (evaluates : Evaluates environment worker store (.executing active)) :
    Evaluates environment worker store (continueExecution environment worker active).phase := by
  unfold continueExecution
  split
  · rename_i last
    exact (finishExecution_evaluates evaluates).1 last
  · rename_i case rest remaining
    split
    · rename_i set
      exact (finishExecution_evaluates evaluates).2 (by simp [remaining]) set
    · split
      · trivial
      · rename_i loop step
        obtain ⟨held, passed, start, done, split, place, executed⟩ := evaluates
        rw [place] at step
        refine ⟨held, passed, start, done ++ [case], by simp [split, remaining], by simp [place], ?_⟩
        exact executeCases_snoc executed step

theorem conclude_evaluates {outcome : Except PyError (Bool × Store)} :
    Evaluates environment worker store (conclude store state outcome).1.phase := by
  cases outcome with
  | error error => trivial
  | ok result => trivial

theorem advance_evaluates (evaluates : Evaluates environment worker store state.phase) :
    Evaluates environment worker store (advance environment worker now store state).1.phase := by
  obtain ⟨phase, provider⟩ := state
  cases phase with
  | idle | raised => exact evaluates
  | claimed runId =>
    simp only [advance]
    split <;> trivial
  | cancelSeen runId => exact conclude_evaluates
  | admitted runId =>
    simp only [advance, getRun]
    cases found : store.runs.find? runId with
    | none => trivial
    | some row => exact beginExecution_evaluates ⟨row, found, rfl⟩ _
  | executing active => exact continueExecution_evaluates evaluates
  | reported runId report token =>
    cases token with
    | false => exact conclude_evaluates
    | true => exact conclude_evaluates

end Steps

section Histories

variable {Index σ : Type} {environment : Environment} {workers : Index → Worker σ} {store : Store}
  {runId : String} {event : Event} {view next : RunView}

theorem FleetOperation.reportFor
    (finalises : FleetOperation environment workers store event) :
    FinalisesWith ReportFor store event := by
  obtain ⟨now, operation⟩ := event
  intro runId report run stores found
  cases operation with
  | completeRun target made workerId =>
    cases stores
    obtain ⟨index, evaluates⟩ := finalises.completes _ _ _ run rfl found
    exact evaluates.reportFor
  | acknowledgeCancellation target workerId made =>
    cases made with
    | none => cases stores
    | some made =>
      cases stores
      obtain ⟨index, boundary, evaluates⟩ := finalises.acknowledges _ _ _ run rfl found
      exact evaluates.reportFor
  | createRun | claimNextRun | heartbeat | cancelRun | reconcileStrandedRuns | promoteRun => cases stores

/-- Operations that store no report are free, apart from claims. -/
theorem fleetOperation_of_none (none : event.operation.finalisation = none)
    (claims : ∀ workerId leaseSeconds, event.operation = .claimNextRun workerId leaseSeconds →
      ∃ index, workerId = (workers index).workerId) :
    FleetOperation environment workers store event := by
  refine ⟨?_, ?_, claims⟩ <;> rintro runId report workerId run issued <;> rw [issued] at none <;>
    cases none

theorem submitted_evidenced (submitted : Submitted view) : Evidenced environment workers view := by
  obtain ⟨_, _, _, _, _, _, rfl⟩ := submitted
  exact .inl ⟨rfl, by simp [createdRow]⟩

/-- The evidence of a run comes from an evaluation, whatever operation it goes through. -/
theorem transition_evidenced (moved : Transition store runId event view next)
    (found : store.view runId = some view)
    (finalises : FleetOperation environment workers store event)
    (evidenced : Evidenced environment workers view) : Evidenced environment workers next := by
  have row := (Store.view_eq_some.mp found).1
  rcases evidenced with ⟨unevaluated, uncompleted⟩ | ⟨ended, index, boundary, report, evaluates, stored, full⟩
  · cases moved with
    | kept => exact .inl ⟨unevaluated, uncompleted⟩
    | claimed branch candidate => exact .inl ⟨unevaluated, by simp [claimRow]⟩
    | extended held => exact .inl ⟨unevaluated, uncompleted⟩
    | cancelled =>
      refine .inl ⟨unevaluated, ?_⟩
      unfold cancelRow
      split <;> simp_all
    | reconciled reason cutoff stranded =>
      exact .inl ⟨unevaluated, by cases reason <;> simp [reconcileRow]⟩
    | acknowledged cancelling held built inserted =>
      rename_i rows table now workerId report
      cases report with
      | none =>
        cases built
        exact .inl ⟨by simpa using unevaluated, by simp [acknowledgeRow]⟩
      | some report =>
        obtain ⟨index, boundary, evaluates⟩ := finalises.acknowledges _ _ _ view.run rfl row
        right
        rw [unevaluated, List.nil_append]
        refine ⟨rfl, index, boundary, report, evaluates, ⟨?_, rfl, rfl, rfl⟩, ?_⟩
        · exact (congrArg (caseRows · report) (view_id found)).trans built
        · intro completed
          cases completed
    | completed held built inserted =>
      rename_i report rows table now workerId
      obtain ⟨index, evaluates⟩ := finalises.completes _ _ _ view.run rfl row
      right
      rw [unevaluated, List.nil_append]
      refine ⟨?_, index, none, report, evaluates, ⟨?_, rfl, rfl, rfl⟩, fun _ => rfl⟩
      · simp only [completeRow]
        split <;> rfl
      · exact (congrArg (caseRows · report) (view_id found)).trans built
  · have first := stored.holdsFirst evaluates.reportFor
    rw [moved.terminal found ended (first.not_completed found finalises.reportFor.prefixes)]
    exact .inr ⟨ended, index, boundary, report, evaluates, stored, full⟩

/-- A completed run has the result of its first case. -/
theorem Evidenced.evaluated (evidenced : Evidenced environment workers view) : Evaluated view := by
  intro completed
  rcases evidenced with ⟨_, uncompleted⟩ | ⟨_, _, _, report, evaluates, stored, _⟩
  · exact absurd completed uncompleted
  · exact stored.holdsFirst evaluates.reportFor

end Histories

section Fleets

variable {Index σ : Type} [DecidableEq Index] {environment : Environment}
  {workers : Index → Worker σ} {fleet : Fleet Index σ}

/-- Every worker is in an evaluation of a stored snapshot or reports the end of one. -/
def Fleet.Evaluating (environment : Environment) (workers : Index → Worker σ)
    (fleet : Fleet Index σ) : Prop :=
  ∀ index, Evaluates environment (workers index) fleet.store (fleet.workers index).phase

omit [DecidableEq Index] in
theorem Fleet.AllIdle.evaluating (idle : fleet.AllIdle) : fleet.Evaluating environment workers := by
  intro index
  obtain ⟨processed, phase⟩ := idle index
  rw [phase]
  trivial

theorem fleetStep_evaluating (event : FleetEvent Index)
    (evaluating : fleet.Evaluating environment workers) :
    (fleetStep environment workers fleet event).Evaluating environment workers := by
  have moved {issues : Operation → Prop} {index : Index} {now : Time} {after : WorkerState σ × Store}
      (step : WorkerStep issues now fleet.store (fleet.workers index) after)
      (own : Evaluates environment (workers index) fleet.store after.1.phase) :
      (fleet.moved index after).Evaluating environment workers :=
    fun other =>
      let fact := fun index => Evaluates environment (workers index)
      have kept (index : Index) (store : Store) (phase : Phase σ) (event : Event)
          (evaluates : fact index store phase) : fact index (perform store event) phase :=
        evaluates.perform event
      Fleet.moved_each kept evaluating step own other
  cases event with
  | call call => exact fun index => (evaluating index).perform call.event
  | poll index now => exact moved poll_step (poll_evaluates (evaluating index))
  | advance index now => exact moved advance_step (advance_evaluates (evaluating index))
  | beat index now => exact moved beat_step (beat_evaluates (evaluating index))

theorem fleet_evaluating (events : List (FleetEvent Index))
    (evaluating : fleet.Evaluating environment workers) :
    (run (fleetStep environment workers) fleet events).Evaluating environment workers :=
  run_invariant_free (fun current : Fleet Index σ => current.Evaluating environment workers)
    (fun _ event sound => fleetStep_evaluating event sound) events evaluating

omit [DecidableEq Index] in
/-- The operation that ends a `run_once` stores the evaluation that the worker made. -/
theorem concludes_fleetOperation {index : Index} {now : Time} {operation : Operation}
    (evaluating : fleet.Evaluating environment workers)
    (concludes : Concludes (workers index) (fleet.workers index).phase operation) :
    FleetOperation environment workers fleet.store ⟨now, operation⟩ := by
  have evaluates := evaluating index
  generalize (fleet.workers index).phase = phase at concludes evaluates
  refine ⟨?_, ?_, fun workerId leaseSeconds claims => by cases concludes <;> cases claims⟩
  · rintro runId report workerId run completes found
    cases concludes with
    | withdraw | acknowledge => cases completes
    | complete =>
      cases completes
      obtain ⟨specification, boundary, ⟨row, stored, rfl⟩, made, uncancelled⟩ := evaluates
      cases stored.symm.trans found
      exact ⟨index, uncancelled rfl ▸ made⟩
  · rintro runId report workerId run acknowledges found
    cases concludes with
    | withdraw | complete => cases acknowledges
    | acknowledge =>
      cases acknowledges
      obtain ⟨specification, boundary, ⟨row, stored, rfl⟩, made, _⟩ := evaluates
      cases stored.symm.trans found
      exact ⟨index, boundary, made⟩

/-- A step of the fleet is at most one operation on the database. -/
theorem fleetStep_store (event : FleetEvent Index)
    (evaluating : fleet.Evaluating environment workers) :
    (fleetStep environment workers fleet event).store = fleet.store ∨
      ∃ issued, FleetOperation environment workers fleet.store issued ∧
        (fleetStep environment workers fleet event).store = perform fleet.store issued := by
  have stepped {issues : Operation → Prop} {index : Index} {now : Time}
      {after : WorkerState σ × Store}
      (step : WorkerStep issues now fleet.store (fleet.workers index) after)
      (finalises : ∀ operation, issues operation →
        FleetOperation environment workers fleet.store ⟨now, operation⟩) :
      after.2 = fleet.store ∨ ∃ issued, FleetOperation environment workers fleet.store issued ∧
        after.2 = perform fleet.store issued :=
    step.store.imp_right fun ⟨operation, issued, same⟩ => ⟨_, finalises operation issued, same⟩
  cases event with
  | call call =>
    obtain ⟨⟨now, operation⟩, outside⟩ := call
    refine .inr ⟨⟨now, operation⟩, fleetOperation_of_none ?_ ?_, rfl⟩
    · cases operation with
      | createRun | cancelRun | reconcileStrandedRuns | promoteRun => rfl
      | claimNextRun | heartbeat | acknowledgeCancellation | completeRun => cases outside
    · rintro workerId leaseSeconds rfl
      cases outside
  | poll index now =>
    refine stepped poll_step fun operation claims => fleetOperation_of_none (by rw [claims]; rfl) ?_
    rintro workerId leaseSeconds issued
    cases claims.symm.trans issued
    exact ⟨index, rfl⟩
  | advance index now => exact stepped advance_step fun _ => concludes_fleetOperation evaluating
  | beat index now =>
    refine stepped beat_step fun operation ⟨target, beats⟩ =>
      fleetOperation_of_none (by rw [beats]; rfl) ?_
    rintro workerId leaseSeconds issued
    cases beats.symm.trans issued

/-- A run of the fleet takes the database through a history of repository operations whose
reports are evaluations. -/
theorem fleet_history (events : List (FleetEvent Index))
    (evaluating : fleet.Evaluating environment workers) :
    ∃ history, Guarded perform (FleetOperation environment workers) fleet.store history ∧
      (run (fleetStep environment workers) fleet events).store = run perform fleet.store history := by
  induction events generalizing fleet with
  | nil => exact ⟨[], trivial, rfl⟩
  | cons event rest ih =>
    obtain ⟨history, finalises, same⟩ := ih (fleetStep_evaluating event evaluating)
    rcases fleetStep_store event evaluating with kept | ⟨issued, own, performed⟩
    · exact ⟨history, kept ▸ finalises, kept ▸ same⟩
    · exact ⟨issued :: history, ⟨own, performed ▸ finalises⟩, by rw [run_cons, run_cons, same, performed]⟩

/-- A run whose evidence is stored stays as it is, whatever the fleet does from then on. -/
theorem fleet_stays (events : List (FleetEvent Index))
    (evaluating : fleet.Evaluating environment workers) {runId : String} {view : RunView}
    {report : LocalEvaluationReport} (found : fleet.store.view runId = some view)
    (ended : view.run.state.terminal = true) (own : ReportFor view.run.snapshot report)
    (stored : StoredFrom report view) :
    (run (fleetStep environment workers) fleet events).store.view runId = some view := by
  obtain ⟨history, issued, same⟩ := fleet_history events evaluating
  rw [same]
  refine run_invariant (fun store => store.view runId = some view) ?_ issued found
  intro store event operation present
  obtain ⟨next, after, moved⟩ := perform_view present event
  rw [after, moved.terminal present ended
    ((stored.holdsFirst own).not_completed present operation.reportFor.prefixes)]

/-- What a fleet leaves in a database that started without runs. -/
theorem fleet_keeps (environment : Environment) (workers : Index → Worker σ)
    (events : List (FleetEvent Index)) (empty : NoRuns fleet.store) (idle : fleet.AllIdle) :
    EveryRun (Evidenced environment workers) (run (fleetStep environment workers) fleet events).store ∧
      Approved (run (fleetStep environment workers) fleet events).store := by
  have evaluating : fleet.Evaluating environment workers := idle.evaluating
  obtain ⟨history, finalises, same⟩ := fleet_history events evaluating
  rw [same]
  refine run_invariant
    (fun store => EveryRun (Evidenced environment workers) store ∧ Approved store) ?_ finalises ?_
  · rintro store event own ⟨evidenced, approved⟩
    refine ⟨?_, perform_approved own.reportFor.prefixes ?_ approved⟩
    · exact perform_everyRun (fun _ submitted => submitted_evidenced submitted)
        (fun _ _ _ found before moved => transition_evidenced moved found own before) evidenced
    · exact ⟨fun runId view found => (evidenced.stored runId view found).evaluated, evidenced.absent⟩
  · refine ⟨empty.everyRun, fun row member => ?_⟩
    rw [empty.baselines] at member
    cases member

/-- A run that has not ended has no results. -/
theorem fleet_unevaluated (environment : Environment) (workers : Index → Worker σ)
    (events : List (FleetEvent Index)) (empty : NoRuns fleet.store) (idle : fleet.AllIdle)
    {runId : String} {row : RunRow}
    (found : (run (fleetStep environment workers) fleet events).store.runs.find? runId = some row)
    (unended : row.state.terminal = false) :
    (run (fleetStep environment workers) fleet events).store.casesOf runId = [] := by
  let reached := run (fleetStep environment workers) fleet events
  have viewed : reached.store.view runId = some ⟨row, reached.store.casesOf runId⟩ :=
    Store.view_eq_some.mpr ⟨found, rfl⟩
  rcases (fleet_keeps environment workers events empty idle).1.stored _ _ viewed with
    ⟨none, _⟩ | ⟨ended, _⟩
  · exact none
  · cases ended.symm.trans unended

end Fleets

section Examples

/-- One idle worker on a database with one project. -/
def soloFleet : Fleet Unit Unit := { store := projectStore, workers := fun _ => idleWorker }

def soloStep : Fleet Unit Unit → FleetEvent Unit → Fleet Unit Unit :=
  fleetStep Environment.plain fun _ => sampleWorker

def submissionCall (specification : EvaluationSpecification) : ExternalCall :=
  ⟨submission specification, rfl⟩

/-- A run is submitted, claimed, evaluated, completed and promoted. -/
def promotedRun : List (FleetEvent Unit) :=
  [.call (submissionCall (literalSuite ["first"] {} greeting_valid)), .poll () 1, .advance () 2,
    .advance () 3, .beat () 4, .advance () 5, .advance () 6, .advance () 7,
    .call ⟨⟨8, .promoteRun "project" "main" "run" none⟩, rfl⟩]

end Examples

/-- Whatever the workers and the API do to a database that started without runs, the evidence
of a run is one report, what some worker's evaluation of the run's snapshot ended in; a
completed run has evidence, from an evaluation that nothing cancelled. -/
theorem fleet_evidence {Index σ : Type} [DecidableEq Index] (environment : Environment)
    (workers : Index → Worker σ) {fleet : Fleet Index σ} (events : List (FleetEvent Index))
    (empty : NoRuns fleet.store) (idle : fleet.AllIdle) {runId : String} {view : RunView}
    (found : (run (fleetStep environment workers) fleet events).store.view runId = some view) :
    (view.run.state = .completed → view.cases ≠ []) ∧
    (view.cases ≠ [] → view.run.state.terminal = true ∧ SingleReport view ∧
      ∃ index boundary report,
        EvaluatesTo environment (workers index) view.run.snapshot boundary report ∧
        StoredFrom report view ∧ (view.run.state = .completed → boundary = none)) := by
  have evidenced := (fleet_keeps environment workers events empty idle).1.stored runId view found
  constructor
  · rintro completed unevaluated
    obtain ⟨row, stored, _⟩ := evidenced.evaluated completed
    rw [unevaluated] at stored
    cases stored
  · intro evaluated
    rcases evidenced with ⟨unevaluated, _⟩ | ⟨ended, index, boundary, report, evaluates, stored, full⟩
    · exact absurd unevaluated evaluated
    · exact ⟨ended, stored.singleReport evaluates.reportFor, index, boundary, report, evaluates, stored,
        full⟩

theorem promotedRun_evidence : ∃ view,
    (run soloStep soloFleet promotedRun).store.view "run" = some view ∧
    ∃ report, EvaluatesTo Environment.plain sampleWorker view.run.snapshot none report ∧
      StoredFrom report view := by
  have stored : ((run soloStep soloFleet promotedRun).store.view "run").any (fun view =>
      decide (view.cases ≠ []) && decide (view.run.state = .completed)) = true := by decide +kernel
  obtain ⟨view, found, both⟩ := (Option.any_eq_true _ _).mp stored
  simp only [Bool.and_eq_true, decide_eq_true_eq] at both
  obtain ⟨_, _, _, boundary, report, evaluates, own, full⟩ :=
    (fleet_evidence Environment.plain (fun _ => sampleWorker) promotedRun ⟨rfl, rfl, rfl⟩
      (fun _ => ⟨false, rfl⟩) found).2 both.1
  obtain rfl := full both.2
  exact ⟨view, found, report, evaluates, own⟩

end RegressionDetection.Workers
