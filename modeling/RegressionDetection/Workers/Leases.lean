import RegressionDetection.Persistence.Queue
import RegressionDetection.Persistence.Reconciliation
import RegressionDetection.Workers.Refinement

/-! A claimed run among other workers and the API. As long as nobody cancels it or looks for
expired leases after its own ran out, its worker is not interfered with and finishes it. -/

namespace RegressionDetection.Workers

open Foundation Specification Providers Policy Execution Persistence

/-- An operation of somebody else that spares a running run with this row: it does not come
from its holder, does not cancel it, and does not find its lease over. -/
def SparesRow (holder runId : String) (row : RunRow) (event : Event) : Prop :=
  match event.operation with
  | .claimNextRun .. => row.leaseBefore event.now = false
  | .heartbeat _ workerId _ | .completeRun _ _ workerId => workerId ≠ holder
  | .cancelRun target => target ≠ runId
  | .reconcileStrandedRuns leaseGraceSeconds _ =>
    row.leaseBefore (event.now - seconds leaseGraceSeconds) = false
  | .createRun .. | .acknowledgeCancellation .. | .promoteRun .. => True

/-- The event does not cancel the run with this row, and does not look for expired leases after
that of the run is over. -/
def sparesRow (runId : String) (row : RunRow) : FleetEvent Index → Bool
  | .poll _ now => !row.leaseBefore now
  | .advance .. | .beat .. => true
  | .call call =>
    match call.event.operation with
    | .cancelRun target => decide (target ≠ runId)
    | .reconcileStrandedRuns leaseGraceSeconds _ =>
      !row.leaseBefore (call.event.now - seconds leaseGraceSeconds)
    | _ => true

def Spares (runId : String) (fleet : Fleet Index σ) (event : FleetEvent Index) : Prop :=
  ∀ row ∈ fleet.store.runs.find? runId, sparesRow runId row event = true
deriving Decidable

/-- A step of `run_once` by the worker. -/
def FleetEvent.advances [DecidableEq Index] (index : Index) : FleetEvent Index → Bool
  | .advance other _ => decide (other = index)
  | .call _ | .poll .. | .beat .. => false

section Operations

variable {store : Store} {runId holder : String} {row : RunRow}

theorem reconcileStrandedRuns_spares (found : store.runs.find? runId = some row)
    (running : row.state = .running) {now : Time} {leaseGraceSeconds : Int}
    (early : row.leaseBefore (now - seconds leaseGraceSeconds) = false)
    (maxCreatedAgeSeconds : Option Int) :
    (reconcileStrandedRuns now store leaseGraceSeconds maxCreatedAgeSeconds).2.runs.find? runId =
      some row := by
  have own : row.id = runId := Table.key_of_find? found
  have missed : anyHits (reconcileUpdates now leaseGraceSeconds maxCreatedAgeSeconds) row = false := by
    by_contra hit
    obtain ⟨other, stranded⟩ : ∃ other,
        Reconciles now leaseGraceSeconds maxCreatedAgeSeconds row other :=
      ⟨_, reconciles_iff.mpr ⟨by simpa using hit, rfl⟩⟩
    cases stranded with
    | failed _ held expired =>
      rw [leaseBefore_iff.mpr ⟨_, held, expired⟩] at early
      cases early
    | cancelled cancelling => cases running.symm.trans cancelling
    | stale created => cases running.symm.trans created
  rw [reconcileStrandedRuns_eq, ← own]
  exact (sweep_find? reconcileUpdates_settling (Table.mem_of_find? found)).trans
    (congrArg some (swept_of_miss missed))

/-- What spares a running run leaves it and its results as they are. -/
theorem perform_spares {view : RunView} (found : store.view runId = some view)
    (running : view.run.state = .running) (held : view.run.workerId = some holder) {event : Event}
    (spares : SparesRow holder runId view.run event) :
    (perform store event).view runId = some view := by
  obtain ⟨next, after, moved⟩ := perform_view found event
  suffices same : next = view from same ▸ after
  have row := (Store.view_eq_some.mp found).1
  cases moved with
  | kept => rfl
  | claimed branch candidate =>
    rename_i now workerId leaseSeconds
    have state := candidate_state candidate
    cases branch with
    | created => cases running.symm.trans state
    | expired =>
      have expired : view.run.leaseBefore now = true := by
        simp only [ClaimBranch.candidate, Bool.and_eq_true] at candidate
        exact candidate.2
      cases (show view.run.leaseBefore now = false from spares).symm.trans expired
  | extended matching =>
    simp only [heartbeatMatches, Bool.and_eq_true, decide_eq_true_eq] at matching
    exact absurd (Option.some.inj (matching.1.symm.trans held)) spares
  | cancelled => exact absurd rfl spares
  | acknowledged cancelling => cases running.symm.trans cancelling
  | completed matching =>
    rename_i workerId _ _
    have owner : view.run.workerId = some workerId := by simpa [RunRow.heldBy] using matching
    exact absurd (Option.some.inj (owner.symm.trans held)) spares
  | reconciled reason cutoff stranded =>
    rename_i now leaseGraceSeconds maxCreatedAgeSeconds
    have kept := reconcileStrandedRuns_spares row running spares maxCreatedAgeSeconds
    have same := (Store.view_eq_some.mp after).1.symm.trans kept
    have state := congrArg RunRow.state (Option.some.inj same)
    cases reason <;> cases state.trans running

/-- A claim hands out runs that have not ended. -/
theorem claimed_open {now : Time} {workerId : String} {leaseSeconds : Int}
    (claims : (claimNextRun now workerId leaseSeconds store).1 = some runId)
    (found : store.runs.find? runId = some row) : row.state.terminal = false := by
  rcases claim_cases ⟨workerId, leaseSeconds, now⟩ store with
    ⟨branch, run, _, member, _, claimed⟩ | ⟨_, _, missed⟩
  · obtain ⟨listed, candidate⟩ := List.mem_filter.mp member
    obtain rfl : run.id = runId := by
      simpa [ClaimCall.claim, claims] using (congrArg Prod.fst claimed).symm
    cases found.symm.trans (Table.find?_of_mem listed)
    rw [candidate_state candidate]
    cases branch <;> rfl
  · have none := congrArg Prod.fst missed
    rw [ClaimCall.claim, claims] at none
    cases none

variable {worker : Worker σ} {specification : EvaluationSpecification}

/-- A held run stays held. -/
theorem Held.spared (held : Held worker runId specification store) {event : Event}
    (spares : ∀ row, store.runs.find? runId = some row → SparesRow worker.workerId runId row event) :
    Held worker runId specification (perform store event) := by
  obtain ⟨row, found, running, owner, snapshot⟩ := held.row
  have viewed : store.view runId = some ⟨row, store.casesOf runId⟩ :=
    Store.view_eq_some.mpr ⟨found, rfl⟩
  obtain ⟨after, cases⟩ :=
    Store.view_eq_some.mp (perform_spares viewed running owner (spares row found))
  exact ⟨cases.symm.trans held.unevaluated, row, after, running, owner, snapshot⟩

/-- The run is completed, and its evidence is the report of the worker's evaluation. -/
def Delivered (environment : Environment) (worker : Worker σ) (runId : String)
    (specification : EvaluationSpecification) (start : σ) (store : Store) : Prop :=
  ∃ report later view, executeLocalEvaluation environment worker.retrying specification
      neverCancelled start = .ok (report, later) ∧
    store.view runId = some view ∧ view.run.snapshot = specification ∧
    view.run.state = .completed ∧ StoredFrom report view

variable {environment : Environment} {start : σ}

/-- A completion that ends a held run stores the report of its evaluation. -/
theorem delivered_of_complete {now : Time} {report : LocalEvaluationReport} {later : σ}
    (held : Held worker runId specification store)
    (returned : executeLocalEvaluation environment worker.retrying specification neverCancelled start =
      .ok (report, later))
    (ended : ∃ row, (perform store ⟨now, .completeRun runId report worker.workerId⟩).runs.find? runId =
      some row ∧ row.state.terminal = true) :
    Delivered environment worker runId specification start
      (perform store ⟨now, .completeRun runId report worker.workerId⟩) := by
  obtain ⟨row, found, running, _, snapshot⟩ := held.row
  have viewed : store.view runId = some ⟨row, store.casesOf runId⟩ :=
    Store.view_eq_some.mpr ⟨found, rfl⟩
  obtain ⟨next, after, moved⟩ :=
    perform_view viewed ⟨now, .completeRun runId report worker.workerId⟩
  refine ⟨report, later, next, returned, after, moved.snapshot.trans snapshot, ?_⟩
  cases moved with
  | kept =>
    obtain ⟨other, stored, terminal⟩ := ended
    cases (Store.view_eq_some.mp after).1.symm.trans stored
    rw [running] at terminal
    cases terminal
  | completed matching built inserted =>
    obtain ⟨⟨run, provider⟩, executed, made⟩ := bind_eq_ok.mp returned
    obtain ⟨other, reported, same⟩ := bind_eq_ok.mp made
    cases same
    obtain ⟨kept, _⟩ := reportOf_ok reported
    have full : report.run.status = .completed := kept ▸ (executeLocal_ok executed).1
    refine ⟨by simp [completeRow, full], ?_, rfl, rfl, rfl⟩
    rw [held.unevaluated, List.nil_append]
    exact (congrArg (caseRows · report) (view_id viewed)).trans built

end Operations

section Fleets

variable {Index σ : Type} [DecidableEq Index] {environment : Environment}
  {workers : Index → Worker σ} {fleet : Fleet Index σ} {index : Index} {runId : String}
  {specification : EvaluationSpecification} {start : σ}

/-- The worker is on its way through the evaluation of the run that it holds. -/
structure Pursues (environment : Environment) (workers : Index → Worker σ) (index : Index)
    (runId : String) (specification : EvaluationSpecification) (start : σ) (fleet : Fleet Index σ) :
    Prop where
  course : OnCourse environment (workers index) runId specification start
    { store := fleet.store, worker := fleet.workers index }
  busy : ∀ processed, (fleet.workers index).phase ≠ .idle processed

omit [DecidableEq Index] in
theorem Pursues.held (pursues : Pursues environment workers index runId specification start fleet) :
    Held (workers index) runId specification fleet.store := by
  obtain ⟨course, busy⟩ := pursues
  unfold OnCourse at course
  split at course
  · exact course.2.2
  · exact course.2.2
  · exact course.2.2.2.2
  · exact course.2.2.2
  · rename_i processed phase
    exact absurd phase (busy processed)
  · exact course.2
  · exact course.elim

omit [DecidableEq Index] in
/-- What somebody else does is of no concern as long as the run stays held. -/
theorem Pursues.frame {next : Fleet Index σ}
    (pursues : Pursues environment workers index runId specification start fleet)
    (held : Held (workers index) runId specification next.store)
    (same : next.workers index = fleet.workers index) :
    Pursues environment workers index runId specification start next := by
  obtain ⟨course, busy⟩ := pursues
  refine ⟨?_, same ▸ busy⟩
  rw [same]
  unfold OnCourse at course ⊢
  split at course <;> simp_all

/-- A step of another worker that spares the run. -/
theorem Pursues.apart (pursues : Pursues environment workers index runId specification start fleet)
    {other : Index} (apart : other ≠ index) {issues : Operation → Prop} {now : Time}
    {after : WorkerState σ × Store}
    (step : WorkerStep issues now fleet.store (fleet.workers other) after)
    (spares : ∀ operation, issues operation → ∀ row, fleet.store.runs.find? runId = some row →
      SparesRow (workers index).workerId runId row ⟨now, operation⟩) :
    Pursues environment workers index runId specification start (fleet.moved other after) ∧
      (fleet.moved other after).workers index = fleet.workers index := by
  have same : (fleet.moved other after).workers index = fleet.workers index :=
    fleet.moved_apart apart.symm after
  refine ⟨pursues.frame ?_ same, same⟩
  change Held (workers index) runId specification after.2
  rcases step.store with kept | ⟨operation, issued, performed⟩
  · rw [kept]
    exact pursues.held
  · rw [performed]
    exact pursues.held.spared (spares operation issued)

/-- The worker's own step leads on, or stores the report. -/
theorem Pursues.advance
    (pursues : Pursues environment workers index runId specification start fleet) (now : Time) :
    Delivered environment (workers index) runId specification start
        (advance environment (workers index) now fleet.store (fleet.workers index)).2 ∨
      Pursues environment workers index runId specification start
        (fleetStep environment workers fleet (.advance index now)) ∧
      ((fleetStep environment workers fleet (.advance index now)).workers index).phase.stepsLeft
        specification.val.cases.length ≤
          (fleet.workers index).phase.stepsLeft specification.val.cases.length - 1 := by
  obtain ⟨onward, fewer⟩ := advance_onCourse now pursues.course
  have own : (fleetStep environment workers fleet (.advance index now)).workers index =
      (Workers.advance environment (workers index) now fleet.store (fleet.workers index)).1 := by
    simp [fleetStep]
  by_cases idle : ∃ processed, (Workers.advance environment (workers index) now fleet.store
      (fleet.workers index)).1.phase = .idle processed
  · left
    obtain ⟨processed, phase⟩ := idle
    have finished : Finished runId (tick environment (workers index)
        { store := fleet.store, worker := fleet.workers index } (.advance now)) := by
      simp only [OnCourse, tick, phase] at onward
      exact onward.2.2
    obtain ⟨_, row, found, terminal⟩ := finished
    have held := pursues.held
    have stepped : WorkerStep (Concludes (workers index) (fleet.workers index).phase) now fleet.store
        (fleet.workers index)
        (Workers.advance environment (workers index) now fleet.store (fleet.workers index)) :=
      advance_step
    rcases stepped.store with same | ⟨operation, ends, performed⟩
    · obtain ⟨before, present, running, _⟩ := held.row
      rw [← same] at present
      cases present.symm.trans found
      rw [running] at terminal
      cases terminal
    · have course := pursues.course
      unfold OnCourse at course
      simp only at course
      generalize state : (fleet.workers index).phase = current at ends course
      cases ends with
      | withdraw => exact course.elim
      | acknowledge => cases course.2.1
      | complete =>
        obtain ⟨rfl, _, returned, _⟩ := course
        rw [performed]
        exact delivered_of_complete held returned ⟨row, performed ▸ found, terminal⟩
  · right
    refine ⟨⟨?_, fun processed phase => idle ⟨processed, own ▸ phase⟩⟩, own ▸ fewer⟩
    rw [own]
    exact onward

/-- A worker that is busy does not poll. -/
theorem Pursues.poll
    (pursues : Pursues environment workers index runId specification start fleet) (now : Time) :
    fleetStep environment workers fleet (.poll index now) = fleet := by
  have idles : Workers.poll (workers index) now fleet.store (fleet.workers index) =
      (fleet.workers index, fleet.store) := by
    unfold Workers.poll
    split
    · rename_i processed phase
      exact absurd phase (pursues.busy processed)
    · rfl
  simp [fleetStep, Fleet.moved, idles]

/-- The worker's own heartbeat finds the run its own. -/
theorem Pursues.beat
    (pursues : Pursues environment workers index runId specification start fleet) (now : Time) :
    Pursues environment workers index runId specification start
        (fleetStep environment workers fleet (.beat index now)) ∧
      ((fleetStep environment workers fleet (.beat index now)).workers index).phase.stepsLeft
        specification.val.cases.length =
          (fleet.workers index).phase.stepsLeft specification.val.cases.length := by
  obtain ⟨onward, steps⟩ := beat_onCourse now pursues.course
  have moved : (fleetStep environment workers fleet (.beat index now)).workers index =
      (Workers.beat (workers index) now fleet.store (fleet.workers index)).1 := by
    simp [fleetStep]
  refine ⟨⟨?_, fun processed phase => ?_⟩, ?_⟩
  · rw [moved]
    exact onward
  · rw [moved] at phase
    unfold Workers.beat at phase
    split at phase
    · split at phase
      · rename_i executing _
        cases executing.symm.trans phase
      · cases phase
    · exact pursues.busy processed phase
  · rw [moved]
    exact steps _

/-- A step of the fleet that spares the run leaves its worker on its way, or is the completion
of the run; the worker's own steps bring the end nearer. -/
theorem fleetStep_pursues (distinct : Function.Injective fun index => (workers index).workerId)
    {event : FleetEvent Index} (spares : Spares runId fleet event)
    (pursues : Pursues environment workers index runId specification start fleet) :
    Delivered environment (workers index) runId specification start
        (fleetStep environment workers fleet event).store ∨
      Pursues environment workers index runId specification start
        (fleetStep environment workers fleet event) ∧
      ((fleetStep environment workers fleet event).workers index).phase.stepsLeft
        specification.val.cases.length ≤
          (fleet.workers index).phase.stepsLeft specification.val.cases.length -
            (if event.advances index then 1 else 0) := by
  cases event with
  | call call =>
    refine .inr ⟨pursues.frame (pursues.held.spared fun row found => ?_) rfl, le_rfl⟩
    obtain ⟨⟨now, operation⟩, outside⟩ := call
    have spared := spares row found
    cases operation with
    | createRun | promoteRun => trivial
    | cancelRun | reconcileStrandedRuns => simpa [sparesRow, SparesRow] using spared
    | claimNextRun | heartbeat | acknowledgeCancellation | completeRun => cases outside
  | poll other now =>
    right
    by_cases own : other = index
    · subst own
      rw [pursues.poll now]
      exact ⟨pursues, le_rfl⟩
    · obtain ⟨onward, same⟩ := pursues.apart own poll_step fun operation claims row found => by
        subst claims
        simpa [sparesRow, SparesRow] using spares row found
      exact ⟨onward, by rw [fleetStep, same]; exact le_rfl⟩
  | advance other now =>
    by_cases own : other = index
    · subst own
      rcases pursues.advance now with delivered | onward
      · exact .inl delivered
      · exact .inr (by simpa [FleetEvent.advances] using onward)
    · right
      have spared (operation : Operation)
          (ends : Concludes (workers other) (fleet.workers other).phase operation) (row : RunRow) :
          SparesRow (workers index).workerId runId row ⟨now, operation⟩ := by
        generalize (fleet.workers other).phase = phase at ends
        cases ends with
        | withdraw | acknowledge => trivial
        | complete => exact distinct.ne own
      have stepped : WorkerStep (Concludes (workers other) (fleet.workers other).phase) now fleet.store
          (fleet.workers other)
          (Workers.advance environment (workers other) now fleet.store (fleet.workers other)) :=
        advance_step
      obtain ⟨onward, same⟩ := pursues.apart own stepped fun operation ends row _ =>
        spared operation ends row
      refine ⟨onward, ?_⟩
      rw [fleetStep, same]
      simp [FleetEvent.advances, own]
  | beat other now =>
    right
    by_cases own : other = index
    · subst own
      obtain ⟨onward, same⟩ := pursues.beat now
      exact ⟨onward, le_of_eq same⟩
    · obtain ⟨onward, same⟩ := pursues.apart own beat_step fun operation beats row found => by
        obtain ⟨target, rfl⟩ := beats
        exact distinct.ne own
      exact ⟨onward, by rw [fleetStep, same]; exact le_rfl⟩

/-- A poll that claims a run without results sets its worker on its way. -/
theorem pursues_of_poll {now : Time} {processed : Bool} {row : RunRow}
    (waiting : (fleet.workers index).phase = .idle processed)
    (claims : (claimNextRun now (workers index).workerId (workers index).leaseSeconds
      fleet.store).1 = some runId)
    (found : fleet.store.runs.find? runId = some row) (unevaluated : fleet.store.casesOf runId = []) :
    (fleetStep environment workers fleet (.poll index now)).workers index =
        { fleet.workers index with phase := .claimed runId } ∧
      Pursues environment workers index runId row.snapshot (fleet.workers index).provider
        (fleetStep environment workers fleet (.poll index now)) := by
  obtain ⟨next, claimed⟩ : ∃ next, claimNextRun now (workers index).workerId
      (workers index).leaseSeconds fleet.store = (some runId, next) := ⟨_, Prod.ext claims rfl⟩
  have polled : Workers.poll (workers index) now fleet.store (fleet.workers index) =
      ({ fleet.workers index with phase := .claimed runId }, next) := by
    rw [Workers.poll, waiting, claimed]
  have own : (fleetStep environment workers fleet (.poll index now)).workers index =
      { fleet.workers index with phase := .claimed runId } := by
    simp [fleetStep, polled]
  refine ⟨own, ?_, fun idles phase => ?_⟩
  · rw [own]
    refine ⟨rfl, rfl, ?_⟩
    have held := claimNextRun_held claimed found unevaluated
    simpa [fleetStep, polled] using held
  · rw [own] at phase
    cases phase

omit [DecidableEq Index] in
/-- A worker without steps left that has not delivered has raised. -/
theorem Pursues.raised (pursues : Pursues environment workers index runId specification start fleet)
    (ended : (fleet.workers index).phase.stepsLeft specification.val.cases.length = 0) :
    ∃ error, (fleet.workers index).phase = .raised error ∧
      executeLocalEvaluation environment (workers index).retrying specification neverCancelled start =
        .error error := by
  obtain ⟨course, busy⟩ := pursues
  cases phase : (fleet.workers index).phase with
  | raised error =>
    simp only [OnCourse, phase] at course
    exact ⟨error, rfl, course.1⟩
  | idle processed => exact absurd phase (busy processed)
  | cancelSeen seen =>
    simp only [OnCourse, phase] at course
  | claimed | admitted | executing | reported =>
    rw [phase] at ended
    cases ended

/-- What is delivered stays. -/
theorem Delivered.stays (delivered : Delivered environment (workers index) runId specification start
      fleet.store) (events : List (FleetEvent Index))
    (evaluating : fleet.Evaluating environment workers) :
    Delivered environment (workers index) runId specification start
      (run (fleetStep environment workers) fleet events).store := by
  obtain ⟨report, later, view, returned, found, rfl, completed, stored⟩ := delivered
  have own : ReportFor view.run.snapshot report :=
    ⟨σ, environment, (workers index).retrying, neverCancelled, start, later, returned⟩
  have ended : view.run.state.terminal = true := by rw [completed]; rfl
  exact ⟨report, later, view, returned, fleet_stays events evaluating found ended own stored, rfl,
    completed, stored⟩

theorem run_pursues (distinct : Function.Injective fun index => (workers index).workerId)
    (events : List (FleetEvent Index)) (evaluating : fleet.Evaluating environment workers)
    (spared : Guarded (fleetStep environment workers) (Spares runId) fleet events)
    (pursues : Pursues environment workers index runId specification start fleet) :
    Delivered environment (workers index) runId specification start
        (run (fleetStep environment workers) fleet events).store ∨
      Pursues environment workers index runId specification start
        (run (fleetStep environment workers) fleet events) ∧
      ((run (fleetStep environment workers) fleet events).workers index).phase.stepsLeft
        specification.val.cases.length ≤
          (fleet.workers index).phase.stepsLeft specification.val.cases.length -
            events.countP (FleetEvent.advances index) := by
  induction events generalizing fleet with
  | nil => exact .inr ⟨pursues, le_rfl⟩
  | cons event rest ih =>
    have later := fleetStep_evaluating event evaluating
    rcases fleetStep_pursues distinct spared.1 pursues with delivered | ⟨onward, fewer⟩
    · exact .inl (delivered.stays rest later)
    · rcases ih later spared.2 onward with delivered | ⟨arrived, left⟩
      · exact .inl delivered
      · refine .inr ⟨arrived, left.trans ?_⟩
        rw [List.countP_cons]
        omega

end Fleets

section Examples

/-- Two workers with ids of their own. -/
def twoWorkers (second : Bool) : Worker Unit :=
  { sampleWorker with workerId := if second then "second" else "first" }

def twoWorkersFleet : Fleet Bool Unit := { store := projectStore, workers := fun _ => idleWorker }

def twoWorkersStep : Fleet Bool Unit → FleetEvent Bool → Fleet Bool Unit :=
  fleetStep Environment.plain twoWorkers

def submittedOnce : List (FleetEvent Bool) :=
  [.call (submissionCall (literalSuite ["first"] {} greeting_valid))]

/-- The other worker polls and the API reconciles, both before the first lease is over, which
the holder's heartbeat extends in between. -/
def contested : List (FleetEvent Bool) :=
  [.poll true (seconds 30), .advance false (seconds 31), .advance false (seconds 32),
    .beat false (seconds 50), .poll true (seconds 100),
    .call ⟨⟨seconds 105, .reconcileStrandedRuns 30 none⟩, rfl⟩, .advance false (seconds 106),
    .advance false (seconds 107), .poll true (seconds 108), .advance false (seconds 109)]

end Examples

end RegressionDetection.Workers
