import RegressionDetection.Persistence.Ownership
import RegressionDetection.Workers.Refinement

/-! Runs in progress and the workers that have them in hand. No run is running or cancelling in
the name of a worker that has turned to something else, unless an exception ended it. -/

namespace RegressionDetection.Workers

open Foundation Specification Providers Policy Execution Persistence

/-- The run that a `run_once` has claimed and not concluded. -/
def Phase.inHand : Phase σ → Option String
  | .claimed runId | .cancelSeen runId | .admitted runId | .reported runId _ _ => some runId
  | .executing active => some active.runId
  | .idle _ | .raised _ => none

/-- The answer of the last `run_once`, when none is in progress. -/
def Phase.answer : Phase σ → Option Bool
  | .idle processed => some processed
  | .claimed _ | .cancelSeen _ | .admitted _ | .executing _ | .reported .. | .raised _ => none

/-- The run that the worker is going to acknowledge as cancelled. -/
def Phase.withdrawn : Phase σ → Option String
  | .cancelSeen runId | .reported runId _ true => some runId
  | .executing active => if active.token then some active.runId else none
  | .idle _ | .claimed _ | .admitted _ | .reported _ _ false | .raised _ => none

def isActive : RunState → Bool
  | .running | .cancelling => true
  | .created | .completed | .failed | .cancelled => false

/-- The run is in one of these states in the name of the worker. -/
def InName (states : RunState → Bool) (holder : String) (store : Store) (runId : String) : Prop :=
  ∃ row, store.runs.find? runId = some row ∧ row.workerId = some holder ∧ states row.state = true

def isRunning : RunState → Bool := fun state => decide (state = .running)

/-- What the worker knows of the runs in its name: the active one is in its hand, and one whose
cancellation it has seen is not running. -/
structure Custody (holder : String) (store : Store) (phase : Phase σ) : Prop where
  active : (∃ error, phase = .raised error) ∨
    ∀ runId, InName isActive holder store runId → phase.inHand = some runId
  withdrawn : ∀ runId, phase.withdrawn = some runId → ¬ InName isRunning holder store runId

section Operations

variable {store : Store} {runId holder : String} {event : Event}

/-- A run is in the name of a worker only by a claim of that worker's. -/
theorem inName_of_perform {states : RunState → Bool}
    (known : states = isActive ∨ states = isRunning)
    (absent : store.runs.find? runId = none → store.casesOf runId = [])
    (unclaimed : ∀ leaseSeconds, event.operation ≠ .claimNextRun holder leaseSeconds)
    (after : InName states holder (perform store event) runId) : InName states holder store runId := by
  have begun : ∀ state, states state = true → state = .running ∨ state = .cancelling := by
    rcases known with rfl | rfl <;> intro state <;> cases state <;> simp [isActive, isRunning]
  obtain ⟨row, stored, owner, state⟩ := after
  cases found : store.runs.find? runId with
  | none =>
    rcases perform_absent ⟨found, absent found⟩ event with missing | ⟨view, fresh, submitted⟩
    · cases missing.row.symm.trans stored
    · obtain ⟨_, _, _, _, _, _, rfl⟩ := submitted
      cases (Store.view_eq_some.mp fresh).1.symm.trans stored
      rcases begun _ state with same | same <;> cases same
  | some before =>
    have viewed : store.view runId = some ⟨before, store.casesOf runId⟩ :=
      Store.view_eq_some.mpr ⟨found, rfl⟩
    obtain ⟨next, later, moved⟩ := perform_view viewed event
    cases (Store.view_eq_some.mp later).1.symm.trans stored
    refine ⟨before, found, ?_⟩
    cases moved with
    | kept => exact ⟨owner, state⟩
    | claimed branch candidate =>
      cases owner
      exact absurd rfl (unclaimed _)
    | extended held => exact ⟨owner, state⟩
    | cancelled =>
      refine ⟨(cancelRow_workerId _ _).symm.trans owner, ?_⟩
      rcases known with rfl | rfl <;>
        cases was : before.state <;> simp_all [cancelRow, isActive, isRunning]
    | acknowledged cancelling held built inserted => rcases begun _ state with same | same <;> cases same
    | completed held built inserted =>
      rcases begun _ state with same | same <;> simp only [completeRow] at same <;> split at same <;>
        cases same
    | reconciled reason cutoff stranded =>
      rcases begun _ state with same | same <;> cases reason <;> cases same

variable {now : Time} {next : Store} {report : LocalEvaluationReport} {answer : Bool}

/-- A run in the name of nobody once its row is as the flush leaves it. -/
theorem not_inName_of_flush {row changed : RunRow} {cases : Table CaseRow.key}
    (found : store.runs.find? runId = some row) (same : RunRow.flush row changed row = changed)
    (ended : isActive changed.state = false) :
    ¬ InName isActive holder { store.flushRun row changed with cases } runId := by
  rintro ⟨other, stored, _, active⟩
  have own : row.id = runId := Table.key_of_find? found
  have flushed : (store.flushRun row changed).runs.find? runId = some changed := by
    simp [Store.flushRun, Table.find?_update, found, same]
  cases flushed.symm.trans stored
  rw [ended] at active
  cases active

/-- After its completion, accepted or not, a run is not active in the name of the worker. -/
theorem completeRun_releases
    (returned : completeRun now runId store report (some holder) = .ok (answer, next)) :
    ¬ InName isActive holder next runId := by
  obtain ⟨row, loaded, rest⟩ := bind_eq_ok.mp returned
  have found := findRun_eq_ok.mp loaded
  split at rest
  · obtain ⟨rows, _, later⟩ := bind_eq_ok.mp rest
    obtain ⟨cases, _, made⟩ := bind_eq_ok.mp later
    cases made
    refine not_inName_of_flush found (RunRow.flush_completeRow now report row) ?_
    simp only [completeRow]
    split <;> rfl
  · rename_i unheld
    cases rest
    rintro ⟨other, stored, owner, _⟩
    cases found.symm.trans stored
    simp [RunRow.heldBy, owner] at unheld

/-- The same for an acknowledged cancellation of a run that is not running. -/
theorem acknowledgeCancellation_releases {partialReport : Option LocalEvaluationReport}
    (stopped : ¬ InName isRunning holder store runId)
    (returned : acknowledgeCancellation now runId holder store partialReport = .ok (answer, next)) :
    ¬ InName isActive holder next runId := by
  obtain ⟨row, loaded, rest⟩ := bind_eq_ok.mp returned
  have found := findRun_eq_ok.mp loaded
  split at rest
  · obtain ⟨rows, _, later⟩ := bind_eq_ok.mp rest
    obtain ⟨cases, _, made⟩ := bind_eq_ok.mp later
    cases made
    exact not_inName_of_flush found (RunRow.flush_acknowledgeRow now partialReport row) rfl
  · rename_i unready
    cases rest
    rintro ⟨other, stored, owner, active⟩
    cases found.symm.trans stored
    cases state : row.state with
    | running => exact stopped ⟨row, found, owner, by simp [isRunning, state]⟩
    | cancelling => exact unready ⟨state, by simp [RunRow.heldBy, owner]⟩
    | created | completed | failed | cancelled =>
      rw [state] at active
      cases active

/-- A refused heartbeat means that the run is not running in the worker's name. -/
theorem heartbeat_refused {leaseSeconds : Int}
    (refused : (heartbeat now runId holder leaseSeconds store).1 = false) :
    ¬ InName isRunning holder store runId := by
  rintro ⟨row, found, owner, running⟩
  have hit : heartbeatMatches holder row = true := by
    simpa [heartbeatMatches, owner, isRunning] using running
  have counted := Table.matching_key store.runs runId (heartbeatMatches holder)
  rw [found, Option.any_some, if_pos hit] at counted
  unfold heartbeat heartbeatHits at refused
  rw [counted] at refused
  cases refused

/-- A claim puts no run but the claimed one in the name of its worker. -/
theorem inName_of_claim {leaseSeconds : Int}
    (after : InName isActive holder (claimNextRun now holder leaseSeconds store).2 runId) :
    InName isActive holder store runId ∨
      (claimNextRun now holder leaseSeconds store).1 = some runId := by
  by_cases claims : (claimNextRun now holder leaseSeconds store).1 = some runId
  · exact .inr claims
  · obtain ⟨row, stored, rest⟩ := after
    exact .inl ⟨row, (claimNextRun_others claims).symm.trans stored, rest⟩

end Operations

section Steps

variable {environment : Environment} {worker : Worker σ} {store : Store} {now : Time}
  {state : WorkerState σ}

/-- What others do takes nothing out of the worker's hand and puts nothing in its name. -/
theorem Custody.perform {holder : String} {phase : Phase σ} {event : Event}
    (custody : Custody holder store phase)
    (absent : ∀ runId, store.runs.find? runId = none → store.casesOf runId = [])
    (unclaimed : ∀ leaseSeconds, event.operation ≠ .claimNextRun holder leaseSeconds) :
    Custody holder (perform store event) phase where
  active := custody.active.imp_right fun inHand runId after =>
    inHand runId (inName_of_perform (.inl rfl) (absent runId) unclaimed after)
  withdrawn runId seen after :=
    custody.withdrawn runId seen (inName_of_perform (.inr rfl) (absent runId) unclaimed after)

theorem Custody.idle {holder : String} {processed : Bool}
    (custody : Custody holder store (.idle processed : Phase σ)) (runId : String) :
    ¬ InName isActive holder store runId := by
  intro active
  rcases custody.active with ⟨error, raised⟩ | inHand
  · cases raised
  · cases inHand runId active

/-- A phase with the same run in hand, of which no cancellation is newly known. -/
theorem Custody.onward {holder : String} {phase next : Phase σ} (custody : Custody holder store phase)
    (running : ∀ error, phase ≠ .raised error) (same : next.inHand = phase.inHand)
    (known : ∀ runId, next.withdrawn = some runId →
      phase.withdrawn = some runId ∨ ¬ InName isRunning holder store runId) :
    Custody holder store next where
  active := by
    rcases custody.active with ⟨error, raised⟩ | inHand
    · exact absurd raised (running error)
    · exact .inr fun runId active => same.trans (inHand runId active)
  withdrawn runId seen := (known runId seen).elim (custody.withdrawn runId) id

theorem custody_raised {holder : String} (error : PyError) :
    Custody holder store (.raised error : Phase σ) :=
  ⟨.inl ⟨error, rfl⟩, fun _ seen => by cases seen⟩

theorem poll_custody (custody : Custody worker.workerId store state.phase) :
    Custody worker.workerId (poll worker now store state).2 (poll worker now store state).1.phase := by
  obtain ⟨phase, provider⟩ := state
  cases phase with
  | idle processed =>
    have others (runId : String)
        (after : InName isActive worker.workerId
          (claimNextRun now worker.workerId worker.leaseSeconds store).2 runId) :
        (claimNextRun now worker.workerId worker.leaseSeconds store).1 = some runId :=
      (inName_of_claim after).resolve_left (custody.idle runId)
    simp only [poll]
    cases claims : claimNextRun now worker.workerId worker.leaseSeconds store with
    | mk claimed next =>
      rw [claims] at others
      cases claimed with
      | none => exact ⟨.inr fun runId after => others runId after, fun _ seen => by cases seen⟩
      | some runId => exact ⟨.inr fun runId after => others runId after, fun _ seen => by cases seen⟩
  | executing | reported | claimed | cancelSeen | admitted | raised => exact custody

theorem beat_custody (custody : Custody worker.workerId store state.phase)
    (absent : ∀ runId, store.runs.find? runId = none → store.casesOf runId = []) :
    Custody worker.workerId (beat worker now store state).2 (beat worker now store state).1.phase := by
  obtain ⟨phase, provider⟩ := state
  cases phase with
  | executing active =>
    simp only [beat]
    split
    · exact custody
    · let event : Event := ⟨now, .heartbeat active.runId worker.workerId worker.leaseSeconds⟩
      have unclaimed : ∀ leaseSeconds,
          event.operation ≠ .claimNextRun worker.workerId leaseSeconds := fun _ same => by cases same
      have later : Custody worker.workerId (Persistence.perform store event) (.executing active) :=
        custody.perform absent unclaimed
      refine later.onward (fun _ same => by cases same) rfl fun runId seen => .inr fun after => ?_
      simp only [Phase.withdrawn] at seen
      split at seen
      · rename_i refused
        cases seen
        exact heartbeat_refused (by simpa using refused)
          (inName_of_perform (.inr rfl) (absent _) unclaimed after)
      · cases seen
  | idle | reported | claimed | cancelSeen | admitted | raised => exact custody

/-- The end of a `run_once` leaves nothing in the worker's name. -/
theorem conclude_custody {outcome : Except PyError (Bool × Store)} {runId : String}
    (operation : Operation) (custody : Custody worker.workerId store state.phase)
    (inHand : state.phase.inHand = some runId) (running : ∀ error, state.phase ≠ .raised error)
    (absent : ∀ runId, store.runs.find? runId = none → store.casesOf runId = [])
    (settled : settle store outcome = perform store ⟨now, operation⟩)
    (unclaimed : ∀ leaseSeconds, operation ≠ .claimNextRun worker.workerId leaseSeconds)
    (releases : ∀ answer next, outcome = .ok (answer, next) →
      ¬ InName isActive worker.workerId next runId) :
    Custody worker.workerId (conclude store state outcome).2 (conclude store state outcome).1.phase := by
  cases outcome with
  | error error => exact custody_raised error
  | ok result =>
    have same : result.2 = perform store ⟨now, operation⟩ := settled
    refine ⟨.inr fun other after => ?_, fun _ seen => by cases seen⟩
    have before := inName_of_perform (.inl rfl) (absent other) unclaimed
      (same ▸ (after : InName isActive worker.workerId result.2 other))
    rcases custody.active with ⟨error, raised⟩ | hand
    · exact absurd raised (running error)
    · cases inHand.symm.trans (hand other before)
      exact absurd after (releases result.1 result.2 rfl)

theorem continueExecution_custody {active : ActiveRun σ}
    (custody : Custody worker.workerId store (.executing active)) :
    Custody worker.workerId store (continueExecution environment worker active).phase := by
  have finished (stopped : Bool) :
      Custody worker.workerId store (finishExecution environment active stopped).phase := by
    simp only [finishExecution]
    split
    · exact custody_raised _
    · refine custody.onward (fun _ same => by cases same) rfl fun runId seen => .inl ?_
      simp only [Phase.withdrawn] at seen ⊢
      cases token : active.token <;> simp_all
  unfold continueExecution
  split
  · exact finished false
  · split
    · exact finished true
    · split
      · exact custody_raised _
      · exact custody.onward (fun _ same => by cases same) rfl fun runId seen => .inl seen

theorem advance_custody (custody : Custody worker.workerId store state.phase)
    (absent : ∀ runId, store.runs.find? runId = none → store.casesOf runId = []) :
    Custody worker.workerId (advance environment worker now store state).2
      (advance environment worker now store state).1.phase := by
  obtain ⟨phase, provider⟩ := state
  cases phase with
  | idle | raised => exact custody
  | claimed runId =>
    simp only [advance]
    split
    · rename_i cancelled
      refine custody.onward (fun _ same => by cases same) rfl fun other seen => .inr ?_
      cases seen
      rintro ⟨row, found, _, running⟩
      simp_all [isCancelled, getRun, isRunning]
    · exact custody.onward (fun _ same => by cases same) rfl fun other seen => by cases seen
  | cancelSeen runId =>
    exact conclude_custody (.acknowledgeCancellation runId worker.workerId none) custody rfl
      (fun _ same => by cases same) absent rfl (fun _ same => by cases same)
      fun _ _ returned => acknowledgeCancellation_releases (custody.withdrawn runId rfl) returned
  | admitted runId =>
    simp only [advance, getRun]
    cases found : store.runs.find? runId with
    | none =>
      refine ⟨.inr fun other active => ?_, fun _ seen => by cases seen⟩
      rcases custody.active with ⟨error, raised⟩ | inHand
      · cases raised
      · cases inHand other active
        obtain ⟨row, stored, _⟩ := active
        cases found.symm.trans stored
    | some row =>
      simp only [Option.map_some, beginExecution]
      split
      · exact custody_raised _
      · exact custody.onward (fun _ same => by cases same) rfl fun other seen => by cases seen
  | executing active => exact continueExecution_custody custody
  | reported runId report token =>
    cases token with
    | false =>
      exact conclude_custody (.completeRun runId report worker.workerId) custody rfl
        (fun _ same => by cases same) absent rfl (fun _ same => by cases same)
        fun _ _ returned => completeRun_releases returned
    | true =>
      exact conclude_custody (.acknowledgeCancellation runId worker.workerId (some report)) custody
        rfl (fun _ same => by cases same) absent rfl (fun _ same => by cases same)
        fun _ _ returned => acknowledgeCancellation_releases (custody.withdrawn runId rfl) returned

end Steps

section Fleets

variable {Index σ : Type} [DecidableEq Index] {environment : Environment}
  {workers : Index → Worker σ} {fleet : Fleet Index σ}

def Fleet.InCustody (workers : Index → Worker σ) (fleet : Fleet Index σ) : Prop :=
  ∀ index, Custody (workers index).workerId fleet.store (fleet.workers index).phase

/-- A run in progress names one of the workers. -/
def Named (workers : Index → Worker σ) (view : RunView) : Prop :=
  isActive view.run.state = true → ∃ index, view.run.workerId = some (workers index).workerId

theorem fleetStep_custody (distinct : Function.Injective fun index => (workers index).workerId)
    (event : FleetEvent Index)
    (absent : ∀ runId, fleet.store.runs.find? runId = none → fleet.store.casesOf runId = [])
    (custody : fleet.InCustody workers) :
    (fleetStep environment workers fleet event).InCustody workers := by
  -- A worker's own step, and what the operation of another worker leaves it.
  have moved {issues : Operation → Prop} {index : Index} {now : Time} {after : WorkerState σ × Store}
      (step : WorkerStep issues now fleet.store (fleet.workers index) after)
      (own : Custody (workers index).workerId after.2 after.1.phase)
      (unclaimed : ∀ operation, issues operation → ∀ workerId leaseSeconds,
        operation = .claimNextRun workerId leaseSeconds → workerId = (workers index).workerId) :
      (fleet.moved index after).InCustody workers := by
    intro other
    by_cases same : other = index
    · subst same
      simpa using own
    · simp only [Fleet.moved_store, fleet.moved_apart same]
      rcases step.store with kept | ⟨operation, issued, performed⟩
      · exact kept.symm ▸ custody other
      · rw [performed]
        refine (custody other).perform absent fun leaseSeconds claims => same ?_
        exact distinct (unclaimed operation issued _ _ claims)
  cases event with
  | call call =>
    intro index
    refine (custody index).perform absent fun leaseSeconds claims => ?_
    obtain ⟨⟨now, operation⟩, outside⟩ := call
    cases claims
    cases outside
  | poll index now =>
    refine moved poll_step (poll_custody (custody index)) fun operation claims workerId _ same => ?_
    cases claims.symm.trans same
    rfl
  | advance index now =>
    refine moved advance_step (advance_custody (custody index) absent) fun operation ends _ _ same => ?_
    generalize (fleet.workers index).phase = phase at ends
    cases ends <;> cases same
  | beat index now =>
    refine moved beat_step (beat_custody (custody index) absent) fun operation beats _ _ same => ?_
    obtain ⟨target, rfl⟩ := beats
    cases same

omit [DecidableEq Index] in
theorem transition_named {store : Store} {runId : String} {event : Event} {view next : RunView}
    (moved : Transition store runId event view next)
    (issued : FleetOperation environment workers store event) (named : Named workers view) :
    Named workers next := by
  cases moved with
  | kept => exact named
  | claimed branch candidate =>
    obtain ⟨index, rfl⟩ := issued.claims _ _ rfl
    exact fun _ => ⟨index, rfl⟩
  | extended held => exact named
  | cancelled =>
    intro active
    rw [cancelRow_workerId]
    refine named ?_
    cases state : view.run.state <;> simp_all [cancelRow, isActive]
  | acknowledged cancelling held built inserted =>
    intro active
    cases active
  | completed held built inserted =>
    intro active
    simp only [completeRow] at active
    split at active <;> cases active
  | reconciled reason cutoff stranded =>
    intro active
    cases reason <;> cases active

/-- What holds of the runs in progress in every run of a fleet. -/
theorem fleet_custody (environment : Environment) (workers : Index → Worker σ)
    (distinct : Function.Injective fun index => (workers index).workerId)
    (empty : NoRuns fleet.store) (idle : fleet.AllIdle) (events : List (FleetEvent Index)) :
    EveryRun (Named workers) (run (fleetStep environment workers) fleet events).store ∧
      (run (fleetStep environment workers) fleet events).InCustody workers := by
  refine (run_invariant_free (fun current : Fleet Index σ => current.Evaluating environment workers ∧
    EveryRun (Named workers) current.store ∧ current.InCustody workers) ?_ events ?_).2
  · rintro current event ⟨evaluating, named, custody⟩
    refine ⟨fleetStep_evaluating event evaluating, ?_,
      fleetStep_custody distinct event named.absent custody⟩
    rcases fleetStep_store event evaluating with same | ⟨issued, own, performed⟩
    · rwa [same]
    · rw [performed]
      refine perform_everyRun (fun view submitted => ?_)
        (fun _ _ _ _ before moved => transition_named moved own before) named
      obtain ⟨_, _, _, _, _, _, rfl⟩ := submitted
      intro running
      cases running
  · refine ⟨idle.evaluating, empty.everyRun, fun index => ?_⟩
    obtain ⟨processed, phase⟩ := idle index
    rw [phase]
    refine ⟨.inr fun other inName => ?_, fun _ seen => by cases seen⟩
    obtain ⟨stored, present, _⟩ := inName
    have member := Table.mem_of_find? present
    rw [empty.runs] at member
    cases member

end Fleets

/-- A run is cancelled once its worker has begun it, and the worker's heartbeat finds out. -/
def cancelledBegun : List (FleetEvent Unit) :=
  [.call (submissionCall (literalSuite ["first"] {} greeting_valid)), .poll () 1, .advance () 2,
    .advance () 3, .call ⟨⟨6, .cancelRun "run"⟩, rfl⟩, .advance () 7, .beat () 8]

end RegressionDetection.Workers
