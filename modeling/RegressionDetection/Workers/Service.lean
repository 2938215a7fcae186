import RegressionDetection.Workers.Custody

/-! `run_forever`, with its startup reconciliation, its polls and its stop event. A worker that is
asked to stop claims nothing more, ends the `run_once` it is in and returns, and leaves no run in
progress behind. -/

namespace RegressionDetection.Workers

open Foundation Specification Providers Policy Execution Persistence

/-- Where `run_forever` is: before `_reconcile_on_startup`, at the test of its loop, in a
`run_once` (for good, when that raises), in the wait after an empty poll, or over. -/
inductive Stage where
  | starting
  | testing
  | working
  | waiting
  | returned
deriving DecidableEq

/-- The workers of a fleet as services; `stopping` is `_stopping.is_set()`. -/
structure Service (Index σ : Type) where
  fleet : Fleet Index σ
  stages : Index → Stage
  stopping : Index → Bool

inductive ServiceEvent (Index : Type) where
  | call (call : ExternalCall)
  | requestStop (index : Index)
  | turn (index : Index) (now : Time)
  | beat (index : Index) (now : Time)

/-- The stage after a step of `run_once`, by the phase it leaves. -/
def Stage.following (phase : Phase σ) : Stage :=
  match phase.answer with
  | none => .working
  | some true => .testing
  | some false => .waiting

section Code

variable {Index σ : Type} [DecidableEq Index] (environment : Environment)
  (workers : Index → Worker σ) (service : Service Index σ)

def Service.enter (index : Index) (stage : Stage) : Service Index σ :=
  { service with stages := Function.update service.stages index stage }

/-- The next step of a `run_once`: its claim, or one after it. -/
def nextStep (index : Index) (now : Time) : FleetEvent Index :=
  match (service.fleet.workers index).phase with
  | .idle _ => .poll index now
  | _ => .advance index now

/-- The next step of `run_forever`. -/
def turn (index : Index) (now : Time) : Service Index σ :=
  match service.stages index with
  | .starting =>
    let reconciled := fleetStep environment workers service.fleet
      (.call ⟨⟨now, .reconcileStrandedRuns 30 none⟩, rfl⟩)
    { service with fleet := reconciled }.enter index .testing
  | .testing => service.enter index (if service.stopping index then .returned else .working)
  | .working =>
    let moved := fleetStep environment workers service.fleet (nextStep service index now)
    { service with fleet := moved }.enter index (.following (moved.workers index).phase)
  | .waiting => service.enter index .testing
  | .returned => service

def serviceStep : ServiceEvent Index → Service Index σ
  | .call call => { service with fleet := fleetStep environment workers service.fleet (.call call) }
  | .requestStop index =>
    { service with stopping := Function.update service.stopping index true }
  | .turn index now => turn environment workers service index now
  | .beat index now =>
    { service with fleet := fleetStep environment workers service.fleet (.beat index now) }

end Code

section Services

variable {Index σ : Type} [DecidableEq Index] {environment : Environment}
  {workers : Index → Worker σ} {service : Service Index σ} {index : Index}

/-- No worker has begun, and none was asked to stop. -/
structure Service.Fresh (service : Service Index σ) : Prop where
  empty : NoRuns service.fleet.store
  idle : service.fleet.AllIdle
  starting : ∀ index, service.stages index = .starting
  running : ∀ index, service.stopping index = false

/-- The worker's next turn is the claim of a `run_once`. -/
def Service.AboutToClaim (service : Service Index σ) (index : Index) : Prop :=
  service.stages index = .working ∧ (service.fleet.workers index).phase.answer ≠ none

/-- The number of cases that a specification has at most. -/
def caseLimit : Nat := 100000

/-- How many turns a worker that is asked to stop still takes at most. A `run_once` without an
answer and without steps left has raised. -/
def turnsLeft (stage : Stage) (phase : Phase σ) : Nat :=
  match stage with
  | .starting | .waiting => 2
  | .testing => 1
  | .working =>
    match phase.answer, phase.stepsLeft caseLimit with
    | some _, _ => caseLimit + 6
    | none, 0 => 0
    | none, steps + 1 => steps + 2
  | .returned => 0

def Service.turnsLeft (service : Service Index σ) (index : Index) : Nat :=
  Workers.turnsLeft (service.stages index) (service.fleet.workers index).phase

def ServiceEvent.turns (index : Index) : ServiceEvent Index → Bool
  | .turn other _ => decide (other = index)
  | .call _ | .requestStop _ | .beat .. => false

theorem ServiceEvent.turns_eq_true {event : ServiceEvent Index} (turns : event.turns index = true) :
    ∃ now, event = .turn index now := by
  cases event with
  | turn other now =>
    obtain rfl : other = index := by simpa [ServiceEvent.turns] using turns
    exact ⟨now, rfl⟩
  | call | requestStop | beat => cases turns

/-- A step of the services is at most one of the fleet. -/
theorem serviceStep_fleet (event : ServiceEvent Index) :
    (serviceStep environment workers service event).fleet = service.fleet ∨
      ∃ moved, (serviceStep environment workers service event).fleet =
        fleetStep environment workers service.fleet moved := by
  cases event with
  | call call => exact .inr ⟨.call call, rfl⟩
  | requestStop other => exact .inl rfl
  | beat other now => exact .inr ⟨.beat other now, rfl⟩
  | turn other now =>
    simp only [serviceStep, turn]
    cases service.stages other with
    | starting => exact .inr ⟨.call ⟨⟨now, .reconcileStrandedRuns 30 none⟩, rfl⟩, rfl⟩
    | working => exact .inr ⟨nextStep service other now, rfl⟩
    | testing | waiting | returned => exact .inl rfl

/-- A run of the services is one of the fleet. -/
theorem service_fleet (events : List (ServiceEvent Index)) :
    ∃ moves, (run (serviceStep environment workers) service events).fleet =
      run (fleetStep environment workers) service.fleet moves := by
  induction events generalizing service with
  | nil => exact ⟨[], rfl⟩
  | cons event rest ih =>
    obtain ⟨moves, same⟩ : ∃ moves, (run (serviceStep environment workers)
          (serviceStep environment workers service event) rest).fleet =
        run (fleetStep environment workers) (serviceStep environment workers service event).fleet moves :=
      ih
    rw [run_cons, same]
    rcases serviceStep_fleet event with kept | ⟨move, moved⟩
    · exact ⟨moves, by rw [kept]⟩
    · exact ⟨move :: moves, by rw [moved, run_cons]⟩

section Phases

variable {worker : Worker σ} {now : Time} {store : Store} {state : WorkerState σ}

theorem Phase.answer_eq_some {phase : Phase σ} {processed : Bool} :
    phase.answer = some processed ↔ phase = .idle processed := by
  cases phase <;> simp [Phase.answer]

theorem caseLimit_bounds (specification : EvaluationSpecification) :
    specification.val.cases.length ≤ caseLimit := by
  obtain ⟨_, _, _, _, _, _, ⟨_, bounded⟩, _⟩ := specification.property
  exact bounded

/-- Every step of a `run_once` brings its end nearer. -/
theorem advance_stepsLeft :
    (advance environment worker now store state).1.phase.stepsLeft caseLimit ≤
      state.phase.stepsLeft caseLimit - 1 := by
  obtain ⟨phase, provider⟩ := state
  have concluded {outcome : Except PyError (Bool × Store)} {before : WorkerState σ} :
      (conclude store before outcome).1.phase.stepsLeft caseLimit = 0 := by
    cases outcome <;> rfl
  have finished (active : ActiveRun σ) (stopped : Bool) :
      (finishExecution environment active stopped).phase.stepsLeft caseLimit ≤ 1 := by
    simp only [finishExecution]
    split <;> simp [Phase.stepsLeft]
  cases phase with
  | idle | raised => exact Nat.le_refl _
  | claimed runId =>
    simp only [advance]
    split <;> simp [Phase.stepsLeft]
  | cancelSeen runId => exact Nat.le_of_eq concluded
  | admitted runId =>
    simp only [advance]
    split
    · exact Nat.zero_le _
    · rename_i row cases found
      simp only [beginExecution]
      split
      · exact Nat.zero_le _
      · exact Nat.add_le_add_right (caseLimit_bounds row.snapshot) 2
  | executing active =>
    simp only [advance, continueExecution]
    split
    · exact (finished active false).trans (by simp [Phase.stepsLeft])
    · rename_i case rest remaining
      split
      · exact (finished active true).trans (by simp [Phase.stepsLeft])
      · split
        · exact Nat.zero_le _
        · simp [Phase.stepsLeft, remaining]
  | reported runId report token => cases token <;> exact Nat.le_of_eq concluded

theorem beat_steps : (beat worker now store state).1.phase.answer = state.phase.answer ∧
    (beat worker now store state).1.phase.stepsLeft caseLimit = state.phase.stepsLeft caseLimit := by
  obtain ⟨phase, provider⟩ := state
  cases phase with
  | executing active =>
    simp only [beat]
    split <;> exact ⟨rfl, rfl⟩
  | idle | reported | claimed | cancelSeen | admitted | raised => exact ⟨rfl, rfl⟩

/-- Only the claim of a `run_once` makes it return False. -/
theorem advance_answer (busy : state.phase.answer = none) :
    (advance environment worker now store state).1.phase.answer ≠ some false := by
  obtain ⟨phase, provider⟩ := state
  have concluded {outcome : Except PyError (Bool × Store)} {before : WorkerState σ} :
      (conclude store before outcome).1.phase.answer ≠ some false := by
    cases outcome <;> simp [conclude, Phase.answer]
  have finished (active : ActiveRun σ) (stopped : Bool) :
      (finishExecution environment active stopped).phase.answer = none := by
    simp only [finishExecution]
    split <;> rfl
  cases phase with
  | idle processed => cases busy
  | raised error => simp [advance, Phase.answer]
  | claimed runId =>
    simp only [advance]
    split <;> simp [Phase.answer]
  | cancelSeen runId => exact concluded
  | admitted runId =>
    simp only [advance]
    split
    · simp [Phase.answer]
    · simp only [beginExecution]
      split <;> simp [Phase.answer]
  | executing active =>
    simp only [advance, continueExecution]
    split
    · simp [finished]
    · split
      · simp [finished]
      · split <;> simp [Phase.answer]
  | reported runId report token => cases token <;> exact concluded

/-- A `run_once` without an answer and without steps left stays as it is. -/
theorem advance_raised (busy : state.phase.answer = none)
    (ended : state.phase.stepsLeft caseLimit = 0) :
    (advance environment worker now store state).1 = state := by
  obtain ⟨phase, provider⟩ := state
  cases phase with
  | raised error => rfl
  | idle processed => cases busy
  | claimed | cancelSeen | admitted | executing | reported => cases ended

/-- A turn inside a `run_once`, counted. -/
theorem turnsLeft_advance (busy : state.phase.answer = none) :
    turnsLeft (.following (advance environment worker now store state).1.phase)
        (advance environment worker now store state).1.phase ≤ turnsLeft .working state.phase - 1 := by
  have nearer : (advance environment worker now store state).1.phase.stepsLeft caseLimit ≤
      state.phase.stepsLeft caseLimit - 1 := advance_stepsLeft
  have said : (advance environment worker now store state).1.phase.answer ≠ some false :=
    advance_answer busy
  cases steps : state.phase.stepsLeft caseLimit with
  | zero =>
    rw [advance_raised busy steps]
    simp [Stage.following, turnsLeft, busy, steps]
  | succ left =>
    rw [steps] at nearer
    cases answered : (advance environment worker now store state).1.phase.answer with
    | some processed =>
      cases processed with
      | false => exact absurd answered said
      | true => simp [Stage.following, turnsLeft, busy, steps, answered]
    | none =>
      cases after : (advance environment worker now store state).1.phase.stepsLeft caseLimit with
      | zero => simp [Stage.following, turnsLeft, answered, after]
      | succ fewer =>
        simp only [Stage.following, turnsLeft, busy, steps, answered, after]
        omega

/-- The claim of a `run_once`, counted. -/
theorem turnsLeft_poll {processed : Bool} (idle : state.phase.answer = some processed) :
    turnsLeft (.following (poll worker now store state).1.phase) (poll worker now store state).1.phase ≤
      turnsLeft .working state.phase - 1 := by
  rw [Phase.answer_eq_some] at idle
  simp only [poll, idle]
  split <;> simp [Stage.following, turnsLeft, Phase.answer, Phase.stepsLeft]

end Phases

section Steps

variable {event : ServiceEvent Index}

theorem serviceStep_stopping (stopping : service.stopping index = true) :
    (serviceStep environment workers service event).stopping index = true := by
  cases event with
  | call call => exact stopping
  | requestStop other =>
    by_cases same : index = other
    · subst same
      simp [serviceStep]
    · simpa [serviceStep, Function.update_of_ne same] using stopping
  | turn other now =>
    simp only [serviceStep, turn]
    split <;> exact stopping
  | beat other now => exact stopping

/-- What is not a turn of the worker leaves it where it is. -/
theorem serviceStep_aside (environment : Environment) (workers : Index → Worker σ)
    (idles : event.turns index = false) :
    (serviceStep environment workers service event).stages index = service.stages index ∧
    ((serviceStep environment workers service event).fleet.workers index).phase.answer =
      (service.fleet.workers index).phase.answer ∧
    ((serviceStep environment workers service event).fleet.workers index).phase.stepsLeft caseLimit =
      (service.fleet.workers index).phase.stepsLeft caseLimit := by
  cases event with
  | call call => exact ⟨rfl, rfl, rfl⟩
  | requestStop other => exact ⟨rfl, rfl, rfl⟩
  | beat other now =>
    by_cases same : index = other
    · subst same
      simpa [serviceStep, fleetStep] using beat_steps
    · simp [serviceStep, fleetStep, Fleet.moved_apart, same]
  | turn other now =>
    have apart : index ≠ other := by
      rintro rfl
      simp [ServiceEvent.turns] at idles
    simp only [serviceStep, turn]
    split
    · simp [Service.enter, fleetStep, Function.update_of_ne apart]
    · simp [Service.enter, Function.update_of_ne apart]
    · unfold nextStep
      split <;> simp [Service.enter, fleetStep, Fleet.moved_apart, apart]
    · simp [Service.enter, Function.update_of_ne apart]
    · exact ⟨rfl, rfl, rfl⟩

/-- A turn in the stage of a `run_once` is its claim or a step after it, and its answer decides
where the loop goes. -/
theorem turn_working (environment : Environment) (workers : Index → Worker σ) (now : Time)
    (working : service.stages index = .working) :
    ∃ next : WorkerState σ, (turn environment workers service index now).fleet.workers index = next ∧
      (turn environment workers service index now).stages index = .following next.phase ∧
      ((∃ processed, (service.fleet.workers index).phase.answer = some processed) ∧
          next = (poll (workers index) now service.fleet.store (service.fleet.workers index)).1 ∨
        (service.fleet.workers index).phase.answer = none ∧
          next = (advance environment (workers index) now service.fleet.store
            (service.fleet.workers index)).1) := by
  refine ⟨_, rfl, ?_, ?_⟩
  · simp [turn, working, Service.enter]
  · simp only [turn, working, nextStep]
    cases phase : (service.fleet.workers index).phase with
    | idle processed => exact .inl ⟨⟨processed, rfl⟩, by simp [Service.enter, fleetStep]⟩
    | claimed | cancelSeen | admitted | executing | reported | raised =>
      exact .inr ⟨rfl, by simp [Service.enter, fleetStep]⟩

theorem turn_turnsLeft {now : Time} (stopping : service.stopping index = true) :
    (turn environment workers service index now).turnsLeft index ≤ service.turnsLeft index - 1 := by
  cases stage : service.stages index with
  | working =>
    obtain ⟨next, moved, entered, step⟩ := turn_working environment workers now stage
    unfold Service.turnsLeft
    rw [moved, entered, stage]
    rcases step with ⟨⟨processed, idle⟩, rfl⟩ | ⟨busy, rfl⟩
    · exact turnsLeft_poll idle
    · exact turnsLeft_advance busy
  | starting | testing | waiting | returned =>
    simp [Service.turnsLeft, turnsLeft, turn, stage, Service.enter, stopping]

/-- A worker that is asked to stop is at most once more about to claim a run. -/
theorem turn_aboutToClaim {now : Time} (stopping : service.stopping index = true) :
    ¬ (turn environment workers service index now).AboutToClaim index := by
  rintro ⟨working, idle⟩
  cases stage : service.stages index with
  | working =>
    obtain ⟨next, moved, entered, step⟩ := turn_working environment workers now stage
    rw [moved] at idle
    rw [entered] at working
    unfold Stage.following at working
    cases answered : next.phase.answer with
    | none => exact idle answered
    | some processed =>
      rw [answered] at working
      cases processed <;> cases working
  | starting | testing | waiting | returned =>
    simp [turn, stage, Service.enter, stopping] at working

/-- Outside its working stage a worker is between two calls of `run_once`, and it has returned only
when it was asked to stop. -/
structure Service.Sound (service : Service Index σ) : Prop where
  between : ∀ index, service.stages index ≠ .working →
    (service.fleet.workers index).phase.answer ≠ none
  requested : ∀ index, service.stages index = .returned → service.stopping index = true

omit [DecidableEq Index] in
theorem Service.Fresh.sound (fresh : service.Fresh) : service.Sound := by
  constructor
  · intro index _ busy
    obtain ⟨processed, phase⟩ := fresh.idle index
    rw [phase] at busy
    cases busy
  · intro index returned
    rw [fresh.starting] at returned
    cases returned

theorem turn_sound (sound : service.Sound) (index : Index) (now : Time) :
    ((turn environment workers service index now).stages index ≠ .working →
      ((turn environment workers service index now).fleet.workers index).phase.answer ≠ none) ∧
    ((turn environment workers service index now).stages index = .returned →
      service.stopping index = true) := by
  cases stage : service.stages index with
  | working =>
    obtain ⟨next, moved, entered, _⟩ := turn_working environment workers now stage
    rw [moved, entered]
    unfold Stage.following
    cases next.phase.answer with
    | none => simp
    | some processed => cases processed <;> simp
  | testing =>
    have idle := sound.between index (by simp [stage])
    simp only [turn, stage, Service.enter, Function.update_self]
    refine ⟨fun _ => idle, fun returned => ?_⟩
    by_contra running
    simp [running] at returned
  | starting | waiting =>
    have idle := sound.between index (by simp [stage])
    simpa [turn, stage, Service.enter, fleetStep] using idle
  | returned =>
    have idle := sound.between index (by simp [stage])
    simp only [turn, stage]
    exact ⟨fun _ => idle, fun _ => sound.requested index stage⟩

theorem serviceStep_sound (event : ServiceEvent Index) (sound : service.Sound) :
    (serviceStep environment workers service event).Sound := by
  constructor
  · intro index
    cases turns : event.turns index with
    | true =>
      obtain ⟨now, rfl⟩ := ServiceEvent.turns_eq_true turns
      exact (turn_sound sound index now).1
    | false =>
      obtain ⟨stage, answer, _⟩ := serviceStep_aside environment workers turns
      rw [stage, answer]
      exact sound.between index
  · intro index returned
    refine serviceStep_stopping ?_
    cases turns : event.turns index with
    | true =>
      obtain ⟨now, rfl⟩ := ServiceEvent.turns_eq_true turns
      exact (turn_sound sound index now).2 returned
    | false =>
      obtain ⟨stage, _, _⟩ := serviceStep_aside environment workers turns
      exact sound.requested index (stage.symm.trans returned)

theorem service_sound (events : List (ServiceEvent Index)) (fresh : service.Fresh) :
    (run (serviceStep environment workers) service events).Sound :=
  run_invariant_free Service.Sound (fun _ event sound => serviceStep_sound event sound) events
    fresh.sound

/-- After the request, every turn brings the return nearer, and only the first may be a claim. -/
theorem run_stopping (events : List (ServiceEvent Index)) (stopping : service.stopping index = true) :
    (run (serviceStep environment workers) service events).turnsLeft index ≤
        service.turnsLeft index - events.countP (ServiceEvent.turns index) ∧
      (¬ service.AboutToClaim index ∨ 0 < events.countP (ServiceEvent.turns index) →
        ¬ (run (serviceStep environment workers) service events).AboutToClaim index) := by
  induction events generalizing service with
  | nil => exact ⟨Nat.le_refl _, fun away => away.resolve_right (Nat.lt_irrefl 0)⟩
  | cons event rest ih =>
    have onward : (serviceStep environment workers service event).stopping index = true :=
      serviceStep_stopping stopping
    obtain ⟨fewer, never⟩ := ih onward
    rw [run_cons, List.countP_cons]
    cases turns : event.turns index with
    | true =>
      obtain ⟨now, rfl⟩ := ServiceEvent.turns_eq_true turns
      have nearer : (serviceStep environment workers service (.turn index now)).turnsLeft index ≤
          service.turnsLeft index - 1 := turn_turnsLeft stopping
      refine ⟨?_, fun _ => never (.inl (turn_aboutToClaim stopping))⟩
      simp only [↓reduceIte]
      omega
    | false =>
      obtain ⟨stage, answer, steps⟩ := serviceStep_aside environment workers turns
      have same : (serviceStep environment workers service event).turnsLeft index =
          service.turnsLeft index := by
        unfold Service.turnsLeft turnsLeft
        rw [stage, answer, steps]
      refine ⟨by simpa [same] using fewer, fun away => never ?_⟩
      refine away.imp (fun unready => ?_) fun turned => by simpa using turned
      rintro ⟨working, idle⟩
      exact unready ⟨stage ▸ working, answer ▸ idle⟩

omit [DecidableEq Index] in
/-- A worker without turns left has returned or raised. -/
theorem ended_of_turnsLeft (ended : service.turnsLeft index = 0) :
    service.stages index = .returned ∨ ∃ error, (service.fleet.workers index).phase = .raised error := by
  unfold Service.turnsLeft turnsLeft at ended
  cases stage : service.stages index with
  | returned => exact .inl rfl
  | starting | testing | waiting =>
    rw [stage] at ended
    cases ended
  | working =>
    rw [stage] at ended
    cases phase : (service.fleet.workers index).phase with
    | raised error => exact .inr ⟨error, rfl⟩
    | idle | claimed | cancelSeen | admitted | executing | reported =>
      rw [phase] at ended
      cases ended

/-- Nothing but the request sets the stop event. -/
theorem run_requested (events : List (ServiceEvent Index))
    (stopping : (run (serviceStep environment workers) service events).stopping index = true) :
    service.stopping index = true ∨ ServiceEvent.requestStop index ∈ events := by
  induction events generalizing service with
  | nil => exact .inl stopping
  | cons event rest ih =>
    rcases ih stopping with before | requested
    · cases event with
      | call | beat => exact .inl before
      | turn other now =>
        left
        revert before
        simp only [serviceStep, turn]
        split <;> exact id
      | requestStop other =>
        by_cases same : index = other
        · exact .inr (same ▸ List.mem_cons_self)
        · exact .inl (by simpa [serviceStep, Function.update_of_ne same] using before)
    · exact .inr (List.mem_cons_of_mem _ requested)

end Steps

end Services

section Examples

def soloService : Service Unit Unit :=
  { fleet := soloFleet, stages := fun _ => .starting, stopping := fun _ => false }

def soloServiceStep : Service Unit Unit → ServiceEvent Unit → Service Unit Unit :=
  serviceStep Environment.plain fun _ => sampleWorker

/-- A worker starts, waits for a run to be submitted, and begins it. -/
def begunService : List (ServiceEvent Unit) :=
  [.turn () 1, .turn () 2, .turn () 3,
    .call (submissionCall (literalSuite ["first"] {} greeting_valid)), .turn () 4, .turn () 5,
    .turn () 6, .turn () 7, .turn () 8]

end Examples

end RegressionDetection.Workers
