import RegressionDetection.Execution.Cancellation
import RegressionDetection.Persistence.Calls
import RegressionDetection.Workers.Custody
import RegressionDetection.Workers.Leases

/-! Cooperative cancellation. A worker whose heartbeat finds its run cancelled executes none of
the cases that are left, and two steps later the run is cancelled with the results so far. -/

namespace RegressionDetection.Workers

open Foundation Specification Providers Policy Execution Persistence

/-- The report of the results at a case boundary. -/
def partialReport (environment : Environment) (active : ActiveRun σ) :
    Except PyError LocalEvaluationReport :=
  reportOf environment active.specification
    (runResult environment active.specification (!active.remaining.isEmpty) active.loop.results)

/-- A run that is cancelled in the name of its worker, or about to be, with the results of the
worker's report or none. -/
structure Stopped (outcome : Except PyError LocalEvaluationReport) (holder : String)
    (view : RunView) : Prop where
  owner : view.run.workerId = some holder
  state : view.run.state = .cancelling ∧ view.cases = [] ∨ view.run.state = .cancelled ∧
    (view.cases = [] ∨ ∃ report, outcome = .ok report ∧ StoredFrom report view)

/-- The operation does not complete the run for its worker, and acknowledges it with this outcome
only. -/
def Withheld (outcome : Except PyError LocalEvaluationReport) (holder runId : String) :
    Operation → Prop
  | .completeRun target _ workerId => target = runId → workerId ≠ holder
  | .acknowledgeCancellation target workerId (some report) =>
    target = runId → workerId = holder → outcome = .ok report
  | _ => True

/-- Where a worker may be once a heartbeat of its run was refused, and how many steps it still
takes: at the case boundary where it was, with the report of its results so far, ended because
there is no report, or done with the run, which then is cancelled. -/
inductive Withdrawing (environment : Environment) (active : ActiveRun σ) (run : RunState) :
    WorkerState σ → Nat → Prop where
  | noticed (phase : state.phase = .executing { active with token := true }) :
      Withdrawing environment active run state 2
  | reporting (made : partialReport environment active = .ok report)
      (phase : state.phase = .reported active.runId report true)
      (unasked : state.provider = active.loop.provider) :
      Withdrawing environment active run state 1
  | raised (raises : partialReport environment active = .error error)
      (phase : state.phase = .raised error) : Withdrawing environment active run state 0
  | gone (cancelled : run = .cancelled) (away : state.phase.inHand ≠ some active.runId) :
      Withdrawing environment active run state 0

section Operations

variable {outcome : Except PyError LocalEvaluationReport} {holder runId : String} {store : Store}
  {event : Event} {view next : RunView}

/-- A stopped run stays stopped, and a cancelled one as it is. -/
theorem Stopped.transition (stopped : Stopped outcome holder view)
    (found : store.view runId = some view) (moved : Transition store runId event view next)
    (withheld : Withheld outcome holder runId event.operation) :
    Stopped outcome holder next ∧ (view.run.state = .cancelled → next = view) := by
  have states : view.run.state = .cancelling ∨ view.run.state = .cancelled :=
    stopped.state.imp And.left And.left
  cases moved with
  | kept => exact ⟨stopped, fun _ => rfl⟩
  | claimed branch candidate =>
    have state := candidate_state candidate
    cases branch <;> rcases states with same | same <;> cases same.symm.trans state
  | extended held =>
    simp only [heartbeatMatches, Bool.and_eq_true, decide_eq_true_eq] at held
    rcases states with same | same <;> cases same.symm.trans held.2
  | cancelled =>
    have same (now : Time) : (cancelRow now view.run).2 = view.run := by
      unfold cancelRow
      rcases states with state | state <;> rw [state]
    rw [same]
    exact ⟨stopped, fun _ => rfl⟩
  | acknowledged cancelling held built inserted =>
    rename_i rows table now workerId report
    have unevaluated : view.cases = [] := by
      rcases stopped.state with ⟨_, none⟩ | ⟨cancelled, _⟩
      · exact none
      · cases cancelling.symm.trans cancelled
    refine ⟨⟨(acknowledgeRow_workerId _ _ _).trans stopped.owner, .inr ⟨rfl, ?_⟩⟩, fun cancelled => ?_⟩
    · rw [unevaluated, List.nil_append]
      cases report with
      | none =>
        cases built
        exact .inl rfl
      | some report =>
        have owner : view.run.workerId = some workerId := by simpa [RunRow.heldBy] using held
        have own : workerId = holder := Option.some.inj (owner.symm.trans stopped.owner)
        exact .inr ⟨report, withheld rfl own,
          ⟨(congrArg (caseRows · report) (view_id found)).trans built, rfl, rfl, rfl⟩⟩
    · cases cancelling.symm.trans cancelled
  | completed held built inserted =>
    rename_i report rows table now workerId
    have owner : view.run.workerId = some workerId := by simpa [RunRow.heldBy] using held
    exact absurd (Option.some.inj (owner.symm.trans stopped.owner)) (withheld rfl)
  | reconciled reason cutoff stranded =>
    cases reason with
    | cancelledLeaseExpired =>
      simp only [ReconcileReason.matches, Bool.and_eq_true, decide_eq_true_eq] at stranded
      refine ⟨⟨stopped.owner, .inr ⟨rfl, ?_⟩⟩, fun cancelled => ?_⟩
      · rcases stopped.state with ⟨_, none⟩ | ⟨cancelled, _⟩
        · exact .inl none
        · cases stranded.1.symm.trans cancelled
      · cases stranded.1.symm.trans cancelled
    | leaseExpired | staleCreated =>
      simp only [ReconcileReason.matches, Bool.and_eq_true, decide_eq_true_eq] at stranded
      rcases states with same | same <;> cases same.symm.trans stranded.1

/-- A report of an evaluation can be stored on a run without results. -/
theorem insertRows_of_report {report : LocalEvaluationReport} (found : store.view runId = some view)
    (unevaluated : view.cases = []) (own : ReportFor view.run.snapshot report) :
    ∃ rows cases, caseRows runId report = .ok rows ∧ insertRows store.cases rows = .ok cases := by
  obtain ⟨covers, reconciles⟩ := own.reconciles
  have summarised : Summarised report := fun case member =>
    reconciles.summaries ▸ List.mem_map.mpr ⟨case, member, rfl⟩
  obtain ⟨rows, built⟩ := caseRows_returns.mpr summarised
  have distinct : (rows.map CaseRow.key).Nodup := by
    have keys := view.run.snapshot.property.references.caseKeys.sublist covers.keys.sublist
    have paired : rows.map CaseRow.key =
        (report.run.cases.map CaseExecutionResult.caseKey).map (Prod.mk runId) := by
      rw [caseRows_keys built, List.map_map]
      rfl
    rw [paired]
    exact keys.map fun _ _ same => congrArg Prod.snd same
  obtain ⟨table, inserted⟩ := (insertAll?_view found (caseRows_runId built)).mpr
    ⟨distinct, fun row _ stored => by rw [unevaluated] at stored; cases stored⟩
  exact ⟨rows, table, built, insertRows_eq_ok.mpr inserted⟩

/-- The acknowledgement of a stopped run goes through. -/
theorem acknowledgeCancellation_stopped {report : LocalEvaluationReport} (now : Time)
    (stopped : Stopped outcome holder view) (found : store.view runId = some view)
    (own : ReportFor view.run.snapshot report) :
    ∃ answer later after, acknowledgeCancellation now runId holder store (some report) =
        .ok (answer, later) ∧
      later.view runId = some after ∧ after.run.state = .cancelled := by
  have loaded := findRun_of_view found
  rcases stopped.state with ⟨cancelling, unevaluated⟩ | ⟨cancelled, _⟩
  · obtain ⟨rows, cases, built, inserted⟩ := insertRows_of_report found unevaluated own
    have held : view.run.heldBy (some holder) = true := by simp [RunRow.heldBy, stopped.owner]
    have updated := view_flushRun found view.run (acknowledgeRow now (some report) view.run)
    rw [if_pos rfl, RunRow.flush_acknowledgeRow] at updated
    have grown := view_insertCases updated (insertRows_eq_ok.mp inserted) (caseRows_runId built)
    refine ⟨true, _, _, bind_eq_ok.mpr ⟨view.run, loaded, ?_⟩, grown, rfl⟩
    rw [if_pos ⟨cancelling, held⟩]
    exact bind_eq_ok.mpr ⟨rows, built, bind_eq_ok.mpr ⟨cases, inserted, rfl⟩⟩
  · refine ⟨false, store, view, bind_eq_ok.mpr ⟨view.run, loaded, ?_⟩, found, cancelled⟩
    rw [if_neg]
    · rfl
    · rintro ⟨cancelling, _⟩
      cases cancelled.symm.trans cancelling

/-- The heartbeat of a run that is not running is refused. -/
theorem heartbeat_unheld {now : Time} {leaseSeconds : Int} {row : RunRow}
    (found : store.runs.find? runId = some row) (stopped : row.state ≠ .running) :
    (heartbeat now runId holder leaseSeconds store).1 = false := by
  have counted := Table.matching_key store.runs runId (heartbeatMatches holder)
  have missed : heartbeatMatches holder row = false := by simp [heartbeatMatches, stopped]
  rw [found, Option.any_some, missed] at counted
  unfold heartbeat heartbeatHits
  rw [counted]
  rfl

end Operations

section Steps

variable {environment : Environment} {worker : Worker σ} {store : Store} {now : Time}
  {state : WorkerState σ} {active : ActiveRun σ}

/-- The operations that a `run_once` ends with are about the run in hand. -/
theorem Concludes.withheld {outcome : Except PyError LocalEvaluationReport} {holder runId : String}
    {operation : Operation} (concludes : Concludes worker state.phase operation)
    (away : state.phase.inHand ≠ some runId) : Withheld outcome holder runId operation := by
  generalize state.phase = phase at concludes away
  cases concludes with
  | withdraw => trivial
  | acknowledge => exact fun same => absurd (congrArg some same) away
  | complete => exact fun same => absurd (congrArg some same) away

/-- The operations of another worker are not the holder's. -/
theorem Concludes.foreign {outcome : Except PyError LocalEvaluationReport} {holder runId : String}
    {operation : Operation} (concludes : Concludes worker state.phase operation)
    (apart : worker.workerId ≠ holder) : Withheld outcome holder runId operation := by
  generalize state.phase = phase at concludes
  cases concludes with
  | withdraw => trivial
  | acknowledge => exact fun _ own => absurd own apart
  | complete => exact fun _ => apart

/-- A step of `run_once` keeps the run in hand or lets it go. -/
theorem advance_inHand {runId : String}
    (held : (advance environment worker now store state).1.phase.inHand = some runId) :
    state.phase.inHand = some runId := by
  obtain ⟨phase, provider⟩ := state
  have concluded {outcome : Except PyError (Bool × Store)} {before : WorkerState σ} :
      (conclude store before outcome).1.phase.inHand = none := by
    cases outcome <;> rfl
  cases phase with
  | idle | raised => exact held
  | claimed claimed =>
    simp only [advance] at held
    split at held <;> exact held
  | cancelSeen seen =>
    cases concluded.symm.trans held
  | admitted admitted =>
    simp only [advance] at held
    split at held
    · cases held
    · simp only [beginExecution] at held
      split at held
      · cases held
      · exact held
  | executing active =>
    have finished (stopped : Bool)
        (report : (finishExecution environment active stopped).phase.inHand = some runId) :
        active.runId = runId := by
      simp only [finishExecution] at report
      split at report
      · cases report
      · exact Option.some.inj report
    simp only [advance, continueExecution] at held
    split at held
    · exact congrArg some (finished false held)
    · split at held
      · exact congrArg some (finished true held)
      · split at held
        · cases held
        · exact held
  | reported reported report token =>
    cases token <;> cases concluded.symm.trans held

theorem beat_inHand : (beat worker now store state).1.phase.inHand = state.phase.inHand := by
  obtain ⟨phase, provider⟩ := state
  cases phase with
  | executing active =>
    simp only [beat]
    split <;> rfl
  | idle | reported | claimed | cancelSeen | admitted | raised => rfl

/-- A poll of a busy worker does nothing, and it claims no cancelled run. -/
theorem Withdrawing.poll {left : Nat} {row : RunRow}
    (withdrawing : Withdrawing environment active row.state state left) (now : Time)
    (found : store.runs.find? active.runId = some row) :
    Withdrawing environment active row.state (Workers.poll worker now store state).1 left := by
  unfold Workers.poll
  split
  · rename_i processed idle
    cases withdrawing with
    | noticed phase => cases idle.symm.trans phase
    | reporting made phase unasked => cases idle.symm.trans phase
    | raised raises phase => cases idle.symm.trans phase
    | gone cancelled away =>
      refine .gone cancelled ?_
      split
      · rename_i runId next claims
        intro held
        have claimed := claimed_open (congrArg Prod.fst claims) (Option.some.inj held ▸ found)
        rw [cancelled] at claimed
        cases claimed
      · exact fun held => by cases held
  · exact withdrawing

/-- Neither does a heartbeat once one was refused. -/
theorem Withdrawing.beat {left : Nat} {run : RunState}
    (withdrawing : Withdrawing environment active run state left) (now : Time) (store : Store) :
    Withdrawing environment active run (Workers.beat worker now store state).1 left := by
  cases withdrawing with
  | noticed phase =>
    refine .noticed ?_
    unfold Workers.beat
    rw [phase]
    exact phase
  | reporting made phase unasked =>
    have same : Workers.beat worker now store state = (state, store) := by
      unfold Workers.beat
      rw [phase]
    rw [same]
    exact .reporting made phase unasked
  | raised raises phase =>
    refine .raised raises ?_
    unfold Workers.beat
    rw [phase]
    exact phase
  | gone cancelled away => exact .gone cancelled fun held => away (beat_inHand ▸ held)

/-- With the token set, the next step makes the report of the results so far. -/
theorem continueExecution_noticed :
    continueExecution environment worker { active with token := true } =
      { provider := active.loop.provider
        phase := match partialReport environment active with
          | .error error => .raised error
          | .ok report => .reported active.runId report true } := by
  unfold continueExecution partialReport finishExecution
  cases active.remaining with
  | nil => rfl
  | cons _ _ => rfl

end Steps

section Fleets

variable {Index σ : Type} [DecidableEq Index] {environment : Environment}
  {workers : Index → Worker σ} {fleet : Fleet Index σ} {index : Index} {active : ActiveRun σ}
  {left : Nat}

/-- The run is stopped, and its worker withdraws from it. -/
def Withdraws (environment : Environment) (workers : Index → Worker σ) (index : Index)
    (active : ActiveRun σ) (fleet : Fleet Index σ) (left : Nat) : Prop :=
  ∃ view, fleet.store.view active.runId = some view ∧
    Stopped (partialReport environment active) (workers index).workerId view ∧
    Withdrawing environment active view.run.state (fleet.workers index) left

/-- The store after at most one operation that is withheld from the worker's run. -/
def Untouched (environment : Environment) (worker : Worker σ) (active : ActiveRun σ)
    (before after : Store) : Prop :=
  after = before ∨ ∃ event : Event,
    Withheld (partialReport environment active) worker.workerId active.runId event.operation ∧
      after = perform before event

omit [DecidableEq Index] in
theorem Withdraws.step {next : Fleet Index σ} {fewer : Nat}
    (withdraws : Withdraws environment workers index active fleet left)
    (untouched : Untouched environment (workers index) active fleet.store next.store)
    (moves : ∀ view, fleet.store.view active.runId = some view →
      Withdrawing environment active view.run.state (fleet.workers index) left →
      Withdrawing environment active view.run.state (next.workers index) fewer) :
    Withdraws environment workers index active next fewer := by
  obtain ⟨view, found, stopped, withdrawing⟩ := withdraws
  have moved := moves view found withdrawing
  rcases untouched with same | ⟨event, withheld, performed⟩
  · exact ⟨view, same ▸ found, stopped, moved⟩
  · obtain ⟨after, later, transition⟩ := perform_view found event
    obtain ⟨still, cancelled⟩ := stopped.transition found transition withheld
    refine ⟨after, performed ▸ later, still, ?_⟩
    cases moved with
    | noticed phase => exact .noticed phase
    | reporting made phase unasked => exact .reporting made phase unasked
    | raised raises phase => exact .raised raises phase
    | gone ended away => exact .gone (cancelled ended ▸ ended) away

/-- What a worker's step issues is withheld from the run. -/
theorem WorkerStep.untouched {holder : Worker σ} {issues : Operation → Prop} {now : Time}
    {store : Store} {state : WorkerState σ} {after : WorkerState σ × Store}
    (step : WorkerStep issues now store state after)
    (withheld : ∀ operation, issues operation →
      Withheld (partialReport environment active) holder.workerId active.runId operation) :
    Untouched environment holder active store after.2 :=
  step.store.imp_right fun ⟨operation, issued, performed⟩ =>
    ⟨⟨now, operation⟩, withheld operation issued, performed⟩

/-- The step after the refused heartbeat makes the report of the results so far. -/
theorem withdraws_of_noticed {view : RunView} (now : Time)
    (found : fleet.store.view active.runId = some view)
    (stopped : Stopped (partialReport environment active) (workers index).workerId view)
    (phase : (fleet.workers index).phase = .executing { active with token := true }) :
    ∃ fewer, fewer ≤ 1 ∧ Withdraws environment workers index active
      (fleetStep environment workers fleet (.advance index now)) fewer := by
  have result : Workers.advance environment (workers index) now fleet.store (fleet.workers index) =
      (continueExecution environment (workers index) { active with token := true }, fleet.store) := by
    rw [Workers.advance, phase]
  have kept : (fleetStep environment workers fleet (.advance index now)).store.view active.runId =
      some view := by
    rw [fleetStep, result]
    exact found
  have own : (fleetStep environment workers fleet (.advance index now)).workers index =
      continueExecution environment (workers index) { active with token := true } := by
    simp [fleetStep, result]
  rw [continueExecution_noticed] at own
  cases outcome : partialReport environment active with
  | error error =>
    refine ⟨0, Nat.zero_le _, view, kept, stopped, .raised outcome ?_⟩
    rw [own, outcome]
  | ok report =>
    refine ⟨1, Nat.le_refl _, view, kept, stopped, .reporting outcome ?_ ?_⟩
    · rw [own, outcome]
    · rw [own]

/-- The step after the report acknowledges the cancellation with it. -/
theorem withdraws_of_reporting {view : RunView} {report : LocalEvaluationReport} (now : Time)
    (evaluating : fleet.Evaluating environment workers)
    (found : fleet.store.view active.runId = some view)
    (stopped : Stopped (partialReport environment active) (workers index).workerId view)
    (outcome : partialReport environment active = .ok report)
    (phase : (fleet.workers index).phase = .reported active.runId report true) :
    Withdraws environment workers index active
      (fleetStep environment workers fleet (.advance index now)) 0 := by
  have made := evaluating index
  rw [phase] at made
  obtain ⟨specification, boundary, ⟨row, stored, rfl⟩, evaluates, _⟩ := made
  obtain rfl : view.run = row := Option.some.inj ((Store.view_eq_some.mp found).1.symm.trans stored)
  obtain ⟨answer, later, after, acknowledged, kept, cancelled⟩ :=
    acknowledgeCancellation_stopped now stopped found evaluates.reportFor
  have result : Workers.advance environment (workers index) now fleet.store (fleet.workers index) =
      ({ fleet.workers index with phase := .idle true }, later) := by
    rw [Workers.advance, phase]
    simp only [↓reduceIte, acknowledged, conclude]
  have issued : Withheld (partialReport environment active) (workers index).workerId active.runId
      (.acknowledgeCancellation active.runId (workers index).workerId (some report)) :=
    fun _ _ => outcome
  have performed : later = perform fleet.store ⟨now,
      .acknowledgeCancellation active.runId (workers index).workerId (some report)⟩ :=
    (congrArg (settle fleet.store) acknowledged).symm
  obtain ⟨next, seen, transition⟩ := perform_view found _
  rw [← performed] at seen
  cases seen.symm.trans kept
  refine ⟨after, ?_, (stopped.transition found transition issued).1, .gone cancelled ?_⟩
  · rw [fleetStep, result]
    exact kept
  · intro held
    simp [fleetStep, result, Phase.inHand] at held

/-- The worker's own step. -/
theorem Withdraws.advance (now : Time) (evaluating : fleet.Evaluating environment workers)
    (withdraws : Withdraws environment workers index active fleet left) :
    ∃ fewer, fewer ≤ left - 1 ∧ Withdraws environment workers index active
      (fleetStep environment workers fleet (.advance index now)) fewer := by
  obtain ⟨view, found, stopped, withdrawing⟩ := id withdraws
  cases withdrawing with
  | noticed phase => exact withdraws_of_noticed now found stopped phase
  | reporting outcome phase unasked =>
    exact ⟨0, Nat.zero_le _, withdraws_of_reporting now evaluating found stopped outcome phase⟩
  | raised raises phase =>
    have result : Workers.advance environment (workers index) now fleet.store (fleet.workers index) =
        (fleet.workers index, fleet.store) := by
      rw [Workers.advance, phase]
    refine ⟨0, Nat.zero_le _, view, ?_, stopped, .raised raises ?_⟩
    · rw [fleetStep, result]
      exact found
    · simpa [fleetStep, result] using phase
  | gone cancelled away =>
    have stepped : WorkerStep (Concludes (workers index) (fleet.workers index).phase) now fleet.store
        (fleet.workers index)
        (Workers.advance environment (workers index) now fleet.store (fleet.workers index)) :=
      advance_step
    refine ⟨0, Nat.zero_le _, withdraws.step (stepped.untouched fun operation concludes =>
      concludes.withheld away) fun other present _ => ?_⟩
    cases present.symm.trans found
    refine .gone cancelled fun held => ?_
    rw [fleetStep, Fleet.moved_own] at held
    exact away (advance_inHand held)

/-- What happens outside the worker, and its polls and heartbeats. -/
theorem Withdraws.aside {event : FleetEvent Index}
    (distinct : Function.Injective fun index => (workers index).workerId)
    (withdraws : Withdraws environment workers index active fleet left)
    (idles : event.advances index = false) :
    Withdraws environment workers index active (fleetStep environment workers fleet event) left := by
  -- A step of another worker leaves this one where it is.
  have apart {other : Index} {issues : Operation → Prop} {now : Time}
      {after : WorkerState σ × Store} (different : other ≠ index)
      (step : WorkerStep issues now fleet.store (fleet.workers other) after)
      (withheld : ∀ operation, issues operation → Withheld (partialReport environment active)
        (workers index).workerId active.runId operation) :
      Withdraws environment workers index active (fleet.moved other after) left := by
    refine withdraws.step (step.untouched withheld) fun _ _ withdrawing => ?_
    simpa [Fleet.moved_apart, different.symm] using withdrawing
  cases event with
  | call call =>
    refine withdraws.step (.inr ⟨call.event, ?_, rfl⟩) fun _ _ withdrawing => withdrawing
    obtain ⟨⟨now, operation⟩, outside⟩ := call
    cases operation with
    | createRun | cancelRun | reconcileStrandedRuns | promoteRun => trivial
    | claimNextRun | heartbeat | acknowledgeCancellation | completeRun => cases outside
  | poll other now =>
    have withheld (operation : Operation)
        (claims : operation = .claimNextRun (workers other).workerId (workers other).leaseSeconds) :
        Withheld (partialReport environment active) (workers index).workerId active.runId operation := by
      subst claims
      trivial
    by_cases same : other = index
    · subst same
      refine withdraws.step (poll_step.untouched withheld) fun view found withdrawing => ?_
      simpa [fleetStep] using withdrawing.poll now (Store.view_eq_some.mp found).1
    · exact apart same poll_step withheld
  | advance other now =>
    have different : other ≠ index := by simpa [FleetEvent.advances] using idles
    exact apart different advance_step fun operation concludes =>
      concludes.foreign (distinct.ne different)
  | beat other now =>
    have withheld (operation : Operation)
        (beats : ∃ target, operation =
          .heartbeat target (workers other).workerId (workers other).leaseSeconds) :
        Withheld (partialReport environment active) (workers index).workerId active.runId operation := by
      obtain ⟨target, rfl⟩ := beats
      trivial
    by_cases same : other = index
    · subst same
      refine withdraws.step (beat_step.untouched withheld) fun _ _ withdrawing => ?_
      simpa [fleetStep] using withdrawing.beat now fleet.store
    · exact apart same beat_step withheld

theorem run_withdraws (distinct : Function.Injective fun index => (workers index).workerId)
    (events : List (FleetEvent Index)) (evaluating : fleet.Evaluating environment workers)
    (withdraws : Withdraws environment workers index active fleet left) :
    ∃ fewer, fewer ≤ left - events.countP (FleetEvent.advances index) ∧
      Withdraws environment workers index active
        (run (fleetStep environment workers) fleet events) fewer := by
  induction events generalizing fleet left with
  | nil => exact ⟨left, Nat.le_refl _, withdraws⟩
  | cons event rest ih =>
    have later := fleetStep_evaluating event evaluating
    rw [run_cons, List.countP_cons]
    by_cases own : event.advances index = true
    · obtain ⟨now, rfl⟩ : ∃ now, event = .advance index now := by
        cases event with
        | advance other now =>
          obtain rfl : other = index := by simpa [FleetEvent.advances] using own
          exact ⟨now, rfl⟩
        | call | poll | beat => cases own
      obtain ⟨fewer, less, onward⟩ := withdraws.advance now evaluating
      obtain ⟨final, fewest, arrived⟩ := ih later onward
      refine ⟨final, ?_, arrived⟩
      rw [if_pos own]
      omega
    · have idles : event.advances index = false := by simpa using own
      obtain ⟨final, fewest, arrived⟩ := ih later (withdraws.aside distinct idles)
      refine ⟨final, ?_, arrived⟩
      rw [idles]
      simpa using fewest

/-- The heartbeat that finds the run cancelled sets the token. -/
theorem withdraws_of_beat {view : RunView} (now : Time)
    (executing : (fleet.workers index).phase = .executing active)
    (found : fleet.store.view active.runId = some view)
    (stopped : Stopped (partialReport environment active) (workers index).workerId view)
    (cancelling : view.run.state = .cancelling) :
    Withdraws environment workers index active
      (fleetStep environment workers fleet (.beat index now)) 2 := by
  have own : (fleetStep environment workers fleet (.beat index now)).workers index =
      (beat (workers index) now fleet.store (fleet.workers index)).1 := by
    simp [fleetStep]
  have refused : (heartbeat now active.runId (workers index).workerId (workers index).leaseSeconds
      fleet.store).1 = false :=
    heartbeat_unheld (Store.view_eq_some.mp found).1 (by rw [cancelling]; decide)
  have phase : (beat (workers index) now fleet.store (fleet.workers index)).1.phase =
      .executing { active with token := true } := by
    unfold beat
    rw [executing]
    dsimp only
    split
    · rename_i set
      rw [executing, ← set]
    · simp only [refused, Bool.not_false]
  have step : WorkerStep (fun operation => ∃ runId, operation =
        .heartbeat runId (workers index).workerId (workers index).leaseSeconds) now fleet.store
      (fleet.workers index) (beat (workers index) now fleet.store (fleet.workers index)) := beat_step
  rcases step.store with same | ⟨operation, ⟨target, rfl⟩, performed⟩
  · refine ⟨view, ?_, stopped, .noticed (own ▸ phase)⟩
    change (beat (workers index) now fleet.store (fleet.workers index)).2.view active.runId = _
    rw [same]
    exact found
  · obtain ⟨after, later, transition⟩ := perform_view found
      ⟨now, .heartbeat target (workers index).workerId (workers index).leaseSeconds⟩
    refine ⟨after, ?_, (stopped.transition found transition trivial).1, .noticed (own ▸ phase)⟩
    change (beat (workers index) now fleet.store (fleet.workers index)).2.view active.runId = _
    rw [performed]
    exact later

end Fleets

section Examples

/-- A run is cancelled after its first case. -/
def cancelledMidway : List (FleetEvent Unit) :=
  [.call (submissionCall (literalSuite ["first", "second"] {} twoGreetings_valid)), .poll () 1,
    .advance () 2, .advance () 3, .advance () 4, .call ⟨⟨5, .cancelRun "run"⟩, rfl⟩]

end Examples

end RegressionDetection.Workers
