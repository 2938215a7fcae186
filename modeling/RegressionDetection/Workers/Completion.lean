import RegressionDetection.Execution.Evidence
import RegressionDetection.Persistence.Finality
import RegressionDetection.Workers.Worker

/-! A claimed run on which only its worker acts: the steps of `run_once` carry out
one uncancelled evaluation and store its report. -/

namespace RegressionDetection.Workers

open Foundation Specification Providers Policy Execution Persistence

/-- What the worker does by itself, with its clock reading. -/
inductive Tick where
  | advance (now : Time)
  | beat (now : Time)

def Tick.advances : Tick → Bool
  | .advance _ => true
  | .beat _ => false

/-- The database and the one worker that acts on it. -/
structure Alone (σ : Type) where
  store : Store
  worker : WorkerState σ

section

variable (environment : Environment) (worker : Worker σ)

def tick (alone : Alone σ) : Tick → Alone σ
  | .advance now =>
    let (state, store) := advance environment worker now alone.store alone.worker
    { store, worker := state }
  | .beat now =>
    let (state, store) := beat worker now alone.store alone.worker
    { store, worker := state }

/-- `run_once` with the worker's own ticks after the claim, and nobody else's. -/
def runOnce (now : Time) (store : Store) (state : WorkerState σ) (schedule : List Tick) : Alone σ :=
  let (polled, next) := poll worker now store state
  run (tick environment worker) { store := next, worker := polled } schedule

/-- The rest of an evaluation from a case boundary on, when it is not cancelled. -/
def restOfEvaluation (active : ActiveRun σ) : Except PyError (LocalEvaluationReport × σ) := do
  let (loop, stopped) ← executeCases environment worker.retrying active.specification neverCancelled
    active.ordinal active.remaining active.loop
  let report ← reportOf environment active.specification
    (runResult environment active.specification stopped loop.results)
  return (report, loop.provider)

end

/-- `run_once` has returned True, and the run is terminal. -/
def Finished (runId : String) (alone : Alone σ) : Prop :=
  alone.worker.phase = .idle true ∧
    ∃ row, alone.store.runs.find? runId = some row ∧ row.state.terminal = true

/-- The run as the worker holds it: claimed, with no case result yet. -/
structure Held (worker : Worker σ) (runId : String) (specification : EvaluationSpecification)
    (store : Store) : Prop where
  unevaluated : store.casesOf runId = []
  row : ∃ row, store.runs.find? runId = some row ∧ row.state = .running ∧
    row.workerId = some worker.workerId ∧ row.snapshot = specification

/-- The phase of the worker while it carries out the evaluation. -/
def OnCourse (environment : Environment) (worker : Worker σ) (runId : String)
    (specification : EvaluationSpecification) (start : σ) (alone : Alone σ) : Prop :=
  let outcome := executeLocalEvaluation environment worker.retrying specification neverCancelled start
  match alone.worker.phase with
  | .claimed claimed =>
    claimed = runId ∧ alone.worker.provider = start ∧ Held worker runId specification alone.store
  | .admitted admitted =>
    admitted = runId ∧ alone.worker.provider = start ∧ Held worker runId specification alone.store
  | .executing active =>
    active.runId = runId ∧ active.specification = specification ∧ active.token = false ∧
      restOfEvaluation environment worker active = outcome ∧
      Held worker runId specification alone.store
  | .reported reported report token =>
    reported = runId ∧ token = false ∧ outcome = .ok (report, alone.worker.provider) ∧
      Held worker runId specification alone.store
  | .idle processed => processed = true ∧ (∃ result, outcome = .ok result) ∧ Finished runId alone
  | .raised error => outcome = .error error ∧ Held worker runId specification alone.store
  | .cancelSeen _ => False

/-- How many steps `run_once` still takes at most. -/
def Phase.stepsLeft (caseCount : Nat) : Phase σ → Nat
  | .claimed _ => caseCount + 4
  | .admitted _ => caseCount + 3
  | .executing active => active.remaining.length + 2
  | .reported _ _ _ | .cancelSeen _ => 1
  | .idle _ | .raised _ => 0

section Steps

variable {environment : Environment} {worker : Worker σ} {runId : String}
  {specification : EvaluationSpecification} {start : σ} {alone : Alone σ}

/-- A heartbeat of the holder is answered and extends the lease only. -/
theorem heartbeat_held {store : Store} (held : Held worker runId specification store) (now : Time) :
    (heartbeat now runId worker.workerId worker.leaseSeconds store).1 = true ∧
      Held worker runId specification
        (heartbeat now runId worker.workerId worker.leaseSeconds store).2 := by
  obtain ⟨row, found, running, owner, snapshot⟩ := held.row
  have hit : heartbeatMatches worker.workerId row = true := by simp [heartbeatMatches, owner, running]
  have counted := Table.matching_key store.runs runId (heartbeatMatches worker.workerId)
  rw [found, Option.any_some, if_pos hit] at counted
  have updated := Table.find?_updateKey store.runs runId (heartbeatMatches worker.workerId)
    (heartbeatRow (now + seconds worker.leaseSeconds)) (heartbeatRow_id _) runId
  rw [if_pos rfl, found, Option.map_some, if_pos hit] at updated
  refine ⟨?_, held.unevaluated, _, updated, running, owner, snapshot⟩
  unfold heartbeat heartbeatHits
  rw [counted]
  rfl

/-- The report of every case is stored on a held run, which ends it. -/
theorem completeRun_held {store : Store} (held : Held worker runId specification store) (now : Time)
    {report : LocalEvaluationReport} (summarised : Summarised report)
    (keys : report.run.cases.map CaseExecutionResult.caseKey =
      specification.val.cases.map GoldenCase.key) :
    ∃ next, completeRun now runId store report (some worker.workerId) = .ok (true, next) ∧
      ∃ row, next.runs.find? runId = some row ∧ row.state.terminal = true := by
  obtain ⟨row, found, _, owner, _⟩ := held.row
  obtain ⟨rows, built⟩ := caseRows_returns.mpr summarised
  have fresh : (store.cases.rows.map CaseRow.key ++ rows.map CaseRow.key).Nodup := by
    rw [caseRows_keys built]
    refine List.nodup_append.mpr ⟨store.cases.distinct, ?_, ?_⟩
    · have distinct := specification.property.references.caseKeys
      rw [← keys] at distinct
      rw [show (fun case : CaseExecutionResult => (runId, case.caseKey)) =
        (fun key => (runId, key)) ∘ CaseExecutionResult.caseKey from rfl, ← List.map_map]
      exact distinct.map fun _ _ same => congrArg Prod.snd same
    · intro stored member fresh listed same
      obtain ⟨other, present, rfl⟩ := List.mem_map.mp member
      obtain ⟨case, _, rfl⟩ := List.mem_map.mp listed
      have own : other ∈ store.casesOf runId :=
        List.mem_filter.mpr ⟨present, decide_eq_true (congrArg Prod.fst same)⟩
      rw [held.unevaluated] at own
      cases own
  obtain ⟨cases, inserted⟩ : ∃ cases, insertRows store.cases rows = .ok cases :=
    ⟨⟨store.cases.rows ++ rows, by simpa using fresh⟩,
      insertRows_eq_ok.mpr (Table.insertAll?_eq_some_iff.mpr ⟨rfl, fresh⟩)⟩
  have holder : row.heldBy (some worker.workerId) = true := by simp [RunRow.heldBy, owner]
  refine ⟨{ store.flushRun row (completeRow now report row) with cases },
    bind_eq_ok.mpr ⟨row, findRun_eq_ok.mpr found, ?_⟩, ?_⟩
  · rw [if_pos holder]
    exact bind_eq_ok.mpr ⟨rows, built, bind_eq_ok.mpr ⟨_, inserted, rfl⟩⟩
  · have flushed : (store.flushRun row (completeRow now report row)).runs.find? runId =
        some (completeRow now report row) := by
      simp [Store.flushRun, Table.find?_update, found]
    refine ⟨_, flushed, ?_⟩
    unfold completeRow
    dsimp only
    split <;> rfl

theorem beat_onCourse (now : Time)
    (course : OnCourse environment worker runId specification start alone) :
    OnCourse environment worker runId specification start (tick environment worker alone (.beat now)) ∧
      ∀ caseCount, (tick environment worker alone (.beat now)).worker.phase.stepsLeft caseCount =
        alone.worker.phase.stepsLeft caseCount := by
  obtain ⟨store, phase, provider⟩ := alone
  cases phase with
  | executing active =>
    obtain ⟨rfl, rfl, token, rest, held⟩ := course
    obtain ⟨answered, later⟩ := heartbeat_held held now
    simp only [tick, beat, token, Bool.false_eq_true, ↓reduceIte]
    exact ⟨⟨rfl, rfl, by simp [answered], rest, later⟩, fun _ => rfl⟩
  | idle processed => exact ⟨course, fun _ => rfl⟩
  | claimed claimed => exact ⟨course, fun _ => rfl⟩
  | cancelSeen seen => exact ⟨course, fun _ => rfl⟩
  | admitted admitted => exact ⟨course, fun _ => rfl⟩
  | reported reported report token => exact ⟨course, fun _ => rfl⟩
  | raised error => exact ⟨course, fun _ => rfl⟩

/-- An evaluation starts with the preflight, and then is in its loop. -/
theorem beginExecution_onCourse {store : Store} (held : Held worker runId specification store)
    (state : WorkerState σ) (started : state.provider = start) :
    OnCourse environment worker runId specification start
      { store, worker := { state with phase := beginExecution environment state runId specification } } ∧
      (beginExecution environment state runId specification).stepsLeft
        specification.val.cases.length ≤ specification.val.cases.length + 2 := by
  subst started
  unfold beginExecution
  cases checked : preflightCheck environment.runtime specification.val with
  | error error =>
    refine ⟨⟨?_, held⟩, Nat.zero_le _⟩
    exact bind_eq_error.mpr (.inl (bind_eq_error.mpr (.inl checked)))
  | ok passed =>
    refine ⟨⟨rfl, rfl, rfl, ?_, held⟩, Nat.le_refl _⟩
    unfold restOfEvaluation executeLocalEvaluation executeLocal
    rw [checked]
    dsimp only
    cases executeCases environment worker.retrying specification neverCancelled 0
      specification.val.cases (initialLoop state.provider) <;> rfl

/-- The report of an uncancelled evaluation covers the cases of the specification. -/
theorem evaluation_covers {report : LocalEvaluationReport} {later : σ}
    (returned : executeLocalEvaluation environment worker.retrying specification neverCancelled start =
      .ok (report, later)) :
    Summarised report ∧ report.run.cases.map CaseExecutionResult.caseKey =
      specification.val.cases.map GoldenCase.key := by
  obtain ⟨⟨run, after⟩, executed, rest⟩ := bind_eq_ok.mp returned
  obtain ⟨made, reported, same⟩ := bind_eq_ok.mp rest
  cases same
  obtain ⟨rfl, keys⟩ := reportOf_ok reported
  refine ⟨?_, (executeLocal_ok executed).2.1⟩
  intro case member
  rw [keys]
  exact List.mem_map.mpr ⟨case, member, rfl⟩

/-- The end of the loop: the report is made, or its exception raised. -/
theorem finishExecution_onCourse {store : Store} {active : ActiveRun σ}
    (held : Held worker active.runId active.specification store) (token : active.token = false)
    (rest : restOfEvaluation environment worker active =
      executeLocalEvaluation environment worker.retrying active.specification neverCancelled start)
    (done : active.remaining = []) :
    OnCourse environment worker active.runId active.specification start
      { store, worker := finishExecution environment active false } ∧
      ∀ caseCount, (finishExecution environment active false).phase.stepsLeft caseCount ≤ 1 := by
  unfold restOfEvaluation at rest
  rw [done] at rest
  unfold finishExecution
  dsimp only
  cases made : reportOf environment active.specification
      (runResult environment active.specification false active.loop.results) with
  | error error =>
    refine ⟨⟨?_, held⟩, fun _ => Nat.zero_le _⟩
    rw [← rest]
    exact bind_eq_error.mpr (.inr ⟨_, rfl, bind_eq_error.mpr (.inl made)⟩)
  | ok report =>
    refine ⟨⟨rfl, token, ?_, held⟩, fun _ => Nat.le_refl _⟩
    rw [← rest]
    exact bind_eq_ok.mpr ⟨_, rfl, bind_eq_ok.mpr ⟨report, made, rfl⟩⟩

/-- One case of the loop. -/
theorem continueExecution_onCourse {store : Store} {active : ActiveRun σ}
    (held : Held worker active.runId active.specification store) (token : active.token = false)
    (rest : restOfEvaluation environment worker active =
      executeLocalEvaluation environment worker.retrying active.specification neverCancelled start) :
    OnCourse environment worker active.runId active.specification start
      { store, worker := continueExecution environment worker active } ∧
      ∀ caseCount, (continueExecution environment worker active).phase.stepsLeft caseCount ≤
        active.remaining.length + 1 := by
  unfold continueExecution
  split
  · rename_i done
    obtain ⟨course, count⟩ := finishExecution_onCourse held token rest done
    refine ⟨course, fun caseCount => Nat.le_trans (count caseCount) (Nat.le_add_left _ _)⟩
  · rename_i case others remaining
    rw [if_neg (by simp [token])]
    unfold restOfEvaluation at rest
    rw [remaining] at rest
    simp only [executeCases, neverCancelled, Bool.false_eq_true, ↓reduceIte] at rest
    cases executed : executeCase environment worker.retrying active.specification active.ordinal case
        active.loop with
    | error error =>
      refine ⟨⟨?_, held⟩, fun _ => Nat.zero_le _⟩
      rw [← rest, executed]
      rfl
    | ok next =>
      refine ⟨⟨rfl, rfl, token, ?_, held⟩, fun _ => ?_⟩
      · rw [← rest, executed]
        rfl
      · simp [Phase.stepsLeft, remaining]

theorem advance_onCourse (now : Time)
    (course : OnCourse environment worker runId specification start alone) :
    OnCourse environment worker runId specification start
        (tick environment worker alone (.advance now)) ∧
      (tick environment worker alone (.advance now)).worker.phase.stepsLeft
        specification.val.cases.length ≤
          alone.worker.phase.stepsLeft specification.val.cases.length - 1 := by
  obtain ⟨store, phase, provider⟩ := alone
  cases phase with
  | idle processed => exact ⟨course, Nat.le_refl _⟩
  | raised error => exact ⟨course, Nat.le_refl _⟩
  | cancelSeen seen => exact course.elim
  | claimed claimed =>
    obtain ⟨rfl, started, held⟩ := course
    obtain ⟨row, found, running, _⟩ := held.row
    have live : isCancelled store claimed = false := by
      simp [isCancelled, getRun, found, running]
    simp only [tick, advance, live, Bool.false_eq_true, ↓reduceIte]
    exact ⟨⟨rfl, started, held⟩, Nat.le_refl _⟩
  | admitted admitted =>
    obtain ⟨rfl, started, held⟩ := course
    obtain ⟨row, found, _, _, rfl⟩ := id held.row
    simp only [tick, advance, getRun, found, Option.map_some]
    exact beginExecution_onCourse held _ started
  | executing active =>
    obtain ⟨rfl, rfl, token, rest, held⟩ := course
    obtain ⟨onward, count⟩ := continueExecution_onCourse held token rest
    exact ⟨onward, count _⟩
  | reported reported report token =>
    obtain ⟨rfl, rfl, returned, held⟩ := course
    obtain ⟨summarised, keys⟩ := evaluation_covers returned
    obtain ⟨next, completed, terminal⟩ := completeRun_held held now summarised keys
    simp only [tick, advance, Bool.false_eq_true, ↓reduceIte, conclude, completed]
    exact ⟨⟨rfl, ⟨_, returned⟩, rfl, terminal⟩, Nat.le_refl _⟩

/-- A claimed run is held by its claimer. -/
theorem claimBranch_held {store next : Store} {now : Time} {run : RunRow} {branch : ClaimBranch}
    (claims : claimBranch now worker.workerId worker.leaseSeconds store branch = (some runId, next))
    (found : store.runs.find? runId = some run) (unevaluated : store.casesOf runId = []) :
    Held worker runId run.snapshot next := by
  cases selected : selectCandidate now store branch with
  | none =>
    rw [claimBranch, selected] at claims
    cases claims
  | some candidate =>
    rw [claimBranch_some selected] at claims
    cases claims
    obtain ⟨picked, present, meets⟩ := selectCandidate_some selected
    obtain rfl := Option.some.inj (found.symm.trans present)
    have updated := Table.find?_updateKey store.runs runId (fun run => decide (run.state = branch.state))
      (claimRow worker.workerId (now + seconds worker.leaseSeconds)) (claimRow_id worker.workerId _) runId
    rw [if_pos rfl, found, Option.map_some, if_pos (by simpa using candidate_state meets)] at updated
    exact ⟨unevaluated, _, updated, rfl, rfl, rfl⟩

theorem claimNextRun_held {store next : Store} {now : Time} {run : RunRow}
    (claims : claimNextRun now worker.workerId worker.leaseSeconds store = (some runId, next))
    (found : store.runs.find? runId = some run) (unevaluated : store.casesOf runId = []) :
    Held worker runId run.snapshot next := by
  unfold claimNextRun at claims
  cases first : claimBranch now worker.workerId worker.leaseSeconds store .created with
  | mk claimed later =>
    rw [first] at claims
    cases claimed with
    | some candidate =>
      cases claims
      exact claimBranch_held first found unevaluated
    | none =>
      obtain rfl := claimBranch_none first
      exact claimBranch_held claims found unevaluated

/-- On course, every tick leads on, and each step of `run_once` brings its end nearer. -/
theorem run_onCourse (schedule : List Tick)
    (course : OnCourse environment worker runId specification start alone) :
    OnCourse environment worker runId specification start
        (run (tick environment worker) alone schedule) ∧
      (run (tick environment worker) alone schedule).worker.phase.stepsLeft
        specification.val.cases.length ≤
          alone.worker.phase.stepsLeft specification.val.cases.length -
            schedule.countP Tick.advances := by
  induction schedule generalizing alone with
  | nil => exact ⟨course, Nat.le_refl _⟩
  | cons event rest ih =>
    cases event with
    | beat now =>
      obtain ⟨onward, same⟩ := beat_onCourse now course
      obtain ⟨arrived, count⟩ := ih onward
      rw [same] at count
      exact ⟨arrived, by simpa [Tick.advances] using count⟩
    | advance now =>
      obtain ⟨onward, less⟩ := advance_onCourse now course
      obtain ⟨arrived, count⟩ := ih onward
      refine ⟨arrived, Nat.le_trans count ?_⟩
      rw [List.countP_cons_of_pos rfl]
      omega

/-- Without steps left, `run_once` has finished or raised, as the evaluation does. -/
theorem finished_iff_of_onCourse
    (course : OnCourse environment worker runId specification start alone)
    (ended : alone.worker.phase.stepsLeft specification.val.cases.length = 0) :
    Finished runId alone ↔ ∃ result,
      executeLocalEvaluation environment worker.retrying specification neverCancelled start =
        .ok result := by
  obtain ⟨store, phase, provider⟩ := alone
  cases phase with
  | idle processed =>
    obtain ⟨_, returned, finished⟩ := course
    exact ⟨fun _ => returned, fun _ => finished⟩
  | raised error =>
    obtain ⟨raised, _⟩ := course
    refine ⟨fun finished => ?_, fun ⟨result, returned⟩ => ?_⟩
    · cases finished.1
    · cases raised.symm.trans returned
  | cancelSeen seen => exact course.elim
  | claimed claimed => cases ended
  | admitted admitted => cases ended
  | executing active => cases ended
  | reported reported report token => cases ended

/-- After a claim, enough ticks bring `run_once` to its end on course. -/
theorem runOnce_ends {now : Time} {store : Store} {state : WorkerState σ} {processed : Bool}
    (idle : state.phase = .idle processed)
    (claims : (claimNextRun now worker.workerId worker.leaseSeconds store).1 = some runId)
    {row : RunRow} (found : store.runs.find? runId = some row)
    (unevaluated : store.casesOf runId = []) {schedule : List Tick}
    (enough : row.snapshot.val.cases.length + 4 ≤ schedule.countP Tick.advances) :
    OnCourse environment worker runId row.snapshot state.provider
        (runOnce environment worker now store state schedule) ∧
      (runOnce environment worker now store state schedule).worker.phase.stepsLeft
        row.snapshot.val.cases.length = 0 := by
  obtain ⟨next, claimed⟩ : ∃ next,
      claimNextRun now worker.workerId worker.leaseSeconds store = (some runId, next) :=
    ⟨_, Prod.ext claims rfl⟩
  have polled : poll worker now store state = ({ state with phase := .claimed runId }, next) := by
    rw [poll, idle, claimed]
  have course : OnCourse environment worker runId row.snapshot state.provider
      { store := next, worker := { state with phase := .claimed runId } } :=
    ⟨rfl, rfl, claimNextRun_held claimed found unevaluated⟩
  obtain ⟨arrived, count⟩ := run_onCourse schedule course
  unfold runOnce
  rw [polled]
  exact ⟨arrived,
    Nat.le_zero.mp (Nat.le_trans count (Nat.le_of_eq (Nat.sub_eq_zero_of_le enough)))⟩

end Steps

section Examples

/-- A literal prompt with one case per key. -/
def literalSuite (keys : List String) (limits : ExecutionLimits)
    (valid : (plainDocument "Say ok" keys limits).Valid) : EvaluationSpecification :=
  ⟨plainDocument "Say ok" keys limits, valid⟩

/-- The submission of a run of the specification as `"run"`. -/
def submission (specification : EvaluationSpecification) : Event :=
  ⟨0, .createRun "project" specification HexDigest.zero HexDigest.zero none none "run"⟩

/-- The row that a submission inserts. -/
def submittedRow (specification : EvaluationSpecification) : RunRow :=
  createdRow 0 "run" "project" specification HexDigest.zero HexDigest.zero

def sampleWorker : Worker Unit where
  workerId := "worker"
  leaseSeconds := 60
  maxRetries := 3
  provider := Provider.ok

def idleWorker : WorkerState Unit := { phase := .idle false, provider := () }

theorem greeting_renders : ∀ case ∈ (literalSuite ["first"] {} greeting_valid).val.cases, ∃ request,
    buildRequest Environment.plain (literalSuite ["first"] {} greeting_valid).val case =
      .ok request := by
  intro case member
  obtain rfl := List.mem_singleton.mp member
  have built : (buildRequest Environment.plain (literalSuite ["first"] {} greeting_valid).val
      { key := "first", inputs := [], expected := .str "ok", evaluators := ["exact"] }).isOk =
        true := by decide
  cases outcome : buildRequest Environment.plain (literalSuite ["first"] {} greeting_valid).val
      { key := "first", inputs := [], expected := .str "ok", evaluators := ["exact"] } with
  | ok request => exact ⟨request, rfl⟩
  | error error =>
    rw [outcome] at built
    cases built

theorem twoCases_valid :
    (plainDocument "Say ok" ["first", "second"] { maxCases := some 1 }).Valid := by decide +kernel

/-- A specification of two cases, limited to one. -/
def overLimit : EvaluationSpecification := literalSuite _ _ twoCases_valid

end Examples

end RegressionDetection.Workers
