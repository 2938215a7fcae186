import RegressionDetection.Persistence.Repository

/-! The worker. One `run_once` is a sequence of database transactions with the
execution of the cases between them; other sessions act, and the worker's own
heartbeats are sent, between any two of its steps. -/

namespace RegressionDetection.Workers

open Foundation Specification Providers Execution Persistence

/-- `RetryProvider.generate` with the retries that are left. -/
def retry (inner : Provider σ) (request : InferenceRequest) : Nat → σ → InferenceResult × σ
  | 0, state => inner.generate state request
  | retries + 1, state =>
    let (result, later) := inner.generate state request
    if result.status ≠ .error ∨ result.error.all (fun error => !error.retryable) = true then
      (result, later)
    else retry inner request retries later

def retryProvider (inner : Provider σ) (maxRetries : Nat) : Provider σ where
  generate state request := retry inner request maxRetries state

structure Worker (σ : Type) where
  workerId : String
  leaseSeconds : Int
  maxRetries : Nat
  provider : Provider σ

/-- A run inside `_execute_with_heartbeat`, at a case boundary. The token is set by
the heartbeat that fails, which is also the last one. -/
structure ActiveRun (σ : Type) where
  runId : String
  specification : EvaluationSpecification
  ordinal : Nat
  remaining : List GoldenCase
  loop : LoopState σ
  token : Bool

/-- Where `run_once` is: between calls with its last answer, before one of its
transactions, or ended by an exception, which also ends `run_forever`. -/
inductive Phase (σ : Type) where
  | idle (processed : Bool)
  | claimed (runId : String)
  | cancelSeen (runId : String)
  | admitted (runId : String)
  | executing (active : ActiveRun σ)
  | reported (runId : String) (report : LocalEvaluationReport) (token : Bool)
  | raised (error : PyError)

/-- The worker's own state, with that of its provider. -/
structure WorkerState (σ : Type) where
  phase : Phase σ
  provider : σ

section

variable (environment : Environment) (worker : Worker σ) (now : Time) (store : Store)
  (state : WorkerState σ)

/-- The provider of an execution, `retrying`. -/
def Worker.retrying : Provider σ := retryProvider worker.provider worker.maxRetries

/-- The first transaction of `run_once`. -/
def poll : WorkerState σ × Store :=
  match state.phase with
  | .idle _ =>
    match claimNextRun now worker.workerId worker.leaseSeconds store with
    | (some runId, next) => ({ state with phase := .claimed runId }, next)
    | (none, next) => ({ state with phase := .idle false }, next)
  | _ => (state, store)

/-- `_is_cancelled`. -/
def isCancelled (runId : String) : Bool :=
  match getRun runId store with
  | none => true
  | some (run, _) => decide (run.state = .cancelling) || decide (run.state = .cancelled)

/-- The start of an execution: `execute_local` up to its loop. -/
def beginExecution (runId : String) (specification : EvaluationSpecification) : Phase σ :=
  match preflightCheck environment.runtime specification.val with
  | .error error => .raised error
  | .ok () =>
    .executing { runId, specification, ordinal := 0, remaining := specification.val.cases
                 loop := initialLoop state.provider, token := false }

/-- The end of an execution: the report of the results so far. -/
def finishExecution (active : ActiveRun σ) (stopped : Bool) : WorkerState σ :=
  let run := runResult environment active.specification stopped active.loop.results
  { provider := active.loop.provider
    phase :=
      match reportOf environment active.specification run with
      | .error error => .raised error
      | .ok report => .reported active.runId report active.token }

/-- One case of an execution, or its end. -/
def continueExecution (active : ActiveRun σ) : WorkerState σ :=
  match active.remaining with
  | [] => finishExecution environment active false
  | case :: rest =>
    if active.token then finishExecution environment active true
    else
      match executeCase environment worker.retrying active.specification active.ordinal case
          active.loop with
      | .error error => { provider := active.loop.provider, phase := .raised error }
      | .ok loop =>
        { provider := loop.provider
          phase := .executing { active with ordinal := active.ordinal + 1, remaining := rest, loop } }

/-- A transaction that ends `run_once` with True, unless it raises. -/
def conclude (outcome : Except PyError (Bool × Store)) : WorkerState σ × Store :=
  match outcome with
  | .ok (_, next) => ({ state with phase := .idle true }, next)
  | .error error => ({ state with phase := .raised error }, store)

/-- The next step of a `run_once` that has claimed a run. -/
def advance : WorkerState σ × Store :=
  match state.phase with
  | .idle _ | .raised _ => (state, store)
  | .claimed runId =>
    ({ state with phase := if isCancelled store runId then .cancelSeen runId else .admitted runId },
      store)
  | .cancelSeen runId =>
    conclude store state (acknowledgeCancellation now runId worker.workerId store none)
  | .admitted runId =>
    match getRun runId store with
    | none => ({ state with phase := .idle true }, store)
    | some (run, _) =>
      ({ state with phase := beginExecution environment state runId run.snapshot }, store)
  | .executing active => (continueExecution environment worker active, store)
  | .reported runId report token =>
    if token then
      conclude store state (acknowledgeCancellation now runId worker.workerId store (some report))
    else conclude store state (completeRun now runId store report (some worker.workerId))

/-- One turn of `_heartbeat_loop`, which runs during an execution. -/
def beat : WorkerState σ × Store :=
  match state.phase with
  | .executing active =>
    if active.token then (state, store)
    else
      let (ok, next) := heartbeat now active.runId worker.workerId worker.leaseSeconds store
      ({ state with phase := .executing { active with token := !ok } }, next)
  | _ => (state, store)

end

end RegressionDetection.Workers
