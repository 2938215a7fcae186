import RegressionDetection.Execution.Report
import RegressionDetection.Foundation.Table

/-! The persistence schema. Row identifiers that no query reads are left out;
a table's key is its primary key or the unique constraint the code relies on. -/

namespace RegressionDetection.Persistence

open Foundation Specification Providers Policy Execution

/-- UTC time in microseconds. -/
abbrev Time := Int

/-- `timedelta(seconds=seconds)`. -/
def seconds (count : Int) : Time := count * 1000000

inductive RunState where
  | created
  | running
  | completed
  | failed
  | cancelling
  | cancelled
deriving DecidableEq

def RunState.terminal : RunState → Bool
  | .completed | .failed | .cancelled => true
  | .created | .running | .cancelling => false

/-- `execution_status`: the status of the stored report, or `"reconciled"`. -/
inductive ExecutionStatus where
  | reported (status : RunStatus)
  | reconciled
deriving DecidableEq

inductive ReconcileReason where
  | leaseExpired
  | cancelledLeaseExpired
  | staleCreated
deriving DecidableEq

/-- The `metrics` column: the gate's metrics, or the note a reconciliation leaves. -/
inductive StoredMetrics where
  | gate (metrics : RunMetrics)
  | reconciled (moment : Time) (reason : ReconcileReason)
deriving DecidableEq

structure ProjectRow where
  id : String
  slug : String
  name : String
deriving DecidableEq

/-- A run. The snapshot column holds the dumped specification and is kept as the
specification itself. -/
structure RunRow where
  id : String
  projectId : String
  suite : String
  configurationHash : HexDigest
  datasetHash : HexDigest
  snapshot : EvaluationSpecification
  state : RunState
  workerId : Option String := none
  leaseExpiresAt : Option Time := none
  executionStatus : Option ExecutionStatus := none
  gateOutcome : Option GateOutcome := none
  totalCases : Option Nat := none
  metrics : Option StoredMetrics := none
  createdAt : Time
  completedAt : Option Time := none
deriving DecidableEq

/-- One stored case result; `evidence` is kept as the result itself. -/
structure CaseRow where
  runId : String
  caseKey : String
  ordinal : Nat
  outcome : CaseOutcome
  providerStatus : ProviderStatus
  cost : Option ℚ
  evidence : CaseExecutionResult
deriving DecidableEq

/-- `uq_case_results_run_case`. -/
def CaseRow.key (row : CaseRow) : String × String := (row.runId, row.caseKey)

structure BaselineChannelRow where
  projectId : String
  channel : String
  runId : String
  reason : Option String
  previousRunId : Option String
  promotedAt : Time
deriving DecidableEq

/-- `uq_baseline_project_channel`. -/
def BaselineChannelRow.key (row : BaselineChannelRow) : String × String :=
  (row.projectId, row.channel)

structure ProjectTokenRow where
  id : String
  projectId : String
  tokenHash : String
  name : String
  createdAt : Time
  lastUsedAt : Option Time := none
  revokedAt : Option Time := none
deriving DecidableEq

structure IdempotencyRecordRow where
  projectId : String
  idempotencyKey : String
  requestHash : String
  runId : String
deriving DecidableEq

/-- `uq_idempotency_project_key`. -/
def IdempotencyRecordRow.key (row : IdempotencyRecordRow) : String × String :=
  (row.projectId, row.idempotencyKey)

structure Store where
  projects : Table ProjectRow.id
  runs : Table RunRow.id
  cases : Table CaseRow.key
  baselines : Table BaselineChannelRow.key
  tokens : Table ProjectTokenRow.id
  idempotency : Table IdempotencyRecordRow.key

def Store.empty : Store :=
  { projects := Table.empty, runs := Table.empty, cases := Table.empty, baselines := Table.empty,
    tokens := Table.empty, idempotency := Table.empty }

/-- The case rows of one run, in table order. -/
def Store.casesOf (store : Store) (runId : String) : List CaseRow :=
  store.cases.select (fun row => row.runId = runId)

end RegressionDetection.Persistence
