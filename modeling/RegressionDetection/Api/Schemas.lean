import RegressionDetection.Api.Auth

/-! Request bodies with their validated bounds, the responses, and what a request
draws from its surroundings. -/

namespace RegressionDetection.Api

open Foundation Specification Providers Policy Execution Persistence

/-- `project_id` follows `^[A-Za-z0-9][A-Za-z0-9._-]*$`. -/
structure RunCreateCommand where
  projectId : String
  specification : EvaluationSpecification
  projectIdBounded : LengthWithin 1 64 projectId
  projectIdShape : startsAlphanumeric projectId = true

structure PromoteRequest where
  reason : Option String
  reasonBounded : ∀ text ∈ reason, text.length ≤ 1000

structure CreateTokenRequest where
  name : String
  nameBounded : LengthWithin 1 200 name

structure RunCreateResponse where
  runId : String
  projectId : String
  suite : String
  configurationHash : HexDigest
  datasetHash : HexDigest

structure RunStatusResponse where
  runId : String
  projectId : String
  suite : String
  state : RunState
  gateOutcome : Option GateOutcome
  totalCases : Option Nat
  createdAt : Time
  completedAt : Option Time

structure CancelRunResponse where
  runId : String
  state : RunState
  alreadyCancelled : Bool

structure CaseEvidenceResponse where
  caseKey : String
  ordinal : Nat
  outcome : CaseOutcome
  providerStatus : ProviderStatus
  cost : Option ℚ
  evidence : CaseExecutionResult

structure RunReportResponse extends RunStatusResponse where
  metrics : Option StoredMetrics
  cases : List CaseEvidenceResponse

structure BaselineResponse where
  channel : String
  runId : String
  reason : Option String
  previousRunId : Option String
  promotedAt : Time

structure PromoteResponse extends BaselineResponse where
  created : Bool

structure TokenResponse where
  id : String
  projectId : String
  name : String
  createdAt : Time
  lastUsedAt : Option Time
  revokedAt : Option Time

structure CreateTokenResponse extends TokenResponse where
  token : String

inductive ApiResponse where
  | runCreated (response : RunCreateResponse)
  | runStatus (response : RunStatusResponse)
  | runReport (response : RunReportResponse)
  | runCancelled (response : CancelRunResponse)
  | promoted (response : PromoteResponse)
  | baseline (response : BaselineResponse)
  | baselines (responses : List BaselineResponse)
  | tokenCreated (response : CreateTokenResponse)
  | tokens (responses : List TokenResponse)
  | tokenRevoked (response : TokenResponse)

/-- What one request draws from its surroundings: the key derivation, the Python
runtime, a fresh uuid, random bytes, and its clock readings in the order made. -/
structure Surroundings where
  pbkdf2 : KeyDerivation
  runtime : Runtime
  uuid : Uuid
  raw : List UInt8
  salt : List UInt8
  authenticatedAt : Time
  now : Time
  respondedAt : Time

end RegressionDetection.Api
