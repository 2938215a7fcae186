import RegressionDetection.Api.Schemas
import RegressionDetection.Specification.Loader

/-! Run submission and status routes; each is given the project that the caller's
token resolves to. -/

namespace RegressionDetection.Api

open Foundation Specification Persistence

section

variable (around : Surroundings) (authProjectId : Option String)

def maxIdempotencyKeyLength : Nat := 200

/-- `command.model_dump(mode="json")`. -/
def RunCreateCommand.modelDump (command : RunCreateCommand) : Json :=
  .obj [("project_id", .str command.projectId),
    ("specification", command.specification.val.modelDump false)]

/-- `auth_project_id or command.project_id`. -/
def effectiveProjectId (command : RunCreateCommand) : String :=
  match authProjectId with
  | some projectId => if projectId = "" then command.projectId else projectId
  | none => command.projectId

/-- A repository call; its exceptions reach the route. -/
def repository (f : Store → Except PyError (α × Store)) : Route α :=
  Transaction.attempt fun store => (f store).mapError .raised

/-- `repository.create_run` with the route's `except IdempotencyConflictError`. -/
def createRunOrConflict (projectId : String) (command : RunCreateCommand)
    (idempotencyKey : Option String) : Route String := fun session =>
  let hashes := specificationHashes around.runtime command.specification.val
  let requestHash := idempotencyKey.map fun _ => (contentHash around.runtime command.modelDump).text
  match Persistence.createRun around.now around.uuid.text session.current session.committed projectId
      command.specification hashes.configuration hashes.dataset idempotencyKey requestHash with
  | .ok (runId, next) => (.ok runId, { session with current := next })
  | .error (.idempotencyConflict key) =>
    (.error (.http 409 (PyError.text around.runtime (.idempotencyConflict key))), session)
  | .error error => (.error (.raised error), session)

def createRun (command : RunCreateCommand) (idempotencyKey : Option String) :
    Route RunCreateResponse := do
  if idempotencyKey.any (fun key => key.length = 0 || key.length > maxIdempotencyKeyLength) then
    abort 400 "Idempotency-Key must be between 1 and 200 characters"
  else if authProjectId.any (fun projectId => projectId ≠ command.projectId) then
    abort 403 "Token is scoped to a different project"
  else
    let projectId := effectiveProjectId authProjectId command
    let hashes := specificationHashes around.runtime command.specification.val
    let _ ← repository fun store => ensureProject store projectId projectId projectId
    let runId ← createRunOrConflict around projectId command idempotencyKey
    Transaction.commit
    return { runId, projectId, suite := command.specification.val.suite
             configurationHash := hashes.configuration, datasetHash := hashes.dataset }

/-- The lookup and scope check the run routes share. -/
def scopedRun (runId : String) : Route (RunRow × List CaseRow) := do
  match ← Transaction.query (Persistence.getRun runId) with
  | none => abort 404 "Run not found"
  | some (run, cases) =>
    if authProjectId.any (fun projectId => run.projectId ≠ projectId) then abort 404 "Run not found"
    else return (run, cases)

/-- The lookup finds the stored row, unless it is out of the caller's scope. -/
theorem scopedRun_eq (runId : String) (session : Session Store) :
    scopedRun authProjectId runId session =
      match (session.current.runs.find? runId).filter fun run =>
          authProjectId.all fun projectId => decide (run.projectId = projectId) with
      | none => (.error (.http 404 "Run not found"), session)
      | some run => (.ok (run, (session.current.casesOf runId).insertionSort
          fun first second => first.ordinal ≤ second.ordinal), session) := by
  unfold scopedRun
  rw [Transaction.bind_apply]
  cases found : session.current.runs.find? runId with
  | none => simp [Transaction.query, Persistence.getRun, found, abort, Transaction.raise]
  | some run =>
    simp only [Transaction.query, Persistence.getRun, found, Option.map_some]
    cases authProjectId with
    | none => rfl
    | some projectId =>
      by_cases own : run.projectId = projectId
      · rw [Option.filter_some_pos (by simpa using own)]
        simp [own, pure]
      · rw [Option.filter_some_neg (by simpa using own)]
        simp [own, abort, Transaction.raise]

def statusResponse (run : RunRow) : RunStatusResponse where
  runId := run.id
  projectId := run.projectId
  suite := run.suite
  state := run.state
  gateOutcome := run.gateOutcome
  totalCases := run.totalCases
  createdAt := run.createdAt
  completedAt := run.completedAt

def caseResponse (row : CaseRow) : CaseEvidenceResponse where
  caseKey := row.caseKey
  ordinal := row.ordinal
  outcome := row.outcome
  providerStatus := row.providerStatus
  cost := row.cost
  evidence := row.evidence

def getRun (runId : String) : Route RunStatusResponse := do
  let (run, _) ← scopedRun authProjectId runId
  return statusResponse run

def getRunReport (runId : String) : Route RunReportResponse := do
  let (run, cases) ← scopedRun authProjectId runId
  return { statusResponse run with metrics := run.metrics, cases := cases.map caseResponse }

def cancelRun (runId : String) : Route CancelRunResponse := do
  let (run, _) ← scopedRun authProjectId runId
  if run.state = .cancelling ∨ run.state = .cancelled then
    return { runId := run.id, state := run.state, alreadyCancelled := true }
  else do
    -- LookupError is the only exception of `cancel_run`.
    let changed ← Transaction.attempt fun store =>
      (Persistence.cancelRun around.now runId store).mapError fun _ => .http 404 "Run not found"
    Transaction.commit
    if changed then do
      match ← Transaction.query (Persistence.getRun runId) with
      | none => Transaction.raise (.raised (.external "AssertionError"))
      | some (row, _) => return { runId := row.id, state := row.state, alreadyCancelled := false }
    else abort 409 "Run is already in a terminal state (completed/failed)"

end

end RegressionDetection.Api
