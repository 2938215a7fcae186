import RegressionDetection.Persistence.Statements

/-! The run repository. Each method is a function of the session's view of the
store and returns the view it leaves; an exception keeps no change, the session
being discarded without a commit. Clock readings and fresh ids are arguments. -/

namespace RegressionDetection.Persistence

open Foundation Specification Providers Policy Execution

section Sessions

variable (store : Store)

/-- An INSERT flush; a violated unique constraint is an IntegrityError. -/
def insertRow {Key : Type} {Row : Type} {key : Row → Key} [DecidableEq Key] (table : Table key)
    (row : Row) : Except PyError (Table key) :=
  match table.insert? row with
  | some next => .ok next
  | none => .error .integrityError

def insertRows {Key : Type} {Row : Type} {key : Row → Key} [DecidableEq Key] (table : Table key)
    (rows : List Row) : Except PyError (Table key) :=
  match table.insertAll? rows with
  | some next => .ok next
  | none => .error .integrityError

/-- `session.get(RunRow, run_id)`, raising LookupError. -/
def findRun (runId : String) : Except PyError RunRow :=
  match store.runs.find? runId with
  | some run => .ok run
  | none => .error (.runMissing runId)

/-- The flush of one loaded run with assigned columns. -/
def Store.flushRun (loaded changed : RunRow) : Store :=
  { store with
    runs := store.runs.update (fun run => run.id = loaded.id) (RunRow.flush loaded changed)
      (RunRow.flush_id loaded changed) }

end Sessions

section Lifecycle

variable (now : Time) (runId : String) (workerId : String) (leaseSeconds : Int) (store : Store)

def ensureProject (projectId slug name : String) : Except PyError (ProjectRow × Store) :=
  match store.projects.find? projectId with
  | some existing => .ok (existing, store)
  | none =>
    -- The slug has a unique constraint of its own.
    if slug ∈ store.projects.rows.map ProjectRow.slug then .error .integrityError
    else do
      let project : ProjectRow := { id := projectId, slug, name }
      let projects ← insertRow store.projects project
      return (project, { store with projects })

def findIdempotentRun (projectId idempotencyKey requestHash : String) : Except PyError String :=
  match store.idempotency.find? (projectId, idempotencyKey) with
  | none => .error .noResultFound
  | some record =>
    if record.requestHash ≠ requestHash then .error (.idempotencyConflict idempotencyKey)
    else .ok record.runId

/-- The row `create_run` inserts. -/
def createdRow (projectId : String) (specification : EvaluationSpecification)
    (configurationHash datasetHash : HexDigest) : RunRow :=
  { id := runId, projectId, suite := specification.val.suite, configurationHash, datasetHash,
    snapshot := specification, state := .created, createdAt := now }

/-- The first INSERT of `create_run`; the project is a foreign key. -/
def insertRun (row : RunRow) : Except PyError Store :=
  if row.projectId ∈ store.projects.rows.map ProjectRow.id then do
    let runs ← insertRow store.runs row
    return { store with runs }
  else .error .integrityError

/-- `create_run` with the fresh id `runId`. A colliding idempotency record rolls
the session back to the committed store, where the existing run is looked up. -/
def createRun (committed : Store) (projectId : String) (specification : EvaluationSpecification)
    (configurationHash datasetHash : HexDigest) (idempotencyKey requestHash : Option String) :
    Except PyError (String × Store) := do
  let inserted ← insertRun store
    (createdRow now runId projectId specification configurationHash datasetHash)
  match idempotencyKey with
  | none => return (runId, inserted)
  | some key =>
    let record : IdempotencyRecordRow :=
      { projectId, idempotencyKey := key, requestHash := requestHash.getD "", runId }
    match inserted.idempotency.insert? record with
    | some idempotency => return (runId, { inserted with idempotency })
    | none => do
      let existing ← findIdempotentRun committed projectId key (requestHash.getD "")
      return (existing, committed)

def completeRun (report : LocalEvaluationReport) (workerId : Option String) :
    Except PyError (Bool × Store) := do
  let run ← findRun store runId
  if run.heldBy workerId then do
    let rows ← caseRows runId report
    let cases ← insertRows store.cases rows
    return (true, { store.flushRun run (completeRow now report run) with cases })
  else return (false, store)

/-- `ORDER BY created_at LIMIT 1`, the first inserted among equals. -/
def earliest : List RunRow → Option RunRow
  | [] => none
  | run :: rest =>
    match earliest rest with
    | none => some run
    | some other => if other.createdAt < run.createdAt then some other else some run

/-- The SELECT of one branch of `claim_next_run`. -/
def selectCandidate (branch : ClaimBranch) : Option String :=
  (earliest (store.runs.select (branch.candidate now))).map RunRow.id

/-- The condition of the claim's UPDATE: the id and the state, nothing else. -/
def claimHits (branch : ClaimBranch) (run : RunRow) : Bool :=
  decide (run.id = runId) && decide (run.state = branch.state)

/-- The conditional UPDATE of one branch and its row count. -/
def updateClaim (branch : ClaimBranch) : Nat × Store :=
  (store.runs.matching (claimHits runId branch),
    { store with
      runs := store.runs.update (claimHits runId branch)
        (claimRow workerId (now + seconds leaseSeconds)) (claimRow_id workerId _) })

def claimBranch (branch : ClaimBranch) : Option String × Store :=
  match selectCandidate now store branch with
  | none => (none, store)
  | some candidate =>
    let (count, next) := updateClaim now candidate workerId leaseSeconds store branch
    (if count = 1 then some candidate else none, next)

def claimNextRun : Option String × Store :=
  match claimBranch now workerId leaseSeconds store .created with
  | (some claimed, next) => (some claimed, next)
  | (none, next) => claimBranch now workerId leaseSeconds next .expired

/-- One UPDATE of `reconcile_stranded_runs` and its row count. -/
def reconcileRuns (reason : ReconcileReason) (cutoff : Time) : Nat × Store :=
  (store.runs.matching (reason.matches cutoff),
    { store with
      runs := store.runs.update (reason.matches cutoff) (reconcileRow reason now)
        (reconcileRow_id reason now) })

def reconcileStrandedRuns (leaseGraceSeconds : Int) (maxCreatedAgeSeconds : Option Int) :
    Nat × Store :=
  let cutoff := now - seconds leaseGraceSeconds
  let (failed, first) := reconcileRuns now store .leaseExpired cutoff
  let (cancelled, second) := reconcileRuns now first .cancelledLeaseExpired cutoff
  match maxCreatedAgeSeconds with
  | none => (failed + cancelled, second)
  | some age =>
    let (stale, third) := reconcileRuns now second .staleCreated (now - seconds age)
    (failed + cancelled + stale, third)

def cancelRun : Except PyError (Bool × Store) := do
  let run ← findRun store runId
  return ((cancelRow now run).1, store.flushRun run (cancelRow now run).2)

def acknowledgeCancellation (report : Option LocalEvaluationReport) :
    Except PyError (Bool × Store) := do
  let run ← findRun store runId
  if run.state = .cancelling ∧ run.heldBy (some workerId) = true then do
    let rows ← report.elim (.ok []) (caseRows runId)
    let cases ← insertRows store.cases rows
    return (true, { store.flushRun run (acknowledgeRow now report run) with cases })
  else return (false, store)

/-- The condition of the heartbeat's UPDATE. -/
def heartbeatHits (run : RunRow) : Bool := decide (run.id = runId) && heartbeatMatches workerId run

def heartbeat : Bool × Store :=
  (decide (store.runs.matching (heartbeatHits runId workerId) = 1),
    { store with
      runs := store.runs.update (heartbeatHits runId workerId)
        (heartbeatRow (now + seconds leaseSeconds)) (heartbeatRow_id _) })

/-- `get_run`: the row with its cases by ordinal. -/
def getRun : Option (RunRow × List CaseRow) :=
  (store.runs.find? runId).map fun run =>
    (run, (store.casesOf runId).insertionSort (fun a b => a.ordinal ≤ b.ordinal))

end Lifecycle

section Baselines

variable (now : Time) (projectId channel runId : String) (reason : Option String) (store : Store)

/-- Eligible for promotion. -/
def RunRow.promotable (run : RunRow) : Bool :=
  decide (run.state = .completed) && decide (run.gateOutcome = some .pass)

/-- The row a promotion inserts for a new channel. -/
def newBaseline : BaselineChannelRow :=
  { projectId, channel, runId, reason, previousRunId := none, promotedAt := now }

/-- The assignments of a promotion over an existing row. -/
def replaceBaseline (previousRunId : String) (row : BaselineChannelRow) : BaselineChannelRow :=
  { row with runId, reason, previousRunId := some previousRunId }

theorem replaceBaseline_key (previousRunId : String) (row : BaselineChannelRow) :
    (replaceBaseline runId reason previousRunId row).key = row.key := rfl

/-- The condition of a promotion's UPDATE. -/
def baselineHits (previousRunId : String) (row : BaselineChannelRow) : Bool :=
  decide (row.key = (projectId, channel)) && decide (row.runId = previousRunId)

/-- Insertion of a baseline row; the project is a foreign key. -/
def insertBaseline (row : BaselineChannelRow) : Except PyError Store :=
  if row.projectId ∈ store.projects.rows.map ProjectRow.id then do
    let baselines ← insertRow store.baselines row
    return { store with baselines }
  else .error .integrityError

/-- `promote_run` once the run is known to be eligible. -/
def promoteEligible : Except PyError (Option (Bool × BaselineChannelRow) × Store) :=
  match store.baselines.find? (projectId, channel) with
  | none => do
    let row := newBaseline now projectId channel runId reason
    let next ← insertBaseline store row
    return (some (true, row), next)
  | some existing =>
    if existing.runId = runId then .ok (some (true, existing), store)
    else
      let hits := baselineHits projectId channel existing.runId
      let next :=
        { store with
          baselines := store.baselines.update hits (replaceBaseline runId reason existing.runId)
            (replaceBaseline_key runId reason _) }
      if store.baselines.matching hits = 0 then .ok (none, next)
      else .ok (some (false, replaceBaseline runId reason existing.runId existing), next)

def promoteRun : Except PyError (Option (Bool × BaselineChannelRow) × Store) :=
  if (store.runs.find? runId).any RunRow.promotable then
    promoteEligible now projectId channel runId reason store
  else .ok (none, store)

def getBaseline : Option BaselineChannelRow := store.baselines.find? (projectId, channel)

def listBaselines : List BaselineChannelRow :=
  (store.baselines.select (fun row => row.projectId = projectId)).insertionSort
    (fun a b => a.channel ≤ b.channel)

/-- Most recent first, ties by descending id. -/
def listRuns : List RunRow :=
  (store.runs.select (fun run => run.projectId = projectId)).insertionSort
    (fun a b => b.createdAt < a.createdAt ∨ (a.createdAt = b.createdAt ∧ b.id ≤ a.id))

end Baselines

section Tokens

variable (now : Time) (tokenId : String) (store : Store)

/-- `create_token` with an explicit row id; the project is a foreign key. -/
def createToken (projectId name tokenHash : String) : Except PyError (String × Store) :=
  if projectId ∈ store.projects.rows.map ProjectRow.id then do
    let tokens ← insertRow store.tokens
      { id := tokenId, projectId, tokenHash, name, createdAt := now }
    return (tokenId, { store with tokens })
  else .error .integrityError

def getToken : Option ProjectTokenRow := store.tokens.find? tokenId

def listTokens (projectId : String) : List ProjectTokenRow :=
  (store.tokens.select (fun row => row.projectId = projectId ∧ row.revokedAt = none)).insertionSort
    (fun a b => a.createdAt ≤ b.createdAt)

/-- The condition of the UPDATE of `revoke_token`. -/
def revokeHits (row : ProjectTokenRow) : Bool :=
  decide (row.id = tokenId) && decide (row.revokedAt = none)

def revokedRow (row : ProjectTokenRow) : ProjectTokenRow := { row with revokedAt := some now }

def revokeToken : Bool × Store :=
  (decide (store.tokens.matching (revokeHits tokenId) = 1),
    { store with
      tokens := store.tokens.update (revokeHits tokenId) (revokedRow now) (fun _ => rfl) })

def touchedRow (row : ProjectTokenRow) : ProjectTokenRow := { row with lastUsedAt := some now }

def touchToken : Store :=
  { store with
    tokens := store.tokens.update (fun row => row.id = tokenId) (touchedRow now) (fun _ => rfl) }

/-- The lookup that does exclude revoked tokens; no caller in the package uses it. -/
def findTokenByHash (tokenHash : String) : Except PyError (Option ProjectTokenRow) :=
  match store.tokens.select (fun row => row.tokenHash = tokenHash ∧ row.revokedAt = none) with
  | [] => .ok none
  | [row] => .ok (some row)
  | _ => .error (.external "MultipleResultsFound")

end Tokens

end RegressionDetection.Persistence
