import RegressionDetection.Api.Runs

/-! Baseline promotion and retrieval routes. -/

namespace RegressionDetection.Api

open Foundation Specification Persistence

section

variable (around : Surroundings) (authProjectId : Option String)

/-- The scope check the baseline routes share. -/
def requireScope (projectId : String) : Route Unit :=
  if authProjectId.any (fun scope => scope ≠ projectId) then
    abort 403 "Token is scoped to a different project"
  else return ()

def baselineResponse (record : BaselineChannelRow) : BaselineResponse where
  channel := record.channel
  runId := record.runId
  reason := record.reason
  previousRunId := record.previousRunId
  promotedAt := record.promotedAt

def promoteRun (projectId channel : String) (body : PromoteRequest) (runId : Option String) :
    Route PromoteResponse :=
  match runId with
  | none => abort 400 "run_id query parameter is required"
  | some runId => do
    requireScope authProjectId projectId
    let result ← repository fun store =>
      Persistence.promoteRun around.now projectId channel runId body.reason store
    Transaction.commit
    match result with
    | none => abort 422 ("Run " ++ pyRepr around.runtime.printable runId ++
        " does not exist, is not completed, or did not pass")
    | some (created, record) => return { baselineResponse record with created }

def getBaseline (projectId channel : String) : Route BaselineResponse := do
  requireScope authProjectId projectId
  match ← Transaction.query (Persistence.getBaseline projectId channel) with
  | none => abort 404 ("Baseline " ++ pyRepr around.runtime.printable channel ++
      " not found for project " ++ pyRepr around.runtime.printable projectId)
  | some record => return baselineResponse record

def listBaselines (projectId : String) : Route (List BaselineResponse) := do
  requireScope authProjectId projectId
  let records ← Transaction.query (Persistence.listBaselines projectId)
  return records.map baselineResponse

end

end RegressionDetection.Api
