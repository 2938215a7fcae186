import RegressionDetection.Api.Baselines
import RegressionDetection.Api.TokenManagement

/-! The routes of the runs, baselines and tokens APIs, and one request served in
its own database session. -/

namespace RegressionDetection.Api

open Foundation Persistence

inductive ApiRequest where
  | createRun (command : RunCreateCommand) (idempotencyKey : Option String)
  | getRun (runId : String)
  | getRunReport (runId : String)
  | cancelRun (runId : String)
  | promoteRun (projectId channel : String) (body : PromoteRequest) (runId : Option String)
  | getBaseline (projectId channel : String)
  | listBaselines (projectId : String)
  | createToken (projectId : String) (body : CreateTokenRequest)
  | listTokens (projectId : String)
  | revokeToken (projectId tokenId : String)

/-- A route with optional authentication. -/
def optionally (around : Surroundings) (authorization : Option String)
    (body : Option String → Route α) : Route α := do
  body (← optionalProjectId around.pbkdf2 around.authenticatedAt authorization)

/-- A route that requires authentication. -/
def authenticated (around : Surroundings) (authorization : Option String)
    (body : String → Route α) : Route α := do
  body (← requireProjectId around.pbkdf2 around.authenticatedAt authorization)

def route (around : Surroundings) (authorization : Option String) (request : ApiRequest) :
    Route ApiResponse :=
  match request with
  | .createRun command idempotencyKey =>
    optionally around authorization fun authProjectId =>
      .runCreated <$> createRun around authProjectId command idempotencyKey
  | .getRun runId =>
    optionally around authorization fun authProjectId => .runStatus <$> getRun authProjectId runId
  | .getRunReport runId =>
    optionally around authorization fun authProjectId =>
      .runReport <$> getRunReport authProjectId runId
  | .cancelRun runId =>
    optionally around authorization fun authProjectId =>
      .runCancelled <$> cancelRun around authProjectId runId
  | .promoteRun projectId channel body runId =>
    optionally around authorization fun authProjectId =>
      .promoted <$> promoteRun around authProjectId projectId channel body runId
  | .getBaseline projectId channel =>
    optionally around authorization fun authProjectId =>
      .baseline <$> getBaseline around authProjectId projectId channel
  | .listBaselines projectId =>
    optionally around authorization fun authProjectId =>
      .baselines <$> listBaselines authProjectId projectId
  | .createToken projectId body =>
    authenticated around authorization fun authProjectId =>
      .tokenCreated <$> createToken around authProjectId projectId body
  | .listTokens projectId =>
    authenticated around authorization fun authProjectId =>
      .tokens <$> listTokens authProjectId projectId
  | .revokeToken projectId tokenId =>
    authenticated around authorization fun authProjectId =>
      .tokenRevoked <$> revokeToken around authProjectId projectId tokenId

/-- The response, and the store the request leaves committed. -/
def serve (around : Surroundings) (authorization : Option String) (request : ApiRequest)
    (store : Store) : Except ApiError ApiResponse × Store :=
  (route around authorization request).execute store

end RegressionDetection.Api
