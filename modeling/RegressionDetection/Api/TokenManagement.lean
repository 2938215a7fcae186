import RegressionDetection.Api.Runs

/-! Token management routes. -/

namespace RegressionDetection.Api

open Foundation Persistence

section

variable (around : Surroundings) (authProjectId : String)

/-- The scope check the token routes share. -/
def requireTokenScope (projectId : String) : Route Unit :=
  if authProjectId ≠ projectId then abort 403 "Token is not scoped to this project"
  else return ()

def tokenResponse (row : ProjectTokenRow) : TokenResponse where
  id := row.id
  projectId := row.projectId
  name := row.name
  createdAt := row.createdAt
  lastUsedAt := row.lastUsedAt
  revokedAt := row.revokedAt

def createToken (projectId : String) (body : CreateTokenRequest) : Route CreateTokenResponse := do
  requireTokenScope authProjectId projectId
  let tokenId := around.uuid.text
  let (secret, tokenHash) := generateToken around.pbkdf2 around.uuid around.raw around.salt
  let _ ← repository fun store =>
    Persistence.createToken around.now tokenId store projectId body.name tokenHash
  Transaction.commit
  return { id := tokenId, projectId, name := body.name, createdAt := around.respondedAt
           lastUsedAt := none, revokedAt := none, token := secret }

def listTokens (projectId : String) : Route (List TokenResponse) := do
  requireTokenScope authProjectId projectId
  let rows ← Transaction.query fun store => Persistence.listTokens store projectId
  return rows.map tokenResponse

/-- The response shows the row as the UPDATE leaves it. -/
def revokeToken (projectId tokenId : String) : Route TokenResponse := do
  requireTokenScope authProjectId projectId
  match ← Transaction.query (getToken tokenId) with
  | none => abort 404 "Token not found"
  | some row =>
    if row.projectId ≠ projectId then abort 404 "Token not found"
    else
      let revoked ← Transaction.statement (Persistence.revokeToken around.now tokenId)
      Transaction.commit
      if revoked then return tokenResponse (revokedRow around.now row)
      else abort 409 "Token already revoked"

end

end RegressionDetection.Api
