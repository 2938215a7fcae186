import RegressionDetection.Api.Tokens
import RegressionDetection.Foundation.Transaction
import RegressionDetection.Persistence.Repository

/-! Bearer authentication of a request. -/

namespace RegressionDetection.Api

open Foundation Persistence

/-- How a route ends without a response of its own: an `HTTPException`, or an
exception no route handles. -/
inductive ApiError where
  | http (status : Nat) (detail : String)
  | raised (error : PyError)
deriving DecidableEq

/-- A route body in its database session. -/
abbrev Route (α : Type) := Transaction Store ApiError α

/-- `raise HTTPException(status, detail)`. -/
def abort (status : Nat) (detail : String) : Route α := Transaction.raise (.http status detail)

/-- The secret after `"Bearer "`, if the header starts so. -/
def bearerSecret (authorization : Option String) : Option String :=
  (authorization.bind (fun header => dropPrefix? "Bearer ".toList header.toList)).map String.ofList

theorem bearerSecret_bearer (secret : String) :
    bearerSecret (some ("Bearer " ++ secret)) = some secret := by
  rw [bearerSecret, Option.bind_some, String.toList_append, dropPrefix?_append, Option.map_some,
    String.ofList_toList]

section

variable (pbkdf2 : KeyDerivation) (now : Time) (authorization : Option String)

/-- `_resolve_project`: the project of the presented token, or None without one. -/
def resolveProject : Route (Option String) :=
  match bearerSecret authorization with
  | none => return none
  | some secret =>
    match parseTokenId secret with
    | none => abort 403 "Invalid token format"
    | some tokenId => do
      match ← Transaction.query (getToken tokenId) with
      | none => abort 403 "Invalid or revoked token"
      | some row =>
        if verifyToken pbkdf2 secret row.tokenHash then do
          Transaction.statement fun store => ((), touchToken now row.id store)
          return some row.projectId
        else abort 403 "Invalid or revoked token"

def requireProjectId : Route String := do
  match ← resolveProject pbkdf2 now authorization with
  | some projectId => return projectId
  | none => abort 401 "Missing or malformed Authorization header"

def optionalProjectId : Route (Option String) := resolveProject pbkdf2 now authorization

end

/-- A token row that the presented secret opens. -/
def Opens (pbkdf2 : KeyDerivation) (secret : String) (store : Store) (row : ProjectTokenRow) : Prop :=
  ∃ tokenId, parseTokenId secret = some tokenId ∧ store.tokens.find? tokenId = some row ∧
    verifyToken pbkdf2 secret row.tokenHash = true

variable {pbkdf2 : KeyDerivation} {authorization : Option String} {secret : String}

/-- A bearer header either opens a token row, which is touched, or is refused. -/
theorem resolveProject_bearer (presented : bearerSecret authorization = some secret)
    (now : Time) (session : Session Store) :
    (∃ row, Opens pbkdf2 secret session.current row ∧
      resolveProject pbkdf2 now authorization session =
        (.ok (some row.projectId),
          { session with current := touchToken now row.id session.current })) ∨
    ((∀ row, ¬ Opens pbkdf2 secret session.current row) ∧
      ∃ detail, resolveProject pbkdf2 now authorization session =
        (.error (.http 403 detail), session)) := by
  unfold resolveProject
  rw [presented]
  dsimp only
  cases parsed : parseTokenId secret with
  | none =>
    refine .inr ⟨?_, "Invalid token format", rfl⟩
    rintro row ⟨tokenId, some, _⟩
    rw [parsed] at some
    cases some
  | some tokenId =>
    cases found : session.current.tokens.find? tokenId with
    | none =>
      refine .inr ⟨?_, "Invalid or revoked token", ?_⟩
      · rintro row ⟨other, same, present, _⟩
        obtain rfl := Option.some.inj (parsed.symm.trans same)
        rw [found] at present
        cases present
      · simp only [Transaction.bind_apply, Transaction.query, getToken, found]
        rfl
    | some row =>
      by_cases verified : verifyToken pbkdf2 secret row.tokenHash = true
      · refine .inl ⟨row, ⟨tokenId, parsed, found, verified⟩, ?_⟩
        simp only [Transaction.bind_apply, Transaction.query, getToken, found, verified, ↓reduceIte]
        rfl
      · refine .inr ⟨?_, "Invalid or revoked token", ?_⟩
        · rintro other ⟨id, same, present, opened⟩
          obtain rfl := Option.some.inj (parsed.symm.trans same)
          obtain rfl := Option.some.inj (found.symm.trans present)
          exact verified opened
        · simp only [Transaction.bind_apply, Transaction.query, getToken, found, verified]
          rfl

end RegressionDetection.Api
