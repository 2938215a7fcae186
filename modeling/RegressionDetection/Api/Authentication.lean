import Mathlib.Data.Set.Function
import RegressionDetection.Api.Auth
import RegressionDetection.Persistence.Finality

/-! Token histories: which requests authenticate after any sequence of issued and
revoked tokens. -/

namespace RegressionDetection.Api

open Foundation Persistence

/-- A token `create_token` returned, with the random bytes drawn for it. -/
structure IssuedToken where
  projectId : String
  tokenId : Uuid
  raw : List UInt8
  salt : List UInt8
deriving DecidableEq

def IssuedToken.secret (token : IssuedToken) : String := tokenSecret token.tokenId token.raw

inductive TokenEvent where
  | create (now : Time) (token : IssuedToken) (name : String)
  | revoke (now : Time) (tokenId : String)
  | authenticate (now : Time) (authorization : Option String)

/-- The store, the tokens issued so far and the ids whose revocation returned True. -/
structure TokenState where
  store : Store
  issued : List IssuedToken
  revoked : List String

/-- No token yet. -/
def TokenState.start (store : Store) : TokenState :=
  { store := { store with tokens := Table.empty }, issued := [], revoked := [] }

section

variable (pbkdf2 : KeyDerivation)

def tokenStep (state : TokenState) : TokenEvent → TokenState
  | .create now token name =>
    match Persistence.createToken now token.tokenId.text state.store token.projectId name
        (generateToken pbkdf2 token.tokenId token.raw token.salt).2 with
    | .ok (_, store) => { state with store, issued := state.issued ++ [token] }
    | .error _ => state
  | .revoke now tokenId =>
    let (revoked, store) := Persistence.revokeToken now tokenId state.store
    { state with store, revoked := if revoked then state.revoked ++ [tokenId] else state.revoked }
  | .authenticate now authorization =>
    { state with
      store := (resolveProject pbkdf2 now authorization (Session.start state.store)).2.current }

/-- What `_resolve_project` answers to a bearer header. -/
def answer (now : Time) (state : TokenState) (secret : String) : Except ApiError (Option String) :=
  (resolveProject pbkdf2 now (some ("Bearer " ++ secret)) (Session.start state.store)).1

end

/-- The secret is that of a token issued for the project and not revoked. -/
def Authorised (state : TokenState) (secret projectId : String) : Prop :=
  ∃ token ∈ state.issued, token.projectId = projectId ∧ token.secret = secret ∧
    token.tokenId.text ∉ state.revoked

/-- The secret is that of a token whose revocation returned True. -/
def PresentsRevoked (state : TokenState) (secret : String) : Prop :=
  ∃ token ∈ state.issued, token.secret = secret ∧ token.tokenId.text ∈ state.revoked

/-- Possession of an unrevoked token is what authenticates; all else gets 403. -/
structure AuthenticationExact (pbkdf2 : KeyDerivation) (now : Time) (state : TokenState)
    (secret : String) : Prop where
  granted : ∀ projectId,
    answer pbkdf2 now state secret = .ok (some projectId) ↔ Authorised state secret projectId
  refused : (∀ projectId, ¬ Authorised state secret projectId) →
    ∃ detail, answer pbkdf2 now state secret = .error (.http 403 detail)

/-- The presented secret and every issued one. -/
def secretsInPlay (state : TokenState) (secret : String) : Set String :=
  {other | other = secret ∨ ∃ token ∈ state.issued, token.secret = other}

section Histories

variable {pbkdf2 : KeyDerivation}

/-- The row stored for an issued token; its revocation mark is left open. -/
def RowOf (pbkdf2 : KeyDerivation) (token : IssuedToken) (row : ProjectTokenRow) : Prop :=
  row.projectId = token.projectId ∧ row.tokenHash = tokenHash pbkdf2 token.salt token.secret

/-- The token table holds exactly the issued tokens. -/
structure TokensSound (pbkdf2 : KeyDerivation) (state : TokenState) : Prop where
  stored : ∀ token ∈ state.issued, ∃ row,
    state.store.tokens.find? token.tokenId.text = some row ∧ RowOf pbkdf2 token row
  issuedOnly : ∀ tokenId row, state.store.tokens.find? tokenId = some row →
    ∃ token ∈ state.issued, token.tokenId.text = tokenId

theorem tokensSound_start (store : Store) : TokensSound pbkdf2 (TokenState.start store) := by
  constructor
  · intro token member
    cases member
  · intro tokenId row found
    cases found

/-- A change that keeps project and digest of every token row. -/
theorem TokensSound.rewritten {state : TokenState} (sound : TokensSound pbkdf2 state) {next : Store}
    {revoked : List String} {set : ProjectTokenRow → ProjectTokenRow}
    (keeps : ∀ row, (set row).projectId = row.projectId ∧ (set row).tokenHash = row.tokenHash)
    (rows : ∀ tokenId, next.tokens.find? tokenId = (state.store.tokens.find? tokenId).map set) :
    TokensSound pbkdf2 { state with store := next, revoked } := by
  constructor
  · intro token member
    obtain ⟨row, found, project, digest⟩ := sound.stored token member
    refine ⟨set row, ?_, (keeps row).1.trans project, (keeps row).2.trans digest⟩
    rw [rows, found]
    rfl
  · intro tokenId row found
    rw [rows] at found
    obtain ⟨original, present, _⟩ := Option.map_eq_some_iff.mp found
    exact sound.issuedOnly tokenId original present

theorem tokenStep_sound (state : TokenState) (event : TokenEvent) (sound : TokensSound pbkdf2 state) :
    TokensSound pbkdf2 (tokenStep pbkdf2 state event) := by
  cases event with
  | create now token name =>
    simp only [tokenStep]
    split
    · rename_i created store outcome
      unfold Persistence.createToken at outcome
      split at outcome
      · obtain ⟨tokens, inserted, made⟩ := bind_eq_ok.mp outcome
        cases made
        have placed := insertRow_eq_ok.mp inserted
        constructor
        · intro issued member
          rcases List.mem_append.mp member with old | new
          · obtain ⟨row, found, matched⟩ := sound.stored issued old
            refine ⟨row, ?_, matched⟩
            have fresh : ¬ token.tokenId.text = issued.tokenId.text := by
              intro same
              have clash := (Table.rows_insert placed).2
              rw [show (ProjectTokenRow.id _) = issued.tokenId.text from same] at clash
              exact clash (List.mem_map.mpr ⟨row, Table.mem_of_find? found, Table.key_of_find? found⟩)
            rw [Table.find?_insert placed, if_neg fresh]
            exact found
          · obtain rfl := List.mem_singleton.mp new
            rw [Table.find?_insert placed, if_pos rfl]
            exact ⟨_, rfl, rfl, rfl⟩
        · intro tokenId row found
          rw [Table.find?_insert placed] at found
          split at found
          · rename_i own
            exact ⟨token, by simp, own⟩
          · obtain ⟨issued, member, id⟩ := sound.issuedOnly tokenId row found
            exact ⟨issued, List.mem_append_left _ member, id⟩
      · cases outcome
    · exact sound
  | revoke now tokenId =>
    refine sound.rewritten ?_ (fun other =>
      Table.find?_update state.store.tokens (revokeHits tokenId) (revokedRow now) (fun _ => rfl) other)
    intro row
    split <;> exact ⟨rfl, rfl⟩
  | authenticate now authorization =>
    simp only [tokenStep]
    cases presented : bearerSecret authorization with
    | none =>
      simp only [resolveProject, presented]
      exact sound
    | some secret =>
      rcases resolveProject_bearer presented now (Session.start state.store) with
        ⟨row, _, touched⟩ | ⟨_, detail, refused⟩
      · rw [touched]
        refine sound.rewritten ?_ (fun other =>
          Table.find?_update state.store.tokens _ (touchedRow now) (fun _ => rfl) other)
        intro row
        split <;> exact ⟨rfl, rfl⟩
      · rw [refused]
        exact sound

variable {state : TokenState} {secret : String}

/-- A secret opens exactly the rows of the tokens it was issued for. -/
theorem opens_iff (sound : TokensSound pbkdf2 state)
    (injective : ∀ token ∈ state.issued, Set.InjOn (pbkdf2 token.salt) (secretsInPlay state secret))
    {row : ProjectTokenRow} :
    Opens pbkdf2 secret state.store row ↔
      ∃ token ∈ state.issued, token.secret = secret ∧
        state.store.tokens.find? token.tokenId.text = some row := by
  constructor
  · rintro ⟨tokenId, _, found, verified⟩
    obtain ⟨token, member, rfl⟩ := sound.issuedOnly tokenId row found
    refine ⟨token, member, ?_, found⟩
    obtain ⟨stored, same, _, digest⟩ := sound.stored token member
    obtain rfl : row = stored := Option.some.inj (found.symm.trans same)
    rw [digest] at verified
    have derived := (verifyToken_tokenHash pbkdf2 token.salt token.secret secret).mp verified
    exact (injective token member (.inl rfl) (.inr ⟨token, member, rfl⟩) derived).symm
  · rintro ⟨token, member, rfl, found⟩
    obtain ⟨stored, same, _, digest⟩ := sound.stored token member
    obtain rfl : row = stored := Option.some.inj (found.symm.trans same)
    refine ⟨token.tokenId.text, parseTokenId_tokenSecret token.tokenId token.raw, found, ?_⟩
    rw [digest]
    exact (verifyToken_tokenHash pbkdf2 token.salt token.secret token.secret).mpr rfl

/-- Possession of any issued token authenticates, revoked or not; all else gets 403. -/
theorem answer_cases (sound : TokensSound pbkdf2 state)
    (injective : ∀ token ∈ state.issued, Set.InjOn (pbkdf2 token.salt) (secretsInPlay state secret))
    (now : Time) :
    (∃ token ∈ state.issued, token.secret = secret ∧
      answer pbkdf2 now state secret = .ok (some token.projectId)) ∨
    ((∀ token ∈ state.issued, token.secret ≠ secret) ∧
      ∃ detail, answer pbkdf2 now state secret = .error (.http 403 detail)) := by
  unfold answer
  rcases resolveProject_bearer (bearerSecret_bearer secret) now (Session.start state.store) with
    ⟨row, opened, answered⟩ | ⟨closed, detail, refused⟩
  · obtain ⟨token, member, same, found⟩ := (opens_iff sound injective).mp opened
    obtain ⟨stored, present, project, _⟩ := sound.stored token member
    obtain rfl : row = stored := Option.some.inj (found.symm.trans present)
    refine .inl ⟨token, member, same, ?_⟩
    rw [answered, project]
  · refine .inr ⟨?_, detail, by rw [refused]⟩
    intro token member same
    obtain ⟨row, found, _⟩ := sound.stored token member
    exact closed row ((opens_iff sound injective).mpr ⟨token, member, same, found⟩)

/-- Tokens with one secret are the same token, stored for one project. -/
theorem TokensSound.unique (sound : TokensSound pbkdf2 state) {first second : IssuedToken}
    (one : first ∈ state.issued) (two : second ∈ state.issued)
    (same : first.secret = second.secret) :
    first.tokenId.text = second.tokenId.text ∧ first.projectId = second.projectId := by
  have ids : some first.tokenId.text = some second.tokenId.text := by
    rw [← parseTokenId_tokenSecret first.tokenId first.raw,
      ← parseTokenId_tokenSecret second.tokenId second.raw]
    exact congrArg parseTokenId same
  have id := Option.some.inj ids
  obtain ⟨row, found, project, _⟩ := sound.stored first one
  obtain ⟨stored, present, other, _⟩ := sound.stored second two
  rw [id] at found
  obtain rfl : row = stored := Option.some.inj (found.symm.trans present)
  exact ⟨id, project.symm.trans other⟩

end Histories

/-- After every history, a bearer header is answered exactly by possession of an
unrevoked token unless it presents a token revoked before: revocation does not
end a token's authentication. -/
theorem authenticationExact_iff (pbkdf2 : KeyDerivation) (store : Store) (events : List TokenEvent)
    (now : Time) (secret : String)
    (injective : ∀ token ∈ (run (tokenStep pbkdf2) (TokenState.start store) events).issued,
      Set.InjOn (pbkdf2 token.salt)
        (secretsInPlay (run (tokenStep pbkdf2) (TokenState.start store) events) secret)) :
    AuthenticationExact pbkdf2 now (run (tokenStep pbkdf2) (TokenState.start store) events) secret ↔
      ¬ PresentsRevoked (run (tokenStep pbkdf2) (TokenState.start store) events) secret := by
  have sound : TokensSound pbkdf2 (run (tokenStep pbkdf2) (TokenState.start store) events) :=
    run_invariant_free (TokensSound pbkdf2) tokenStep_sound events (tokensSound_start store)
  generalize run (tokenStep pbkdf2) (TokenState.start store) events = state at sound injective ⊢
  have outcome := answer_cases sound injective now
  constructor
  · rintro precise ⟨token, member, same, revoked⟩
    rcases outcome with ⟨opened, issued, held, answered⟩ | ⟨absent, _⟩
    · obtain ⟨other, live, _, secretSame, unrevoked⟩ := (precise.granted _).mp answered
      apply unrevoked
      rw [(sound.unique live member (secretSame.trans same.symm)).1]
      exact revoked
    · exact absent token member same
  · intro unrevoked
    have live : ∀ token ∈ state.issued, token.secret = secret →
        token.tokenId.text ∉ state.revoked :=
      fun token member same revoked => unrevoked ⟨token, member, same, revoked⟩
    rcases outcome with ⟨token, issued, same, answered⟩ | ⟨absent, detail, refused⟩
    · refine ⟨fun projectId => ⟨fun granted => ?_, ?_⟩, fun none => ?_⟩
      · have project : token.projectId = projectId := by
          rw [answered] at granted
          exact Option.some.inj (Except.ok.inj granted)
        exact ⟨token, issued, project, same, live token issued same⟩
      · rintro ⟨other, member, rfl, held, _⟩
        rw [answered, (sound.unique issued member (same.trans held.symm)).2]
      · exact absurd ⟨token, issued, rfl, same, live token issued same⟩ (none token.projectId)
    · refine ⟨fun projectId => ⟨fun granted => ?_, ?_⟩, fun _ => ⟨detail, refused⟩⟩
      · rw [refused] at granted
        cases granted
      · rintro ⟨other, member, _, held, _⟩
        exact absurd held (absent other member)

section Examples

/-- A token for the project `"project"` with constant random bytes. -/
def sampleToken : IssuedToken :=
  { projectId := "project"
    tokenId := ⟨"00000000000000000000000000000000", by decide, by decide⟩
    raw := List.replicate 32 1
    salt := List.replicate 32 0 }

/-- The derived keys of the sample token and of one guess at it, under the sample salt. -/
def sampleDerivation : KeyDerivation := fun _ secret =>
  if secret = sampleToken.secret then
    [236, 27, 86, 114, 64, 21, 184, 152, 33, 209, 224, 127, 248, 73, 195, 227, 34, 218, 27, 225, 4,
      9, 184, 6, 174, 174, 46, 187, 0, 27, 206, 193]
  else
    [76, 54, 202, 119, 197, 166, 102, 5, 50, 114, 219, 29, 66, 251, 101, 66, 110, 154, 107, 173, 5,
      128, 118, 225, 55, 192, 115, 145, 225, 14, 5, 231]

/-- The guess: the token's id with a made-up secret part. -/
def guessedSecret : String := "mrds_00000000000000000000000000000000_guess"

/-- The token issued, and then revoked. -/
def issuedAndRevoked : TokenState :=
  run (tokenStep sampleDerivation) (TokenState.start projectStore)
    [.create 0 sampleToken "ci", .revoke 1 sampleToken.tokenId.text]

end Examples

/-- The revoked token still authenticates. -/
theorem revoked_token_authenticates :
    answer sampleDerivation 2 issuedAndRevoked sampleToken.secret = .ok (some "project") ∧
    issuedAndRevoked.issued = [sampleToken] ∧
    issuedAndRevoked.revoked = [sampleToken.tokenId.text] ∧
    ¬ AuthenticationExact sampleDerivation 2 issuedAndRevoked sampleToken.secret := by
  have issued : issuedAndRevoked.issued = [sampleToken] := by decide
  have revoked : issuedAndRevoked.revoked = [sampleToken.tokenId.text] := by decide
  have sound : TokensSound sampleDerivation issuedAndRevoked :=
    run_invariant_free (TokensSound sampleDerivation) tokenStep_sound _ (tokensSound_start projectStore)
  have injective : ∀ token ∈ issuedAndRevoked.issued,
      Set.InjOn (sampleDerivation token.salt) (secretsInPlay issuedAndRevoked sampleToken.secret) := by
    intro token _ first one second two _
    simp only [secretsInPlay, issued, List.mem_singleton, exists_eq_left, Set.mem_ofPred_eq] at one two
    rcases one with rfl | rfl <;> rcases two with rfl | rfl <;> rfl
  have answered : answer sampleDerivation 2 issuedAndRevoked sampleToken.secret =
      .ok (some "project") := by
    rcases answer_cases sound injective 2 with ⟨token, member, _, granted⟩ | ⟨absent, _⟩
    · rw [issued] at member
      obtain rfl := List.mem_singleton.mp member
      exact granted
    · exact absurd rfl (absent sampleToken (by simp [issued]))
  refine ⟨answered, issued, revoked, fun precise => ?_⟩
  obtain ⟨token, member, _, _, live⟩ := (precise.granted "project").mp answered
  rw [issued] at member
  obtain rfl := List.mem_singleton.mp member
  rw [revoked] at live
  exact live (List.mem_singleton.mpr rfl)

/-- A guess at an issued token is answered exactly. -/
theorem guess_answered_exactly :
    AuthenticationExact sampleDerivation 1 (run (tokenStep sampleDerivation)
        (TokenState.start projectStore) [.create 0 sampleToken "ci"]) guessedSecret ↔
      ¬ PresentsRevoked (run (tokenStep sampleDerivation) (TokenState.start projectStore)
        [.create 0 sampleToken "ci"]) guessedSecret := by
  apply authenticationExact_iff sampleDerivation projectStore [.create 0 sampleToken "ci"] 1 guessedSecret
  have issued : (run (tokenStep sampleDerivation) (TokenState.start projectStore)
      [.create 0 sampleToken "ci"]).issued = [sampleToken] := by decide
  have apart : guessedSecret ≠ sampleToken.secret := by decide
  intro token _ first one second two derived
  simp only [secretsInPlay, issued, List.mem_singleton, exists_eq_left, Set.mem_ofPred_eq] at one two
  rcases one with rfl | rfl <;> rcases two with rfl | rfl <;>
    first | rfl | simp [sampleDerivation, apart] at derived

end RegressionDetection.Api
