import RegressionDetection.Api.Authentication
import RegressionDetection.Api.IsolatedBaselines

/-! Project isolation as a two-run property of every route. -/

namespace RegressionDetection.Api

open Foundation Specification Policy Execution Persistence

/-- The rows of other projects neither show in the response nor change, and leave no
trace in the project's rows. -/
structure Noninterfering (projectId : String) (around : Surroundings)
    (authorization : Option String) (request : ApiRequest) (first second : Store) : Prop where
  response : (serve around authorization request first).1 =
    (serve around authorization request second).1
  own : rowsOf projectId (serve around authorization request first).2 =
    rowsOf projectId (serve around authorization request second).2
  firstOthers : otherRows projectId (serve around authorization request first).2 =
    otherRows projectId first
  secondOthers : otherRows projectId (serve around authorization request second).2 =
    otherRows projectId second

/-- The stores agree on whether a run may be promoted. -/
def SameEligibility (first second : Store) (runId : String) : Prop :=
  (first.runs.find? runId).any RunRow.promotable = (second.runs.find? runId).any RunRow.promotable
deriving Decidable

/-- Every run that the request promotes for the project is eligible in both stores or
in neither. -/
def PromotesAlike (projectId : String) (request : ApiRequest) (first second : Store) : Prop :=
  match request with
  | .promoteRun requested _ _ (some runId) =>
    requested = projectId → SameEligibility first second runId
  | _ => True

section

variable {projectId : String} {first second : Store} {around : Surroundings}
  {authorization : Option String}

/-- A route body behind optional authentication. -/
theorem optionally_alike {body : Option String → Route α}
    (isolated : Isolated projectId first second first second)
    (allowed : ScopedTo projectId around.pbkdf2 authorization first) (fresh : Fresh around.uuid first)
    (otherFresh : Fresh around.uuid second)
    (alike : Transaction.Alike (Authenticated projectId first second around.uuid)
      (Settled projectId first second) (body (some projectId)) fun _ => Settled projectId first second) :
    Transaction.Alike (fun left right => left = Session.start first ∧ right = Session.start second)
      (Settled projectId first second) (optionally around authorization body)
      fun _ => Settled projectId first second :=
  (authenticate_alike isolated allowed fresh otherFresh).bind fun _ =>
    alike_given fun same => same ▸ alike

/-- A route body behind mandatory authentication. -/
theorem authenticated_alike {body : String → Route α}
    (isolated : Isolated projectId first second first second)
    (allowed : ScopedTo projectId around.pbkdf2 authorization first) (fresh : Fresh around.uuid first)
    (otherFresh : Fresh around.uuid second)
    (alike : Transaction.Alike (Authenticated projectId first second around.uuid)
      (Settled projectId first second) (body projectId) fun _ => Settled projectId first second) :
    Transaction.Alike (fun left right => left = Session.start first ∧ right = Session.start second)
      (Settled projectId first second) (authenticated around authorization body)
      fun _ => Settled projectId first second := by
  have required : Transaction.Alike
      (fun left right => left = Session.start first ∧ right = Session.start second)
      (Settled projectId first second)
      (requireProjectId around.pbkdf2 around.authenticatedAt authorization)
      fun value left right =>
        value = projectId ∧ Authenticated projectId first second around.uuid left right := by
    refine (authenticate_alike isolated allowed fresh otherFresh).bind fun value =>
      alike_given fun same => ?_
    subst same
    exact .pure fun _ _ done => ⟨rfl, done⟩
  exact required.bind fun _ => alike_given fun same => same ▸ alike

/-- Every route, one case per endpoint. -/
theorem route_alike (isolated : Isolated projectId first second first second)
    (allowed : ScopedTo projectId around.pbkdf2 authorization first) (fresh : Fresh around.uuid first)
    (otherFresh : Fresh around.uuid second) (request : ApiRequest)
    (eligible : PromotesAlike projectId request first second) :
    Transaction.Alike (fun left right => left = Session.start first ∧ right = Session.start second)
      (Settled projectId first second) (route around authorization request)
      fun _ => Settled projectId first second := by
  cases request with
  | createRun command idempotencyKey =>
    exact optionally_alike isolated allowed fresh otherFresh
      ((createRun_alike command idempotencyKey).map fun _ _ _ => id)
  | getRun runId =>
    exact optionally_alike isolated allowed fresh otherFresh ((getRun_alike runId).map fun _ _ _ => id)
  | getRunReport runId =>
    exact optionally_alike isolated allowed fresh otherFresh
      ((getRunReport_alike runId).map fun _ _ _ => id)
  | cancelRun runId =>
    exact optionally_alike isolated allowed fresh otherFresh
      ((cancelRun_route_alike runId).map fun _ _ _ => id)
  | promoteRun requested channel body runId =>
    refine optionally_alike isolated allowed fresh otherFresh
      ((promoteRun_alike requested channel body runId ?_).map fun _ _ _ => id)
    rintro run same inside
    obtain rfl := Option.mem_def.mp same
    exact eligible inside
  | getBaseline requested channel =>
    exact optionally_alike isolated allowed fresh otherFresh
      ((getBaseline_alike requested channel).map fun _ _ _ => id)
  | listBaselines requested =>
    exact optionally_alike isolated allowed fresh otherFresh
      ((listBaselines_alike requested).map fun _ _ _ => id)
  | createToken requested body =>
    exact authenticated_alike isolated allowed fresh otherFresh
      ((createToken_alike requested body).map fun _ _ _ => id)
  | listTokens requested =>
    exact authenticated_alike isolated allowed fresh otherFresh
      ((listTokens_alike requested).map fun _ _ _ => id)
  | revokeToken requested tokenId =>
    exact authenticated_alike isolated allowed fresh otherFresh
      ((revokeToken_alike requested tokenId).map fun _ _ _ => id)

/-- The promotion route of an authenticated request. -/
theorem route_promoteRun {store : Store} {secret : String} {row : ProjectTokenRow}
    (presented : bearerSecret authorization = some secret)
    (opened : Opens around.pbkdf2 secret store row) (own : row.projectId = projectId)
    (channel : String) (body : PromoteRequest) (runId : Option String) :
    route around authorization (.promoteRun projectId channel body runId) (Session.start store) =
      (ApiResponse.promoted <$> promoteRun around (some projectId) projectId channel body runId)
        ⟨store, touchToken around.authenticatedAt row.id store⟩ := by
  change (optionalProjectId around.pbkdf2 around.authenticatedAt authorization >>= _) _ = _
  rw [Transaction.bind_apply, authenticate_opened presented opened own]

/-- A promotion for the project succeeds where the run is eligible, and only there. -/
theorem serve_promoteRun {store : Store}
    (present : projectId ∈ store.projects.rows.map ProjectRow.id)
    (allowed : ScopedTo projectId around.pbkdf2 authorization store) (channel runId : String)
    (body : PromoteRequest) :
    (∃ response, (serve around authorization (.promoteRun projectId channel body (some runId))
      store).1 = .ok response) ↔ (store.runs.find? runId).any RunRow.promotable = true := by
  obtain ⟨secret, row, presented, opened, own⟩ := allowed
  have ran := route_promoteRun presented opened own channel body (some runId)
  unfold serve Transaction.execute
  rw [ran]
  constructor
  · rintro ⟨response, accepted⟩
    by_contra unfit
    obtain ⟨detail, later, refused⟩ : ∃ detail later,
        promoteRun around (some projectId) projectId channel body (some runId)
          ⟨store, touchToken around.authenticatedAt row.id store⟩ =
            (.error (.http 422 detail), later) := promoteRun_refuses channel body unfit
    rw [Transaction.map_apply, refused] at accepted
    cases accepted
  · intro ready
    obtain ⟨response, later, accepted⟩ : ∃ response later,
        promoteRun around (some projectId) projectId channel body (some runId)
          ⟨store, touchToken around.authenticatedAt row.id store⟩ = (.ok response, later) :=
      promoteRun_accepts channel body present ready
    rw [Transaction.map_apply, accepted]
    exact ⟨_, rfl⟩

/-- A request shows or changes nothing of other projects unless it promotes a run that
only one of the two stores has ready. -/
theorem noninterfering_iff (agree : rowsOf projectId first = rowsOf projectId second)
    (keys : ForeignKeys first) (otherKeys : ForeignKeys second)
    (allowed : ScopedTo projectId around.pbkdf2 authorization first) (request : ApiRequest)
    (fresh : Fresh around.uuid first) (otherFresh : Fresh around.uuid second) :
    Noninterfering projectId around authorization request first second ↔
      PromotesAlike projectId request first second := by
  obtain ⟨secret, row, presented, opened, own⟩ := id allowed
  have present : projectId ∈ first.projects.rows.map ProjectRow.id := by
    obtain ⟨_, _, found, _⟩ := opened
    exact own ▸ keys.tokens row (Table.mem_of_find? found)
  have isolated := isolated_start agree keys otherKeys present
  constructor
  · intro secure
    unfold PromotesAlike
    split
    · rename_i requested channel body runId
      intro inside
      subst inside
      have one := serve_promoteRun isolated.leftProject allowed channel runId body
      have two := serve_promoteRun isolated.rightProject
        ⟨secret, row, presented, opens_owned agree opened own, own⟩ channel runId body
      rw [← secure.response] at two
      exact Bool.eq_iff_iff.mpr (one.symm.trans two)
    · trivial
  · intro eligible
    obtain ⟨same, settled⟩ := route_alike isolated allowed fresh otherFresh request eligible _ _
      ⟨rfl, rfl⟩
    have final : Settled projectId first second
        (route around authorization request (Session.start first)).2
        (route around authorization request (Session.start second)).2 := by
      split at settled <;> exact settled
    exact { response := same, own := final.own, firstOthers := final.leftOthers
            secondOthers := final.rightOthers }

end

section Examples

/-- The only run, of the project `"other"`. -/
def otherRun (state : RunState) (gateOutcome : Option GateOutcome) : RunRow :=
  { createdRow 0 "run" "other" ⟨plainDocument "Say ok" ["first"] {}, greeting_valid⟩ HexDigest.zero
      HexDigest.zero with state, gateOutcome }

/-- The stored row of the sample token. -/
def sampleRow : ProjectTokenRow :=
  { id := sampleToken.tokenId.text, projectId := sampleToken.projectId
    tokenHash := tokenHash sampleDerivation sampleToken.salt sampleToken.secret
    name := "ci", createdAt := 0 }

theorem twoProjects_distinct : ["project", "other"].Nodup := by decide

/-- The sample token's project next to another one with a run. -/
def twoProjects (otherRun : RunRow) : Store :=
  { Store.empty with
    projects :=
      ⟨[{ id := "project", slug := "project", name := "project" },
        { id := "other", slug := "other", name := "other" }], twoProjects_distinct⟩
    runs := ⟨[otherRun], List.nodup_singleton _⟩
    tokens := ⟨[sampleRow], List.nodup_singleton _⟩ }

def sampleSurroundings : Surroundings where
  pbkdf2 := sampleDerivation
  runtime := Runtime.ascii
  uuid := ⟨"11111111111111111111111111111111", by decide, by decide⟩
  raw := []
  salt := []
  authenticatedAt := 1
  now := 2
  respondedAt := 3

def sampleAuthorization : Option String := some ("Bearer " ++ sampleToken.secret)

def samplePromotion : ApiRequest := .promoteRun "project" "main" ⟨none, by simp⟩ (some "run")

def readyStore : Store := twoProjects (otherRun .completed (some .pass))

def pendingStore : Store := twoProjects (otherRun .created none)

theorem twoProjects_foreignKeys (state : RunState) (gateOutcome : Option GateOutcome) :
    ForeignKeys (twoProjects (otherRun state gateOutcome)) where
  runs := by simp [twoProjects, otherRun, createdRow]
  cases := by simp [twoProjects, Store.empty, Table.empty]
  baselines := by simp [twoProjects, Store.empty, Table.empty]
  tokens := by simp [twoProjects, sampleRow, sampleToken]
  idempotency := by simp [twoProjects, Store.empty, Table.empty]

theorem twoProjects_scoped (run : RunRow) :
    ScopedTo "project" sampleSurroundings.pbkdf2 sampleAuthorization (twoProjects run) := by
  have verified : verifyToken sampleDerivation sampleToken.secret sampleRow.tokenHash = true :=
    (verifyToken_tokenHash sampleDerivation sampleToken.salt sampleToken.secret
      sampleToken.secret).mpr rfl
  have found : (twoProjects run).tokens.find? sampleToken.tokenId.text = some sampleRow :=
    Table.find?_eq_some_iff.mpr ⟨List.mem_singleton_self _, rfl⟩
  exact ⟨sampleToken.secret, sampleRow, bearerSecret_bearer _,
    ⟨_, parseTokenId_tokenSecret _ _, found, verified⟩, rfl⟩

theorem twoProjects_fresh (state : RunState) (gateOutcome : Option GateOutcome) :
    Fresh sampleSurroundings.uuid (twoProjects (otherRun state gateOutcome)) := by
  simp [Fresh, twoProjects, otherRun, createdRow, sampleSurroundings, sampleRow, sampleToken]

theorem twoProjects_rowsOf (state : RunState) (gateOutcome : Option GateOutcome) :
    rowsOf "project" (twoProjects (otherRun state gateOutcome)) =
      rowsOf "project" (twoProjects (otherRun .created none)) := by
  simp [rowsOf, slice, twoProjects, otherRun, createdRow, Table.select, Store.empty, Table.empty]

end Examples

/-- The project's token promotes the other project's run exactly when it has passed,
and so learns that it has. -/
theorem promotion_discloses_run :
    rowsOf "project" readyStore = rowsOf "project" pendingStore ∧
    ForeignKeys readyStore ∧ ForeignKeys pendingStore ∧
    ScopedTo "project" sampleSurroundings.pbkdf2 sampleAuthorization readyStore ∧
    Fresh sampleSurroundings.uuid readyStore ∧ Fresh sampleSurroundings.uuid pendingStore ∧
    ¬ Noninterfering "project" sampleSurroundings sampleAuthorization samplePromotion readyStore
      pendingStore := by
  refine ⟨twoProjects_rowsOf _ _, twoProjects_foreignKeys _ _, twoProjects_foreignKeys _ _,
    twoProjects_scoped _, twoProjects_fresh _ _, twoProjects_fresh _ _, fun secure => ?_⟩
  have present (run : RunRow) : "project" ∈ (twoProjects run).projects.rows.map ProjectRow.id := by
    simp [twoProjects]
  have ready : (readyStore.runs.find? "run").any RunRow.promotable = true := by decide
  have answered (run : RunRow) := serve_promoteRun (present run) (twoProjects_scoped run) "main" "run"
    ⟨none, by simp⟩
  have pending := (answered _).mp (secure.response ▸ (answered _).mpr ready)
  exact absurd pending (by decide)

/-- A status request for the other project's run is answered alike whatever the run's state. -/
theorem status_hides_run :
    Noninterfering "project" sampleSurroundings sampleAuthorization (.getRun "run") readyStore
      pendingStore :=
  (noninterfering_iff (twoProjects_rowsOf _ _) (twoProjects_foreignKeys _ _)
    (twoProjects_foreignKeys _ _) (twoProjects_scoped _) (.getRun "run") (twoProjects_fresh _ _)
    (twoProjects_fresh _ _)).mpr trivial

end RegressionDetection.Api
