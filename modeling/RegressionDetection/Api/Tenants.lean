import RegressionDetection.Api.Noninterference
import RegressionDetection.Foundation.Unwinding

/-! Whole histories of requests by the token holders of several projects. A project sees nothing of
the others' requests, as long as it promotes no run of theirs. -/

namespace RegressionDetection.Api

open Foundation Specification Policy Persistence

/-- A request with a bearer token, and what surrounds it. -/
structure TokenRequest where
  around : Surroundings
  secret : String
  request : ApiRequest

def TokenRequest.authorization (request : TokenRequest) : Option String :=
  some ("Bearer " ++ request.secret)

def serveToken (store : Store) (request : TokenRequest) : Except ApiError ApiResponse × Store :=
  serve request.around request.authorization request.request store

/-- The promotion, if it is one of the project, names no run of another project. -/
def PromotesOwn (projectId : String) (store : Store) : ApiRequest → Prop
  | .promoteRun requested _ _ (some runId) =>
    requested = projectId → ∀ row, store.runs.find? runId = some row → row.projectId = projectId
  | _ => True

/-- The requests of the project's tokens are the ones that are called its own. -/
structure Admissible (projectId : String) (mine : TokenRequest → Bool) (store : Store)
    (request : TokenRequest) : Prop where
  fresh : Fresh request.around.uuid store
  owns : mine request = true ↔
    ScopedTo projectId request.around.pbkdf2 request.authorization store
  promotes : mine request = true → PromotesOwn projectId store request.request

/-- The foreign keys that isolation rests on. -/
structure Housed (store : Store) : Prop where
  cases : ∀ row ∈ store.cases.rows, row.runId ∈ store.runs.rows.map RunRow.id
  tokens : ∀ row ∈ store.tokens.rows, row.projectId ∈ store.projects.rows.map ProjectRow.id

theorem ForeignKeys.housed {store : Store} (keys : ForeignKeys store) : Housed store :=
  ⟨keys.cases, keys.tokens⟩

section Slices

variable {projectId other : String} {first second : Store}

/-- The project among the rows of several. -/
def Rows.within (rows : Rows) (projectId : String) : Rows where
  projects := rows.projects.filter fun row => row.id = projectId
  runs := rows.runs.filter fun row => row.projectId = projectId
  cases := rows.cases.filter fun row =>
    (rows.runs.find? fun run => run.id = row.runId).any fun run => run.projectId = projectId
  baselines := rows.baselines.filter fun row => row.projectId = projectId
  tokens := rows.tokens.filter fun row => row.projectId = projectId
  idempotency := rows.idempotency.filter fun row => row.projectId = projectId

/-- The rows of a project are among those that another project has not. -/
theorem otherRows_within (apart : projectId ≠ other) (store : Store) :
    (otherRows other store).within projectId = rowsOf projectId store := by
  have outside (owner : String) : (decide (owner = projectId) && decide (owner ≠ other)) =
      decide (owner = projectId) := by
    by_cases own : owner = projectId <;> simp [own, apart]
  unfold otherRows rowsOf slice Rows.within
  simp only [Table.select, List.filter_filter, outside]
  congr 1
  apply List.filter_congr
  intro row _
  have looked := Table.filter_find? store.runs row.runId fun run => decide (run.projectId ≠ other)
  unfold Table.select at looked
  rw [← looked]
  unfold ownsCase
  cases store.runs.find? row.runId with
  | none => rfl
  | some run => by_cases own : run.projectId = projectId <;> simp [own, apart]

/-- What leaves the rows of the others leaves those of each. -/
theorem rowsOf_of_otherRows (apart : projectId ≠ other)
    (kept : otherRows other first = otherRows other second) :
    rowsOf projectId first = rowsOf projectId second := by
  rw [← otherRows_within apart, ← otherRows_within apart, kept]

end Slices

section Requests

variable {projectId : String} {first second store : Store} {around : Surroundings}
  {authorization : Option String} {request : ApiRequest}

theorem isolated_of_agree (agree : rowsOf projectId first = rowsOf projectId second)
    (housed : Housed first) (otherHoused : Housed second)
    (allowed : ScopedTo projectId around.pbkdf2 authorization first) :
    Isolated projectId first second first second := by
  obtain ⟨secret, row, _, ⟨_, _, found, _⟩, rfl⟩ := allowed
  have present := housed.tokens row (Table.mem_of_find? found)
  refine ⟨agree, rfl, rfl, present, ?_, housed.cases, otherHoused.cases⟩
  obtain ⟨project, member, same⟩ := List.mem_map.mp present
  have own : project ∈ (rowsOf row.projectId first).projects :=
    List.mem_filter.mpr ⟨member, by simpa using same⟩
  rw [agree] at own
  exact List.mem_map.mpr ⟨project, (List.mem_filter.mp own).1, same⟩

/-- A project that promotes none but its own runs promotes alike. -/
theorem PromotesOwn.alike (agree : rowsOf projectId first = rowsOf projectId second)
    (one : PromotesOwn projectId first request) (two : PromotesOwn projectId second request) :
    PromotesAlike projectId request first second := by
  cases request with
  | promoteRun requested channel body runId =>
    cases runId with
    | none => trivial
    | some runId =>
      intro inside
      have all {store : Store} (own : ∀ row, store.runs.find? runId = some row →
          row.projectId = projectId) :
          (store.runs.find? runId).filter (fun run => decide (run.projectId = projectId)) =
            store.runs.find? runId := by
        cases found : store.runs.find? runId with
        | none => rfl
        | some row => exact Option.filter_some_pos (by simpa using own row found)
      have same := rowsOf_runs agree runId
      rw [all (one inside), all (two inside)] at same
      rw [SameEligibility, same]
  | createRun | getRun | getRunReport | cancelRun | getBaseline | listBaselines | createToken
    | listTokens | revokeToken => trivial

/-- A request with a token of the project, in two states that agree on its rows. -/
theorem serve_alike (agree : rowsOf projectId first = rowsOf projectId second)
    (housed : Housed first) (otherHoused : Housed second)
    (allowed : ScopedTo projectId around.pbkdf2 authorization first)
    (fresh : Fresh around.uuid first) (otherFresh : Fresh around.uuid second)
    (eligible : PromotesAlike projectId request first second) :
    (serve around authorization request first).1 = (serve around authorization request second).1 ∧
      Isolated projectId first second (serve around authorization request first).2
        (serve around authorization request second).2 := by
  obtain ⟨same, settled⟩ := route_alike (isolated_of_agree agree housed otherHoused allowed) allowed
    fresh otherFresh request eligible _ _ ⟨rfl, rfl⟩
  refine ⟨same, ?_⟩
  split at settled <;> exact settled

theorem Isolated.symm {left right : Store} (isolated : Isolated projectId first second left right) :
    Isolated projectId second first right left where
  own := isolated.own.symm
  leftOthers := isolated.rightOthers
  rightOthers := isolated.leftOthers
  leftProject := isolated.rightProject
  rightProject := isolated.leftProject
  leftCases := isolated.rightCases
  rightCases := isolated.leftCases

/-- Whatever a request with a token of a project does, the foreign keys are kept. -/
theorem Isolated.housed {after otherAfter : Store}
    (isolated : Isolated projectId first second after otherAfter) (before : Housed first) :
    Housed after := by
  refine ⟨isolated.leftCases, fun row member => ?_⟩
  by_cases own : row.projectId = projectId
  · exact own ▸ isolated.leftProject
  · have outside : row ∈ (otherRows projectId after).tokens :=
      List.mem_filter.mpr ⟨member, by simpa using own⟩
    rw [isolated.leftOthers] at outside
    obtain ⟨project, stored, same⟩ :=
      List.mem_map.mp (before.tokens row (List.mem_filter.mp outside).1)
    have others : project ∈ (otherRows projectId first).projects :=
      List.mem_filter.mpr ⟨stored, by simpa [same] using own⟩
    rw [← isolated.leftOthers] at others
    exact List.mem_map.mpr ⟨project, (List.mem_filter.mp others).1, same⟩

/-- A bearer token that opens nothing is refused by every route. -/
theorem serve_closed {secret : String} (presented : bearerSecret authorization = some secret)
    (closed : ∀ row, ¬ Opens around.pbkdf2 secret store row) :
    (serve around authorization request store).2 = store := by
  obtain ⟨detail, refused⟩ : ∃ detail, resolveProject around.pbkdf2 around.authenticatedAt
      authorization (Session.start store) = (.error (.http 403 detail), Session.start store) := by
    rcases resolveProject_bearer presented around.authenticatedAt (Session.start store) with
      ⟨row, opened, _⟩ | ⟨_, refused⟩
    · exact absurd opened (closed row)
    · exact refused
  have optional (body : Option String → Route ApiResponse) :
      optionally around authorization body (Session.start store) =
        (.error (.http 403 detail), Session.start store) := by
    unfold optionally optionalProjectId
    rw [Transaction.bind_apply, refused]
  have required (body : String → Route ApiResponse) :
      authenticated around authorization body (Session.start store) =
        (.error (.http 403 detail), Session.start store) := by
    unfold authenticated requireProjectId
    rw [Transaction.bind_apply, Transaction.bind_apply, refused]
  unfold serve Transaction.execute
  cases request <;> simp only [route, optional, required] <;> rfl

/-- A request that carries no token of the project leaves its rows alone. -/
theorem serve_apart {secret : String} (presented : bearerSecret authorization = some secret)
    (housed : Housed store) (fresh : Fresh around.uuid store)
    (foreign : ¬ ScopedTo projectId around.pbkdf2 authorization store) :
    rowsOf projectId (serve around authorization request store).2 = rowsOf projectId store ∧
      Housed (serve around authorization request store).2 := by
  by_cases opened : ∃ row, Opens around.pbkdf2 secret store row
  · obtain ⟨row, opened⟩ := opened
    have apart : projectId ≠ row.projectId := fun same =>
      foreign ⟨secret, row, presented, opened, same.symm⟩
    have eligible : PromotesAlike row.projectId request store store := by
      unfold PromotesAlike
      split
      · exact fun _ => rfl
      · trivial
    obtain ⟨_, isolated⟩ := serve_alike rfl housed housed ⟨secret, row, presented, opened, rfl⟩ fresh
      fresh eligible
    exact ⟨rowsOf_of_otherRows apart isolated.leftOthers, isolated.housed housed⟩
  · rw [serve_closed presented fun row opens => opened ⟨row, opens⟩]
    exact ⟨rfl, housed⟩

/-- What a cancellation with an opened token leaves behind. -/
theorem serveToken_cancelRun {secret runId : String} {row : ProjectTokenRow}
    (opened : Opens around.pbkdf2 secret store row) :
    nextState serveToken store ⟨around, secret, .cancelRun runId⟩ =
      (cancelRun around (some row.projectId) runId
        ⟨store, touchToken around.authenticatedAt row.id store⟩).2.committed := by
  have authenticated := authenticate_opened (bearerSecret_bearer secret) opened rfl
  unfold nextState serveToken serve Transaction.execute route optionally
  dsimp only [TokenRequest.authorization]
  rw [Transaction.bind_apply, authenticated]
  dsimp only
  rw [Transaction.map_apply]
  rcases cancelRun around (some row.projectId) runId
    ⟨store, touchToken around.authenticatedAt row.id store⟩ with ⟨outcome, later⟩
  cases outcome <;> rfl

theorem serveToken_apart {request : TokenRequest} (housed : Housed store)
    (fresh : Fresh request.around.uuid store)
    (foreign : ¬ ScopedTo projectId request.around.pbkdf2 request.authorization store) :
    rowsOf projectId (nextState serveToken store request) = rowsOf projectId store ∧
      Housed (nextState serveToken store request) :=
  serve_apart (bearerSecret_bearer request.secret) housed fresh foreign

end Requests

/-- The states look the same to the project. -/
structure LooksAlike (projectId : String) (first second : Store) : Prop where
  own : rowsOf projectId first = rowsOf projectId second
  left : Housed first
  right : Housed second

theorem serveToken_unwinds (projectId : String) (mine : TokenRequest → Bool) :
    Unwinds serveToken mine (Admissible projectId mine) (LooksAlike projectId) where
  own := by
    intro first second request alike own allowed otherAllowed
    obtain ⟨same, isolated⟩ := serve_alike alike.own alike.left alike.right (allowed.owns.mp own)
      allowed.fresh otherAllowed.fresh ((allowed.promotes own).alike alike.own (otherAllowed.promotes own))
    exact ⟨same, isolated.own, isolated.housed alike.left, isolated.symm.housed alike.right⟩
  others := by
    intro first second request alike own allowed
    have foreign : ¬ ScopedTo projectId request.around.pbkdf2 request.authorization first := by
      intro carried
      rw [allowed.owns.mpr carried] at own
      cases own
    obtain ⟨kept, housed⟩ := serveToken_apart alike.left allowed.fresh foreign
    exact ⟨kept.trans alike.own, housed, alike.right⟩
  symmetric := fun _ _ alike => ⟨alike.own.symm, alike.right, alike.left⟩

/-- Two histories of requests with bearer tokens that agree on the requests of a project's tokens, in
states that agree on its rows: the project is answered alike and is left with the same rows, whatever
the holders of other tokens do and whoever tries tokens that open nothing. -/
theorem tenants_isolated (projectId : String) (mine : TokenRequest → Bool) {first second : Store}
    (agree : rowsOf projectId first = rowsOf projectId second) (keys : ForeignKeys first)
    (otherKeys : ForeignKeys second) {one two : List TokenRequest}
    (same : one.filter mine = two.filter mine)
    (allowed : Guarded (nextState serveToken) (Admissible projectId mine) first one)
    (otherAllowed : Guarded (nextState serveToken) (Admissible projectId mine) second two) :
    answersTo serveToken mine first one = answersTo serveToken mine second two ∧
      rowsOf projectId (run (nextState serveToken) first one) =
        rowsOf projectId (run (nextState serveToken) second two) := by
  obtain ⟨answers, alike⟩ := (serveToken_unwinds projectId mine).noninterference same
    ⟨agree, keys.housed, otherKeys.housed⟩ allowed otherAllowed
  exact ⟨answers, alike.own⟩

section Examples

def otherToken : IssuedToken where
  projectId := "other"
  tokenId := ⟨"33333333333333333333333333333333", by decide, by decide⟩
  raw := List.replicate 32 2
  salt := List.replicate 32 3

def otherRow : ProjectTokenRow where
  id := otherToken.tokenId.text
  projectId := otherToken.projectId
  tokenHash := tokenHash sampleDerivation otherToken.salt otherToken.secret
  name := "theirs"
  createdAt := 0

theorem twoTenants_distinct : ([sampleRow, otherRow].map ProjectTokenRow.id).Nodup := by decide

/-- Two projects, each with a token. -/
def twoTenants (run : RunRow) : Store :=
  { twoProjects run with tokens := ⟨[sampleRow, otherRow], twoTenants_distinct⟩ }

def requestOf (token : IssuedToken) (request : ApiRequest) : TokenRequest :=
  { around := sampleSurroundings, secret := token.secret, request }

/-- The other project cancels its run, before this one makes a token. -/
def cancelledBefore : List TokenRequest :=
  [requestOf otherToken (.cancelRun "run"), requestOf sampleToken (.createToken "project" ⟨"new", by decide⟩)]

def madeAlone : List TokenRequest := [requestOf sampleToken (.createToken "project" ⟨"new", by decide⟩)]

def ofSample (request : TokenRequest) : Bool := request.secret = sampleToken.secret

theorem twoTenants_foreignKeys (state : RunState) (gateOutcome : Option GateOutcome) :
    ForeignKeys (twoTenants (otherRun state gateOutcome)) where
  runs := (twoProjects_foreignKeys state gateOutcome).runs
  cases := (twoProjects_foreignKeys state gateOutcome).cases
  baselines := (twoProjects_foreignKeys state gateOutcome).baselines
  tokens := by simp [twoTenants, twoProjects, sampleRow, otherRow, sampleToken, otherToken]
  idempotency := (twoProjects_foreignKeys state gateOutcome).idempotency

theorem twoTenants_opens (run : RunRow) :
    Opens sampleDerivation sampleToken.secret (twoTenants run) sampleRow ∧
      Opens sampleDerivation otherToken.secret (twoTenants run) otherRow := by
  have stored (row : ProjectTokenRow) (member : row ∈ [sampleRow, otherRow]) :
      (twoTenants run).tokens.find? row.id = some row := Table.find?_of_mem member
  exact ⟨⟨_, parseTokenId_tokenSecret _ _, stored sampleRow (by simp),
      (verifyToken_tokenHash sampleDerivation sampleToken.salt sampleToken.secret _).mpr rfl⟩,
    ⟨_, parseTokenId_tokenSecret _ _, stored otherRow (by simp),
      (verifyToken_tokenHash sampleDerivation otherToken.salt otherToken.secret _).mpr rfl⟩⟩

theorem twoTenants_rowsOf (state : RunState) (gateOutcome : Option GateOutcome) :
    rowsOf "project" (twoTenants (otherRun state gateOutcome)) =
      rowsOf "project" (twoTenants (otherRun .created none)) := by
  simp [rowsOf, slice, twoTenants, twoProjects, otherRun, createdRow, Table.select, Store.empty,
    Table.empty]

theorem twoTenants_fresh (state : RunState) (gateOutcome : Option GateOutcome) :
    Fresh sampleSurroundings.uuid (twoTenants (otherRun state gateOutcome)) := by
  simp [Fresh, twoTenants, twoProjects, otherRun, createdRow, sampleSurroundings, sampleRow, otherRow,
    sampleToken, otherToken]

theorem ofSample_own (request : ApiRequest) : ofSample (requestOf sampleToken request) = true := by
  simp [ofSample, requestOf]

theorem ofSample_other (request : ApiRequest) : ofSample (requestOf otherToken request) = false := by
  have apart : otherToken.secret ≠ sampleToken.secret := by decide +kernel
  simp [ofSample, requestOf, apart]

theorem admissible_opened {store : Store} {token : IssuedToken} {row : ProjectTokenRow}
    {request : ApiRequest} (fresh : Fresh sampleSurroundings.uuid store)
    (opened : Opens sampleDerivation token.secret store row)
    (owns : ofSample (requestOf token request) = true ↔ row.projectId = "project")
    (promotes : PromotesOwn "project" store request) :
    Admissible "project" ofSample store (requestOf token request) := by
  refine ⟨fresh, owns.trans ⟨fun own => ?_, ?_⟩, fun _ => promotes⟩
  · exact ⟨token.secret, row, bearerSecret_bearer _, opened, own⟩
  · rintro ⟨secret, other, presented, opens, own⟩
    obtain rfl := Option.some.inj ((bearerSecret_bearer token.secret).symm.trans presented)
    rwa [Opens.unique opened opens]

end Examples

/-- The project is answered as if the other one had not cancelled its run. -/
theorem cancelledBefore_isolated :
    answersTo serveToken ofSample (twoTenants (otherRun .created none)) cancelledBefore =
      answersTo serveToken ofSample (twoTenants (otherRun .completed (some .pass))) madeAlone := by
  let start := twoTenants (otherRun .created none)
  let cancel := requestOf otherToken (.cancelRun "run")
  obtain ⟨own, theirs⟩ := twoTenants_opens (otherRun .created none)
  have cancels : Admissible "project" ofSample start cancel :=
    admissible_opened (twoTenants_fresh _ _) theirs
      (iff_of_false (by simp [ofSample_other]) (by decide)) trivial
  have foreign : ¬ ScopedTo "project" sampleDerivation cancel.authorization start := fun carried =>
    absurd (cancels.owns.mpr carried) (by simp [cancel, ofSample_other])
  have kept : rowsOf "project" (nextState serveToken start cancel) = rowsOf "project" start :=
    (serveToken_apart (twoTenants_foreignKeys _ _).housed (twoTenants_fresh _ _) foreign).1
  have later : Fresh sampleSurroundings.uuid (nextState serveToken start cancel) := by
    rw [show nextState serveToken start cancel = _ from serveToken_cancelRun theirs]
    unfold Fresh
    decide
  have still : Opens sampleDerivation sampleToken.secret (nextState serveToken start cancel) sampleRow :=
    @opens_owned "project" _ _ sampleSurroundings kept.symm _ _ own rfl
  have makes {store : Store} (fresh : Fresh sampleSurroundings.uuid store)
      (opened : Opens sampleDerivation sampleToken.secret store sampleRow) :
      Admissible "project" ofSample store
        (requestOf sampleToken (.createToken "project" ⟨"new", by decide⟩)) :=
    admissible_opened fresh opened (iff_of_true (ofSample_own _) rfl) trivial
  have both : Guarded (nextState serveToken) (Admissible "project" ofSample) start cancelledBefore :=
    ⟨cancels, makes later still, trivial⟩
  have alone : Guarded (nextState serveToken) (Admissible "project" ofSample)
      (twoTenants (otherRun .completed (some .pass))) madeAlone :=
    ⟨makes (twoTenants_fresh _ _) (twoTenants_opens _).1, trivial⟩
  have same : cancelledBefore.filter ofSample = madeAlone.filter ofSample := by
    simp [cancelledBefore, madeAlone, ofSample_own, ofSample_other]
  exact (tenants_isolated "project" ofSample (twoTenants_rowsOf _ _).symm (twoTenants_foreignKeys _ _)
    (twoTenants_foreignKeys _ _) same both alone).1

end RegressionDetection.Api
