import RegressionDetection.Api.Isolation
import RegressionDetection.Persistence.Lifecycle

/-! The run routes in two stores that agree on the rows of the caller's project. -/

namespace RegressionDetection.Api

open Foundation Specification Persistence

/-- The request carries a token of the project. -/
def ScopedTo (projectId : String) (pbkdf2 : KeyDerivation) (authorization : Option String)
    (store : Store) : Prop :=
  ∃ secret row, bearerSecret authorization = some secret ∧ Opens pbkdf2 secret store row ∧
    row.projectId = projectId

/-- The fresh uuid names no stored run and no stored token. -/
def Fresh (uuid : Uuid) (store : Store) : Prop :=
  uuid.text ∉ store.runs.rows.map RunRow.id ∧ uuid.text ∉ store.tokens.rows.map ProjectTokenRow.id

/-- The two sessions, up to the rows of other projects. -/
def Related (projectId : String) (first second : Store) (left right : Session Store) : Prop :=
  Isolated projectId first second left.current right.current ∧
    Isolated projectId first second left.committed right.committed

/-- What the committed stores have in common when a request has failed. -/
def Settled (projectId : String) (first second : Store) (left right : Session Store) : Prop :=
  Isolated projectId first second left.committed right.committed

/-- The sessions right after authentication: only token rows have been touched. -/
structure Authenticated (projectId : String) (first second : Store) (uuid : Uuid)
    (left right : Session Store) : Prop where
  related : Related projectId first second left right
  leftRuns : left.current.runs = first.runs
  rightRuns : right.current.runs = second.runs
  leftFresh : Fresh uuid left.current
  rightFresh : Fresh uuid right.current

section Rules

variable {projectId : String} {first second : Store} {around : Surroundings}
  {authorization : Option String}

/-- A pure fact in front of a relation. -/
theorem alike_given {fact : Prop} {R failed : Session Store → Session Store → Prop} {action : Route α}
    {Q : α → Session Store → Session Store → Prop}
    (holds : fact → Transaction.Alike R failed action Q) :
    Transaction.Alike (fun left right => fact ∧ R left right) failed action Q :=
  fun left right start => holds start.1 left right start.2

theorem isolated_start (agree : rowsOf projectId first = rowsOf projectId second)
    (keys : ForeignKeys first) (otherKeys : ForeignKeys second)
    (present : projectId ∈ first.projects.rows.map ProjectRow.id) :
    Isolated projectId first second first second := by
  refine ⟨agree, rfl, rfl, present, ?_, keys.cases, otherKeys.cases⟩
  obtain ⟨project, member, same⟩ := List.mem_map.mp present
  have own : project ∈ (rowsOf projectId first).projects :=
    List.mem_filter.mpr ⟨member, by simpa using same⟩
  rw [agree] at own
  exact List.mem_map.mpr ⟨project, (List.mem_filter.mp own).1, same⟩

theorem fresh_touchToken {uuid : Uuid} {store : Store} (fresh : Fresh uuid store) (now : Time)
    (tokenId : String) : Fresh uuid (touchToken now tokenId store) := by
  refine ⟨fresh.1, ?_⟩
  intro member
  obtain ⟨row, listed, same⟩ := List.mem_map.mp member
  obtain ⟨original, stored, image⟩ := List.mem_map.mp listed
  apply fresh.2
  refine List.mem_map.mpr ⟨original, stored, ?_⟩
  rw [← same, ← image]
  split <;> rfl

/-- A token row of the project is opened in both stores or in neither. -/
theorem opens_owned (agree : rowsOf projectId first = rowsOf projectId second) {secret : String}
    {row : ProjectTokenRow} (opened : Opens around.pbkdf2 secret first row)
    (own : row.projectId = projectId) : Opens around.pbkdf2 secret second row := by
  obtain ⟨tokenId, parsed, found, verified⟩ := opened
  have same := rowsOf_tokens agree tokenId
  rw [found, Option.filter_some_pos (by simpa using own)] at same
  exact ⟨tokenId, parsed, (Option.filter_eq_some_iff.mp same.symm).1, verified⟩

/-- An opened row is the only one a secret opens. -/
theorem Opens.unique {pbkdf2 : KeyDerivation} {secret : String} {store : Store}
    {row other : ProjectTokenRow} (one : Opens pbkdf2 secret store row)
    (two : Opens pbkdf2 secret store other) : row = other := by
  obtain ⟨tokenId, parsed, found, _⟩ := one
  obtain ⟨same, again, present, _⟩ := two
  obtain rfl := Option.some.inj (parsed.symm.trans again)
  exact Option.some.inj (found.symm.trans present)

theorem touchToken_effect {store : Store} {row : ProjectTokenRow} {tokenId : String}
    (found : store.tokens.find? tokenId = some row) (own : row.projectId = projectId) (now : Time) :
    Effect projectId
      (fun rows =>
        { rows with
          tokens := rows.tokens.map fun other =>
            if decide (other.id = row.id) = true then touchedRow now other else other })
      store (touchToken now row.id store) := by
  refine Effect.tokenUpdate _ (touchedRow now) (fun _ => rfl) (fun _ => rfl) ?_
  intro other member hit
  have same : other.id = row.id := by simpa using hit
  have one := Table.find?_of_mem member
  rw [same, Table.key_of_find? found, found] at one
  rw [← Option.some.inj one]
  exact own

/-- The token that the secret opens authenticates the request, and is touched. -/
theorem authenticate_opened {store : Store} {secret : String} {row : ProjectTokenRow}
    (presented : bearerSecret authorization = some secret)
    (opened : Opens around.pbkdf2 secret store row) (own : row.projectId = projectId) :
    optionalProjectId around.pbkdf2 around.authenticatedAt authorization (Session.start store) =
      (.ok (some projectId),
        { committed := store, current := touchToken around.authenticatedAt row.id store }) := by
  unfold optionalProjectId
  rcases resolveProject_bearer presented around.authenticatedAt (Session.start store) with
    ⟨other, found, answered⟩ | ⟨closed, _⟩
  · obtain rfl := Opens.unique opened found
    rw [answered, own]
    rfl
  · exact absurd opened (closed row)

/-- Both sessions authenticate as the project. -/
theorem authenticate_alike (isolated : Isolated projectId first second first second)
    (allowed : ScopedTo projectId around.pbkdf2 authorization first) (fresh : Fresh around.uuid first)
    (otherFresh : Fresh around.uuid second) {failed : Session Store → Session Store → Prop} :
    Transaction.Alike (fun left right => left = Session.start first ∧ right = Session.start second)
      failed (optionalProjectId around.pbkdf2 around.authenticatedAt authorization)
      fun value left right =>
        value = some projectId ∧ Authenticated projectId first second around.uuid left right := by
  rintro left right ⟨rfl, rfl⟩
  obtain ⟨secret, row, presented, opened, own⟩ := allowed
  have again := opens_owned isolated.own opened own
  rw [authenticate_opened presented opened own, authenticate_opened presented again own]
  obtain ⟨tokenId, _, found, _⟩ := opened
  obtain ⟨otherId, _, present, _⟩ := again
  refine ⟨rfl, rfl, ⟨?_, isolated⟩, rfl, rfl, fresh_touchToken fresh _ _,
    fresh_touchToken otherFresh _ _⟩
  exact isolated.effect (touchToken_effect found own _) (touchToken_effect present own _)

end Rules

section Runs

variable {projectId : String} {first second : Store} {uuid : Uuid}

theorem Authenticated.settled {left right : Session Store}
    (authenticated : Authenticated projectId first second uuid left right) :
    Settled projectId first second left right := authenticated.related.2

/-- A run of the project is loaded with its cases in both sessions; any other is
not found in either. -/
theorem scopedRun_alike (runId : String) :
    Transaction.Alike (Authenticated projectId first second uuid) (Settled projectId first second)
      (scopedRun (some projectId) runId) fun value left right =>
        Authenticated projectId first second uuid left right ∧ value.1.projectId = projectId ∧
          left.current.view runId = some ⟨value.1, left.current.casesOf runId⟩ ∧
          right.current.view runId = some ⟨value.1, right.current.casesOf runId⟩ := by
  intro left right authenticated
  have agree := authenticated.related.1.own
  have same := rowsOf_runs agree runId
  simp only [scopedRun_eq, Option.all_some]
  rw [← same]
  cases found : (left.current.runs.find? runId).filter
      (fun run => decide (run.projectId = projectId)) with
  | none => exact ⟨rfl, authenticated.settled⟩
  | some run =>
    obtain ⟨here, owned⟩ := Option.filter_eq_some_iff.mp found
    obtain ⟨there, _⟩ := Option.filter_eq_some_iff.mp (same.symm.trans found)
    have own : run.projectId = projectId := by simpa using owned
    have record := getRun_owned agree here own
    simp only [Persistence.getRun, here, there, Option.map_some] at record
    exact ⟨congrArg Except.ok (Option.some.inj record), authenticated, own,
      Store.view_eq_some.mpr ⟨here, rfl⟩, Store.view_eq_some.mpr ⟨there, rfl⟩⟩

/-- `cancel_run` on a run of the project. -/
theorem cancelRun_alike (runId : String) (now : Time) (run : RunRow) :
    Transaction.Alike
      (fun left right =>
        Authenticated projectId first second uuid left right ∧ run.projectId = projectId ∧
          left.current.view runId = some ⟨run, left.current.casesOf runId⟩ ∧
          right.current.view runId = some ⟨run, right.current.casesOf runId⟩)
      (Settled projectId first second)
      (Transaction.attempt fun store =>
        (Persistence.cancelRun now runId store).mapError fun _ => ApiError.http 404 "Run not found")
      fun _ left right => Related projectId first second left right ∧
        ∃ row, left.current.runs.find? runId = some row ∧ row.projectId = projectId := by
  rintro left right ⟨authenticated, own, here, there⟩
  have outcome {session : Session Store}
      (found : session.current.view runId = some ⟨run, session.current.casesOf runId⟩) :
      Transaction.attempt (fun store => (Persistence.cancelRun now runId store).mapError
          fun _ => ApiError.http 404 "Run not found") session =
        (.ok (cancelRow now run).1,
          { session with current := session.current.flushRun run (cancelRow now run).2 }) := by
    simp only [Transaction.attempt, Persistence.cancelRun, findRun_of_view found]
    rfl
  rw [outcome here, outcome there]
  have changed {store : Store} (found : store.view runId = some ⟨run, store.casesOf runId⟩) :
      Effect projectId
        (fun rows =>
          { rows with
            runs := rows.runs.map fun row =>
              if decide (row.id = run.id) = true then RunRow.flush run (cancelRow now run).2 row
              else row })
        store (store.flushRun run (cancelRow now run).2) := by
    refine Effect.runUpdate _ (RunRow.flush run (cancelRow now run).2) (RunRow.flush_id _ _)
      (fun _ => rfl) ?_
    intro row member hit
    have one := Table.find?_of_mem member
    rw [show row.id = runId from (by simpa using hit : row.id = run.id).trans (view_id found),
      (Store.view_eq_some.mp found).1] at one
    rw [← Option.some.inj one]
    exact own
  refine ⟨rfl, ⟨authenticated.related.1.effect (changed here) (changed there),
    authenticated.related.2⟩, ?_⟩
  have after := view_flushRun here run (cancelRow now run).2
  rw [if_pos rfl] at after
  exact ⟨_, (Store.view_eq_some.mp after).1, own⟩

variable {around : Surroundings}

theorem commit_alike :
    Transaction.Alike (Related projectId first second) (Settled projectId first second)
      (Transaction.commit : Route Unit) fun _ => Related projectId first second :=
  fun _ _ related => ⟨rfl, related.1, related.1⟩

theorem getRun_alike (runId : String) :
    Transaction.Alike (Authenticated projectId first second uuid) (Settled projectId first second)
      (getRun (some projectId) runId) fun _ => Settled projectId first second :=
  (scopedRun_alike runId).bind fun _ => .pure fun _ _ loaded => loaded.1.settled

theorem getRunReport_alike (runId : String) :
    Transaction.Alike (Authenticated projectId first second uuid) (Settled projectId first second)
      (getRunReport (some projectId) runId) fun _ => Settled projectId first second :=
  (scopedRun_alike runId).bind fun _ => .pure fun _ _ loaded => loaded.1.settled

/-- The response after an accepted cancellation: the run is still the project's. -/
theorem cancelledResponse_alike (runId : String) :
    Transaction.Alike
      (fun left right => Related projectId first second left right ∧
        ∃ row, left.current.runs.find? runId = some row ∧ row.projectId = projectId)
      (Settled projectId first second)
      (do
        match ← Transaction.query (Persistence.getRun runId) with
        | none => Transaction.raise (.raised (.external "AssertionError"))
        | some (row, _) => return { runId := row.id, state := row.state, alreadyCancelled := false } :
        Route CancelRunResponse)
      fun _ => Settled projectId first second := by
  refine Transaction.Alike.bind (.query ?_) fun found => ?_
  · rintro left right ⟨related, row, present, own⟩
    exact getRun_owned related.1.own present own
  · cases found with
    | none => exact .raise fun _ _ done => done.1.1.2
    | some record => exact .pure fun _ _ done => done.1.1.2

theorem cancelRun_route_alike (runId : String) :
    Transaction.Alike (Authenticated projectId first second uuid) (Settled projectId first second)
      (cancelRun around (some projectId) runId) fun _ => Settled projectId first second := by
  refine (scopedRun_alike runId).bind fun value => ?_
  obtain ⟨run, cases⟩ := value
  by_cases already : run.state = .cancelling ∨ run.state = .cancelled
  · simp only [already, ↓reduceIte]
    exact .pure fun _ _ loaded => loaded.1.settled
  · simp only [already, ↓reduceIte]
    refine (cancelRun_alike runId around.now run).bind fun changed => ?_
    have committed : Transaction.Alike
        (fun left right => Related projectId first second left right ∧
          ∃ row, left.current.runs.find? runId = some row ∧ row.projectId = projectId)
        (Settled projectId first second) (Transaction.commit : Route Unit)
        fun _ left right => Related projectId first second left right ∧
          ∃ row, left.current.runs.find? runId = some row ∧ row.projectId = projectId :=
      fun _ _ ⟨related, stored⟩ => ⟨rfl, ⟨related.1, related.1⟩, stored⟩
    refine committed.bind fun _ => ?_
    cases changed with
    | false => exact .raise fun _ _ done => done.1.2
    | true => exact cancelledResponse_alike runId

/-- A run of the project is inserted under the fresh id. -/
theorem insertRun_fresh {store : Store} (fresh : Fresh uuid store)
    (present : projectId ∈ store.projects.rows.map ProjectRow.id) {row : RunRow}
    (id : row.id = uuid.text) (own : row.projectId = projectId) :
    ∃ runs, store.runs.insert? row = some runs ∧ insertRun store row = .ok { store with runs } := by
  have unused : row.id ∉ store.runs.rows.map RunRow.id := id ▸ fresh.1
  exact insertRun_of_unused (own ▸ present) unused

/-- The idempotency record of a key of the project. -/
theorem idempotency_owned {left right : Store}
    (agree : rowsOf projectId left = rowsOf projectId right) (key : String) :
    left.idempotency.find? (projectId, key) = right.idempotency.find? (projectId, key) :=
  find?_covered (congrArg Rows.idempotency agree) fun _ same =>
    decide_eq_true (congrArg Prod.fst same)

theorem findIdempotentRun_owned {left right : Store}
    (agree : rowsOf projectId left = rowsOf projectId right) (key requestHash : String) :
    findIdempotentRun left projectId key requestHash =
      findIdempotentRun right projectId key requestHash := by
  unfold findIdempotentRun
  rw [idempotency_owned agree key]

/-- `create_run` for the project: a new run in both sessions, or the recorded one. -/
theorem createRun_statement_alike (command : RunCreateCommand) (idempotencyKey : Option String) :
    Transaction.Alike (Authenticated projectId first second around.uuid)
      (Settled projectId first second) (createRunOrConflict around projectId command idempotencyKey)
      fun _ => Related projectId first second := by
  intro left right authenticated
  have isolated := authenticated.related.1
  let hashes := specificationHashes around.runtime command.specification.val
  let row := createdRow around.now around.uuid.text projectId command.specification
    hashes.configuration hashes.dataset
  obtain ⟨one, added, outcome⟩ : ∃ runs, left.current.runs.insert? row = some runs ∧
      insertRun left.current row = .ok { left.current with runs } :=
    insertRun_fresh authenticated.leftFresh isolated.leftProject rfl rfl
  obtain ⟨two, stored, answer⟩ : ∃ runs, right.current.runs.insert? row = some runs ∧
      insertRun right.current row = .ok { right.current with runs } :=
    insertRun_fresh authenticated.rightFresh isolated.rightProject rfl rfl
  have inserted := isolated.effect (.runInsert added rfl isolated.leftCases)
    (.runInsert stored rfl isolated.rightCases)
  unfold createRunOrConflict
  dsimp only
  rw [createRun_inserted outcome, createRun_inserted answer]
  cases idempotencyKey with
  | none => exact ⟨rfl, inserted, authenticated.related.2⟩
  | some key =>
    dsimp only [Option.map_some, Option.getD_some]
    have same := idempotency_owned isolated.own key
    cases recorded : left.current.idempotency.find? (projectId, key) with
    | none =>
      let record : IdempotencyRecordRow :=
        { projectId, idempotencyKey := key
          requestHash := (contentHash around.runtime command.modelDump).text
          runId := around.uuid.text }
      have absent {store : Store} (free : store.idempotency.find? (projectId, key) = none) :
          record.key ∉ store.idempotency.rows.map IdempotencyRecordRow.key :=
        Table.find?_eq_none_iff.mp free
      obtain ⟨taken, kept⟩ := Table.insert?_of_fresh (absent recorded)
      obtain ⟨other, also⟩ := Table.insert?_of_fresh (absent (same.symm.trans recorded))
      rw [kept, also]
      exact ⟨rfl, inserted.effect (.idempotencyInsert kept rfl) (.idempotencyInsert also rfl),
        authenticated.related.2⟩
    | some record =>
      have collides {store : Store} (present : store.idempotency.find? (projectId, key) = some record)
          (requestHash : String) :
          store.idempotency.insert?
            { projectId, idempotencyKey := key, requestHash, runId := around.uuid.text } = none :=
        Table.insert?_eq_none_iff.mpr
          (List.mem_map.mpr ⟨record, Table.mem_of_find? present, Table.key_of_find? present⟩)
      rw [collides recorded, collides (same.symm.trans recorded)]
      dsimp only
      rw [findIdempotentRun_owned authenticated.related.2.own]
      cases looked : findIdempotentRun right.committed projectId key
          (contentHash around.runtime command.modelDump).text with
      | ok existing => exact ⟨rfl, authenticated.related.2, authenticated.related.2⟩
      | error error =>
        cases error <;> exact ⟨rfl, authenticated.related.2⟩

theorem ensureProject_alike (slug name : String) :
    Transaction.Alike (Authenticated projectId first second uuid) (Settled projectId first second)
      (repository fun store => ensureProject store projectId slug name)
      fun _ => Authenticated projectId first second uuid := by
  intro left right authenticated
  have isolated := authenticated.related.1
  have same : left.current.projects.find? projectId = right.current.projects.find? projectId :=
    find?_covered (congrArg Rows.projects isolated.own) fun _ id => decide_eq_true id
  cases found : left.current.projects.find? projectId with
  | none => exact absurd isolated.leftProject (Table.find?_eq_none_iff.mp found)
  | some project =>
    have present := same.symm.trans found
    simp only [repository, Transaction.attempt, ensureProject, found, present]
    exact ⟨rfl, authenticated⟩

theorem createRun_alike (command : RunCreateCommand) (idempotencyKey : Option String) :
    Transaction.Alike (Authenticated projectId first second around.uuid)
      (Settled projectId first second) (createRun around (some projectId) command idempotencyKey)
      fun _ => Settled projectId first second := by
  unfold createRun
  split
  · exact .raise fun _ _ related => related.settled
  · split
    · exact .raise fun _ _ related => related.settled
    · rename_i permitted
      have same : projectId = command.projectId := by simpa using permitted
      have effective : effectiveProjectId (some projectId) command = projectId := by
        subst same
        simp [effectiveProjectId]
      rw [effective]
      exact (ensureProject_alike projectId projectId).bind fun _ =>
        (createRun_statement_alike command idempotencyKey).bind fun _ =>
          commit_alike.bind fun _ => .pure fun _ _ related => related.2

end Runs

end RegressionDetection.Api
