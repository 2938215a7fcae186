import RegressionDetection.Api.IsolatedRuns

/-! The baseline and token routes in two stores that agree on the rows of the caller's
project. -/

namespace RegressionDetection.Api

open Foundation Specification Persistence

section Baselines

variable {projectId : String} {first second : Store} {uuid : Uuid} {around : Surroundings}

/-- Outside its own project a token is refused before any row is read. -/
theorem requireScope_alike {R : Session Store → Session Store → Prop} (requested : String)
    (settled : ∀ left right, R left right → Settled projectId first second left right) :
    Transaction.Alike R (Settled projectId first second) (requireScope (some projectId) requested)
      fun _ left right => requested = projectId ∧ R left right := by
  unfold requireScope
  by_cases same : requested = projectId
  · subst same
    rw [if_neg (by simp)]
    exact .pure fun _ _ related => ⟨rfl, related⟩
  · have other : (some projectId).any (fun scope => decide (scope ≠ requested)) = true := by
      simpa using Ne.symm same
    rw [if_pos other]
    exact .raise settled

/-- The baseline row of a channel of the project. -/
theorem getBaseline_owned {left right : Store} (agree : rowsOf projectId left = rowsOf projectId right)
    (channel : String) :
    Persistence.getBaseline projectId channel left = Persistence.getBaseline projectId channel right :=
  find?_covered (congrArg Rows.baselines agree) fun _ same =>
    decide_eq_true (congrArg Prod.fst same)

theorem getBaseline_alike (requested channel : String) :
    Transaction.Alike (Authenticated projectId first second uuid) (Settled projectId first second)
      (getBaseline around (some projectId) requested channel)
      fun _ => Settled projectId first second := by
  refine (requireScope_alike requested fun _ _ related => related.settled).bind fun _ =>
    alike_given fun same => ?_
  subst same
  refine Transaction.Alike.bind (.query fun _ _ related =>
    getBaseline_owned related.related.1.own channel) fun record => ?_
  cases record with
  | none => exact .raise fun _ _ done => done.1.settled
  | some record => exact .pure fun _ _ done => done.1.settled

theorem listBaselines_alike (requested : String) :
    Transaction.Alike (Authenticated projectId first second uuid) (Settled projectId first second)
      (listBaselines (some projectId) requested) fun _ => Settled projectId first second := by
  refine (requireScope_alike requested fun _ _ related => related.settled).bind fun _ =>
    alike_given fun same => ?_
  subst same
  refine Transaction.Alike.bind (.query fun left right related => ?_) fun records =>
    .pure fun _ _ done => done.1.settled
  have agree := congrArg Rows.baselines related.related.1.own
  unfold Persistence.listBaselines
  exact congrArg (List.insertionSort _) agree

/-- Promotion of an eligible run to a channel that is still free. -/
theorem promoteEligible_free {store : Store} {channel : String} (runId : String) (now : Time)
    (reason : Option String) (present : projectId ∈ store.projects.rows.map ProjectRow.id)
    (free : store.baselines.find? (projectId, channel) = none) :
    ∃ baselines, store.baselines.insert? (newBaseline now projectId channel runId reason) =
        some baselines ∧
      promoteEligible now projectId channel runId reason store =
        .ok (some (true, newBaseline now projectId channel runId reason), { store with baselines }) := by
  have fresh : (newBaseline now projectId channel runId reason).key ∉
      store.baselines.rows.map BaselineChannelRow.key := Table.find?_eq_none_iff.mp free
  obtain ⟨baselines, added⟩ := Table.insert?_of_fresh fresh
  have stored : (newBaseline now projectId channel runId reason).projectId ∈
      store.projects.rows.map ProjectRow.id := present
  refine ⟨baselines, added, ?_⟩
  have inserted : insertBaseline store (newBaseline now projectId channel runId reason) =
      .ok { store with baselines } :=
    insertBaseline_eq_ok.mpr ⟨stored, baselines, added, rfl⟩
  unfold promoteEligible
  rw [free]
  simp only [inserted]
  rfl

/-- Promotion of an eligible run over another one: the conditional UPDATE takes the
row that has just been read. -/
theorem promoteEligible_taken {store : Store} {channel runId : String} {now : Time}
    {reason : Option String} {existing : BaselineChannelRow}
    (found : store.baselines.find? (projectId, channel) = some existing)
    (other : existing.runId ≠ runId) :
    promoteEligible now projectId channel runId reason store =
      .ok (some (false, replaceBaseline runId reason existing.runId existing),
        { store with
          baselines := store.baselines.update (baselineHits projectId channel existing.runId)
            (replaceBaseline runId reason existing.runId) (replaceBaseline_key runId reason _) }) := by
  have counted := Table.matching_key store.baselines (projectId, channel)
    (fun row => decide (row.runId = existing.runId))
  rw [found] at counted
  have hit : store.baselines.matching (baselineHits projectId channel existing.runId) = 1 := by
    unfold baselineHits
    simpa using counted
  unfold promoteEligible
  simp [found, other, hit]

/-- Promotion of the run the channel already holds. -/
theorem promoteEligible_kept {store : Store} {channel runId : String} {now : Time}
    {reason : Option String} {existing : BaselineChannelRow}
    (found : store.baselines.find? (projectId, channel) = some existing)
    (again : existing.runId = runId) :
    promoteEligible now projectId channel runId reason store = .ok (some (true, existing), store) := by
  simp [promoteEligible, found, again]

/-- Promotion of an eligible run succeeds. -/
theorem promoteEligible_returns {store : Store} (channel runId : String) (now : Time)
    (reason : Option String) (present : projectId ∈ store.projects.rows.map ProjectRow.id) :
    ∃ record next, promoteEligible now projectId channel runId reason store =
      .ok (some record, next) := by
  cases found : store.baselines.find? (projectId, channel) with
  | none =>
    obtain ⟨_, _, outcome⟩ := promoteEligible_free runId now reason present found
    exact ⟨_, _, outcome⟩
  | some existing =>
    by_cases again : existing.runId = runId
    · exact ⟨_, _, promoteEligible_kept found again⟩
    · exact ⟨_, _, promoteEligible_taken found again⟩

/-- Promotion of a run that is eligible in both stores or in neither. -/
theorem promoteRun_statement_alike (channel runId : String) (now : Time) (reason : Option String)
    (eligible : (first.runs.find? runId).any RunRow.promotable =
      (second.runs.find? runId).any RunRow.promotable) :
    Transaction.Alike (Authenticated projectId first second uuid) (Settled projectId first second)
      (repository fun store => Persistence.promoteRun now projectId channel runId reason store)
      fun _ => Related projectId first second := by
  intro left right authenticated
  have isolated := authenticated.related.1
  have ran {session : Session Store} {result : Option (Bool × BaselineChannelRow)} {next : Store}
      (outcome : Persistence.promoteRun now projectId channel runId reason session.current =
        .ok (result, next)) :
      repository (fun store => Persistence.promoteRun now projectId channel runId reason store) session =
        (.ok result, { session with current := next }) := by
    simp only [repository, Transaction.attempt, outcome]
    rfl
  have promotes {store : Store} (ready : (store.runs.find? runId).any RunRow.promotable = true) :
      Persistence.promoteRun now projectId channel runId reason store =
        promoteEligible now projectId channel runId reason store := by
    rw [Persistence.promoteRun, if_pos ready]
  have refuses {store : Store} (unfit : ¬ (store.runs.find? runId).any RunRow.promotable = true) :
      Persistence.promoteRun now projectId channel runId reason store = .ok (none, store) := by
    rw [Persistence.promoteRun, if_neg unfit]
  rw [← authenticated.leftRuns, ← authenticated.rightRuns] at eligible
  by_cases ready : (left.current.runs.find? runId).any RunRow.promotable = true
  · have other := eligible ▸ ready
    have same : left.current.baselines.find? (projectId, channel) =
        right.current.baselines.find? (projectId, channel) := getBaseline_owned isolated.own channel
    cases found : left.current.baselines.find? (projectId, channel) with
    | none =>
      obtain ⟨one, added, outcome⟩ := promoteEligible_free runId now reason isolated.leftProject found
      obtain ⟨two, inserted, answer⟩ := promoteEligible_free runId now reason isolated.rightProject
        (same.symm.trans found)
      rw [ran ((promotes ready).trans outcome), ran ((promotes other).trans answer)]
      exact ⟨rfl, isolated.effect (.baselineInsert added rfl) (.baselineInsert inserted rfl),
        authenticated.related.2⟩
    | some existing =>
      have present := same.symm.trans found
      by_cases again : existing.runId = runId
      · rw [ran ((promotes ready).trans (promoteEligible_kept found again)),
          ran ((promotes other).trans (promoteEligible_kept present again))]
        exact ⟨rfl, authenticated.related⟩
      · rw [ran ((promotes ready).trans (promoteEligible_taken found again)),
          ran ((promotes other).trans (promoteEligible_taken present again))]
        have changed (store : Store) : Effect projectId _ store
            { store with
              baselines := store.baselines.update (baselineHits projectId channel existing.runId)
                (replaceBaseline runId reason existing.runId) (replaceBaseline_key runId reason _) } :=
          .baselineUpdate (baselineHits projectId channel existing.runId)
            (replaceBaseline runId reason existing.runId) (replaceBaseline_key runId reason _)
            (fun _ => rfl) fun row _ hit => by
              simp only [baselineHits, Bool.and_eq_true, decide_eq_true_eq] at hit
              exact congrArg Prod.fst hit.1
        exact ⟨rfl, isolated.effect (changed left.current) (changed right.current),
          authenticated.related.2⟩
  · have other : ¬ (right.current.runs.find? runId).any RunRow.promotable = true := eligible ▸ ready
    rw [ran (refuses ready), ran (refuses other)]
    exact ⟨rfl, authenticated.related⟩

theorem requireScope_inside (session : Session Store) :
    requireScope (some projectId) projectId session = (.ok (), session) := by
  unfold requireScope
  rw [if_neg (by simp)]
  rfl

/-- The promotion route accepts an eligible run, of whatever project. -/
theorem promoteRun_accepts {session : Session Store} {runId : String} (channel : String)
    (body : PromoteRequest) (present : projectId ∈ session.current.projects.rows.map ProjectRow.id)
    (ready : (session.current.runs.find? runId).any RunRow.promotable = true) :
    ∃ response later,
      promoteRun around (some projectId) projectId channel body (some runId) session =
        (.ok response, later) := by
  obtain ⟨⟨created, record⟩, next, outcome⟩ :=
    promoteEligible_returns channel runId around.now body.reason present
  refine ⟨{ baselineResponse record with created }, ⟨next, next⟩, ?_⟩
  unfold promoteRun
  dsimp only
  rw [Transaction.bind_apply, requireScope_inside]
  dsimp only
  rw [Transaction.bind_apply]
  simp only [repository, Transaction.attempt, Persistence.promoteRun, if_pos ready, outcome]
  rfl

/-- And answers 422 for any other. -/
theorem promoteRun_refuses {session : Session Store} {runId : String} (channel : String)
    (body : PromoteRequest)
    (unfit : ¬ (session.current.runs.find? runId).any RunRow.promotable = true) :
    ∃ detail later,
      promoteRun around (some projectId) projectId channel body (some runId) session =
        (.error (.http 422 detail), later) := by
  refine ⟨"Run " ++ pyRepr around.runtime.printable runId ++
    " does not exist, is not completed, or did not pass", ⟨session.current, session.current⟩, ?_⟩
  unfold promoteRun
  dsimp only
  rw [Transaction.bind_apply, requireScope_inside]
  dsimp only
  rw [Transaction.bind_apply]
  simp only [repository, Transaction.attempt, Persistence.promoteRun, if_neg unfit]
  rfl

theorem promoteRun_alike (requested channel : String) (body : PromoteRequest) (runId : Option String)
    (eligible : ∀ run ∈ runId, requested = projectId →
      (first.runs.find? run).any RunRow.promotable = (second.runs.find? run).any RunRow.promotable) :
    Transaction.Alike (Authenticated projectId first second uuid) (Settled projectId first second)
      (promoteRun around (some projectId) requested channel body runId)
      fun _ => Settled projectId first second := by
  cases runId with
  | none => exact .raise fun _ _ related => related.settled
  | some run =>
    refine (requireScope_alike requested fun _ _ related => related.settled).bind fun _ =>
      alike_given fun same => ?_
    subst same
    refine (promoteRun_statement_alike channel run around.now body.reason
      (eligible run rfl rfl)).bind fun result => commit_alike.bind fun _ => ?_
    cases result with
    | none => exact .raise fun _ _ related => related.2
    | some record => exact .pure fun _ _ related => related.2

end Baselines

section Tokens

variable {projectId : String} {first second : Store} {around : Surroundings}

theorem requireTokenScope_alike {R : Session Store → Session Store → Prop} (requested : String)
    (settled : ∀ left right, R left right → Settled projectId first second left right) :
    Transaction.Alike R (Settled projectId first second) (requireTokenScope projectId requested)
      fun _ left right => requested = projectId ∧ R left right := by
  unfold requireTokenScope
  by_cases same : requested = projectId
  · subst same
    rw [if_neg (by simp)]
    exact .pure fun _ _ related => ⟨rfl, related⟩
  · rw [if_pos (Ne.symm same)]
    exact .raise settled

/-- A token is inserted under the fresh id. -/
theorem createToken_fresh {store : Store} {uuid : Uuid} (fresh : Fresh uuid store)
    (present : projectId ∈ store.projects.rows.map ProjectRow.id) (now : Time)
    (name tokenHash : String) :
    ∃ tokens, store.tokens.insert?
        { id := uuid.text, projectId, tokenHash, name, createdAt := now } = some tokens ∧
      Persistence.createToken now uuid.text store projectId name tokenHash =
        .ok (uuid.text, { store with tokens }) := by
  let row : ProjectTokenRow := { id := uuid.text, projectId, tokenHash, name, createdAt := now }
  have absent : row.id ∉ store.tokens.rows.map ProjectTokenRow.id := fresh.2
  obtain ⟨tokens, added⟩ := Table.insert?_of_fresh absent
  refine ⟨tokens, added, ?_⟩
  unfold Persistence.createToken
  rw [if_pos present, insertRow, added]
  rfl

theorem createToken_alike (requested : String) (body : CreateTokenRequest) :
    Transaction.Alike (Authenticated projectId first second around.uuid)
      (Settled projectId first second) (createToken around projectId requested body)
      fun _ => Settled projectId first second := by
  refine (requireTokenScope_alike requested fun _ _ related => related.settled).bind fun _ =>
    alike_given fun same => ?_
  subst same
  have inserted (tokenHash : String) :
      Transaction.Alike (Authenticated requested first second around.uuid)
        (Settled requested first second)
        (repository fun store =>
          Persistence.createToken around.now around.uuid.text store requested body.name tokenHash)
        fun _ => Related requested first second := by
    intro left right authenticated
    have isolated := authenticated.related.1
    obtain ⟨one, added, outcome⟩ := createToken_fresh authenticated.leftFresh
      isolated.leftProject around.now body.name tokenHash
    obtain ⟨two, stored, answer⟩ := createToken_fresh authenticated.rightFresh
      isolated.rightProject around.now body.name tokenHash
    simp only [repository, Transaction.attempt, outcome, answer]
    exact ⟨rfl, isolated.effect (.tokenInsert added rfl) (.tokenInsert stored rfl),
      authenticated.related.2⟩
  exact (inserted _).bind fun _ => commit_alike.bind fun _ => .pure fun _ _ related => related.2

theorem listTokens_alike (requested : String) :
    Transaction.Alike (Authenticated projectId first second around.uuid)
      (Settled projectId first second) (listTokens projectId requested)
      fun _ => Settled projectId first second := by
  refine (requireTokenScope_alike requested fun _ _ related => related.settled).bind fun _ =>
    alike_given fun same => ?_
  subst same
  refine Transaction.Alike.bind (.query fun left right related => ?_) fun rows =>
    .pure fun _ _ done => done.1.settled
  have listed (store : Store) : Persistence.listTokens store requested =
      ((rowsOf requested store).tokens.filter (fun row => row.revokedAt = none)).insertionSort
        (fun a b => a.createdAt ≤ b.createdAt) := by
    unfold Persistence.listTokens rowsOf slice Table.select
    rw [List.filter_filter]
    simp [Bool.and_comm]
  rw [listed, listed, related.related.1.own]

/-- A token of another project is not found. -/
theorem revokeToken_missing {session : Session Store} {tokenId : String}
    (missing : (session.current.tokens.find? tokenId).filter
      (fun row => decide (row.projectId = projectId)) = none) :
    revokeToken around projectId projectId tokenId session =
      (.error (.http 404 "Token not found"), session) := by
  unfold revokeToken requireTokenScope
  rw [if_neg (by simp), Transaction.bind_apply]
  dsimp only [Pure.pure]
  rw [Transaction.bind_apply]
  cases found : session.current.tokens.find? tokenId with
  | none => simp [Transaction.query, getToken, found, abort, Transaction.raise]
  | some row =>
    have foreign : row.projectId ≠ projectId := by simpa [found] using missing
    simp [Transaction.query, getToken, found, foreign, abort, Transaction.raise]

/-- A token of the project is revoked unless it has been. -/
theorem revokeToken_found {session : Session Store} {tokenId : String} {row : ProjectTokenRow}
    (found : session.current.tokens.find? tokenId = some row) (own : row.projectId = projectId) :
    revokeToken around projectId projectId tokenId session =
      (if row.revokedAt = none then .ok (tokenResponse (revokedRow around.now row))
        else .error (.http 409 "Token already revoked"),
        { committed := (Persistence.revokeToken around.now tokenId session.current).2
          current := (Persistence.revokeToken around.now tokenId session.current).2 }) := by
  have counted := Table.matching_key session.current.tokens tokenId
    (fun row => decide (row.revokedAt = none))
  rw [found] at counted
  have revoked : (Persistence.revokeToken around.now tokenId session.current).1 =
      decide (row.revokedAt = none) := by
    unfold Persistence.revokeToken revokeHits
    rw [counted]
    by_cases live : row.revokedAt = none <;> simp [live]
  unfold revokeToken requireTokenScope
  rw [if_neg (by simp), Transaction.bind_apply]
  dsimp only [Pure.pure]
  rw [Transaction.bind_apply]
  simp only [Transaction.query, getToken, found]
  rw [if_neg (by simpa using own), Transaction.bind_apply]
  simp only [Transaction.statement, Transaction.bind_apply, Transaction.commit, revoked]
  by_cases live : row.revokedAt = none
  · simp only [live, decide_true, ↓reduceIte]
  · simp only [live, decide_false, Bool.false_eq_true, ↓reduceIte]
    rfl

theorem revokeToken_alike (requested tokenId : String) :
    Transaction.Alike (Authenticated projectId first second around.uuid)
      (Settled projectId first second) (revokeToken around projectId requested tokenId)
      fun _ => Settled projectId first second := by
  by_cases inside : requested = projectId
  · subst inside
    intro left right authenticated
    have isolated := authenticated.related.1
    have same := rowsOf_tokens isolated.own tokenId
    cases found : (left.current.tokens.find? tokenId).filter
        (fun row => decide (row.projectId = requested)) with
    | none =>
      rw [revokeToken_missing found, revokeToken_missing (same.symm.trans found)]
      exact ⟨rfl, authenticated.settled⟩
    | some row =>
      obtain ⟨here, owned⟩ := Option.filter_eq_some_iff.mp found
      obtain ⟨there, _⟩ := Option.filter_eq_some_iff.mp (same.symm.trans found)
      have own : row.projectId = requested := by simpa using owned
      rw [revokeToken_found here own, revokeToken_found there own]
      have changed {store : Store} (present : store.tokens.find? tokenId = some row) :
          Effect requested
            (fun rows =>
              { rows with
                tokens := rows.tokens.map fun other =>
                  if revokeHits tokenId other then revokedRow around.now other else other })
            store (Persistence.revokeToken around.now tokenId store).2 := by
        refine Effect.tokenUpdate _ (revokedRow around.now) (fun _ => rfl) (fun _ => rfl) ?_
        intro other member hit
        have id : other.id = tokenId := by
          simp only [revokeHits, Bool.and_eq_true, decide_eq_true_eq] at hit
          exact hit.1
        have one := Table.find?_of_mem member
        rw [id, present] at one
        rw [← Option.some.inj one]
        exact own
      have settled := isolated.effect (changed here) (changed there)
      refine ⟨rfl, ?_⟩
      split <;> exact settled
  · intro left right authenticated
    have refused (session : Session Store) : revokeToken around projectId requested tokenId session =
        (.error (.http 403 "Token is not scoped to this project"), session) := by
      unfold revokeToken requireTokenScope
      rw [if_pos (Ne.symm inside)]
      rfl
    rw [refused, refused]
    exact ⟨rfl, authenticated.settled⟩

end Tokens

end RegressionDetection.Api
