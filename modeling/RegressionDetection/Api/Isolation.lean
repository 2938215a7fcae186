import RegressionDetection.Api.Routes

/-! The rows of one project and the rows of the others, and what the statements of a
request do to each. -/

namespace RegressionDetection.Api

open Foundation Specification Persistence

/-- A part of the database, table by table. -/
structure Rows where
  projects : List ProjectRow
  runs : List RunRow
  cases : List CaseRow
  baselines : List BaselineChannelRow
  tokens : List ProjectTokenRow
  idempotency : List IdempotencyRecordRow

/-- A case row belongs where its run does. -/
def ownsCase (store : Store) (owner : String → Bool) (row : CaseRow) : Bool :=
  (store.runs.find? row.runId).any (fun run => owner run.projectId)

/-- The rows of the projects that meet a condition. -/
def slice (owner : String → Bool) (store : Store) : Rows where
  projects := store.projects.select (fun row => owner row.id)
  runs := store.runs.select (fun row => owner row.projectId)
  cases := store.cases.select (ownsCase store owner)
  baselines := store.baselines.select (fun row => owner row.projectId)
  tokens := store.tokens.select (fun row => owner row.projectId)
  idempotency := store.idempotency.select (fun row => owner row.projectId)

def rowsOf (projectId : String) (store : Store) : Rows :=
  slice (fun owner => decide (owner = projectId)) store

def otherRows (projectId : String) (store : Store) : Rows :=
  slice (fun owner => decide (owner ≠ projectId)) store

/-- The foreign keys of the schema. -/
structure ForeignKeys (store : Store) : Prop where
  runs : ∀ row ∈ store.runs.rows, row.projectId ∈ store.projects.rows.map ProjectRow.id
  cases : ∀ row ∈ store.cases.rows, row.runId ∈ store.runs.rows.map RunRow.id
  baselines : ∀ row ∈ store.baselines.rows,
    row.projectId ∈ store.projects.rows.map ProjectRow.id ∧ row.runId ∈ store.runs.rows.map RunRow.id
  tokens : ∀ row ∈ store.tokens.rows, row.projectId ∈ store.projects.rows.map ProjectRow.id
  idempotency : ∀ row ∈ store.idempotency.rows,
    row.projectId ∈ store.projects.rows.map ProjectRow.id ∧ row.runId ∈ store.runs.rows.map RunRow.id

section Lookups

variable {projectId : String} {first second : Store}

/-- A row of the project is found in both stores or in neither. -/
theorem find?_owned {Key Row : Type} [DecidableEq Key] {key : Row → Key} {one two : Table key}
    {own : Row → Bool} (same : one.select own = two.select own) (k : Key) :
    (one.find? k).filter own = (two.find? k).filter own := by
  rw [Table.filter_find?, Table.filter_find?, same]

/-- Where every row under the key belongs to the project, the two stores find the same. -/
theorem find?_covered {Key Row : Type} [DecidableEq Key] {key : Row → Key} {one two : Table key}
    {own : Row → Bool} (same : one.select own = two.select own) {k : Key}
    (covered : ∀ row, key row = k → own row = true) : one.find? k = two.find? k := by
  have kept (table : Table key) : (table.find? k).filter own = table.find? k := by
    cases found : table.find? k with
    | none => rfl
    | some row => exact Option.filter_some_pos (covered row (Table.key_of_find? found))
  rw [← kept one, ← kept two, find?_owned same]

theorem rowsOf_runs (agree : rowsOf projectId first = rowsOf projectId second) (runId : String) :
    (first.runs.find? runId).filter (fun run => decide (run.projectId = projectId)) =
      (second.runs.find? runId).filter (fun run => decide (run.projectId = projectId)) :=
  find?_owned (congrArg Rows.runs agree) runId

theorem rowsOf_tokens (agree : rowsOf projectId first = rowsOf projectId second) (tokenId : String) :
    (first.tokens.find? tokenId).filter (fun row => decide (row.projectId = projectId)) =
      (second.tokens.find? tokenId).filter (fun row => decide (row.projectId = projectId)) :=
  find?_owned (congrArg Rows.tokens agree) tokenId

/-- The cases of a run of the project are among the project's rows. -/
theorem casesOf_owned {store : Store} {run : RunRow} {runId : String}
    (found : store.runs.find? runId = some run) (own : run.projectId = projectId) :
    store.casesOf runId = (rowsOf projectId store).cases.filter (fun row => row.runId = runId) := by
  unfold Store.casesOf rowsOf slice Table.select
  rw [List.filter_filter]
  apply List.filter_congr
  intro row _
  by_cases same : row.runId = runId
  · simp [same, ownsCase, found, own]
  · simp [same]

/-- The whole record of a run of the project. -/
theorem getRun_owned (agree : rowsOf projectId first = rowsOf projectId second) {runId : String}
    {run : RunRow} (found : first.runs.find? runId = some run) (own : run.projectId = projectId) :
    Persistence.getRun runId first = Persistence.getRun runId second := by
  have same := rowsOf_runs agree runId
  rw [found, Option.filter_some_pos (by simpa using own)] at same
  obtain ⟨present, _⟩ := Option.filter_eq_some_iff.mp same.symm
  rw [Persistence.getRun, Persistence.getRun, found, present, casesOf_owned found own,
    casesOf_owned present own, agree]

end Lookups

/-- A statement of a request: a change of the project's rows by themselves, and of
nothing else. -/
structure Effect (projectId : String) (change : Rows → Rows) (store next : Store) : Prop where
  own : rowsOf projectId next = change (rowsOf projectId store)
  others : otherRows projectId next = otherRows projectId store
  projects : next.projects = store.projects
  cases : (∀ row ∈ store.cases.rows, row.runId ∈ store.runs.rows.map RunRow.id) →
    ∀ row ∈ next.cases.rows, row.runId ∈ next.runs.rows.map RunRow.id

section Effects

variable {projectId : String} {store : Store}

theorem Effect.tokenUpdate (p : ProjectTokenRow → Bool) (set : ProjectTokenRow → ProjectTokenRow)
    (keeps : ∀ row, (set row).id = row.id) (stable : ∀ row, (set row).projectId = row.projectId)
    (inside : ∀ row ∈ store.tokens.rows, p row = true → row.projectId = projectId) :
    Effect projectId
      (fun rows => { rows with tokens := rows.tokens.map fun row => if p row then set row else row })
      store { store with tokens := store.tokens.update p set keeps } where
  own := by
    unfold rowsOf slice
    congr 1
    exact Table.select_update store.tokens p set keeps fun row => by rw [stable]
  others := by
    unfold otherRows slice
    congr 1
    refine Table.select_update_apart store.tokens p set keeps (fun row => by rw [stable]) ?_
    intro row member hit
    simp [inside row member hit]
  projects := rfl
  cases := id

theorem Effect.baselineUpdate (p : BaselineChannelRow → Bool)
    (set : BaselineChannelRow → BaselineChannelRow) (keeps : ∀ row, (set row).key = row.key)
    (stable : ∀ row, (set row).projectId = row.projectId)
    (inside : ∀ row ∈ store.baselines.rows, p row = true → row.projectId = projectId) :
    Effect projectId
      (fun rows =>
        { rows with baselines := rows.baselines.map fun row => if p row then set row else row })
      store { store with baselines := store.baselines.update p set keeps } where
  own := by
    unfold rowsOf slice
    congr 1
    exact Table.select_update store.baselines p set keeps fun row => by rw [stable]
  others := by
    unfold otherRows slice
    congr 1
    refine Table.select_update_apart store.baselines p set keeps (fun row => by rw [stable]) ?_
    intro row member hit
    simp [inside row member hit]
  projects := rfl
  cases := id

/-- An UPDATE of runs moves no case row to another project. -/
theorem ownsCase_update (owner : String → Bool) (p : RunRow → Bool) (set : RunRow → RunRow)
    (keeps : ∀ row, (set row).id = row.id) (stable : ∀ row, (set row).projectId = row.projectId) :
    ownsCase { store with runs := store.runs.update p set keeps } owner = ownsCase store owner := by
  funext row
  simp only [ownsCase, Table.find?_update, Option.any_map]
  congr 1
  funext run
  by_cases hit : p run = true <;> simp [hit, stable]

theorem Effect.runUpdate (p : RunRow → Bool) (set : RunRow → RunRow)
    (keeps : ∀ row, (set row).id = row.id) (stable : ∀ row, (set row).projectId = row.projectId)
    (inside : ∀ row ∈ store.runs.rows, p row = true → row.projectId = projectId) :
    Effect projectId
      (fun rows => { rows with runs := rows.runs.map fun row => if p row then set row else row })
      store { store with runs := store.runs.update p set keeps } where
  own := by
    unfold rowsOf slice
    rw [ownsCase_update _ p set keeps stable]
    congr 1
    exact Table.select_update store.runs p set keeps fun row => by rw [stable]
  others := by
    unfold otherRows slice
    rw [ownsCase_update _ p set keeps stable]
    congr 1
    refine Table.select_update_apart store.runs p set keeps (fun row => by rw [stable]) ?_
    intro row member hit
    simp [inside row member hit]
  projects := rfl
  cases := by
    intro stored row member
    obtain ⟨run, listed, same⟩ := List.mem_map.mp (stored row member)
    refine List.mem_map.mpr ⟨_, List.mem_map.mpr ⟨run, listed, rfl⟩, ?_⟩
    by_cases hit : p run = true <;> simp [hit, keeps, same]

theorem Effect.tokenInsert {row : ProjectTokenRow} {tokens : Table ProjectTokenRow.id}
    (added : store.tokens.insert? row = some tokens) (own : row.projectId = projectId) :
    Effect projectId (fun rows => { rows with tokens := rows.tokens ++ [row] }) store
      { store with tokens } where
  own := by
    unfold rowsOf slice
    congr 1
    rw [Table.select_insert added]
    simp [own]
  others := by
    unfold otherRows slice
    congr 1
    rw [Table.select_insert added]
    simp [own]
  projects := rfl
  cases := id

theorem Effect.baselineInsert {row : BaselineChannelRow} {baselines : Table BaselineChannelRow.key}
    (added : store.baselines.insert? row = some baselines) (own : row.projectId = projectId) :
    Effect projectId (fun rows => { rows with baselines := rows.baselines ++ [row] }) store
      { store with baselines } where
  own := by
    unfold rowsOf slice
    congr 1
    rw [Table.select_insert added]
    simp [own]
  others := by
    unfold otherRows slice
    congr 1
    rw [Table.select_insert added]
    simp [own]
  projects := rfl
  cases := id

theorem Effect.idempotencyInsert {row : IdempotencyRecordRow}
    {idempotency : Table IdempotencyRecordRow.key}
    (added : store.idempotency.insert? row = some idempotency) (own : row.projectId = projectId) :
    Effect projectId (fun rows => { rows with idempotency := rows.idempotency ++ [row] }) store
      { store with idempotency } where
  own := by
    unfold rowsOf slice
    congr 1
    rw [Table.select_insert added]
    simp [own]
  others := by
    unfold otherRows slice
    congr 1
    rw [Table.select_insert added]
    simp [own]
  projects := rfl
  cases := id

/-- A new run takes no stored case row over. -/
theorem ownsCase_insert {row : RunRow} {runs : Table RunRow.id}
    (added : store.runs.insert? row = some runs) (owner : String → Bool) {case : CaseRow}
    (stored : case.runId ∈ store.runs.rows.map RunRow.id) :
    ownsCase { store with runs } owner case = ownsCase store owner case := by
  have apart : ¬ row.id = case.runId := fun same => (Table.rows_insert added).2 (same ▸ stored)
  simp only [ownsCase, Table.find?_insert added, if_neg apart]

theorem Effect.runInsert {row : RunRow} {runs : Table RunRow.id}
    (added : store.runs.insert? row = some runs) (own : row.projectId = projectId)
    (stored : ∀ case ∈ store.cases.rows, case.runId ∈ store.runs.rows.map RunRow.id) :
    Effect projectId (fun rows => { rows with runs := rows.runs ++ [row] }) store
      { store with runs } where
  own := by
    unfold rowsOf slice
    congr 1
    · rw [Table.select_insert added]
      simp [own]
    · exact List.filter_congr fun case member => ownsCase_insert added _ (stored case member)
  others := by
    unfold otherRows slice
    congr 1
    · rw [Table.select_insert added]
      simp [own]
    · exact List.filter_congr fun case member => ownsCase_insert added _ (stored case member)
  projects := rfl
  cases := by
    intro _ case member
    rw [(Table.rows_insert added).1, List.map_append]
    exact List.mem_append_left _ (stored case member)

end Effects

/-- Two stores in which the project has the same rows, each with the rows of the
other projects it started with. -/
structure Isolated (projectId : String) (first second left right : Store) : Prop where
  own : rowsOf projectId left = rowsOf projectId right
  leftOthers : otherRows projectId left = otherRows projectId first
  rightOthers : otherRows projectId right = otherRows projectId second
  leftProject : projectId ∈ left.projects.rows.map ProjectRow.id
  rightProject : projectId ∈ right.projects.rows.map ProjectRow.id
  leftCases : ∀ row ∈ left.cases.rows, row.runId ∈ left.runs.rows.map RunRow.id
  rightCases : ∀ row ∈ right.cases.rows, row.runId ∈ right.runs.rows.map RunRow.id

theorem Isolated.effect {projectId : String} {first second left right leftNext rightNext : Store}
    {change : Rows → Rows} (isolated : Isolated projectId first second left right)
    (one : Effect projectId change left leftNext) (two : Effect projectId change right rightNext) :
    Isolated projectId first second leftNext rightNext where
  own := by rw [one.own, two.own, isolated.own]
  leftOthers := one.others.trans isolated.leftOthers
  rightOthers := two.others.trans isolated.rightOthers
  leftProject := one.projects ▸ isolated.leftProject
  rightProject := two.projects ▸ isolated.rightProject
  leftCases := one.cases isolated.leftCases
  rightCases := two.cases isolated.rightCases

end RegressionDetection.Api
