import RegressionDetection.Foundation.Table

/-! Several conditional UPDATEs of one table, one after another, with their total row count.
Where no statement selects what another one leaves, they act as one pass over the rows. -/

namespace RegressionDetection.Foundation

universe u v

variable {Key : Type u} {Row : Type v} {key : Row → Key}

/-- `UPDATE ... SET set WHERE hits`. -/
structure Statement (key : Row → Key) where
  hits : Row → Bool
  set : Row → Row
  keeps : ∀ row, key (set row) = key row

/-- The statements in order: the sum of their row counts and the table they leave. -/
def sweep (table : Table key) : List (Statement key) → Nat × Table key
  | [] => (0, table)
  | statement :: rest =>
    let (count, last) := sweep (table.update statement.hits statement.set statement.keeps) rest
    (table.matching statement.hits + count, last)

/-- Some statement selects the row. -/
def anyHits (statements : List (Statement key)) (row : Row) : Bool :=
  statements.any fun statement => statement.hits row

/-- One row after the first statement that selects it. -/
def swept (statements : List (Statement key)) (row : Row) : Row :=
  match statements.find? fun statement => statement.hits row with
  | some statement => statement.set row
  | none => row

/-- A row that a statement has changed is selected by none. -/
def Settling (statements : List (Statement key)) : Prop :=
  ∀ statement ∈ statements, ∀ row, anyHits statements (statement.set row) = false

section Rules

variable {statement : Statement key} {statements : List (Statement key)} {table : Table key} {row : Row}

theorem swept_of_miss (missed : anyHits statements row = false) : swept statements row = row := by
  have none : statements.find? (fun statement => statement.hits row) = none := by
    simpa [anyHits, List.find?_eq_none] using missed
  rw [swept, none]

/-- A changed row is changed by one of the statements. -/
theorem swept_of_hit (hit : anyHits statements row = true) :
    ∃ statement ∈ statements, statement.hits row = true ∧ swept statements row = statement.set row := by
  obtain ⟨first, found⟩ : ∃ first,
      statements.find? (fun statement => statement.hits row) = some first := by
    rw [← Option.isSome_iff_exists, List.find?_isSome]
    simpa [anyHits] using hit
  refine ⟨first, List.mem_of_find?_eq_some found, ?_, by rw [swept, found]⟩
  simpa using List.find?_some found

theorem swept_key (row : Row) : key (swept statements row) = key row := by
  cases hit : anyHits statements row with
  | false => rw [swept_of_miss hit]
  | true =>
    obtain ⟨statement, _, _, same⟩ := swept_of_hit hit
    rw [same, statement.keeps]

theorem Settling.tail (settling : Settling (statement :: statements)) : Settling statements := by
  intro other member row
  have missed := settling other (List.mem_cons_of_mem _ member) row
  simp only [anyHits, List.any_cons, Bool.or_eq_false_iff] at missed
  exact missed.2

theorem Settling.missed (settling : Settling (statement :: statements)) (row : Row) :
    anyHits statements (statement.set row) = false := by
  have missed := settling statement List.mem_cons_self row
  simp only [anyHits, List.any_cons, Bool.or_eq_false_iff] at missed
  exact missed.2

/-- After a pass no statement selects anything. -/
theorem Settling.swept_missed (settling : Settling statements) (row : Row) :
    anyHits statements (swept statements row) = false := by
  cases hit : anyHits statements row with
  | false => rwa [swept_of_miss hit]
  | true =>
    obtain ⟨statement, member, _, same⟩ := swept_of_hit hit
    rw [same]
    exact settling statement member row

/-- A pass changes exactly the rows that some statement selects. -/
theorem Settling.swept_eq_iff (settling : Settling statements) :
    swept statements row = row ↔ anyHits statements row = false := by
  refine ⟨fun same => ?_, swept_of_miss⟩
  have missed := settling.swept_missed row
  rwa [same] at missed

/-- The statements change every row once at most, as one pass does. -/
theorem sweep_rows (settling : Settling statements) :
    (sweep table statements).2.rows = table.rows.map (swept statements) := by
  induction statements generalizing table with
  | nil => exact (List.map_id table.rows).symm
  | cons statement rest ih =>
    change (sweep (table.update statement.hits statement.set statement.keeps) rest).2.rows = _
    rw [ih settling.tail, Table.update, List.map_map]
    apply List.map_congr_left
    intro row _
    by_cases hit : statement.hits row = true
    · have last := swept_of_miss (settling.missed row)
      simp only [Function.comp_apply, if_pos hit, last]
      simp [swept, hit]
    · simp [swept, hit]

/-- A row is counted by the first statement that selects it and by no later one. -/
theorem Settling.countP_add (settling : Settling (statement :: statements)) (rows : List Row) :
    rows.countP statement.hits + rows.countP
        (fun row => anyHits statements (if statement.hits row then statement.set row else row)) =
      rows.countP (anyHits (statement :: statements)) := by
  induction rows with
  | nil => rfl
  | cons row others ih =>
    simp only [List.countP_cons]
    cases hit : statement.hits row with
    | true =>
      have whole : anyHits (statement :: statements) row = true := by simp [anyHits, hit]
      simp only [↓reduceIte, settling.missed row, whole, Bool.false_eq_true]
      omega
    | false =>
      have whole : anyHits (statement :: statements) row = anyHits statements row := by
        simp [anyHits, hit]
      simp only [Bool.false_eq_true, ↓reduceIte, whole]
      omega

/-- The row counts add up to the number of rows that some statement selects. -/
theorem sweep_count (settling : Settling statements) :
    (sweep table statements).1 = table.rows.countP (anyHits statements) := by
  induction statements generalizing table with
  | nil => exact (List.countP_eq_zero.mpr fun _ _ => Bool.false_ne_true).symm
  | cons statement rest ih =>
    change table.matching statement.hits +
      (sweep (table.update statement.hits statement.set statement.keeps) rest).1 = _
    rw [ih settling.tail, Table.matching, Table.update, List.countP_map]
    exact settling.countP_add table.rows

/-- Over rows that no statement selects nothing happens. -/
theorem sweep_of_miss (missed : ∀ row ∈ table.rows, anyHits statements row = false) :
    sweep table statements = (0, table) := by
  induction statements with
  | nil => rfl
  | cons statement rest ih =>
    have first : ∀ row ∈ table.rows, statement.hits row = false ∧ anyHits rest row = false := by
      intro row member
      simpa [anyHits] using missed row member
    have same : table.update statement.hits statement.set statement.keeps = table :=
      Table.update_of_miss fun row member => (first row member).1
    have none : table.matching statement.hits = 0 := by
      simpa [Table.matching, List.countP_eq_zero] using fun row member => (first row member).1
    rw [sweep, same, ih fun row member => (first row member).2, none]

theorem sweep_keys (settling : Settling statements) :
    (sweep table statements).2.rows.map key = table.rows.map key := by
  rw [sweep_rows settling, List.map_map]
  exact List.map_congr_left fun row _ => swept_key row

theorem sweep_find? [DecidableEq Key] (settling : Settling statements) (member : row ∈ table.rows) :
    (sweep table statements).2.find? (key row) = some (swept statements row) := by
  apply Table.find?_eq_some_iff.mpr
  rw [sweep_rows settling]
  exact ⟨List.mem_map.mpr ⟨row, member, rfl⟩, swept_key row⟩

/-- The row counts add up to the number of rows that change. -/
theorem sweep_counts_changes [DecidableEq Key] [DecidableEq Row] (settling : Settling statements) :
    (sweep table statements).1 =
      table.rows.countP fun row => decide ((sweep table statements).2.find? (key row) ≠ some row) := by
  rw [sweep_count settling]
  apply List.countP_congr
  intro row member
  rw [sweep_find? settling member, decide_eq_true_eq, Ne, Option.some.injEq, settling.swept_eq_iff,
    Bool.not_eq_false]

/-- A second pass finds nothing to do. -/
theorem sweep_again (settling : Settling statements) :
    sweep (sweep table statements).2 statements = (0, (sweep table statements).2) := by
  apply sweep_of_miss
  rw [sweep_rows settling]
  intro row member
  obtain ⟨original, _, rfl⟩ := List.mem_map.mp member
  exact settling.swept_missed original

end Rules

end RegressionDetection.Foundation
