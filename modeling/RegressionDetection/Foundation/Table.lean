import Mathlib.Data.List.Nodup
import Mathlib.Data.List.Basic

/-! Relational tables with a primary key: point lookup, conditional UPDATE with
its row count, and INSERT under the key's uniqueness constraint. -/

namespace RegressionDetection.Foundation

universe u v

variable {Key : Type u} {Row : Type v} {key : Row → Key}

/-- Rows in insertion order, no two of them under one key. -/
structure Table (key : Row → Key) where
  rows : List Row
  distinct : (rows.map key).Nodup

namespace Table

theorem ext_rows {first second : Table key} (same : first.rows = second.rows) : first = second := by
  cases first
  cases second
  cases same
  rfl

def empty : Table key := ⟨[], by simp⟩

/-- `SELECT ... WHERE p`. -/
def select (table : Table key) (p : Row → Bool) : List Row := table.rows.filter p

/-- The row count an `UPDATE ... WHERE p` reports. -/
def matching (table : Table key) (p : Row → Bool) : Nat := table.rows.countP p

/-- `UPDATE ... SET set WHERE p`, for assignments that leave the key alone. -/
def update (table : Table key) (p : Row → Bool) (set : Row → Row)
    (keeps : ∀ row, key (set row) = key row) : Table key :=
  ⟨table.rows.map (fun row => if p row then set row else row), by
    have same : (table.rows.map (fun row => if p row then set row else row)).map key =
        table.rows.map key := by
      rw [List.map_map]
      apply List.map_congr_left
      intro row _
      by_cases hit : p row <;> simp [hit, keeps]
    rw [same]
    exact table.distinct⟩

/-- An UPDATE that matches no row leaves the table as it is. -/
theorem update_of_miss {table : Table key} {p : Row → Bool} {set : Row → Row}
    {keeps : ∀ row, key (set row) = key row} (missed : ∀ row ∈ table.rows, p row = false) :
    table.update p set keeps = table := by
  apply ext_rows
  change table.rows.map (fun row => if p row then set row else row) = table.rows
  conv_rhs => rw [← List.map_id table.rows]
  apply List.map_congr_left
  intro row member
  simp [missed row member]

variable [DecidableEq Key]

/-- Lookup by primary key. -/
def find? (table : Table key) (k : Key) : Option Row :=
  table.rows.find? (fun row => decide (key row = k))

/-- `INSERT`; `none` is the violation of the unique constraint. -/
def insert? (table : Table key) (row : Row) : Option (Table key) :=
  if fresh : key row ∈ table.rows.map key then none
  else some ⟨table.rows ++ [row], by
    rw [List.map_append]
    refine List.nodup_append.mpr ⟨table.distinct, by simp, ?_⟩
    intro a old b new same
    have final : b = key row := by simpa using new
    subst final
    exact fresh (same ▸ old)⟩

/-- One flush of several INSERTs: all of them or none. -/
def insertAll? (table : Table key) : List Row → Option (Table key)
  | [] => some table
  | row :: rest => (table.insert? row).bind (fun next => next.insertAll? rest)

theorem find?_eq_some_iff {table : Table key} {k : Key} {row : Row} :
    table.find? k = some row ↔ row ∈ table.rows ∧ key row = k := by
  constructor
  · intro found
    have hit := List.find?_some found
    exact ⟨List.mem_of_find?_eq_some found, by simpa using hit⟩
  · rintro ⟨member, same⟩
    subst same
    cases found : table.find? (key row) with
    | none => exact absurd (by simpa using List.find?_eq_none.mp found row member) id
    | some other =>
      have hit := List.find?_some found
      have alike : key other = key row := by simpa using hit
      rw [List.inj_on_of_nodup_map table.distinct (List.mem_of_find?_eq_some found) member alike]

theorem find?_eq_none_iff {table : Table key} {k : Key} :
    table.find? k = none ↔ k ∉ table.rows.map key := by
  simp [find?, List.find?_eq_none, List.mem_map]

theorem key_of_find? {table : Table key} {k : Key} {row : Row}
    (found : table.find? k = some row) : key row = k :=
  (find?_eq_some_iff.mp found).2

theorem mem_of_find? {table : Table key} {k : Key} {row : Row}
    (found : table.find? k = some row) : row ∈ table.rows :=
  (find?_eq_some_iff.mp found).1

theorem find?_of_mem {table : Table key} {row : Row} (member : row ∈ table.rows) :
    table.find? (key row) = some row :=
  find?_eq_some_iff.mpr ⟨member, rfl⟩

/-- An UPDATE changes the row under a key exactly when that row matches. -/
theorem find?_update (table : Table key) (p : Row → Bool) (set : Row → Row)
    (keeps : ∀ row, key (set row) = key row) (k : Key) :
    (table.update p set keeps).find? k =
      (table.find? k).map (fun row => if p row then set row else row) := by
  cases found : table.find? k with
  | none =>
    have absent := find?_eq_none_iff.mp found
    apply find?_eq_none_iff.mpr
    intro present
    obtain ⟨changed, member, same⟩ := List.mem_map.mp present
    obtain ⟨row, original, image⟩ := List.mem_map.mp member
    apply absent
    refine List.mem_map.mpr ⟨row, original, ?_⟩
    rw [← same, ← image]
    by_cases hit : p row <;> simp [hit, keeps]
  | some row =>
    obtain ⟨member, same⟩ := find?_eq_some_iff.mp found
    apply find?_eq_some_iff.mpr
    refine ⟨List.mem_map.mpr ⟨row, member, rfl⟩, ?_⟩
    by_cases hit : p row <;> simp [hit, keeps, same]

/-- The same for an UPDATE of the row under one key, with a further condition. -/
theorem find?_updateKey (table : Table key) (k : Key) (q : Row → Bool) (set : Row → Row)
    (keeps : ∀ row, key (set row) = key row) (other : Key) :
    (table.update (fun row => decide (key row = k) && q row) set keeps).find? other =
      if other = k then (table.find? k).map (fun row => if q row then set row else row)
      else table.find? other := by
  rw [find?_update]
  by_cases same : other = k
  · subst same
    rw [if_pos rfl]
    cases found : table.find? other with
    | none => rfl
    | some row => simp [key_of_find? found]
  · rw [if_neg same]
    cases found : table.find? other with
    | none => rfl
    | some row => simp [key_of_find? found, same]

theorem find?_insert {table next : Table key} {row : Row} (added : table.insert? row = some next)
    (k : Key) : next.find? k = if key row = k then some row else table.find? k := by
  unfold insert? at added
  split at added
  · cases added
  · rename_i fresh
    cases added
    by_cases own : key row = k
    · rw [if_pos own]
      exact find?_eq_some_iff.mpr ⟨by simp, own⟩
    · simp [find?, List.find?_append, own]

theorem insert?_eq_none_iff {table : Table key} {row : Row} :
    table.insert? row = none ↔ key row ∈ table.rows.map key := by
  unfold insert?
  split <;> simp_all

theorem rows_insert {table next : Table key} {row : Row} (added : table.insert? row = some next) :
    next.rows = table.rows ++ [row] ∧ key row ∉ table.rows.map key := by
  unfold insert? at added
  split at added
  · cases added
  · rename_i fresh
    cases added
    exact ⟨rfl, fresh⟩

theorem insert?_of_fresh {table : Table key} {row : Row} (fresh : key row ∉ table.rows.map key) :
    ∃ next, table.insert? row = some next := by
  unfold insert?
  rw [dif_neg fresh]
  exact ⟨_, rfl⟩

/-- A flush goes through exactly when its rows neither collide with each other
nor with a stored row, and it appends them in order. -/
theorem insertAll?_eq_some_iff {table next : Table key} {rows : List Row} :
    table.insertAll? rows = some next ↔
      next.rows = table.rows ++ rows ∧ (table.rows.map key ++ rows.map key).Nodup := by
  induction rows generalizing table with
  | nil =>
    constructor
    · intro done
      cases done
      simpa using next.distinct
    · rintro ⟨same, _⟩
      exact congrArg some (ext_rows (by simpa using same.symm))
  | cons row rest ih =>
    cases added : table.insert? row with
    | none =>
      have clash := insert?_eq_none_iff.mp added
      simp only [insertAll?, added, Option.bind_none, reduceCtorEq, false_iff, not_and]
      intro _ nodup
      exact (List.nodup_append.mp nodup).2.2 _ clash _ (by simp) rfl
    | some middle =>
      obtain ⟨grown, _⟩ := rows_insert added
      simp only [insertAll?, added, Option.bind_some, ih, grown]
      simp

/-- The row count of an UPDATE restricted to one key is the verdict on its row. -/
theorem matching_key (table : Table key) (k : Key) (q : Row → Bool) :
    table.matching (fun row => decide (key row = k) && q row) =
      if (table.find? k).any q then 1 else 0 := by
  obtain ⟨rows, distinct⟩ := table
  unfold matching find?
  dsimp only
  induction rows with
  | nil => rfl
  | cons head rest ih =>
    rw [List.map_cons] at distinct
    obtain ⟨apart, restDistinct⟩ := List.nodup_cons.mp distinct
    by_cases own : key head = k
    · have alone : rest.countP (fun row => decide (key row = k) && q row) = 0 := by
        apply List.countP_eq_zero.mpr
        intro row member both
        simp only [Bool.and_eq_true, decide_eq_true_eq] at both
        exact apart (List.mem_map.mpr ⟨row, member, both.1.trans own.symm⟩)
      rw [List.countP_cons, alone, List.find?_cons_of_pos (by simpa using own)]
      simp [own]
    · rw [List.countP_cons, List.find?_cons_of_neg (by simpa using own), ← ih restDistinct]
      simp [own]

/-- One row is stored under a key that is found. -/
theorem matching_of_found {table : Table key} {k : Key} {row : Row}
    (found : table.find? k = some row) : table.matching (fun row => decide (key row = k)) = 1 := by
  have counted := table.matching_key k fun _ => true
  rw [found] at counted
  simpa using counted

theorem matching_of_missing {table : Table key} {k : Key} (missing : table.find? k = none) :
    table.matching (fun row => decide (key row = k)) = 0 := by
  have counted := table.matching_key k fun _ => true
  rw [missing] at counted
  simpa using counted

section Slices

variable {own : Row → Bool}

/-- A point lookup sees an owned row exactly when the owned rows hold it. -/
theorem filter_find? (table : Table key) (k : Key) (own : Row → Bool) :
    (table.find? k).filter own = (table.select own).find? (fun row => decide (key row = k)) := by
  let owned : Table key :=
    ⟨table.select own, (List.filter_sublist.map key).nodup table.distinct⟩
  change (table.find? k).filter own = owned.find? k
  apply Option.ext
  intro row
  have selected : row ∈ owned.rows ↔ row ∈ table.rows ∧ own row = true := List.mem_filter
  rw [Option.filter_eq_some_iff, find?_eq_some_iff, find?_eq_some_iff, selected]
  constructor
  · rintro ⟨⟨member, same⟩, hit⟩
    exact ⟨⟨member, hit⟩, same⟩
  · rintro ⟨⟨member, hit⟩, same⟩
    exact ⟨⟨member, same⟩, hit⟩

omit [DecidableEq Key] in
/-- An UPDATE that keeps ownership acts on the owned rows by themselves. -/
theorem select_update (table : Table key) (p : Row → Bool) (set : Row → Row)
    (keeps : ∀ row, key (set row) = key row) (stable : ∀ row, own (set row) = own row) :
    (table.update p set keeps).select own =
      (table.select own).map (fun row => if p row then set row else row) := by
  unfold select update
  dsimp only
  rw [List.filter_map]
  congr 1
  apply List.filter_congr
  intro row _
  by_cases hit : p row <;> simp [hit, stable]

omit [DecidableEq Key] in
/-- An UPDATE that selects owned rows only leaves the others alone. -/
theorem select_update_apart (table : Table key) (p : Row → Bool) (set : Row → Row)
    (keeps : ∀ row, key (set row) = key row) (stable : ∀ row, own (set row) = own row)
    (apart : ∀ row ∈ table.rows, p row = true → own row = false) :
    (table.update p set keeps).select own = table.select own := by
  rw [select_update table p set keeps stable]
  conv_rhs => rw [← List.map_id (table.select own)]
  apply List.map_congr_left
  intro row member
  obtain ⟨listed, owned⟩ := List.mem_filter.mp member
  have missed : p row = false := by
    by_contra hit
    rw [apart row listed (by simpa using hit)] at owned
    cases owned
  simp [missed]

omit [DecidableEq Key] in
/-- An UPDATE of one row takes it from the owned rows that it leaves. -/
theorem select_updateOne [DecidableEq Row] (table : Table key) {p : Row → Bool} {set : Row → Row}
    (keeps : ∀ row, key (set row) = key row) {row : Row}
    (only : ∀ other ∈ table.rows, p other = true ↔ other = row) (leaves : own (set row) = false) :
    (table.update p set keeps).select own = (table.select own).erase row := by
  have distinct : (table.select own).Nodup := table.distinct.of_map.filter _
  unfold select update at *
  dsimp only
  rw [distinct.erase_eq_filter, List.filter_filter, List.filter_map]
  have kept : table.rows.filter (own ∘ fun other => if p other then set other else other) =
      table.rows.filter fun other => other != row && own other := by
    apply List.filter_congr
    intro other member
    by_cases hit : p other = true
    · obtain rfl := (only other member).mp hit
      simp [hit, leaves]
    · have apart : other ≠ row := fun same => hit ((only other member).mpr same)
      simp [hit, apart]
  rw [kept]
  conv_rhs => rw [← List.map_id (table.rows.filter fun other => other != row && own other)]
  apply List.map_congr_left
  intro other member
  obtain ⟨listed, others⟩ := List.mem_filter.mp member
  have missed : ¬ p other = true := by
    intro hit
    simp [(only other listed).mp hit] at others
  simp [missed]

theorem select_insert {table next : Table key} {row : Row} (added : table.insert? row = some next) :
    next.select own = table.select own ++ (if own row then [row] else []) := by
  unfold select
  rw [(rows_insert added).1, List.filter_append]
  by_cases owned : own row = true <;> simp [owned]

end Slices

end Table

end RegressionDetection.Foundation
