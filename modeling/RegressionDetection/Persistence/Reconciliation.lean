import RegressionDetection.Foundation.Sweep
import RegressionDetection.Persistence.Calls

/-! `reconcile_stranded_runs` over the whole table: its UPDATEs in sequence act as one pass
that ends every stranded run once. -/

namespace RegressionDetection.Persistence

open Foundation Specification Providers Policy Execution

section

variable (now : Time) (leaseGraceSeconds : Int) (maxCreatedAgeSeconds : Option Int)

/-- What reconciliation makes of a stranded run. -/
inductive Reconciles (run : RunRow) : RunRow → Prop where
  | failed (running : run.state = .running) (held : run.leaseExpiresAt = some lease)
      (expired : lease < now - seconds leaseGraceSeconds) :
      Reconciles run
        { run with state := .failed, gateOutcome := some .error,
                   executionStatus := some .reconciled, completedAt := some now,
                   metrics := some (.reconciled now .leaseExpired) }
  | cancelled (cancelling : run.state = .cancelling) (held : run.leaseExpiresAt = some lease)
      (expired : lease < now - seconds leaseGraceSeconds) :
      Reconciles run
        { run with state := .cancelled, completedAt := some now,
                   metrics := some (.reconciled now .cancelledLeaseExpired) }
  | stale (created : run.state = .created) (limited : maxCreatedAgeSeconds = some age)
      (older : run.createdAt < now - seconds age) :
      Reconciles run
        { run with state := .failed, gateOutcome := some .error,
                   executionStatus := some .reconciled, completedAt := some now,
                   metrics := some (.reconciled now .staleCreated) }

/-- One UPDATE of the call, with its cutoff. -/
def reconcileUpdate (statement : ReconcileReason × Time) : Statement RunRow.id where
  hits := statement.1.matches statement.2
  set := reconcileRow statement.1 now
  keeps := reconcileRow_id statement.1 now

/-- The UPDATEs of the call. -/
def reconcileUpdates : List (Statement RunRow.id) :=
  (reconcileStatements now leaseGraceSeconds maxCreatedAgeSeconds).map (reconcileUpdate now)

end

section Sweeps

variable {now : Time} {leaseGraceSeconds : Int} {maxCreatedAgeSeconds : Option Int} {store : Store}
  {run row : RunRow}

/-- The call runs its UPDATEs on the runs and touches no other table. -/
theorem reconcileStrandedRuns_eq :
    reconcileStrandedRuns now store leaseGraceSeconds maxCreatedAgeSeconds =
      let (count, runs) :=
        sweep store.runs (reconcileUpdates now leaseGraceSeconds maxCreatedAgeSeconds)
      (count, { store with runs }) := by
  cases maxCreatedAgeSeconds <;>
    simp [reconcileStrandedRuns, reconcileRuns, reconcileUpdates, reconcileStatements,
      reconcileUpdate, sweep, Nat.add_assoc]

theorem reconcileUpdates_settling :
    Settling (reconcileUpdates now leaseGraceSeconds maxCreatedAgeSeconds) := by
  intro statement member row
  obtain ⟨⟨reason, cutoff⟩, _, rfl⟩ := List.mem_map.mp member
  simp [anyHits, reconcileUpdates, reconcileUpdate, matches_reconcileRow]

theorem leaseBefore_iff {moment : Time} :
    run.leaseBefore moment = true ↔ ∃ lease, run.leaseExpiresAt = some lease ∧ lease < moment := by
  simp [RunRow.leaseBefore, Option.any_eq_true]

/-- A run is stranded exactly when some UPDATE selects it, and is then what that UPDATE
makes of it. -/
theorem reconciles_iff :
    Reconciles now leaseGraceSeconds maxCreatedAgeSeconds run row ↔
      anyHits (reconcileUpdates now leaseGraceSeconds maxCreatedAgeSeconds) run = true ∧
        swept (reconcileUpdates now leaseGraceSeconds maxCreatedAgeSeconds) run = row := by
  constructor
  · intro reconciled
    cases reconciled with
    | failed running held expired =>
      have before := leaseBefore_iff.mpr ⟨_, held, expired⟩
      simp [anyHits, swept, reconcileUpdates, reconcileStatements, reconcileUpdate,
        ReconcileReason.matches, running, before, reconcileRow]
    | cancelled cancelling held expired =>
      have before := leaseBefore_iff.mpr ⟨_, held, expired⟩
      simp [anyHits, swept, reconcileUpdates, reconcileStatements, reconcileUpdate,
        ReconcileReason.matches, cancelling, before, reconcileRow]
    | stale created limited older =>
      simp [anyHits, swept, reconcileUpdates, reconcileStatements, reconcileUpdate,
        ReconcileReason.matches, created, limited, older, reconcileRow]
  · rintro ⟨hit, rfl⟩
    obtain ⟨statement, member, hits, same⟩ := swept_of_hit hit
    obtain ⟨⟨reason, cutoff⟩, listed, rfl⟩ := List.mem_map.mp member
    rw [same]
    simp only [reconcileStatements, List.mem_append, List.mem_cons, Prod.mk.injEq, List.not_mem_nil,
      or_false, Option.mem_toList, Option.map_eq_some_iff] at listed
    simp only [reconcileUpdate] at hits ⊢
    rcases listed with (⟨rfl, rfl⟩ | ⟨rfl, rfl⟩) | ⟨age, limited, rfl, rfl⟩
    · simp only [ReconcileReason.matches, Bool.and_eq_true, decide_eq_true_eq, leaseBefore_iff] at hits
      obtain ⟨running, lease, held, expired⟩ := hits
      exact .failed running held expired
    · simp only [ReconcileReason.matches, Bool.and_eq_true, decide_eq_true_eq, leaseBefore_iff] at hits
      obtain ⟨cancelling, lease, held, expired⟩ := hits
      exact .cancelled cancelling held expired
    · simp only [ReconcileReason.matches, Bool.and_eq_true, decide_eq_true_eq] at hits
      exact .stale hits.1 limited hits.2

/-- Reconciliation writes the state and what it records of the end, and no other column. -/
theorem Reconciles.columns
    (reconciled : Reconciles now leaseGraceSeconds maxCreatedAgeSeconds run row) :
    row = { run with state := row.state, gateOutcome := row.gateOutcome,
                     executionStatus := row.executionStatus, completedAt := row.completedAt,
                     metrics := row.metrics } := by
  cases reconciled <;> rfl

/-- Whatever the store, the call ends exactly the stranded runs, each as its kind demands;
no other run, column or table changes; the answer is the number of runs that changed, and a
second call at the same time finds nothing. -/
theorem reconcileStrandedRuns_exact (now : Time) (leaseGraceSeconds : Int)
    (maxCreatedAgeSeconds : Option Int) (store : Store) :
    let outcome := reconcileStrandedRuns now store leaseGraceSeconds maxCreatedAgeSeconds
    (∃ runs, outcome.2 = { store with runs }) ∧
      outcome.2.runs.rows.map RunRow.id = store.runs.rows.map RunRow.id ∧
      (∀ run ∈ store.runs.rows, ∃ row, outcome.2.runs.find? run.id = some row ∧
        (Reconciles now leaseGraceSeconds maxCreatedAgeSeconds run row ∨
          row = run ∧ ∀ other, ¬ Reconciles now leaseGraceSeconds maxCreatedAgeSeconds run other) ∧
        row = { run with state := row.state, gateOutcome := row.gateOutcome,
                         executionStatus := row.executionStatus, completedAt := row.completedAt,
                         metrics := row.metrics }) ∧
      outcome.1 =
        store.runs.rows.countP (fun run => decide (outcome.2.runs.find? run.id ≠ some run)) ∧
      reconcileStrandedRuns now outcome.2 leaseGraceSeconds maxCreatedAgeSeconds = (0, outcome.2) := by
  intro outcome
  have settling : Settling (reconcileUpdates now leaseGraceSeconds maxCreatedAgeSeconds) :=
    reconcileUpdates_settling
  let pass := sweep store.runs (reconcileUpdates now leaseGraceSeconds maxCreatedAgeSeconds)
  have same : outcome = (pass.1, { store with runs := pass.2 }) := reconcileStrandedRuns_eq
  rw [same]
  refine ⟨⟨pass.2, rfl⟩, sweep_keys settling, fun run member => ?_, sweep_counts_changes settling, ?_⟩
  · refine ⟨_, sweep_find? settling member, ?_⟩
    cases hit : anyHits (reconcileUpdates now leaseGraceSeconds maxCreatedAgeSeconds) run with
    | true =>
      have reconciled := reconciles_iff.mpr ⟨hit, rfl⟩
      exact ⟨.inl reconciled, reconciled.columns⟩
    | false =>
      have kept := swept_of_miss hit
      refine ⟨.inr ⟨kept, fun other reconciled => ?_⟩, by rw [kept]⟩
      have selected := (reconciles_iff.mp reconciled).1
      rw [hit] at selected
      cases selected
  · rw [reconcileStrandedRuns_eq]
    simp only [pass, sweep_again settling]

end Sweeps

end RegressionDetection.Persistence
