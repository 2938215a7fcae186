import RegressionDetection.Persistence.Lifecycle

/-! Histories of a database that starts without runs. Every stored run was
submitted there and moved on by transitions, so a fact that holds of submitted
runs and is kept by transitions holds of every run throughout. -/

namespace RegressionDetection.Persistence

open Foundation Specification Execution

/-- No run, no case result and no baseline is stored. -/
structure NoRuns (store : Store) : Prop where
  runs : store.runs.rows = []
  cases : store.cases.rows = []
  baselines : store.baselines.rows = []

/-- Nothing is stored under the run id. -/
structure Absent (store : Store) (runId : String) : Prop where
  row : store.runs.find? runId = none
  cases : store.casesOf runId = []

/-- A run as its submission leaves it. -/
def Submitted (view : RunView) : Prop :=
  ∃ now runId projectId specification configurationHash datasetHash,
    view = ⟨createdRow now runId projectId specification configurationHash datasetHash, []⟩

/-- The fact holds of every stored run, and no case result is stored without its run. -/
structure EveryRun (fact : RunView → Prop) (store : Store) : Prop where
  stored : ∀ runId view, store.view runId = some view → fact view
  absent : ∀ runId, store.runs.find? runId = none → store.casesOf runId = []

section Absence

variable {store : Store} {runId : String} {now : Time}

theorem Absent.update (absent : Absent store runId) (p : RunRow → Bool) (set : RunRow → RunRow)
    (keeps : ∀ run, (set run).id = run.id) :
    Absent { store with runs := store.runs.update p set keeps } runId := by
  refine ⟨?_, absent.cases⟩
  rw [Table.find?_update, absent.row]
  rfl

theorem Absent.insertCases (absent : Absent store runId) {table : Table CaseRow.key}
    {rows : List CaseRow} {owner : String} (inserted : store.cases.insertAll? rows = some table)
    (owned : ∀ row ∈ rows, row.runId = owner) (other : owner ≠ runId) :
    Absent { store with cases := table } runId := by
  refine ⟨absent.row, ?_⟩
  rw [casesOf_insert inserted owned, absent.cases, if_neg other]
  rfl

theorem Absent.flushRun (absent : Absent store runId) (loaded changed : RunRow) :
    Absent (store.flushRun loaded changed) runId := absent.update _ _ _

/-- A run that is found is not the absent one. -/
theorem Absent.ne_of_found (absent : Absent store runId) {other : String} {run : RunRow}
    (loaded : findRun store other = .ok run) : other ≠ runId := by
  rintro rfl
  cases absent.row.symm.trans (findRun_eq_ok.mp loaded)

theorem insertRun_absent (absent : Absent store runId) {now : Time} {fresh projectId : String}
    {specification : EvaluationSpecification} {configurationHash datasetHash : HexDigest} {next : Store}
    (inserted : insertRun store
      (createdRow now fresh projectId specification configurationHash datasetHash) = .ok next) :
    Absent next runId ∨ ∃ view, next.view runId = some view ∧ Submitted view := by
  obtain ⟨_, runs, added, rfl⟩ := insertRun_eq_ok.mp inserted
  have row := Table.find?_insert added runId
  by_cases own : fresh = runId
  · subst own
    rw [if_pos (show RunRow.id (createdRow now fresh projectId specification configurationHash
      datasetHash) = fresh from rfl)] at row
    exact .inr ⟨_, Store.view_eq_some.mpr ⟨row, absent.cases.symm⟩, _, _, _, _, _, _, rfl⟩
  · rw [if_neg (show ¬ RunRow.id (createdRow now fresh projectId specification configurationHash
      datasetHash) = runId from own)] at row
    exact .inl ⟨row.trans absent.row, absent.cases⟩

theorem createRun_absent (absent : Absent store runId) {fresh projectId : String}
    {specification : EvaluationSpecification} {configurationHash datasetHash : HexDigest}
    {idempotencyKey requestHash : Option String} {next : Store}
    (settled : settle store (createRun now fresh store store projectId specification configurationHash
      datasetHash idempotencyKey requestHash) = next) :
    Absent next runId ∨ ∃ view, next.view runId = some view ∧ Submitted view := by
  subst settled
  cases outcome : createRun now fresh store store projectId specification configurationHash
      datasetHash idempotencyKey requestHash with
  | error error => exact .inl absent
  | ok result =>
    obtain ⟨inserted, row, rest⟩ := bind_eq_ok.mp outcome
    have added := insertRun_absent absent row
    cases idempotencyKey with
    | none =>
      cases rest
      exact added
    | some key =>
      simp only at rest
      split at rest
      · cases rest
        -- The idempotency record is of no concern to the runs.
        exact added.imp (fun kept => ⟨kept.row, kept.cases⟩) id
      · obtain ⟨existing, _, made⟩ := bind_eq_ok.mp rest
        cases made
        exact .inl absent

theorem claimBranch_absent (absent : Absent store runId) (workerId : String) (leaseSeconds : Int)
    (branch : ClaimBranch) : Absent (claimBranch now workerId leaseSeconds store branch).2 runId := by
  cases selected : selectCandidate now store branch with
  | none => simpa [claimBranch, selected] using absent
  | some candidate =>
    rw [claimBranch_some selected]
    exact absent.update _ _ _

theorem completeRun_absent (absent : Absent store runId) (target : String)
    (report : LocalEvaluationReport) (workerId : String) :
    Absent (settle store (completeRun now target store report (some workerId))) runId := by
  cases outcome : completeRun now target store report (some workerId) with
  | error error => exact absent
  | ok result =>
    obtain ⟨run, loaded, rest⟩ := bind_eq_ok.mp outcome
    split at rest
    · obtain ⟨rows, built, later⟩ := bind_eq_ok.mp rest
      obtain ⟨table, inserted, made⟩ := bind_eq_ok.mp later
      cases made
      exact (absent.flushRun run _).insertCases (insertRows_eq_ok.mp inserted) (caseRows_runId built)
        (absent.ne_of_found loaded)
    · cases rest
      exact absent

theorem acknowledgeCancellation_absent (absent : Absent store runId) (target workerId : String)
    (report : Option LocalEvaluationReport) :
    Absent (settle store (acknowledgeCancellation now target workerId store report)) runId := by
  cases outcome : acknowledgeCancellation now target workerId store report with
  | error error => exact absent
  | ok result =>
    obtain ⟨run, loaded, rest⟩ := bind_eq_ok.mp outcome
    split at rest
    · obtain ⟨rows, built, later⟩ := bind_eq_ok.mp rest
      obtain ⟨table, inserted, made⟩ := bind_eq_ok.mp later
      cases made
      exact (absent.flushRun run _).insertCases (insertRows_eq_ok.mp inserted)
        (reportRows_runId built) (absent.ne_of_found loaded)
    · cases rest
      exact absent

theorem reconcileStrandedRuns_absent (absent : Absent store runId) (leaseGraceSeconds : Int)
    (maxCreatedAgeSeconds : Option Int) :
    Absent (reconcileStrandedRuns now store leaseGraceSeconds maxCreatedAgeSeconds).2 runId := by
  have second := (absent.update (ReconcileReason.leaseExpired.matches (now - seconds leaseGraceSeconds))
    (reconcileRow .leaseExpired now) (reconcileRow_id _ _)).update
      (ReconcileReason.cancelledLeaseExpired.matches (now - seconds leaseGraceSeconds))
      (reconcileRow .cancelledLeaseExpired now) (reconcileRow_id _ _)
  cases maxCreatedAgeSeconds with
  | none => exact second
  | some age => exact second.update _ _ _

/-- An operation adds nothing to an absent run, unless it submits it. -/
theorem perform_absent (absent : Absent store runId) (event : Event) :
    Absent (perform store event) runId ∨
      ∃ view, (perform store event).view runId = some view ∧ Submitted view := by
  obtain ⟨now, operation⟩ := event
  cases operation with
  | createRun projectId specification configurationHash datasetHash idempotencyKey requestHash fresh =>
    exact createRun_absent absent rfl
  | claimNextRun workerId leaseSeconds =>
    left
    simp only [perform, claimNextRun]
    have first : Absent (claimBranch now workerId leaseSeconds store .created).2 runId :=
      claimBranch_absent absent workerId leaseSeconds .created
    cases claims : claimBranch now workerId leaseSeconds store .created with
    | mk claimed next =>
      rw [claims] at first
      cases claimed with
      | some candidate => exact first
      | none => exact claimBranch_absent first workerId leaseSeconds .expired
  | heartbeat target workerId leaseSeconds => exact .inl (absent.update _ _ _)
  | cancelRun target =>
    left
    simp only [perform]
    cases outcome : cancelRun now target store with
    | error error => exact absent
    | ok result =>
      obtain ⟨run, loaded, made⟩ := bind_eq_ok.mp outcome
      cases made
      exact absent.flushRun run _
  | acknowledgeCancellation target workerId report =>
    exact .inl (acknowledgeCancellation_absent absent target workerId report)
  | completeRun target report workerId => exact .inl (completeRun_absent absent target report workerId)
  | reconcileStrandedRuns leaseGraceSeconds maxCreatedAgeSeconds =>
    exact .inl (reconcileStrandedRuns_absent absent leaseGraceSeconds maxCreatedAgeSeconds)
  | promoteRun projectId channel target reason =>
    left
    simp only [perform]
    cases outcome : promoteRun now projectId channel target reason store with
    | error error => exact absent
    | ok result =>
      obtain ⟨baselines, same⟩ := promoteRun_tables outcome
      change Absent result.2 runId
      rw [same]
      exact ⟨absent.row, absent.cases⟩

end Absence

section Rule

variable {fact : RunView → Prop} {guard : Store → Event → Prop} {store : Store}

theorem NoRuns.everyRun (empty : NoRuns store) : EveryRun fact store := by
  constructor
  · intro runId view found
    have row := Table.mem_of_find? (Store.view_eq_some.mp found).1
    rw [empty.runs] at row
    cases row
  · intro runId _
    simp [Store.casesOf, Table.select, empty.cases]

/-- What one operation keeps. -/
theorem perform_everyRun {event : Event} (submitted : ∀ view, Submitted view → fact view)
    (moves : ∀ runId view next, store.view runId = some view → fact view →
      Transition store runId event view next → fact next) (every : EveryRun fact store) :
    EveryRun fact (perform store event) := by
  have present {runId : String} {run : RunRow} (row : store.runs.find? runId = some run) :
      store.view runId = some ⟨run, store.casesOf runId⟩ := Store.view_eq_some.mpr ⟨row, rfl⟩
  constructor
  · intro runId view found
    cases row : store.runs.find? runId with
    | none =>
      rcases perform_absent ⟨row, every.absent runId row⟩ event with absent | ⟨made, stored, fresh⟩
      · cases absent.row.symm.trans (Store.view_eq_some.mp found).1
      · cases stored.symm.trans found
        exact submitted view fresh
    | some run =>
      obtain ⟨next, after, moved⟩ := perform_view (present row) event
      cases after.symm.trans found
      exact moves runId _ _ (present row) (every.stored runId _ (present row)) moved
  · intro runId missing
    cases row : store.runs.find? runId with
    | none =>
      rcases perform_absent ⟨row, every.absent runId row⟩ event with absent | ⟨made, stored, _⟩
      · exact absent.cases
      · cases missing.symm.trans (Store.view_eq_some.mp stored).1
    | some run =>
      obtain ⟨next, after, _⟩ := perform_view (present row) event
      cases missing.symm.trans (Store.view_eq_some.mp after).1

/-- A fact of submitted runs that every transition of a guarded history keeps holds of
every run at its end. -/
theorem run_everyRun {events : List Event} (submitted : ∀ view, Submitted view → fact view)
    (moves : ∀ store event runId view next, guard store event → store.view runId = some view →
      fact view → Transition store runId event view next → fact next)
    (empty : NoRuns store) (met : Guarded perform guard store events) :
    EveryRun fact (run perform store events) :=
  run_invariant (EveryRun fact)
    (fun current event allowed every => perform_everyRun submitted
      (fun runId view next found holds moved =>
        moves current event runId view next allowed found holds moved) every)
    met empty.everyRun

end Rule

end RegressionDetection.Persistence
