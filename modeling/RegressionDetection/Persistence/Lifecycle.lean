import RegressionDetection.Foundation.Run
import RegressionDetection.Persistence.Repository

/-! The repository operations the API and the workers issue, each as one atomic
transaction, and what one of them can do to a run and its case rows. -/

namespace RegressionDetection.Persistence

open Foundation Specification Providers Policy Execution

inductive Operation where
  | createRun (projectId : String) (specification : EvaluationSpecification)
      (configurationHash datasetHash : HexDigest) (idempotencyKey requestHash : Option String)
      (runId : String)
  | claimNextRun (workerId : String) (leaseSeconds : Int)
  | heartbeat (runId workerId : String) (leaseSeconds : Int)
  | cancelRun (runId : String)
  | acknowledgeCancellation (runId workerId : String) (report : Option LocalEvaluationReport)
  | completeRun (runId : String) (report : LocalEvaluationReport) (workerId : String)
  | reconcileStrandedRuns (leaseGraceSeconds : Int) (maxCreatedAgeSeconds : Option Int)
  | promoteRun (projectId channel runId : String) (reason : Option String)

/-- An operation and the clock reading it makes. -/
structure Event where
  now : Time
  operation : Operation

/-- The store after a transaction: committed, or rolled back on an exception. -/
def settle (store : Store) (outcome : Except PyError (α × Store)) : Store :=
  match outcome with
  | .ok (_, next) => next
  | .error _ => store

/-- One operation as an atomic transaction. -/
def perform (store : Store) (event : Event) : Store :=
  match event.operation with
  | .createRun projectId specification configurationHash datasetHash idempotencyKey requestHash runId =>
    settle store (createRun event.now runId store store projectId specification configurationHash
      datasetHash idempotencyKey requestHash)
  | .claimNextRun workerId leaseSeconds => (claimNextRun event.now workerId leaseSeconds store).2
  | .heartbeat runId workerId leaseSeconds => (heartbeat event.now runId workerId leaseSeconds store).2
  | .cancelRun runId => settle store (cancelRun event.now runId store)
  | .acknowledgeCancellation runId workerId report =>
    settle store (acknowledgeCancellation event.now runId workerId store report)
  | .completeRun runId report workerId =>
    settle store (completeRun event.now runId store report (some workerId))
  | .reconcileStrandedRuns leaseGraceSeconds maxCreatedAgeSeconds =>
    (reconcileStrandedRuns event.now store leaseGraceSeconds maxCreatedAgeSeconds).2
  | .promoteRun projectId channel runId reason =>
    settle store (promoteRun event.now projectId channel runId reason store)

/-- A run row with its case rows. -/
structure RunView where
  run : RunRow
  cases : List CaseRow
deriving DecidableEq

def Store.view (store : Store) (runId : String) : Option RunView :=
  (store.runs.find? runId).map (fun run => ⟨run, store.casesOf runId⟩)

/-- What one operation can do to the run under an id, branch by branch. -/
inductive Transition (store : Store) (runId : String) : Event → RunView → RunView → Prop where
  | kept : Transition store runId event view view
  | claimed (branch : ClaimBranch) (candidate : branch.candidate now view.run = true) :
      Transition store runId ⟨now, .claimNextRun workerId leaseSeconds⟩ view
        { view with run := claimRow workerId (now + seconds leaseSeconds) view.run }
  | extended (held : heartbeatMatches workerId view.run = true) :
      Transition store runId ⟨now, .heartbeat runId workerId leaseSeconds⟩ view
        { view with run := heartbeatRow (now + seconds leaseSeconds) view.run }
  | cancelled :
      Transition store runId ⟨now, .cancelRun runId⟩ view
        { view with run := (cancelRow now view.run).2 }
  | acknowledged (cancelling : view.run.state = .cancelling)
      (held : view.run.heldBy (some workerId) = true)
      (built : report.elim (.ok []) (caseRows runId) = .ok rows)
      (inserted : store.cases.insertAll? rows = some table) :
      Transition store runId ⟨now, .acknowledgeCancellation runId workerId report⟩ view
        ⟨acknowledgeRow now report view.run, view.cases ++ rows⟩
  | completed (held : view.run.heldBy (some workerId) = true)
      (built : caseRows runId report = .ok rows)
      (inserted : store.cases.insertAll? rows = some table) :
      Transition store runId ⟨now, .completeRun runId report workerId⟩ view
        ⟨completeRow now report view.run, view.cases ++ rows⟩
  | reconciled (reason : ReconcileReason) (cutoff : Time)
      (stranded : reason.matches cutoff view.run = true) :
      Transition store runId ⟨now, .reconcileStrandedRuns leaseGraceSeconds maxCreatedAgeSeconds⟩ view
        { view with run := reconcileRow reason now view.run }

section Views

variable {store : Store} {runId : String} {view : RunView}

theorem Store.view_eq_some :
    store.view runId = some view ↔
      store.runs.find? runId = some view.run ∧ view.cases = store.casesOf runId := by
  unfold Store.view
  rw [Option.map_eq_some_iff]
  constructor
  · rintro ⟨run, found, rfl⟩
    exact ⟨found, rfl⟩
  · rintro ⟨found, cases⟩
    exact ⟨view.run, found, by rw [← cases]⟩

theorem view_id (found : store.view runId = some view) : view.run.id = runId :=
  Table.key_of_find? (Store.view_eq_some.mp found).1

/-- An UPDATE of the run table, seen at one run. -/
theorem view_update (found : store.view runId = some view) (p : RunRow → Bool)
    (set : RunRow → RunRow) (keeps : ∀ run, (set run).id = run.id) :
    ({ store with runs := store.runs.update p set keeps } : Store).view runId =
      some { view with run := if p view.run then set view.run else view.run } := by
  obtain ⟨row, cases⟩ := Store.view_eq_some.mp found
  refine Store.view_eq_some.mpr ⟨?_, cases⟩
  rw [Table.find?_update, row]
  rfl

/-- The flush of a loaded run, seen at a run. -/
theorem view_flushRun (found : store.view runId = some view) (loaded changed : RunRow) :
    (store.flushRun loaded changed).view runId =
      some { view with
        run := if view.run.id = loaded.id then RunRow.flush loaded changed view.run else view.run } := by
  have updated := view_update found (fun run => run.id = loaded.id) (RunRow.flush loaded changed)
    (RunRow.flush_id loaded changed)
  simpa [Store.flushRun] using updated

/-- Inserted case rows of one run appear at that run and nowhere else. -/
theorem casesOf_insert {table : Table CaseRow.key} {rows : List CaseRow} {owner : String}
    (inserted : store.cases.insertAll? rows = some table) (owned : ∀ row ∈ rows, row.runId = owner) :
    ({ store with cases := table } : Store).casesOf runId =
      store.casesOf runId ++ (if owner = runId then rows else []) := by
  have grown := (Table.insertAll?_eq_some_iff.mp inserted).1
  unfold Store.casesOf Table.select
  rw [grown, List.filter_append]
  congr 1
  by_cases same : owner = runId
  · rw [if_pos same, List.filter_eq_self]
    intro row member
    simpa using (owned row member).trans same
  · rw [if_neg same, List.filter_eq_nil_iff]
    intro row member hit
    exact same ((owned row member).symm.trans (by simpa using hit))

theorem view_insertCases (found : store.view runId = some view) {table : Table CaseRow.key}
    {rows : List CaseRow} {owner : String} (inserted : store.cases.insertAll? rows = some table)
    (owned : ∀ row ∈ rows, row.runId = owner) :
    ({ store with cases := table } : Store).view runId =
      some { view with cases := view.cases ++ (if owner = runId then rows else []) } := by
  obtain ⟨row, cases⟩ := Store.view_eq_some.mp found
  refine Store.view_eq_some.mpr ⟨row, ?_⟩
  rw [casesOf_insert inserted owned, cases]

end Views

section Claims

variable {store : Store} {now : Time}

theorem earliest_mem {rows : List RunRow} {run : RunRow} (found : earliest rows = some run) :
    run ∈ rows := by
  induction rows with
  | nil => cases found
  | cons head rest ih =>
    unfold earliest at found
    cases later : earliest rest with
    | none =>
      rw [later] at found
      cases found
      exact List.mem_cons_self
    | some other =>
      simp only [later] at found
      split at found
      · rw [later] at ih
        exact List.mem_cons_of_mem _ (ih found)
      · cases found
        exact List.mem_cons_self

/-- The SELECT returns a row that meets the branch's condition. -/
theorem selectCandidate_some {branch : ClaimBranch} {candidate : String}
    (selected : selectCandidate now store branch = some candidate) :
    ∃ run, store.runs.find? candidate = some run ∧ branch.candidate now run = true := by
  obtain ⟨run, first, same⟩ := Option.map_eq_some_iff.mp selected
  obtain ⟨member, meets⟩ := List.mem_filter.mp (earliest_mem first)
  exact ⟨run, same ▸ Table.find?_of_mem member, meets⟩

theorem candidate_state {branch : ClaimBranch} {run : RunRow}
    (candidate : branch.candidate now run = true) : run.state = branch.state := by
  cases branch <;> simp [ClaimBranch.candidate, ClaimBranch.state] at candidate ⊢
  · exact candidate
  · exact candidate.1

/-- Right after the SELECT, the UPDATE takes the candidate. -/
theorem updateClaim_selected {branch : ClaimBranch} {candidate : String}
    (selected : selectCandidate now store branch = some candidate) (workerId : String)
    (leaseSeconds : Int) : (updateClaim now candidate workerId leaseSeconds store branch).1 = 1 := by
  obtain ⟨run, found, meets⟩ := selectCandidate_some selected
  unfold updateClaim claimHits
  rw [Table.matching_key, found]
  simp [candidate_state meets]

/-- In one transaction a selected candidate is always claimed. -/
theorem claimBranch_some {workerId : String} {leaseSeconds : Int} {branch : ClaimBranch}
    {candidate : String} (selected : selectCandidate now store branch = some candidate) :
    claimBranch now workerId leaseSeconds store branch =
      (some candidate, (updateClaim now candidate workerId leaseSeconds store branch).2) := by
  simp [claimBranch, selected, updateClaim_selected selected]

/-- Where nothing was claimed, nothing changed. -/
theorem claimBranch_none {workerId : String} {leaseSeconds : Int} {branch : ClaimBranch} {next : Store}
    (missed : claimBranch now workerId leaseSeconds store branch = (none, next)) : next = store := by
  cases selected : selectCandidate now store branch with
  | none =>
    simp only [claimBranch, selected, Prod.mk.injEq, true_and] at missed
    exact missed.symm
  | some candidate =>
    rw [claimBranch_some selected] at missed
    cases (Prod.mk.inj missed).1

theorem claimBranch_view {runId : String} {view : RunView} (found : store.view runId = some view)
    (workerId : String) (leaseSeconds : Int) (branch : ClaimBranch) :
    ∃ next, (claimBranch now workerId leaseSeconds store branch).2.view runId = some next ∧
      Transition store runId ⟨now, .claimNextRun workerId leaseSeconds⟩ view next := by
  cases selected : selectCandidate now store branch with
  | none => exact ⟨view, by simpa [claimBranch, selected] using found, .kept⟩
  | some candidate =>
    rw [claimBranch_some selected]
    obtain ⟨run, row, meets⟩ := selectCandidate_some selected
    have changed := view_update found (claimHits candidate branch)
      (claimRow workerId (now + seconds leaseSeconds)) (claimRow_id workerId _)
    by_cases own : runId = candidate
    · subst own
      have same : view.run = run := Option.some.inj ((Store.view_eq_some.mp found).1.symm.trans row)
      rw [← same] at meets
      have hit : claimHits runId branch view.run = true := by
        simp [claimHits, view_id found, candidate_state meets]
      exact ⟨_, by simpa [updateClaim, hit] using changed, .claimed branch meets⟩
    · have miss : claimHits candidate branch view.run = false := by
        simp [claimHits, view_id found, own]
      exact ⟨view, by simpa [updateClaim, miss] using changed, .kept⟩

end Claims

section Operations

variable {store : Store} {runId : String} {view : RunView} {now : Time}

theorem insertRow_eq_ok {Key Row : Type} {key : Row → Key} [DecidableEq Key] {table next : Table key}
    {row : Row} : insertRow table row = .ok next ↔ table.insert? row = some next := by
  unfold insertRow
  cases table.insert? row <;> simp

theorem insertRows_eq_ok {Key Row : Type} {key : Row → Key} [DecidableEq Key]
    {table next : Table key} {rows : List Row} :
    insertRows table rows = .ok next ↔ table.insertAll? rows = some next := by
  unfold insertRows
  cases table.insertAll? rows <;> simp

theorem findRun_of_view (found : store.view runId = some view) : findRun store runId = .ok view.run := by
  rw [findRun, (Store.view_eq_some.mp found).1]

theorem findRun_eq_ok {run : RunRow} :
    findRun store runId = .ok run ↔ store.runs.find? runId = some run := by
  unfold findRun
  cases store.runs.find? runId <;> simp

/-- The run is inserted when its project is there and its id is not taken. -/
theorem insertRun_eq_ok {store next : Store} {row : RunRow} : insertRun store row = .ok next ↔
    row.projectId ∈ store.projects.rows.map ProjectRow.id ∧
      ∃ runs, store.runs.insert? row = some runs ∧ next = { store with runs } := by
  unfold insertRun
  split
  · rename_i known
    rw [bind_eq_ok]
    simp only [known, true_and, insertRow_eq_ok]
    exact ⟨fun ⟨runs, added, made⟩ => ⟨runs, added, (Except.ok.inj made).symm⟩,
      fun ⟨runs, added, made⟩ => ⟨runs, added, congrArg Except.ok made.symm⟩⟩
  · rename_i unknown
    simp [unknown]

theorem insertBaseline_eq_ok {store next : Store} {row : BaselineChannelRow} :
    insertBaseline store row = .ok next ↔ row.projectId ∈ store.projects.rows.map ProjectRow.id ∧
      ∃ baselines, store.baselines.insert? row = some baselines ∧ next = { store with baselines } := by
  unfold insertBaseline
  split
  · rename_i known
    rw [bind_eq_ok]
    simp only [known, true_and, insertRow_eq_ok]
    exact ⟨fun ⟨baselines, added, made⟩ => ⟨baselines, added, (Except.ok.inj made).symm⟩,
      fun ⟨baselines, added, made⟩ => ⟨baselines, added, congrArg Except.ok made.symm⟩⟩
  · rename_i unknown
    exact iff_of_false (fun impossible => by cases impossible) fun both => unknown both.1

theorem insertRun_of_unused {store : Store} {row : RunRow}
    (known : row.projectId ∈ store.projects.rows.map ProjectRow.id)
    (unused : row.id ∉ store.runs.rows.map RunRow.id) :
    ∃ runs, store.runs.insert? row = some runs ∧ insertRun store row = .ok { store with runs } := by
  obtain ⟨runs, added⟩ := Table.insert?_of_fresh unused
  exact ⟨runs, added, insertRun_eq_ok.mpr ⟨known, runs, added, rfl⟩⟩

/-- A created run is a new one: every other run keeps its row. -/
theorem insertRun_view (found : store.view runId = some view) {row : RunRow} {next : Store}
    (inserted : insertRun store row = .ok next) : next.view runId = some view := by
  obtain ⟨_, runs, added, rfl⟩ := insertRun_eq_ok.mp inserted
  obtain ⟨old, cases⟩ := Store.view_eq_some.mp found
  refine Store.view_eq_some.mpr ⟨?_, cases⟩
  have present : runId ∈ store.runs.rows.map RunRow.id :=
    List.mem_map.mpr ⟨view.run, Table.mem_of_find? old, Table.key_of_find? old⟩
  have apart : ¬ row.id = runId := fun same => (Table.rows_insert added).2 (same ▸ present)
  rw [Table.find?_insert added, if_neg apart]
  exact old

/-- `create_run` once the run is inserted. -/
theorem createRun_inserted {store committed inserted : Store} {now : Time} {runId projectId : String}
    {specification : EvaluationSpecification} {configurationHash datasetHash : HexDigest}
    {idempotencyKey requestHash : Option String}
    (added : insertRun store
      (createdRow now runId projectId specification configurationHash datasetHash) = .ok inserted) :
    createRun now runId store committed projectId specification configurationHash
        datasetHash idempotencyKey requestHash =
      match idempotencyKey with
      | none => .ok (runId, inserted)
      | some key =>
        match inserted.idempotency.insert?
            { projectId, idempotencyKey := key, requestHash := requestHash.getD "", runId } with
        | some idempotency => .ok (runId, { inserted with idempotency })
        | none => do
          let existing ← findIdempotentRun committed projectId key (requestHash.getD "")
          return (existing, committed) := by
  unfold createRun
  rw [added]
  rfl

theorem createRun_view (found : store.view runId = some view) {fresh projectId : String}
    {specification : EvaluationSpecification} {configurationHash datasetHash : HexDigest}
    {idempotencyKey requestHash : Option String} :
    (settle store (createRun now fresh store store projectId specification configurationHash
      datasetHash idempotencyKey requestHash)).view runId = some view := by
  cases outcome : createRun now fresh store store projectId specification configurationHash
      datasetHash idempotencyKey requestHash with
  | error error => exact found
  | ok result =>
    obtain ⟨inserted, row, rest⟩ := bind_eq_ok.mp outcome
    have kept := insertRun_view found row
    cases idempotencyKey with
    | none =>
      cases rest
      exact kept
    | some key =>
      simp only at rest
      split at rest
      · cases rest
        exact kept
      · obtain ⟨existing, _, made⟩ := bind_eq_ok.mp rest
        cases made
        exact found

theorem cancelRun_view (found : store.view runId = some view) (target : String) :
    ∃ next, (settle store (cancelRun now target store)).view runId = some next ∧
      Transition store runId ⟨now, .cancelRun target⟩ view next := by
  cases outcome : cancelRun now target store with
  | error error => exact ⟨view, found, .kept⟩
  | ok result =>
    obtain ⟨run, loaded, made⟩ := bind_eq_ok.mp outcome
    cases made
    have changed := view_flushRun found run (cancelRow now run).2
    by_cases own : runId = target
    · subst own
      obtain rfl : view.run = run := Except.ok.inj ((findRun_of_view found).symm.trans loaded)
      exact ⟨_, by simpa [settle] using changed, .cancelled⟩
    · have other : ¬ view.run.id = run.id := by
        rw [view_id found, Table.key_of_find? (findRun_eq_ok.mp loaded)]
        exact own
      exact ⟨view, by simpa [settle, other] using changed, .kept⟩

theorem completeRun_view (found : store.view runId = some view) (target : String)
    (report : LocalEvaluationReport) (workerId : String) :
    ∃ next, (settle store (completeRun now target store report (some workerId))).view runId =
        some next ∧ Transition store runId ⟨now, .completeRun target report workerId⟩ view next := by
  cases outcome : completeRun now target store report (some workerId) with
  | error error => exact ⟨view, found, .kept⟩
  | ok result =>
    obtain ⟨run, loaded, rest⟩ := bind_eq_ok.mp outcome
    by_cases held : run.heldBy (some workerId) = true
    · rw [if_pos held] at rest
      obtain ⟨rows, built, later⟩ := bind_eq_ok.mp rest
      obtain ⟨table, inserted, made⟩ := bind_eq_ok.mp later
      cases made
      have placed := insertRows_eq_ok.mp inserted
      have changed := view_flushRun found run (completeRow now report run)
      have grown := view_insertCases changed placed (caseRows_runId built)
      by_cases own : runId = target
      · subst own
        obtain rfl : view.run = run := Except.ok.inj ((findRun_of_view found).symm.trans loaded)
        exact ⟨_, by simpa [settle] using grown, .completed held built placed⟩
      · have other : ¬ view.run.id = run.id := by
          rw [view_id found, Table.key_of_find? (findRun_eq_ok.mp loaded)]
          exact own
        exact ⟨view, by simpa [settle, other, Ne.symm own] using grown, .kept⟩
    · rw [if_neg held] at rest
      cases rest
      exact ⟨view, found, .kept⟩

theorem acknowledgeCancellation_view (found : store.view runId = some view) (target workerId : String)
    (report : Option LocalEvaluationReport) :
    ∃ next, (settle store (acknowledgeCancellation now target workerId store report)).view runId =
        some next ∧
      Transition store runId ⟨now, .acknowledgeCancellation target workerId report⟩ view next := by
  cases outcome : acknowledgeCancellation now target workerId store report with
  | error error => exact ⟨view, found, .kept⟩
  | ok result =>
    obtain ⟨run, loaded, rest⟩ := bind_eq_ok.mp outcome
    by_cases ready : run.state = .cancelling ∧ run.heldBy (some workerId) = true
    · rw [if_pos ready] at rest
      obtain ⟨rows, built, later⟩ := bind_eq_ok.mp rest
      obtain ⟨table, inserted, made⟩ := bind_eq_ok.mp later
      cases made
      have placed := insertRows_eq_ok.mp inserted
      have changed := view_flushRun found run (acknowledgeRow now report run)
      have grown := view_insertCases changed placed (reportRows_runId built)
      by_cases own : runId = target
      · subst own
        obtain rfl : view.run = run := Except.ok.inj ((findRun_of_view found).symm.trans loaded)
        exact ⟨_, by simpa [settle] using grown, .acknowledged ready.1 ready.2 built placed⟩
      · have other : ¬ view.run.id = run.id := by
          rw [view_id found, Table.key_of_find? (findRun_eq_ok.mp loaded)]
          exact own
        exact ⟨view, by simpa [settle, other, Ne.symm own] using grown, .kept⟩
    · rw [if_neg ready] at rest
      cases rest
      exact ⟨view, found, .kept⟩

/-- A reconciled run is in a state no later UPDATE of the same call selects. -/
theorem matches_reconcileRow (reason other : ReconcileReason) (cutoff : Time) (run : RunRow) :
    other.matches cutoff (reconcileRow reason now run) = false := by
  cases reason <;> cases other <;> simp [ReconcileReason.matches, reconcileRow]

theorem reconcileStrandedRuns_view (found : store.view runId = some view) (leaseGraceSeconds : Int)
    (maxCreatedAgeSeconds : Option Int) :
    ∃ next, (reconcileStrandedRuns now store leaseGraceSeconds maxCreatedAgeSeconds).2.view runId =
        some next ∧
      Transition store runId ⟨now, .reconcileStrandedRuns leaseGraceSeconds maxCreatedAgeSeconds⟩
        view next := by
  -- Each UPDATE leaves the run as it was or reconciles it; a reconciled run stays.
  have settled {reason : ReconcileReason} (cutoff : Time) {current : Store}
      (after : current.view runId = some { view with run := reconcileRow reason now view.run })
      (other : ReconcileReason) :
      (reconcileRuns now current other cutoff).2.view runId =
        some { view with run := reconcileRow reason now view.run } := by
    have changed := view_update after (other.matches cutoff) (reconcileRow other now)
      (reconcileRow_id other now)
    simpa [reconcileRuns, matches_reconcileRow] using changed
  have next {current : Store} (before : current.view runId = some view) (reason : ReconcileReason)
      (cutoff : Time) : (reconcileRuns now current reason cutoff).2.view runId =
        some (if reason.matches cutoff view.run then
          { view with run := reconcileRow reason now view.run } else view) := by
    have changed := view_update before (reason.matches cutoff) (reconcileRow reason now)
      (reconcileRow_id reason now)
    by_cases stranded : reason.matches cutoff view.run = true <;>
      simpa [reconcileRuns, stranded] using changed
  have first := next found .leaseExpired (now - seconds leaseGraceSeconds)
  by_cases failed : ReconcileReason.leaseExpired.matches (now - seconds leaseGraceSeconds) view.run = true
  · rw [if_pos failed] at first
    have second := settled (now - seconds leaseGraceSeconds) first .cancelledLeaseExpired
    refine ⟨_, ?_, .reconciled .leaseExpired _ failed⟩
    cases maxCreatedAgeSeconds with
    | none => exact second
    | some age => exact settled (now - seconds age) second .staleCreated
  · rw [if_neg failed] at first
    have second := next first .cancelledLeaseExpired (now - seconds leaseGraceSeconds)
    by_cases cancelled : ReconcileReason.cancelledLeaseExpired.matches
        (now - seconds leaseGraceSeconds) view.run = true
    · rw [if_pos cancelled] at second
      refine ⟨_, ?_, .reconciled .cancelledLeaseExpired _ cancelled⟩
      cases maxCreatedAgeSeconds with
      | none => exact second
      | some age => exact settled (now - seconds age) second .staleCreated
    · rw [if_neg cancelled] at second
      cases maxCreatedAgeSeconds with
      | none => exact ⟨view, second, .kept⟩
      | some age =>
        have third := next second .staleCreated (now - seconds age)
        by_cases stale : ReconcileReason.staleCreated.matches (now - seconds age) view.run = true
        · rw [if_pos stale] at third
          exact ⟨_, third, .reconciled .staleCreated _ stale⟩
        · rw [if_neg stale] at third
          exact ⟨view, third, .kept⟩

/-- A promotion writes baselines only. -/
theorem promoteRun_tables {projectId channel target : String} {reason : Option String}
    {answer : Option (Bool × BaselineChannelRow)} {next : Store}
    (promoted : promoteRun now projectId channel target reason store = .ok (answer, next)) :
    ∃ baselines, next = { store with baselines } := by
  unfold promoteRun at promoted
  split at promoted
  · unfold promoteEligible at promoted
    split at promoted
    · obtain ⟨inserted, placed, made⟩ := bind_eq_ok.mp promoted
      cases made
      obtain ⟨_, baselines, _, same⟩ := insertBaseline_eq_ok.mp placed
      exact ⟨baselines, same⟩
    · split at promoted
      · cases promoted
        exact ⟨store.baselines, rfl⟩
      · simp only at promoted
        split at promoted <;> cases promoted <;> exact ⟨_, rfl⟩
  · cases promoted
    exact ⟨store.baselines, rfl⟩

theorem promoteRun_view (found : store.view runId = some view) {projectId channel target : String}
    {reason : Option String} :
    (settle store (promoteRun now projectId channel target reason store)).view runId = some view := by
  cases outcome : promoteRun now projectId channel target reason store with
  | error error => exact found
  | ok result =>
    obtain ⟨baselines, same⟩ := promoteRun_tables outcome
    change result.2.view runId = some view
    rw [same]
    exact found

/-- Every operation leaves a stored run in place and changes it in one of the listed ways. -/
theorem perform_view (found : store.view runId = some view) (event : Event) :
    ∃ next, (perform store event).view runId = some next ∧ Transition store runId event view next := by
  obtain ⟨now, operation⟩ := event
  cases operation with
  | createRun projectId specification configurationHash datasetHash idempotencyKey requestHash fresh =>
    exact ⟨view, createRun_view found, .kept⟩
  | claimNextRun workerId leaseSeconds =>
    simp only [perform, claimNextRun]
    cases first : claimBranch now workerId leaseSeconds store .created with
    | mk claimed next =>
      have created : ∃ next,
          (claimBranch now workerId leaseSeconds store .created).2.view runId = some next ∧
            Transition store runId ⟨now, .claimNextRun workerId leaseSeconds⟩ view next :=
        claimBranch_view found workerId leaseSeconds .created
      rw [first] at created
      cases claimed with
      | some candidate => exact created
      | none =>
        obtain rfl := claimBranch_none first
        exact claimBranch_view found workerId leaseSeconds .expired
  | heartbeat target workerId leaseSeconds =>
    have changed := view_update found (heartbeatHits target workerId)
      (heartbeatRow (now + seconds leaseSeconds)) (heartbeatRow_id _)
    by_cases hit : heartbeatHits target workerId view.run = true
    · have own : target = runId := by
        simp only [heartbeatHits, Bool.and_eq_true, decide_eq_true_eq] at hit
        exact hit.1.symm.trans (view_id found)
      subst own
      have held : heartbeatMatches workerId view.run = true := by
        simp only [heartbeatHits, Bool.and_eq_true] at hit
        exact hit.2
      exact ⟨_, by simpa [perform, heartbeat, hit] using changed, .extended held⟩
    · exact ⟨view, by simpa [perform, heartbeat, hit] using changed, .kept⟩
  | cancelRun target => exact cancelRun_view found target
  | acknowledgeCancellation target workerId report =>
    exact acknowledgeCancellation_view found target workerId report
  | completeRun target report workerId => exact completeRun_view found target report workerId
  | reconcileStrandedRuns leaseGraceSeconds maxCreatedAgeSeconds =>
    exact reconcileStrandedRuns_view found leaseGraceSeconds maxCreatedAgeSeconds
  | promoteRun projectId channel target reason => exact ⟨view, promoteRun_view found, .kept⟩

/-- No operation changes the snapshot or the hashes of a run. -/
theorem Transition.identity {event : Event} {next : RunView}
    (moved : Transition store runId event view next) :
    next.run.snapshot = view.run.snapshot ∧
      next.run.configurationHash = view.run.configurationHash ∧
      next.run.datasetHash = view.run.datasetHash := by
  cases moved with
  | kept | claimed | extended | completed => exact ⟨rfl, rfl, rfl⟩
  | cancelled =>
    simp only [cancelRow]
    split <;> exact ⟨rfl, rfl, rfl⟩
  | acknowledged cancelling held built inserted =>
    rename_i rows table now workerId report
    cases report <;> exact ⟨rfl, rfl, rfl⟩
  | reconciled reason => cases reason <;> exact ⟨rfl, rfl, rfl⟩

theorem Transition.snapshot {event : Event} {next : RunView}
    (moved : Transition store runId event view next) : next.run.snapshot = view.run.snapshot :=
  moved.identity.1

end Operations

end RegressionDetection.Persistence
