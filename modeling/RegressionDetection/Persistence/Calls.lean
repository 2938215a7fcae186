import RegressionDetection.Foundation.Interleaving
import RegressionDetection.Persistence.Lifecycle

/-! Lifecycle calls on one run, step by step: a SELECT and an UPDATE for the calls that
check what they read, one UPDATE at a time for the others. Run without interruption,
the steps are the repository's methods. -/

namespace RegressionDetection.Persistence

open Foundation Specification Execution

inductive LifecycleCall where
  | cancelRun (now : Time)
  | completeRun (now : Time) (report : LocalEvaluationReport) (workerId : Option String)
  | acknowledgeCancellation (now : Time) (workerId : String) (report : Option LocalEvaluationReport)
  | updateClaim (now : Time) (workerId : String) (leaseSeconds : Int) (branch : ClaimBranch)
  | heartbeat (now : Time) (workerId : String) (leaseSeconds : Int)
  | reconcileStrandedRuns (now : Time) (leaseGraceSeconds : Int) (maxCreatedAgeSeconds : Option Int)

inductive LifecycleReply where
  | answered (value : Bool)
  | counted (rows : Nat)
  | raised (error : PyError)
deriving DecidableEq

/-- What a checking call decides on the row it has read: its answer, or the row and
the case rows to write. -/
inductive Selected where
  | reply (reply : LifecycleReply)
  | write (changed : RunRow) (rows : List CaseRow)
deriving DecidableEq

/-- The write of a call whose report builds case rows, or the exception. -/
def Selected.withRows (changed : RunRow) (built : Except PyError (List CaseRow)) : Selected :=
  match built with
  | .ok rows => .write changed rows
  | .error error => .reply (.raised error)

section Steps

variable (now : Time) (view : RunView)

def selectCancel : Selected :=
  match view.run.state with
  | .created | .running => .write (cancelRow now view.run).2 []
  | .cancelling | .cancelled | .completed | .failed =>
    .reply (.answered (cancelRow now view.run).1)

def selectComplete (report : LocalEvaluationReport) (workerId : Option String) : Selected :=
  if view.run.heldBy workerId then
    .withRows (completeRow now report view.run) (caseRows view.run.id report)
  else .reply (.answered false)

def selectAcknowledge (workerId : String) (report : Option LocalEvaluationReport) : Selected :=
  if view.run.state = .cancelling ∧ view.run.heldBy (some workerId) = true then
    .withRows (acknowledgeRow now report view.run) (report.elim (.ok []) (caseRows view.run.id))
  else .reply (.answered false)

/-- The flush: the UPDATE by id and the case rows, or nothing when a key collides. -/
def RunView.write (set : RunRow → RunRow) (rows : List CaseRow) : LifecycleReply × RunView :=
  if (rows.map CaseRow.key).Nodup ∧ ∀ row ∈ rows, row.key ∉ view.cases.map CaseRow.key then
    (.answered true, ⟨set view.run, view.cases ++ rows⟩)
  else (.raised .integrityError, view)

/-- A conditional UPDATE of the run. -/
def RunView.updateIf (hit : Bool) (set : RunRow → RunRow) : Bool × RunView :=
  if hit then (true, { view with run := set view.run }) else (false, view)

/-- The UPDATEs of `reconcile_stranded_runs`, with their cutoffs. -/
def reconcileStatements (leaseGraceSeconds : Int) (maxCreatedAgeSeconds : Option Int) :
    List (ReconcileReason × Time) :=
  let cutoff := now - seconds leaseGraceSeconds
  [(.leaseExpired, cutoff), (.cancelledLeaseExpired, cutoff)] ++
    (maxCreatedAgeSeconds.map (fun age => (ReconcileReason.staleCreated, now - seconds age))).toList

def reconcileStatement (statement : ReconcileReason × Time) : Bool × RunView :=
  view.updateIf (statement.1.matches statement.2 view.run) (reconcileRow statement.1 now)

def reconcileAll : List (ReconcileReason × Time) → RunView → Nat × RunView
  | [], view => (0, view)
  | statement :: rest, view =>
    let (hit, next) := reconcileStatement now view statement
    let (count, last) := reconcileAll rest next
    (hit.toNat + count, last)

end Steps

def Selected.perform (selected : Selected) (view : RunView) : LifecycleReply × RunView :=
  match selected with
  | .reply answer => (answer, view)
  | .write changed rows => view.write (fun _ => changed) rows

/-- The SELECT of a checking call, with its checks. -/
def LifecycleCall.select (call : LifecycleCall) (view : RunView) : Option Selected :=
  match call with
  | .cancelRun now => some (selectCancel now view)
  | .completeRun now report workerId => some (selectComplete now view report workerId)
  | .acknowledgeCancellation now workerId report => some (selectAcknowledge now view workerId report)
  | .updateClaim _ _ _ _ | .heartbeat _ _ _ | .reconcileStrandedRuns _ _ _ => none

/-- The whole call as one transaction. -/
def LifecycleCall.perform (call : LifecycleCall) (view : RunView) : LifecycleReply × RunView :=
  match call with
  | .cancelRun now => (selectCancel now view).perform view
  | .completeRun now report workerId => (selectComplete now view report workerId).perform view
  | .acknowledgeCancellation now workerId report =>
    (selectAcknowledge now view workerId report).perform view
  | .updateClaim now workerId leaseSeconds branch =>
    (view.updateIf (decide (view.run.state = branch.state))
      (claimRow workerId (now + seconds leaseSeconds))).map .answered id
  | .heartbeat now workerId leaseSeconds =>
    (view.updateIf (heartbeatMatches workerId view.run)
      (heartbeatRow (now + seconds leaseSeconds))).map .answered id
  | .reconcileStrandedRuns now leaseGraceSeconds maxCreatedAgeSeconds =>
    (reconcileAll now (reconcileStatements now leaseGraceSeconds maxCreatedAgeSeconds) view).map
      .counted id

/-- Where a call stands between two of its steps. -/
inductive CallPhase where
  | starting (call : LifecycleCall)
  | writing (loaded changed : RunRow) (rows : List CaseRow)
  | reconciling (now : Time) (statements : List (ReconcileReason × Time)) (count : Nat)
  | finished (reply : LifecycleReply)

/-- The next UPDATE of a reconciliation. -/
def advanceReconcile (now : Time) (view : RunView) (count : Nat) :
    List (ReconcileReason × Time) → CallPhase × RunView
  | [] => (.finished (.counted count), view)
  | [statement] =>
    let (hit, next) := reconcileStatement now view statement
    (.finished (.counted (count + hit.toNat)), next)
  | statement :: rest =>
    let (hit, next) := reconcileStatement now view statement
    (.reconciling now rest (count + hit.toNat), next)

/-- The SELECT of a checking call. -/
def Selected.advance (selected : Selected) (view : RunView) : CallPhase × RunView :=
  match selected with
  | .reply answer => (.finished answer, view)
  | .write changed rows => (.writing view.run changed rows, view)

/-- The first step of a call. -/
def LifecycleCall.begin (call : LifecycleCall) (view : RunView) : CallPhase × RunView :=
  match call with
  | .cancelRun now => (selectCancel now view).advance view
  | .completeRun now report workerId => (selectComplete now view report workerId).advance view
  | .acknowledgeCancellation now workerId report =>
    (selectAcknowledge now view workerId report).advance view
  | .reconcileStrandedRuns now leaseGraceSeconds maxCreatedAgeSeconds =>
    advanceReconcile now view 0 (reconcileStatements now leaseGraceSeconds maxCreatedAgeSeconds)
  | single => (single.perform view).map .finished id

def advanceCall (view : RunView) : CallPhase → CallPhase × RunView
  | .starting call => call.begin view
  | .writing loaded changed rows => (view.write (RunRow.flush loaded changed) rows).map .finished id
  | .reconciling now statements count => advanceReconcile now view count statements
  | .finished reply => (.finished reply, view)

/-- The reply of a call that has changed the run or finished. -/
def CallPhase.committed : CallPhase → Option LifecycleReply
  | .finished reply => some reply
  | .reconciling _ _ (count + 1) => some (.counted (count + 1))
  | _ => none

def lifecycleCalls : StepwiseCalls LifecycleCall RunView CallPhase LifecycleReply where
  start := .starting
  advance := advanceCall
  committed := CallPhase.committed
  perform := LifecycleCall.perform
  start_uncommitted _ := rfl

section Alone

/-- The next step of a call that nothing interrupts. -/
def advanceAlone (call : CallPhase × RunView) : CallPhase × RunView := advanceCall call.2 call.1

/-- A checking call writes the row it decided on when the row has not changed. -/
theorem select_flush {call : LifecycleCall} {view : RunView} {changed : RunRow} {rows : List CaseRow}
    (decided : call.select view = some (.write changed rows)) :
    RunRow.flush view.run changed view.run = changed := by
  cases call with
  | cancelRun now =>
    simp only [LifecycleCall.select, selectCancel, Option.some.injEq] at decided
    split at decided <;> cases decided <;> exact RunRow.flush_cancelRow now view.run
  | completeRun now report workerId =>
    simp only [LifecycleCall.select, selectComplete, Selected.withRows, Option.some.injEq] at decided
    repeat' split at decided
    all_goals cases decided
    exact RunRow.flush_completeRow now report view.run
  | acknowledgeCancellation now workerId report =>
    simp only [LifecycleCall.select, selectAcknowledge, Selected.withRows, Option.some.injEq] at decided
    repeat' split at decided
    all_goals cases decided
    exact RunRow.flush_acknowledgeRow now report view.run
  | _ => cases decided

/-- Within three steps a call that nothing interrupts has done what it does as one
transaction. -/
theorem advance_alone (call : LifecycleCall) (view : RunView) :
    advanceAlone (advanceAlone (advanceAlone (.starting call, view))) =
      (call.perform view).map .finished id := by
  have checked (selected : Selected) (checks : call.select view = some selected) :
      advanceAlone (advanceAlone (selected.advance view)) = (selected.perform view).map .finished id := by
    cases selected with
    | reply answer => rfl
    | write changed rows =>
      have written : advanceAlone (.writing view.run changed rows, view) =
          (view.write (fun _ => changed) rows).map .finished id := by
        simp [advanceAlone, advanceCall, RunView.write, select_flush checks]
      exact congrArg advanceAlone written
  cases call with
  | cancelRun now => exact checked _ rfl
  | completeRun now report workerId => exact checked _ rfl
  | acknowledgeCancellation now workerId report => exact checked _ rfl
  | updateClaim now workerId leaseSeconds branch => rfl
  | heartbeat now workerId leaseSeconds => rfl
  | reconcileStrandedRuns now leaseGraceSeconds maxCreatedAgeSeconds =>
    cases maxCreatedAgeSeconds <;>
      simp [advanceAlone, advanceCall, LifecycleCall.begin, reconcileStatements, advanceReconcile,
        LifecycleCall.perform, reconcileAll, Nat.add_assoc]

end Alone

section Transactions

variable {store : Store} {runId : String} {view : RunView}

/-- The reply of a checking method; an exception leaves the store. -/
def checkedReply (store : Store) (outcome : Except PyError (Bool × Store)) : LifecycleReply × Store :=
  match outcome with
  | .ok (value, next) => (.answered value, next)
  | .error error => (.raised error, store)

/-- The repository's method behind a call, on the whole store. -/
def transaction (runId : String) (store : Store) (call : LifecycleCall) : LifecycleReply × Store :=
  match call with
  | .cancelRun now => checkedReply store (cancelRun now runId store)
  | .completeRun now report workerId =>
    checkedReply store (completeRun now runId store report workerId)
  | .acknowledgeCancellation now workerId report =>
    checkedReply store (acknowledgeCancellation now runId workerId store report)
  | .updateClaim now workerId leaseSeconds branch =>
    let (count, next) := updateClaim now runId workerId leaseSeconds store branch
    (.answered (decide (count = 1)), next)
  | .heartbeat now workerId leaseSeconds =>
    (heartbeat now runId workerId leaseSeconds store).map .answered id
  | .reconcileStrandedRuns now leaseGraceSeconds maxCreatedAgeSeconds =>
    (reconcileStrandedRuns now store leaseGraceSeconds maxCreatedAgeSeconds).map .counted id

/-- Case rows of a run collide in the table exactly where they collide in the run. -/
theorem insertAll?_view (found : store.view runId = some view) {rows : List CaseRow}
    (owned : ∀ row ∈ rows, row.runId = runId) :
    (∃ table, store.cases.insertAll? rows = some table) ↔
      (rows.map CaseRow.key).Nodup ∧ ∀ row ∈ rows, row.key ∉ view.cases.map CaseRow.key := by
  have same : ∀ row ∈ rows,
      (row.key ∈ view.cases.map CaseRow.key ↔ row.key ∈ store.cases.rows.map CaseRow.key) := by
    intro row member
    rw [(Store.view_eq_some.mp found).2]
    constructor
    · intro stored
      obtain ⟨other, selected, key⟩ := List.mem_map.mp stored
      exact List.mem_map.mpr ⟨other, (List.mem_filter.mp selected).1, key⟩
    · intro stored
      obtain ⟨other, listed, key⟩ := List.mem_map.mp stored
      refine List.mem_map.mpr ⟨other, List.mem_filter.mpr ⟨listed, ?_⟩, key⟩
      have owner : other.runId = row.runId := congrArg Prod.fst key
      simpa using owner.trans (owned row member)
  constructor
  · rintro ⟨table, inserted⟩
    have distinct := (Table.insertAll?_eq_some_iff.mp inserted).2
    obtain ⟨_, own, apart⟩ := List.nodup_append.mp distinct
    refine ⟨own, fun row member stored => ?_⟩
    exact apart _ ((same row member).mp stored) _ (List.mem_map.mpr ⟨row, member, rfl⟩) rfl
  · rintro ⟨own, fresh⟩
    have distinct : (store.cases.rows.map CaseRow.key ++ rows.map CaseRow.key).Nodup := by
      refine List.nodup_append.mpr ⟨store.cases.distinct, own, ?_⟩
      rintro key stored other new rfl
      obtain ⟨row, member, rfl⟩ := List.mem_map.mp new
      exact fresh row member ((same row member).mpr stored)
    exact ⟨⟨store.cases.rows ++ rows, by rwa [List.map_append]⟩,
      Table.insertAll?_eq_some_iff.mpr ⟨rfl, distinct⟩⟩

/-- The flush of a checking call, on the store and on the run. -/
theorem flush_view (found : store.view runId = some view) {changed : RunRow} {rows : List CaseRow}
    (owned : ∀ row ∈ rows, row.runId = runId)
    (flushed : RunRow.flush view.run changed view.run = changed) :
    (∃ cases, insertRows store.cases rows = .ok cases ∧
      view.write (fun _ => changed) rows = (.answered true, ⟨changed, view.cases ++ rows⟩) ∧
      ({ store.flushRun view.run changed with cases } : Store).view runId =
        some ⟨changed, view.cases ++ rows⟩) ∨
    (insertRows store.cases rows = .error .integrityError ∧
      view.write (fun _ => changed) rows = (.raised .integrityError, view)) := by
  unfold RunView.write
  cases inserted : store.cases.insertAll? rows with
  | none =>
    have clash : ¬ ((rows.map CaseRow.key).Nodup ∧
        ∀ row ∈ rows, row.key ∉ view.cases.map CaseRow.key) := by
      rw [← insertAll?_view found owned, inserted]
      simp
    exact .inr ⟨by rw [insertRows, inserted], if_neg clash⟩
  | some table =>
    have updated := view_flushRun found view.run changed
    rw [if_pos rfl, flushed] at updated
    have grown := view_insertCases updated inserted owned
    rw [if_pos rfl] at grown
    exact .inl ⟨table, insertRows_eq_ok.mpr inserted,
      if_pos ((insertAll?_view found owned).mp ⟨table, inserted⟩), grown⟩

/-- A call as a transaction on the store agrees with the call on the run. -/
def Agrees (runId : String) (whole : LifecycleReply × RunView) (outcome : LifecycleReply × Store) :
    Prop :=
  outcome.1 = whole.1 ∧ outcome.2.view runId = some whole.2

theorem cancelRun_agrees (found : store.view runId = some view) (now : Time) :
    Agrees runId ((LifecycleCall.cancelRun now).perform view)
      (transaction runId store (.cancelRun now)) := by
  have changed := view_flushRun found view.run (cancelRow now view.run).2
  rw [if_pos rfl, RunRow.flush_cancelRow] at changed
  have outcome : cancelRun now runId store = .ok ((cancelRow now view.run).1,
      store.flushRun view.run (cancelRow now view.run).2) := by
    rw [cancelRun, findRun_of_view found]
    rfl
  have whole : (LifecycleCall.cancelRun now).perform view =
      (.answered (cancelRow now view.run).1, { view with run := (cancelRow now view.run).2 }) := by
    cases state : view.run.state <;>
      simp [LifecycleCall.perform, selectCancel, state, Selected.perform, RunView.write, cancelRow]
  unfold transaction
  rw [whole]
  simp only [outcome]
  exact ⟨rfl, changed⟩

/-- The part that completion and acknowledgement share: the case rows and the flush. -/
theorem flushed_agrees (found : store.view runId = some view) {changed : RunRow}
    {built : Except PyError (List CaseRow)}
    (owned : ∀ rows, built = .ok rows → ∀ row ∈ rows, row.runId = runId)
    (flushed : RunRow.flush view.run changed view.run = changed) :
    Agrees runId ((Selected.withRows changed built).perform view)
      (checkedReply store do
        let rows ← built
        let cases ← insertRows store.cases rows
        return (true, { store.flushRun view.run changed with cases })) := by
  cases built with
  | error error => exact ⟨rfl, found⟩
  | ok rows =>
    change Agrees runId (view.write (fun _ => changed) rows) (checkedReply store do
      let cases ← insertRows store.cases rows
      return (true, { store.flushRun view.run changed with cases }))
    rcases flush_view found (owned rows rfl) flushed with
      ⟨cases, inserted, written, after⟩ | ⟨clashed, refused⟩
    · rw [inserted, written]
      exact ⟨rfl, after⟩
    · rw [clashed, refused]
      exact ⟨rfl, found⟩

theorem completeRun_agrees (found : store.view runId = some view) (now : Time)
    (report : LocalEvaluationReport) (workerId : Option String) :
    Agrees runId ((LifecycleCall.completeRun now report workerId).perform view)
      (transaction runId store (.completeRun now report workerId)) := by
  have outcome : completeRun now runId store report workerId =
      if view.run.heldBy workerId then do
        let rows ← caseRows runId report
        let cases ← insertRows store.cases rows
        return (true, { store.flushRun view.run (completeRow now report view.run) with cases })
      else return (false, store) := by
    unfold completeRun
    rw [findRun_of_view found]
    rfl
  change Agrees runId _ (checkedReply store (completeRun now runId store report workerId))
  rw [outcome, LifecycleCall.perform, selectComplete, view_id found]
  by_cases held : view.run.heldBy workerId = true
  · rw [if_pos held, if_pos held]
    exact flushed_agrees found (fun rows built => caseRows_runId built)
      (RunRow.flush_completeRow now report view.run)
  · rw [if_neg held, if_neg held]
    exact ⟨rfl, found⟩

theorem acknowledgeCancellation_agrees (found : store.view runId = some view) (now : Time)
    (workerId : String) (report : Option LocalEvaluationReport) :
    Agrees runId ((LifecycleCall.acknowledgeCancellation now workerId report).perform view)
      (transaction runId store (.acknowledgeCancellation now workerId report)) := by
  have outcome : acknowledgeCancellation now runId workerId store report =
      if view.run.state = .cancelling ∧ view.run.heldBy (some workerId) = true then do
        let rows ← report.elim (.ok []) (caseRows runId)
        let cases ← insertRows store.cases rows
        return (true, { store.flushRun view.run (acknowledgeRow now report view.run) with cases })
      else return (false, store) := by
    unfold acknowledgeCancellation
    rw [findRun_of_view found]
    rfl
  change Agrees runId _
    (checkedReply store (acknowledgeCancellation now runId workerId store report))
  rw [outcome, LifecycleCall.perform, selectAcknowledge, view_id found]
  by_cases ready : view.run.state = .cancelling ∧ view.run.heldBy (some workerId) = true
  · rw [if_pos ready, if_pos ready]
    exact flushed_agrees found (fun rows built => reportRows_runId built)
      (RunRow.flush_acknowledgeRow now report view.run)
  · rw [if_neg ready, if_neg ready]
    exact ⟨rfl, found⟩

/-- A conditional UPDATE of the run by id. -/
theorem updateRun_view (found : store.view runId = some view) (q : RunRow → Bool)
    (set : RunRow → RunRow) (keeps : ∀ run, (set run).id = run.id) :
    decide (store.runs.matching (fun run => decide (run.id = runId) && q run) = 1) =
      (view.updateIf (q view.run) set).1 ∧
    ({ store with
        runs := store.runs.update (fun run => decide (run.id = runId) && q run) set keeps } :
      Store).view runId = some (view.updateIf (q view.run) set).2 := by
  have updated := view_update found (fun run => decide (run.id = runId) && q run) set keeps
  have counted := Table.matching_key store.runs runId q
  rw [(Store.view_eq_some.mp found).1] at counted
  rw [counted, updated]
  by_cases hit : q view.run = true <;> simp [RunView.updateIf, hit, view_id found]

theorem updateClaim_agrees (found : store.view runId = some view) (now : Time) (workerId : String)
    (leaseSeconds : Int) (branch : ClaimBranch) :
    Agrees runId ((LifecycleCall.updateClaim now workerId leaseSeconds branch).perform view)
      (transaction runId store (.updateClaim now workerId leaseSeconds branch)) := by
  obtain ⟨counted, after⟩ := updateRun_view found (fun run => decide (run.state = branch.state))
    (claimRow workerId (now + seconds leaseSeconds)) (claimRow_id workerId _)
  exact ⟨congrArg LifecycleReply.answered counted, after⟩

theorem heartbeat_agrees (found : store.view runId = some view) (now : Time) (workerId : String)
    (leaseSeconds : Int) :
    Agrees runId ((LifecycleCall.heartbeat now workerId leaseSeconds).perform view)
      (transaction runId store (.heartbeat now workerId leaseSeconds)) := by
  obtain ⟨counted, after⟩ := updateRun_view found (heartbeatMatches workerId)
    (heartbeatRow (now + seconds leaseSeconds)) (heartbeatRow_id _)
  exact ⟨congrArg LifecycleReply.answered counted, after⟩

end Transactions

section Reconciliation

variable {now : Time} {view : RunView} {statement : ReconcileReason × Time}

/-- The state decides which UPDATE of a reconciliation can select a run. -/
theorem matches_unique {first second : ReconcileReason} {cutoff other : Time} {run : RunRow}
    (one : first.matches cutoff run = true) (two : second.matches other run = true) :
    first = second := by
  cases first <;> cases second <;>
    simp_all [ReconcileReason.matches]

theorem reconcileStatement_hit (hit : statement.1.matches statement.2 view.run = true) :
    reconcileStatement now view statement =
      (true, { view with run := reconcileRow statement.1 now view.run }) := by
  simp [reconcileStatement, RunView.updateIf, hit]

theorem reconcileStatement_miss (miss : statement.1.matches statement.2 view.run = false) :
    reconcileStatement now view statement = (false, view) := by
  simp [reconcileStatement, RunView.updateIf, miss]

theorem reconcileAll_miss {statements : List (ReconcileReason × Time)}
    (misses : ∀ statement ∈ statements, statement.1.matches statement.2 view.run = false) :
    reconcileAll now statements view = (0, view) := by
  induction statements with
  | nil => rfl
  | cons statement rest ih =>
    have later := ih fun other member => misses other (List.mem_cons_of_mem _ member)
    simp [reconcileAll, reconcileStatement_miss (misses statement List.mem_cons_self), later]

/-- One UPDATE that selects the run is all a reconciliation does to it. -/
theorem reconcileAll_hit {statements : List (ReconcileReason × Time)} (member : statement ∈ statements)
    (hit : statement.1.matches statement.2 view.run = true) :
    reconcileAll now statements view =
      (1, { view with run := reconcileRow statement.1 now view.run }) := by
  induction statements with
  | nil => cases member
  | cons first rest ih =>
    by_cases selects : first.1.matches first.2 view.run = true
    · have settled : reconcileAll now rest
          { view with run := reconcileRow first.1 now view.run } =
          (0, { view with run := reconcileRow first.1 now view.run }) :=
        reconcileAll_miss fun other _ => matches_reconcileRow first.1 other.1 other.2 view.run
      simp [reconcileAll, reconcileStatement_hit selects, settled, matches_unique hit selects]
    · rcases List.mem_cons.mp member with rfl | later
      · exact absurd hit selects
      · have missed : first.1.matches first.2 view.run = false := by simpa using selects
        simp [reconcileAll, reconcileStatement_miss missed, ih later]

theorem reconcileRuns_view (now : Time) (statement : ReconcileReason × Time) {store : Store}
    {runId : String} (found : store.view runId = some view) :
    (reconcileRuns now store statement.1 statement.2).2.view runId =
      some (reconcileStatement now view statement).2 := by
  have updated := view_update found (statement.1.matches statement.2) (reconcileRow statement.1 now)
    (reconcileRow_id statement.1 now)
  by_cases hit : statement.1.matches statement.2 view.run = true <;>
    simpa [reconcileRuns, reconcileStatement, RunView.updateIf, hit] using updated

/-- A reconciliation of the store is, on each run, one of the run; it counts the
rows of all runs. -/
theorem reconcileStrandedRuns_agrees {store : Store} {runId : String}
    (found : store.view runId = some view) (leaseGraceSeconds : Int)
    (maxCreatedAgeSeconds : Option Int) :
    (reconcileStrandedRuns now store leaseGraceSeconds maxCreatedAgeSeconds).2.view runId =
      some (reconcileAll now (reconcileStatements now leaseGraceSeconds maxCreatedAgeSeconds) view).2 := by
  have first := reconcileRuns_view now (.leaseExpired, now - seconds leaseGraceSeconds) found
  have second := reconcileRuns_view now (.cancelledLeaseExpired, now - seconds leaseGraceSeconds) first
  cases maxCreatedAgeSeconds with
  | none => exact second
  | some age => exact reconcileRuns_view now (.staleCreated, now - seconds age) second

theorem matches_terminal {reason : ReconcileReason} {cutoff : Time} {run : RunRow}
    (ended : run.state.terminal = true) : reason.matches cutoff run = false := by
  cases state : run.state <;> cases reason <;>
    simp_all [RunState.terminal, ReconcileReason.matches]

end Reconciliation

end RegressionDetection.Persistence
