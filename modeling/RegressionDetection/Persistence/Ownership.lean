import RegressionDetection.Persistence.Finality

/-! The worker a run records is the last one that claimed it, and any other
worker is shut out: what it issues on the run answers False and writes nothing. -/

namespace RegressionDetection.Persistence

open Foundation Execution

/-- The event is a claim that hands the run to the worker. -/
def ClaimsRun (workerId runId : String) (store : Store) (event : Event) : Prop :=
  ∃ leaseSeconds, event.operation = .claimNextRun workerId leaseSeconds ∧
    (claimNextRun event.now workerId leaseSeconds store).1 = some runId

/-- Whatever the worker issues on the run answers False and leaves the store as it is. -/
structure ShutOut (workerId runId : String) (store : Store) : Prop where
  heartbeat : ∀ now leaseSeconds,
    Persistence.heartbeat now runId workerId leaseSeconds store = (false, store)
  completion : ∀ now report,
    completeRun now runId store report (some workerId) = .ok (false, store)
  acknowledgement : ∀ now report,
    acknowledgeCancellation now runId workerId store report = .ok (false, store)

section Claiming

variable {store next : Store} {now : Time} {runId workerId : String} {leaseSeconds : Int}

/-- A branch leaves every run but the one it claims alone. -/
theorem claimBranch_others {branch : ClaimBranch}
    (others : (claimBranch now workerId leaseSeconds store branch).1 ≠ some runId) :
    (claimBranch now workerId leaseSeconds store branch).2.runs.find? runId =
      store.runs.find? runId := by
  cases selected : selectCandidate now store branch with
  | none => simp [claimBranch, selected]
  | some candidate =>
    rw [claimBranch_some selected] at others ⊢
    have apart : runId ≠ candidate := fun same => others (congrArg some same.symm)
    unfold updateClaim claimHits
    rw [Table.find?_updateKey, if_neg apart]

theorem claimNextRun_others
    (others : (claimNextRun now workerId leaseSeconds store).1 ≠ some runId) :
    (claimNextRun now workerId leaseSeconds store).2.runs.find? runId = store.runs.find? runId := by
  unfold claimNextRun at others ⊢
  cases first : claimBranch now workerId leaseSeconds store .created with
  | mk claimed next =>
    rw [first] at others
    cases claimed with
    | some candidate =>
      have missed : (claimBranch now workerId leaseSeconds store .created).1 ≠ some runId := by
        rw [first]
        exact others
      have kept := claimBranch_others missed
      rwa [first] at kept
    | none =>
      obtain rfl := claimBranch_none first
      exact claimBranch_others others

theorem claimBranch_records {branch : ClaimBranch}
    (claims : claimBranch now workerId leaseSeconds store branch = (some runId, next)) :
    ∃ row, next.runs.find? runId = some row ∧ row.workerId = some workerId := by
  cases selected : selectCandidate now store branch with
  | none => simp [claimBranch, selected] at claims
  | some candidate =>
    rw [claimBranch_some selected] at claims
    obtain ⟨same, rfl⟩ := Prod.mk.inj claims
    cases same
    obtain ⟨run, found, meets⟩ := selectCandidate_some selected
    refine ⟨claimRow workerId (now + seconds leaseSeconds) run, ?_, rfl⟩
    unfold updateClaim claimHits
    rw [Table.find?_updateKey, if_pos rfl, found]
    simp [candidate_state meets]

/-- A successful claim records its worker. -/
theorem claimNextRun_records
    (claims : claimNextRun now workerId leaseSeconds store = (some runId, next)) :
    ∃ row, next.runs.find? runId = some row ∧ row.workerId = some workerId := by
  unfold claimNextRun at claims
  cases first : claimBranch now workerId leaseSeconds store .created with
  | mk claimed middle =>
    rw [first] at claims
    cases claimed with
    | some candidate => exact claimBranch_records (first.trans claims)
    | none => exact claimBranch_records claims

end Claiming

section Recording

variable {store : Store} {runId : String} {event : Event}

/-- The recorded worker of a run changes only by a claim of it, to the claimer. -/
theorem perform_workerId {view : RunView} (found : store.view runId = some view) (event : Event) :
    ∃ next, (perform store event).view runId = some next ∧
      (next.run.workerId = view.run.workerId ∨
        ∃ workerId, next.run.workerId = some workerId ∧ ClaimsRun workerId runId store event) := by
  obtain ⟨next, after, moved⟩ := perform_view found event
  refine ⟨next, after, ?_⟩
  cases moved with
  | kept => exact .inl rfl
  | claimed branch candidate =>
    rename_i now workerId leaseSeconds
    by_cases claims : (claimNextRun now workerId leaseSeconds store).1 = some runId
    · exact .inr ⟨workerId, rfl, leaseSeconds, rfl, claims⟩
    · have kept := claimNextRun_others claims
      have row := (Store.view_eq_some.mp after).1
      have same := row.symm.trans (kept.trans (Store.view_eq_some.mp found).1)
      exact .inl (congrArg RunRow.workerId (Option.some.inj same))
  | extended held => exact .inl rfl
  | cancelled => exact .inl (cancelRow_workerId _ _)
  | acknowledged cancelling held built inserted => exact .inl (acknowledgeRow_workerId _ _ _)
  | completed held built inserted => exact .inl rfl
  | reconciled reason cutoff stranded => exact .inl (reconcileRow_workerId _ _ _)

/-- A worker that a run does not record is shut out of it. -/
theorem shutOut_of_workerId {workerId : String} {row : RunRow}
    (found : store.runs.find? runId = some row) (other : row.workerId ≠ some workerId) :
    ShutOut workerId runId store := by
  have loaded : findRun store runId = .ok row := findRun_eq_ok.mpr found
  have unheld : row.heldBy (some workerId) = false := by simpa [RunRow.heldBy] using other
  constructor
  · intro now leaseSeconds
    have missed : ∀ stored ∈ store.runs.rows, heartbeatHits runId workerId stored = false := by
      intro stored member
      by_contra hit
      simp only [heartbeatHits, heartbeatMatches, Bool.not_eq_false, Bool.and_eq_true,
        decide_eq_true_eq] at hit
      obtain ⟨same, held, _⟩ := hit
      have present := Table.find?_of_mem member
      rw [same, found] at present
      cases present
      exact other held
    have count : store.runs.matching (heartbeatHits runId workerId) = 0 := by
      apply List.countP_eq_zero.mpr
      intro stored member
      simp [missed stored member]
    unfold Persistence.heartbeat
    rw [count, Table.update_of_miss missed]
    rfl
  · intro now report
    unfold completeRun
    rw [loaded]
    simp [bind, Except.bind, unheld, pure, Except.pure]
  · intro now report
    unfold acknowledgeCancellation
    rw [loaded]
    simp [bind, Except.bind, unheld, pure, Except.pure]

end Recording

/-- From a claim of the run by another worker until it claims the run itself, a worker
is shut out, whatever operations come between. -/
theorem staleWorker_shutOut {store next : Store} {now : Time} {runId holder stale : String}
    {leaseSeconds : Int} {events : List Event} (apart : stale ≠ holder)
    (claims : claimNextRun now holder leaseSeconds store = (some runId, next))
    (unclaimed : Guarded perform (fun current event => ¬ ClaimsRun stale runId current event)
      next events) : ShutOut stale runId (run perform next events) := by
  obtain ⟨view, found, other⟩ : ∃ view, (run perform next events).view runId = some view ∧
      view.run.workerId ≠ some stale := by
    refine run_invariant (fun current => ∃ view, current.view runId = some view ∧
      view.run.workerId ≠ some stale) ?_ unclaimed ?_
    · rintro current event allowed ⟨view, found, other⟩
      obtain ⟨after, stored, recorded | ⟨workerId, recorded, claimed⟩⟩ :=
        perform_workerId found event
      · exact ⟨after, stored, recorded ▸ other⟩
      · refine ⟨after, stored, ?_⟩
        rintro same
        cases recorded.symm.trans same
        exact allowed claimed
    · obtain ⟨row, found, recorded⟩ := claimNextRun_records claims
      refine ⟨⟨row, next.casesOf runId⟩, Store.view_eq_some.mpr ⟨found, rfl⟩, ?_⟩
      rintro same
      cases recorded.symm.trans same
      exact apart rfl
  exact shutOut_of_workerId (Store.view_eq_some.mp found).1 other

/-- A worker whose lease ran out stays shut out after the next claimer's run is cancelled
and reconciled. -/
theorem expiredWorker_shutOut : ∃ next,
    claimNextRun (seconds 120) "other" 60 (run perform projectStore [submitted, claimedBy "worker"]) =
      (some "run", next) ∧
    ShutOut "worker" "run" (run perform next
      [⟨seconds 121, .cancelRun "run"⟩, ⟨seconds 400, .reconcileStrandedRuns 30 none⟩]) := by
  have claims : (claimNextRun (seconds 120) "other" 60
      (run perform projectStore [submitted, claimedBy "worker"])).1 = some "run" := by decide
  have apart : "worker" ≠ "other" := by decide
  refine ⟨_, Prod.ext claims rfl,
    staleWorker_shutOut apart (Prod.ext claims rfl) ⟨?_, ?_, trivial⟩⟩ <;>
    rintro ⟨_, impossible, _⟩ <;> cases impossible

end RegressionDetection.Persistence
