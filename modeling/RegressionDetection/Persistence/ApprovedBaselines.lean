import RegressionDetection.Persistence.StoredEvidence

/-! Baselines point at approved evidence: eligibility is checked at promotion
only, and no later operation takes a completed passing run out of that state. -/

namespace RegressionDetection.Persistence

open Foundation Specification Execution

/-- A completed run has the result of its snapshot's first case. -/
def Evaluated (view : RunView) : Prop := view.run.state = .completed → HoldsFirst view

/-- Every baseline's run is stored, completed and passed. -/
def Approved (store : Store) : Prop :=
  ∀ row ∈ store.baselines.rows, ∃ run, store.runs.find? row.runId = some run ∧
    run.state = .completed ∧ run.gateOutcome = some .pass

section Steps

variable {store : Store} {runId : String} {event : Event} {view next : RunView}

theorem Submitted.evaluated (submitted : Submitted view) : Evaluated view := by
  obtain ⟨_, _, _, _, _, _, rfl⟩ := submitted
  intro state
  cases state

theorem Transition.evaluated (moved : Transition store runId event view next)
    (found : store.view runId = some view) (own : FinalisesWith ReportsPrefix store event)
    (evaluated : Evaluated view) : Evaluated next := by
  cases moved with
  | kept => exact evaluated
  | extended held => exact evaluated
  | claimed branch candidate =>
    intro state
    cases state
  | cancelled =>
    cases state : view.run.state with
    | created | running => simp [Evaluated, cancelRow, state]
    | completed | failed | cancelling | cancelled => simpa [cancelRow, state] using evaluated
  | acknowledged cancelling held built inserted =>
    intro state
    cases state
  | completed held built inserted =>
    intro _
    have covers := own runId _ view.run rfl (Store.view_eq_some.mp found).1
    exact holdsFirst_of_rows covers built (List.subset_append_right _ _)
  | reconciled reason cutoff stranded =>
    intro state
    cases reason <;> cases state

/-- A completed run with its first result stored stays exactly as it is. -/
theorem Transition.settled (moved : Transition store runId event view next)
    (found : store.view runId = some view) (own : FinalisesWith ReportsPrefix store event)
    (evaluated : Evaluated view) (completed : view.run.state = .completed) : next = view := by
  have ended : view.run.state.terminal = true := by rw [completed]; rfl
  exact moved.terminal found ended ((evaluated completed).not_completed found own)

theorem promotable_iff {run : RunRow} :
    run.promotable = true ↔ run.state = .completed ∧ run.gateOutcome = some .pass := by
  simp [RunRow.promotable]

end Steps

section Promotions

variable {store next : Store} {now : Time} {projectId channel runId : String}
  {reason : Option String}

/-- A promotion that answers None leaves the store as it is. -/
theorem promoteRun_none
    (refused : promoteRun now projectId channel runId reason store = .ok (none, next)) :
    next = store := by
  unfold promoteRun at refused
  split at refused
  · unfold promoteEligible at refused
    split at refused
    · obtain ⟨_, _, made⟩ := bind_eq_ok.mp refused
      cases made
    · split at refused
      · cases refused
      · rename_i existing _ _
        simp only at refused
        split at refused
        · rename_i missed
          cases refused
          have unhit : ∀ row ∈ store.baselines.rows,
              baselineHits projectId channel existing.runId row = false := by
            intro row member
            simpa using List.countP_eq_zero.mp missed row member
          rw [Table.update_of_miss unhit]
        · cases refused
  · cases refused
    rfl

/-- The channels after a promotion: those before it, and ones that point at the promoted
run, which was eligible. -/
theorem promoteRun_baselines {answer : Option (Bool × BaselineChannelRow)}
    (promoted : promoteRun now projectId channel runId reason store = .ok (answer, next))
    {row : BaselineChannelRow} (member : row ∈ next.baselines.rows) :
    row ∈ store.baselines.rows ∨
      row.runId = runId ∧ (store.runs.find? runId).any RunRow.promotable = true := by
  unfold promoteRun at promoted
  split at promoted
  · rename_i eligible
    unfold promoteEligible at promoted
    split at promoted
    · obtain ⟨inserted, placed, made⟩ := bind_eq_ok.mp promoted
      cases made
      obtain ⟨_, baselines, added, rfl⟩ := insertBaseline_eq_ok.mp placed
      rw [(Table.rows_insert added).1, List.mem_append] at member
      refine member.imp id fun fresh => ?_
      rw [List.mem_singleton.mp fresh]
      exact ⟨rfl, eligible⟩
    · rename_i existing _
      split at promoted
      · cases promoted
        exact .inl member
      · have changed : row ∈ (store.baselines.update (baselineHits projectId channel existing.runId)
            (replaceBaseline runId reason existing.runId)
            (replaceBaseline_key runId reason _)).rows := by
          simp only at promoted
          split at promoted <;> cases promoted <;> exact member
        obtain ⟨before, stored, image⟩ := List.mem_map.mp changed
        split at image
        · subst image
          exact .inr ⟨rfl, eligible⟩
        · exact .inl (image ▸ stored)
  · cases promoted
    exact .inl member

end Promotions

section Histories

variable {store : Store}

/-- A transaction that keeps the channels when it commits keeps them. -/
theorem settle_baselines {α : Type} {outcome : Except PyError (α × Store)}
    (keeps : ∀ answer next, outcome = .ok (answer, next) → next.baselines = store.baselines) :
    (settle store outcome).baselines = store.baselines := by
  cases outcome with
  | error error => rfl
  | ok result => exact keeps result.1 result.2 rfl

theorem createRun_baselines {now : Time} {runId projectId : String}
    {specification : EvaluationSpecification} {configurationHash datasetHash : HexDigest}
    {idempotencyKey requestHash : Option String} {answer : String} {next : Store}
    (created : createRun now runId store store projectId specification configurationHash datasetHash
      idempotencyKey requestHash = .ok (answer, next)) : next.baselines = store.baselines := by
  obtain ⟨inserted, placed, rest⟩ := bind_eq_ok.mp created
  have same : inserted.baselines = store.baselines := by
    unfold insertRun at placed
    split at placed
    · obtain ⟨_, _, made⟩ := bind_eq_ok.mp placed
      cases made
      rfl
    · cases placed
  cases idempotencyKey with
  | none =>
    cases rest
    exact same
  | some key =>
    simp only at rest
    split at rest
    · cases rest
      exact same
    · obtain ⟨_, _, made⟩ := bind_eq_ok.mp rest
      cases made
      rfl

theorem completeRun_baselines {now : Time} {runId : String} {report : LocalEvaluationReport}
    {workerId : Option String} {answer : Bool} {next : Store}
    (completed : completeRun now runId store report workerId = .ok (answer, next)) :
    next.baselines = store.baselines := by
  obtain ⟨run, _, rest⟩ := bind_eq_ok.mp completed
  split at rest
  · obtain ⟨_, _, later⟩ := bind_eq_ok.mp rest
    obtain ⟨_, _, made⟩ := bind_eq_ok.mp later
    cases made
    rfl
  · cases rest
    rfl

theorem acknowledgeCancellation_baselines {now : Time} {runId workerId : String}
    {report : Option LocalEvaluationReport} {answer : Bool} {next : Store}
    (acknowledged : acknowledgeCancellation now runId workerId store report = .ok (answer, next)) :
    next.baselines = store.baselines := by
  obtain ⟨run, _, rest⟩ := bind_eq_ok.mp acknowledged
  split at rest
  · obtain ⟨_, _, later⟩ := bind_eq_ok.mp rest
    obtain ⟨_, _, made⟩ := bind_eq_ok.mp later
    cases made
    rfl
  · cases rest
    rfl

theorem claimBranch_baselines {now : Time} {workerId : String} {leaseSeconds : Int}
    {branch : ClaimBranch} :
    (claimBranch now workerId leaseSeconds store branch).2.baselines = store.baselines := by
  cases selected : selectCandidate now store branch with
  | none => simp [claimBranch, selected]
  | some candidate =>
    rw [claimBranch_some selected]
    rfl

/-- The channels after an operation: those before it, and ones that point at a run that
was eligible, which the operation leaves alone. -/
theorem perform_baselines (event : Event) {row : BaselineChannelRow}
    (member : row ∈ (perform store event).baselines.rows) :
    row ∈ store.baselines.rows ∨
      (perform store event).runs = store.runs ∧
        (store.runs.find? row.runId).any RunRow.promotable = true := by
  obtain ⟨now, operation⟩ := event
  have kept (same : (perform store ⟨now, operation⟩).baselines = store.baselines) :
      row ∈ store.baselines.rows := same ▸ member
  cases operation with
  | createRun projectId specification configurationHash datasetHash idempotencyKey requestHash fresh =>
    exact .inl (kept (settle_baselines fun _ _ created => createRun_baselines created))
  | claimNextRun workerId leaseSeconds =>
    refine .inl (kept ?_)
    simp only [perform, claimNextRun]
    cases first : claimBranch now workerId leaseSeconds store .created with
    | mk claimed next =>
      cases claimed with
      | some candidate =>
        have same : (claimBranch now workerId leaseSeconds store .created).2.baselines =
            store.baselines := claimBranch_baselines
        rwa [first] at same
      | none =>
        obtain rfl := claimBranch_none first
        exact claimBranch_baselines
  | heartbeat target workerId leaseSeconds => exact .inl member
  | cancelRun target =>
    refine .inl (kept (settle_baselines fun _ _ cancelled => ?_))
    obtain ⟨_, _, made⟩ := bind_eq_ok.mp cancelled
    cases made
    rfl
  | acknowledgeCancellation target workerId report =>
    exact .inl (kept (settle_baselines fun _ _ acknowledged =>
      acknowledgeCancellation_baselines acknowledged))
  | completeRun target report workerId =>
    exact .inl (kept (settle_baselines fun _ _ completed => completeRun_baselines completed))
  | reconcileStrandedRuns leaseGraceSeconds maxCreatedAgeSeconds =>
    cases maxCreatedAgeSeconds <;> exact .inl member
  | promoteRun projectId channel target reason =>
    simp only [perform] at member ⊢
    cases outcome : promoteRun now projectId channel target reason store with
    | error error =>
      rw [outcome] at member
      exact .inl member
    | ok result =>
      rw [outcome] at member
      obtain ⟨baselines, same⟩ := promoteRun_tables outcome
      have runs : result.2.runs = store.runs := by rw [same]
      rcases promoteRun_baselines outcome member with before | ⟨points, eligible⟩
      · exact .inl before
      · exact .inr ⟨runs, points ▸ eligible⟩

/-- Operations keep the baselines approved. -/
theorem perform_approved {event : Event} (own : FinalisesWith ReportsPrefix store event)
    (evaluated : EveryRun Evaluated store) (approved : Approved store) :
    Approved (perform store event) := by
  intro row member
  rcases perform_baselines event member with before | ⟨same, eligible⟩
  · obtain ⟨run, found, completed, passed⟩ := approved row before
    have viewed : store.view row.runId = some ⟨run, store.casesOf row.runId⟩ :=
      Store.view_eq_some.mpr ⟨found, rfl⟩
    obtain ⟨next, after, moved⟩ := perform_view viewed event
    obtain rfl := moved.settled viewed own (evaluated.stored _ _ viewed) completed
    exact ⟨run, (Store.view_eq_some.mp after).1, completed, passed⟩
  · obtain ⟨run, found, promotable⟩ := (Option.any_eq_true _ _).mp eligible
    exact ⟨run, same ▸ found, promotable_iff.mp promotable⟩

end Histories

/-- As long as workers finalise with nonempty reports on the run's own snapshot, every
baseline's run is completed and passed in every reachable state, and a promotion that
answers None changes no channel. -/
theorem baselines_approved {store : Store} {events : List Event} (empty : NoRuns store)
    (own : Guarded perform (FinalisesWith ReportsPrefix) store events) :
    Approved (run perform store events) ∧
    ∀ now projectId channel runId reason next,
      promoteRun now projectId channel runId reason (run perform store events) = .ok (none, next) →
      next = run perform store events := by
  refine ⟨?_, fun _ _ _ _ _ _ refused => promoteRun_none refused⟩
  have start : EveryRun Evaluated store ∧ Approved store := by
    refine ⟨empty.everyRun, fun row member => ?_⟩
    rw [empty.baselines] at member
    cases member
  refine (run_invariant (fun current => EveryRun Evaluated current ∧ Approved current) ?_ own start).2
  rintro current event allowed ⟨evaluated, approved⟩
  refine ⟨?_, perform_approved allowed evaluated approved⟩
  exact perform_everyRun (fun _ submitted => submitted.evaluated)
    (fun _ _ _ found before moved => moved.evaluated found allowed before) evaluated

/-- A promoted run stays approved through a late cancellation and a second completion. -/
theorem promotedHistory_approved :
    (∃ row ∈ (run perform projectStore (evaluatedHistory ++
      [⟨2, .promoteRun "project" "main" "run" none⟩, ⟨3, .cancelRun "run"⟩,
        ⟨4, .completeRun "run" greetingReport "worker"⟩])).baselines.rows, row.runId = "run") ∧
    Approved (run perform projectStore (evaluatedHistory ++
      [⟨2, .promoteRun "project" "main" "run" none⟩, ⟨3, .cancelRun "run"⟩,
        ⟨4, .completeRun "run" greetingReport "worker"⟩])) := by
  refine ⟨by decide +kernel, (baselines_approved ⟨rfl, rfl, rfl⟩ ?_).1⟩
  refine Guarded.append.mpr ⟨Guarded.mono (fun _ _ own => own.prefixes) evaluatedHistory_own, ?_⟩
  refine ⟨?_, ?_, ?_, trivial⟩ <;> intro runId report run finalises row <;> cases finalises
  have kept : ((Foundation.run perform (Foundation.run perform projectStore evaluatedHistory)
      [⟨2, .promoteRun "project" "main" "run" none⟩, ⟨3, .cancelRun "run"⟩]).runs.find? "run").all
      (fun stored => decide (stored.snapshot =
        ⟨plainDocument "Say ok" ["first"] {}, greeting_valid⟩)) = true := by decide +kernel
  have snapshot : run.snapshot = ⟨plainDocument "Say ok" ["first"] {}, greeting_valid⟩ := by
    simpa [row] using kept
  exact snapshot ▸ greetingReport_for.reconciles.1

end RegressionDetection.Persistence
