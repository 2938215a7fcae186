import RegressionDetection.Execution.Evidence
import RegressionDetection.Persistence.Finality
import RegressionDetection.Persistence.Histories

/-! Stored evidence. The unique constraint on the case rows admits one report per
run: a run with case rows is terminal, all its evidence comes from that report,
and a second finalisation is refused. -/

namespace RegressionDetection.Persistence

open Foundation Specification Policy Execution

/-- The run and the report an operation is to store. -/
def Operation.finalisation : Operation → Option (String × LocalEvaluationReport)
  | .completeRun runId report _ => some (runId, report)
  | .acknowledgeCancellation runId _ (some report) => some (runId, report)
  | _ => none

/-- Workers finalise a run with reports that suit its snapshot. -/
def FinalisesWith (suits : EvaluationSpecification → LocalEvaluationReport → Prop) (store : Store)
    (event : Event) : Prop :=
  ∀ runId report run, event.operation.finalisation = some (runId, report) →
    store.runs.find? runId = some run → suits run.snapshot report

/-- The row's columns and case rows are those of the report. -/
structure StoredFrom (report : LocalEvaluationReport) (view : RunView) : Prop where
  rows : caseRows view.run.id report = .ok view.cases
  totalCases : view.run.totalCases = some report.run.totalCases
  gateOutcome : view.run.gateOutcome = some report.gate.outcome
  metrics : view.run.metrics = some (.gate report.gate.metrics)

/-- The result of the snapshot's first case is stored. -/
def HoldsFirst (view : RunView) : Prop :=
  ∃ row ∈ view.cases, some row.caseKey = (view.run.snapshot.val.cases.map GoldenCase.key).head?

/-- The answer of a finalisation that does not go through: an exception, or False with
the store as it was. -/
def Refused (store : Store) (outcome : Except PyError (Bool × Store)) : Prop :=
  (∃ error, outcome = .error error) ∨ outcome = .ok (false, store)

section Collisions

variable {store : Store} {runId : String} {view : RunView} {report : LocalEvaluationReport}

/-- The rows of a report on the first cases hold the first one. -/
theorem holdsFirst_of_rows {rows : List CaseRow} (covers : ReportsPrefix view.run.snapshot report)
    (built : caseRows runId report = .ok rows) (stored : rows ⊆ view.cases) : HoldsFirst view := by
  obtain ⟨case, member, first⟩ := covers.first
  have keyed : (runId, case.caseKey) ∈ rows.map CaseRow.key :=
    caseRows_keys built ▸ List.mem_map.mpr ⟨case, member, rfl⟩
  obtain ⟨row, listed, same⟩ := List.mem_map.mp keyed
  exact ⟨row, stored listed, (congrArg some (congrArg Prod.snd same)).trans first⟩

/-- A second report on the first case is not storable. -/
theorem HoldsFirst.not_storable (holds : HoldsFirst view) (found : store.view runId = some view)
    (covers : ReportsPrefix view.run.snapshot report) : ¬ StorableReport store runId report := by
  rintro ⟨_, _, fresh⟩
  obtain ⟨row, stored, first⟩ := holds
  obtain ⟨case, member, again⟩ := covers.first
  rw [(Store.view_eq_some.mp found).2] at stored
  obtain ⟨listed, own⟩ := List.mem_filter.mp stored
  refine fresh case member (List.mem_map.mpr ⟨row, listed, ?_⟩)
  have same : row.runId = runId := by simpa using own
  exact Prod.ext same (Option.some.inj (first.trans again.symm))

theorem HoldsFirst.not_completed (holds : HoldsFirst view) (found : store.view runId = some view)
    {event : Event} (own : FinalisesWith ReportsPrefix store event) {states : RunState → Prop} :
    ¬ CompletesIn states runId store event := by
  rintro ⟨report, workerId, run, completes, row, _, _, storable⟩
  obtain rfl := Option.some.inj (row.symm.trans (Store.view_eq_some.mp found).1)
  have covers := own runId report view.run (by rw [completes]; rfl) row
  exact holds.not_storable found covers storable

theorem completeRun_refused (holds : HoldsFirst view) (found : store.view runId = some view)
    (covers : ReportsPrefix view.run.snapshot report) (now : Time) (workerId : Option String) :
    Refused store (completeRun now runId store report workerId) := by
  cases outcome : completeRun now runId store report workerId with
  | error error => exact .inl ⟨error, rfl⟩
  | ok result =>
    right
    obtain ⟨run, loaded, rest⟩ := bind_eq_ok.mp outcome
    split at rest
    · obtain ⟨rows, built, later⟩ := bind_eq_ok.mp rest
      obtain ⟨table, inserted, _⟩ := bind_eq_ok.mp later
      exact absurd (storableReport_of_inserted built (insertRows_eq_ok.mp inserted))
        (holds.not_storable found covers)
    · cases rest
      rfl

theorem acknowledgeCancellation_refused (ended : view.run.state.terminal = true)
    (found : store.view runId = some view) (now : Time) (workerId : String)
    (report : Option LocalEvaluationReport) :
    Refused store (acknowledgeCancellation now runId workerId store report) := by
  right
  have unready : ¬ (view.run.state = .cancelling ∧ view.run.heldBy (some workerId) = true) := by
    rintro ⟨state, _⟩
    rw [state] at ended
    cases ended
  unfold acknowledgeCancellation
  rw [findRun_of_view found]
  simp only [bind, Except.bind, if_neg unready]
  rfl

end Collisions

section Evidence

/-- A run has no case rows, or it is terminal and all its evidence is of one report. -/
def Unmixed (view : RunView) : Prop :=
  view.cases = [] ∨ view.run.state.terminal = true ∧
    ∃ report, ReportFor view.run.snapshot report ∧ StoredFrom report view

variable {store : Store} {runId : String} {event : Event} {view next : RunView}

theorem StoredFrom.holdsFirst {report : LocalEvaluationReport} (stored : StoredFrom report view)
    (own : ReportFor view.run.snapshot report) : HoldsFirst view :=
  holdsFirst_of_rows own.reconciles.1 stored.rows (List.Subset.refl _)

theorem FinalisesWith.prefixes (own : FinalisesWith ReportFor store event) :
    FinalisesWith ReportsPrefix store event :=
  fun runId report run finalises row => (own runId report run finalises row).reconciles.1

theorem Submitted.unmixed (submitted : Submitted view) : Unmixed view := by
  obtain ⟨_, _, _, _, _, _, rfl⟩ := submitted
  exact .inl rfl

/-- Operations never mix the evidence of a run. -/
theorem Transition.unmixed (moved : Transition store runId event view next)
    (found : store.view runId = some view) (own : FinalisesWith ReportFor store event)
    (single : Unmixed view) : Unmixed next := by
  have row := (Store.view_eq_some.mp found).1
  rcases single with unevaluated | ⟨ended, report, suits, stored⟩
  · cases moved with
    | kept => exact .inl unevaluated
    | claimed | extended | cancelled | reconciled => exact .inl unevaluated
    | acknowledged cancelling held built inserted =>
      rename_i rows table now workerId report
      cases report with
      | none =>
        cases built
        exact .inl (by simpa using unevaluated)
      | some report =>
        right
        rw [unevaluated, List.nil_append]
        refine ⟨rfl, report, own runId report view.run rfl row, ?_, rfl, rfl, rfl⟩
        exact (congrArg (caseRows · report) (view_id found)).trans built
    | completed held built inserted =>
      rename_i report rows table now workerId
      right
      rw [unevaluated, List.nil_append]
      refine ⟨?_, report, own runId report view.run rfl row, ?_, rfl, rfl, rfl⟩
      · simp only [completeRow]
        split <;> rfl
      · exact (congrArg (caseRows · report) (view_id found)).trans built
  · have first := stored.holdsFirst suits
    rw [moved.terminal found ended (first.not_completed found own.prefixes)]
    exact .inr ⟨ended, report, suits, stored⟩

/-- The evidence of a run as one report left it, with everything the report implies. -/
structure SingleReport (view : RunView) : Prop where
  report : ∃ report, ReportFor view.run.snapshot report ∧ StoredFrom report view
  counted : view.run.totalCases = some view.cases.length
  ordinals : view.cases.map CaseRow.ordinal = List.range view.cases.length
  ordered : view.cases.map CaseRow.caseKey =
    (view.run.snapshot.val.cases.map GoldenCase.key).take view.cases.length
  outcomes : ∃ metrics, view.run.metrics = some (.gate metrics) ∧
    metrics.passedCases = view.cases.countP (fun row => row.outcome = .passed) ∧
    metrics.failedCases = view.cases.countP (fun row => row.outcome = .failed) ∧
    metrics.errorCases = view.cases.countP (fun row => row.outcome = .error)

theorem StoredFrom.singleReport {report : LocalEvaluationReport} (stored : StoredFrom report view)
    (own : ReportFor view.run.snapshot report) : SingleReport view := by
  obtain ⟨covers, reconciles⟩ := own.reconciles
  have keys : view.cases.map CaseRow.caseKey =
      report.run.cases.map CaseExecutionResult.caseKey := by
    simpa [CaseRow.key, Function.comp_def] using
      congrArg (List.map Prod.snd) (caseRows_keys stored.rows)
  have length : view.cases.length = report.run.cases.length := by
    simpa using congrArg List.length keys
  have distinct : (report.run.cases.map CaseExecutionResult.caseKey).Nodup :=
    covers.keys.sublist.nodup view.run.snapshot.property.references.caseKeys
  have outcomes := caseRows_outcomes stored.rows reconciles.summaries distinct
  have counted (outcome : CaseOutcome) : countOutcome outcome report.gate.cases =
      view.cases.countP (fun row => row.outcome = outcome) := by
    have same := congrArg (List.countP (fun other => decide (other = outcome))) outcomes
    rw [List.countP_map, List.countP_map] at same
    exact same.symm
  refine ⟨⟨report, own, stored⟩, ?_, ?_, ?_, report.gate.metrics, stored.metrics, ?_, ?_, ?_⟩
  · rw [stored.totalCases, reconciles.total, length]
  · rw [caseRows_ordinals stored.rows, reconciles.ordinals, length]
  · rw [keys, length]
    simpa using List.prefix_iff_eq_take.mp covers.keys
  · exact reconciles.passed.trans (counted .passed)
  · exact reconciles.failed.trans (counted .failed)
  · exact reconciles.errors.trans (counted .error)

end Evidence

/-- As long as reports come from executing the run's own snapshot, a run with case rows has
all its evidence from one report, and a second finalisation changes nothing. -/
theorem evidence_unmixed {store : Store} {events : List Event} (empty : NoRuns store)
    (own : Guarded perform (FinalisesWith ReportFor) store events) {runId : String} {view : RunView}
    (found : (run perform store events).view runId = some view) (evaluated : view.cases ≠ []) :
    SingleReport view ∧
    (∀ now report workerId, ReportFor view.run.snapshot report →
      Refused (run perform store events)
        (completeRun now runId (run perform store events) report workerId)) ∧
    (∀ now report workerId, Refused (run perform store events)
        (acknowledgeCancellation now runId workerId (run perform store events) report)) := by
  have single := (run_everyRun (fun _ submitted => submitted.unmixed)
    (fun _ _ _ _ _ allowed known single moved => moved.unmixed known allowed single)
    empty own).stored runId view found
  rcases single with unevaluated | ⟨ended, report, suits, stored⟩
  · exact absurd unevaluated evaluated
  · refine ⟨stored.singleReport suits, ?_, ?_⟩
    · intro now other workerId again
      exact completeRun_refused (stored.holdsFirst suits) found again.reconciles.1 now workerId
    · intro now other workerId
      exact acknowledgeCancellation_refused ended found now workerId other

/-- A claimed run completed with the report of its execution. -/
def evaluatedHistory : List Event :=
  [submitted, claimedBy "worker", ⟨1, .completeRun "run" greetingReport "worker"⟩]

theorem evaluatedHistory_own : Guarded perform (FinalisesWith ReportFor) projectStore evaluatedHistory := by
  refine ⟨?_, ?_, ?_, trivial⟩ <;> intro runId report run finalises row <;> cases finalises
  have snapshot : run.snapshot = ⟨plainDocument "Say ok" ["first"] {}, greeting_valid⟩ := by
    cases row
    rfl
  exact snapshot ▸ greetingReport_for

/-- The completed run keeps its one report. -/
theorem evaluatedHistory_unmixed : ∃ view,
    (run perform projectStore evaluatedHistory).view "run" = some view ∧ SingleReport view ∧
    Refused (run perform projectStore evaluatedHistory)
      (completeRun 2 "run" (run perform projectStore evaluatedHistory) greetingReport
        (some "worker")) := by
  have stored : ((run perform projectStore evaluatedHistory).view "run").any (fun view =>
      decide (view.cases ≠ []) && decide (view.run.snapshot =
        ⟨plainDocument "Say ok" ["first"] {}, greeting_valid⟩)) = true := by decide
  obtain ⟨view, found, both⟩ := (Option.any_eq_true _ _).mp stored
  simp only [Bool.and_eq_true, decide_eq_true_eq] at both
  obtain ⟨evaluated, snapshot⟩ := both
  obtain ⟨single, refused, _⟩ :=
    evidence_unmixed ⟨rfl, rfl, rfl⟩ evaluatedHistory_own found evaluated
  exact ⟨view, found, single, refused 2 greetingReport (some "worker") (snapshot ▸ greetingReport_for)⟩

end RegressionDetection.Persistence
