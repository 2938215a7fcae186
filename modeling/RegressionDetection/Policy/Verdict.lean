import RegressionDetection.Policy.Engine

/-! What the gate of one run depends on, and its monotonicity in the case outcomes. -/

namespace RegressionDetection.Policy

open Foundation Specification Evaluators Execution

section Summaries

variable {specification : EvaluationSpecificationV1}

/-- Whether the case under a key is declared critical. -/
def isCritical (specification : EvaluationSpecificationV1) (key : String) : Bool :=
  match lookup (caseDefinitions specification) key with
  | some definition => definition.critical
  | none => false

/-- A summary keeps the key of its result and takes criticality from the document. -/
theorem caseSummary_ok {result : CaseExecutionResult} {summary : CaseSummary}
    (summarised : caseSummary specification result = .ok summary) :
    summary.caseKey = result.caseKey ∧ summary.critical = isCritical specification result.caseKey := by
  obtain ⟨required, _, rest⟩ := bind_eq_ok.mp summarised
  obtain ⟨definition, found, made⟩ := bind_eq_ok.mp rest
  cases made
  refine ⟨rfl, ?_⟩
  rw [isCritical, getItem_eq_ok.mp found]

theorem caseSummaries_aligned {run : LocalRunResult} {cases : List CaseSummary}
    (summarised : caseSummaries specification run = .ok cases) :
    cases.map CaseSummary.caseKey = run.cases.map CaseExecutionResult.caseKey ∧
      cases.map CaseSummary.critical =
        (run.cases.map CaseExecutionResult.caseKey).map (isCritical specification) := by
  rw [List.map_map]
  exact ⟨map_eq_of_mapM summarised fun _ _ own => (caseSummary_ok own).1,
    map_eq_of_mapM summarised fun _ _ own => (caseSummary_ok own).2⟩

end Summaries

section Verdict

variable {policy : RegressionPolicy} {runtime : Runtime}

/-- The gate of a run without a baseline, as the policy document words it. -/
theorem decideOutcome_rules (metrics : RunMetrics) (cases : List CaseSummary) :
    decideOutcome (rules policy runtime metrics cases none) =
      if metrics.errorRate ≤ policy.maximumErrorRate ∧ metrics.criticalErrorCases = [] then
        if policy.minimumPassRate ≤ metrics.passRate ∧
            (policy.criticalCasesMustPass = true → metrics.criticalFailedCases = []) then .pass
        else .fail
      else .error := by
  by_cases errorOk : metrics.errorRate ≤ policy.maximumErrorRate <;>
    by_cases evidence : metrics.criticalErrorCases = [] <;>
    by_cases passOk : policy.minimumPassRate ≤ metrics.passRate <;>
    by_cases quality : metrics.criticalFailedCases = [] <;>
    cases must : policy.criticalCasesMustPass <;>
    simp [decideOutcome, rules, errorRateRule, criticalEvidenceRule, passRateRule,
      criticalQualityRule, baselineDropRules, unevaluatedRule, errorOk, evidence, passOk, quality,
      must]

theorem criticalCases_eq_nil {outcome : CaseOutcome} {cases : List CaseSummary} :
    criticalCases outcome cases = [] ↔
      ∀ case ∈ cases, case.critical = true → case.outcome ≠ outcome := by
  simp [criticalCases, List.filter_eq_nil_iff]

/-- A nonempty run with derived outcomes has metrics. -/
theorem metrics_returns {specification : EvaluationSpecificationV1} {run : LocalRunResult}
    {cases : List CaseSummary} (nonempty : run.cases ≠ [])
    (summarised : caseSummaries specification run = .ok cases) :
    ∃ values, metrics run cases = .ok values := by
  have counted : cases.length ≠ 0 := by
    have sized := congrArg List.length (caseSummaries_aligned summarised).1
    rw [List.length_map, List.length_map] at sized
    rw [sized]
    exact mt List.length_eq_zero_iff.mp nonempty
  unfold metrics
  rw [dif_neg counted]
  exact ⟨_, rfl⟩

/-- A nonempty run with derived outcomes always gets a gate. -/
theorem aggregateAndDecide_returns (runtime : Runtime) {specification : EvaluationSpecificationV1}
    {run : LocalRunResult} {cases : List CaseSummary} (nonempty : run.cases ≠ [])
    (summarised : caseSummaries specification run = .ok cases) :
    ∃ gate, aggregateAndDecide runtime specification run = .ok gate ∧ gate.cases = cases ∧
      metrics run cases = .ok gate.metrics ∧
      gate.outcome = decideOutcome (rules specification.policy runtime gate.metrics cases none) := by
  obtain ⟨values, aggregated⟩ := metrics_returns nonempty summarised
  refine ⟨_, bind_eq_ok.mpr ⟨cases, summarised, bind_eq_ok.mpr ⟨values, aggregated, rfl⟩⟩, rfl,
    aggregated, rfl⟩

/-- The figures of the metrics that the rules read. -/
theorem metrics_ok {run : LocalRunResult} {cases : List CaseSummary} {values : RunMetrics}
    (aggregated : metrics run cases = .ok values) :
    values.passRate = (countOutcome .passed cases : ℚ) / cases.length ∧
      values.errorRate = (countOutcome .error cases : ℚ) / cases.length ∧
      values.criticalFailedCases = criticalCases .failed cases ∧
      values.criticalErrorCases = criticalCases .error cases := by
  unfold metrics at aggregated
  split at aggregated
  · cases aggregated
  · cases aggregated
    exact ⟨rfl, rfl, rfl, rfl⟩

/-- The counts of the metrics are those of the summaries. -/
theorem metrics_counts {run : LocalRunResult} {cases : List CaseSummary} {values : RunMetrics}
    (aggregated : metrics run cases = .ok values) :
    values.passedCases = countOutcome .passed cases ∧
      values.failedCases = countOutcome .failed cases ∧
      values.errorCases = countOutcome .error cases := by
  unfold metrics at aggregated
  split at aggregated
  · cases aggregated
  · cases aggregated
    exact ⟨rfl, rfl, rfl⟩

end Verdict

section Monotone

theorem GateOutcome.severity_le (outcome : GateOutcome) : outcome.severity ≤ 2 := by
  cases outcome <;> decide

/-- Each case of the second list does at least as well as its counterpart. -/
def Improves (first second : List CaseSummary) : Prop :=
  List.Forall₂ (fun before after => before.outcome.rank ≤ after.outcome.rank) first second

variable {first second : List CaseSummary}

/-- What each element hands on to its counterpart is counted there at least as often. -/
theorem countP_le_of_forall₂ {α β : Type} {related : α → β → Prop} {p : α → Bool} {q : β → Bool}
    {xs : List α} {ys : List β} (aligned : List.Forall₂ related xs ys)
    (carries : ∀ x y, related x y → p x = true → q y = true) : xs.countP p ≤ ys.countP q := by
  induction aligned with
  | nil => exact Nat.le_refl _
  | @cons x y _ _ own _ ih =>
    rw [List.countP_cons, List.countP_cons]
    by_cases counted : p x = true
    · rw [if_pos counted, if_pos (carries x y own counted)]
      exact Nat.add_le_add_right ih 1
    · rw [if_neg counted]
      exact ih.trans (Nat.le_add_right _ _)

theorem Improves.errors (better : Improves first second) :
    countOutcome .error second ≤ countOutcome .error first := by
  refine countP_le_of_forall₂ better.flip fun after before ranked failed => ?_
  rw [decide_eq_true_eq] at failed ⊢
  rw [failed] at ranked
  cases old : before.outcome <;> simp [old, CaseOutcome.rank] at ranked ⊢

theorem Improves.passes (better : Improves first second) :
    countOutcome .passed first ≤ countOutcome .passed second := by
  refine countP_le_of_forall₂ better fun before after ranked passed => ?_
  rw [decide_eq_true_eq] at passed ⊢
  rw [passed] at ranked
  cases new : after.outcome <;> simp [new, CaseOutcome.rank] at ranked ⊢

/-- What every critical case reaches at least, it still reaches after an improvement. -/
theorem Improves.critical (better : Improves first second)
    (same : first.map CaseSummary.critical = second.map CaseSummary.critical) {level : Nat}
    (reached : ∀ case ∈ first, case.critical = true → level ≤ case.outcome.rank) :
    ∀ case ∈ second, case.critical = true → level ≤ case.outcome.rank := by
  induction better with
  | nil => simp
  | cons ranked _ ih =>
    obtain ⟨flag, flags⟩ := List.cons.inj same
    intro case member critical
    rcases List.mem_cons.mp member with rfl | later
    · exact Nat.le_trans (reached _ List.mem_cons_self (flag.trans critical)) ranked
    · exact ih flags (fun other listed => reached other (List.mem_cons_of_mem _ listed)) case later
        critical

theorem noCriticalErrors_iff {cases : List CaseSummary} :
    criticalCases .error cases = [] ↔
      ∀ case ∈ cases, case.critical = true → 1 ≤ case.outcome.rank := by
  rw [criticalCases_eq_nil]
  refine forall_congr' fun case => forall_congr' fun _ => forall_congr' fun _ => ?_
  cases case.outcome <;> simp [CaseOutcome.rank]

theorem noCriticalShortfalls_iff {cases : List CaseSummary} :
    criticalCases .error cases = [] ∧ criticalCases .failed cases = [] ↔
      ∀ case ∈ cases, case.critical = true → 2 ≤ case.outcome.rank := by
  rw [criticalCases_eq_nil, criticalCases_eq_nil, ← forall_and]
  refine forall_congr' fun case => ?_
  rw [← forall_and]
  refine forall_congr' fun _ => ?_
  rw [← forall_and]
  refine forall_congr' fun _ => ?_
  cases case.outcome <;> simp [CaseOutcome.rank]

/-- The gate is monotone: over the same cases, outcomes at least as good give a
gate that is no more severe. -/
theorem aggregateAndDecide_monotone (runtime : Runtime) (specification : EvaluationSpecificationV1)
    {firstRun secondRun : LocalRunResult} (nonempty : firstRun.cases ≠ [])
    (sameKeys : firstRun.cases.map CaseExecutionResult.caseKey =
      secondRun.cases.map CaseExecutionResult.caseKey)
    (derivedFirst : caseSummaries specification firstRun = .ok first)
    (derivedSecond : caseSummaries specification secondRun = .ok second)
    (better : Improves first second) :
    ∃ firstGate secondGate, aggregateAndDecide runtime specification firstRun = .ok firstGate ∧
      aggregateAndDecide runtime specification secondRun = .ok secondGate ∧
      secondGate.outcome.severity ≤ firstGate.outcome.severity := by
  have secondNonempty : secondRun.cases ≠ [] := by
    intro empty
    rw [empty] at sameKeys
    exact nonempty (List.map_eq_nil_iff.mp sameKeys)
  obtain ⟨firstGate, firstDecided, _, firstMetrics, firstOutcome⟩ :=
    aggregateAndDecide_returns runtime nonempty derivedFirst
  obtain ⟨secondGate, secondDecided, _, secondMetrics, secondOutcome⟩ :=
    aggregateAndDecide_returns runtime secondNonempty derivedSecond
  refine ⟨firstGate, secondGate, firstDecided, secondDecided, ?_⟩
  have critical : first.map CaseSummary.critical = second.map CaseSummary.critical := by
    rw [(caseSummaries_aligned derivedFirst).2, (caseSummaries_aligned derivedSecond).2, sameKeys]
  have sized : (first.length : ℚ) = second.length := congrArg Nat.cast better.length_eq
  obtain ⟨firstPass, firstError, firstFailed, firstErrors⟩ := metrics_ok firstMetrics
  obtain ⟨secondPass, secondError, secondFailed, secondErrors⟩ := metrics_ok secondMetrics
  have fewerErrors : secondGate.metrics.errorRate ≤ firstGate.metrics.errorRate := by
    rw [firstError, secondError, sized]
    exact div_le_div_of_nonneg_right (Nat.cast_le.mpr better.errors) (Nat.cast_nonneg _)
  have morePasses : firstGate.metrics.passRate ≤ secondGate.metrics.passRate := by
    rw [firstPass, secondPass, sized]
    exact div_le_div_of_nonneg_right (Nat.cast_le.mpr better.passes) (Nat.cast_nonneg _)
  have evidence : firstGate.metrics.criticalErrorCases = [] →
      secondGate.metrics.criticalErrorCases = [] := by
    rw [firstErrors, secondErrors, noCriticalErrors_iff, noCriticalErrors_iff]
    exact better.critical critical
  have quality : firstGate.metrics.criticalErrorCases = [] →
      firstGate.metrics.criticalFailedCases = [] → secondGate.metrics.criticalFailedCases = [] := by
    rw [firstErrors, firstFailed, secondFailed]
    intro noErrors noFailures
    exact (noCriticalShortfalls_iff.mpr (better.critical critical
      (noCriticalShortfalls_iff.mp ⟨noErrors, noFailures⟩))).2
  rw [firstOutcome, secondOutcome, decideOutcome_rules, decideOutcome_rules]
  by_cases sound : firstGate.metrics.errorRate ≤ specification.policy.maximumErrorRate ∧
      firstGate.metrics.criticalErrorCases = []
  · rw [if_pos sound, if_pos ⟨fewerErrors.trans sound.1, evidence sound.2⟩]
    by_cases passing : specification.policy.minimumPassRate ≤ firstGate.metrics.passRate ∧
        (specification.policy.criticalCasesMustPass = true →
          firstGate.metrics.criticalFailedCases = [])
    · rw [if_pos passing, if_pos ⟨passing.1.trans morePasses,
        fun must => quality sound.2 (passing.2 must)⟩]
    · rw [if_neg passing]
      split <;> simp [GateOutcome.severity]
  · rw [if_neg sound]
    exact GateOutcome.severity_le _

end Monotone

/-- Turning the one failure into a pass turns the gate from fail to pass, not the reverse. -/
theorem gradedRun_monotone : ∃ firstGate secondGate,
    aggregateAndDecide Runtime.ascii (plainDocument "Say ok" ["first"] {}) (gradedRun false) =
      .ok firstGate ∧
    aggregateAndDecide Runtime.ascii (plainDocument "Say ok" ["first"] {}) (gradedRun true) =
      .ok secondGate ∧
    secondGate.outcome.severity ≤ firstGate.outcome.severity := by
  have failed : caseSummaries (plainDocument "Say ok" ["first"] {}) (gradedRun false) =
      .ok [⟨"first", false, .failed, 0, 1, 0, 0⟩] := by decide
  have passed : caseSummaries (plainDocument "Say ok" ["first"] {}) (gradedRun true) =
      .ok [⟨"first", false, .passed, 1, 0, 0, 0⟩] := by decide
  exact aggregateAndDecide_monotone Runtime.ascii (plainDocument "Say ok" ["first"] {})
    (by simp [gradedRun]) rfl failed passed (.cons (by decide) .nil)

end RegressionDetection.Policy
