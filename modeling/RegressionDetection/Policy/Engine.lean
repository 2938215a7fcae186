import Mathlib.Algebra.BigOperators.Group.List.Basic
import Mathlib.Algebra.Order.BigOperators.Group.List
import Mathlib.Algebra.Order.Field.Rat
import RegressionDetection.Policy.Models

/-! Aggregation of one local run and the fixed-policy gate decision. -/

namespace RegressionDetection.Policy

open Foundation Specification Providers Evaluators Execution

/-- `{evaluator.name: evaluator.required for evaluator in specification.evaluators}`. -/
def evaluatorRequired (specification : EvaluationSpecificationV1) : List (String × Bool) :=
  specification.evaluators.map (fun evaluator => (evaluator.name, evaluator.required))

/-- `{case.key: case for case in specification.cases}`. -/
def caseDefinitions (specification : EvaluationSpecificationV1) : List (String × GoldenCase) :=
  specification.cases.map (fun case => (case.key, case))

/-- The statuses of the evaluations whose evaluator is required. -/
def requiredStatuses (specification : EvaluationSpecificationV1)
    (evaluations : List EvaluationResult) : Except PyError (List EvaluationStatus) := do
  let flagged ← evaluations.mapM fun evaluation => do
    let required ← getItem (evaluatorRequired specification) evaluation.evaluatorName
    return (required, evaluation.status)
  return (flagged.filter Prod.fst).map Prod.snd

/-- The outcome branches of `_case_summaries`. -/
def deriveOutcome (status : ProviderStatus) (required : List EvaluationStatus) : CaseOutcome :=
  if status = .error ∨ .errored ∈ required ∨ .notApplicable ∈ required then .error
  else if .failed ∈ required then .failed
  else .passed

def caseSummary (specification : EvaluationSpecificationV1) (result : CaseExecutionResult) :
    Except PyError CaseSummary := do
  let statuses := result.evaluations.map EvaluationResult.status
  let required ← requiredStatuses specification result.evaluations
  let outcome := deriveOutcome result.providerResult.status required
  let definition ← getItem (caseDefinitions specification) result.caseKey
  return { caseKey := result.caseKey, critical := definition.critical, outcome,
           passedEvaluators := statuses.count .passed, failedEvaluators := statuses.count .failed,
           erroredEvaluators := statuses.count .errored,
           notApplicableEvaluators := statuses.count .notApplicable }

def caseSummaries (specification : EvaluationSpecificationV1) (run : LocalRunResult) :
    Except PyError (List CaseSummary) :=
  run.cases.mapM (caseSummary specification)

/-- How many summaries have the outcome. -/
def countOutcome (outcome : CaseOutcome) (cases : List CaseSummary) : Nat :=
  cases.countP (fun case => case.outcome = outcome)

/-- The keys of the critical cases with the outcome. -/
def criticalCases (outcome : CaseOutcome) (cases : List CaseSummary) : List String :=
  (cases.filter (fun case => case.critical && decide (case.outcome = outcome))).map
    CaseSummary.caseKey

theorem countOutcome_total (cases : List CaseSummary) :
    countOutcome .passed cases + countOutcome .failed cases + countOutcome .error cases =
      cases.length := by
  induction cases with
  | nil => rfl
  | cons case rest ih =>
    simp only [countOutcome, List.countP_cons, List.length_cons] at ih ⊢
    cases case.outcome <;> simp <;> omega

theorem isRatio_div {part whole : Nat} (within : part ≤ whole) : IsRatio ((part : ℚ) / whole) :=
  ⟨div_nonneg (Nat.cast_nonneg part) (Nat.cast_nonneg whole),
    div_le_one_of_le₀ (Nat.cast_le.mpr within) (Nat.cast_nonneg whole)⟩

/-- `sum(result.provider_result.latency_ms for result in run.cases)`. -/
def totalLatency (run : LocalRunResult) : ℚ :=
  (run.cases.map (fun result => result.providerResult.latencyMs)).sum

theorem totalLatency_nonneg (run : LocalRunResult) : 0 ≤ totalLatency run := by
  apply List.sum_nonneg
  intro latency member
  obtain ⟨result, _, same⟩ := List.mem_map.mp member
  exact same ▸ result.providerResult.latencyBounded

/-- The known usages of the run. -/
def usages (run : LocalRunResult) : List TokenUsage :=
  run.cases.filterMap (fun result => result.providerResult.usage)

/-- `_metrics`. The division by the number of cases is what can fail; the
constraints of `RunMetrics` hold of every other aggregate. -/
def metrics (run : LocalRunResult) (cases : List CaseSummary) : Except PyError RunMetrics :=
  if empty : cases.length = 0 then .error .zeroDivision
  else
    have total := countOutcome_total cases
    let inputTokens := ((usages run).map TokenUsage.inputTokens).sum
    let outputTokens := ((usages run).map TokenUsage.outputTokens).sum
    .ok {
      totalCases := cases.length
      passedCases := countOutcome .passed cases
      failedCases := countOutcome .failed cases
      errorCases := countOutcome .error cases
      passRate := (countOutcome .passed cases : ℚ) / cases.length
      errorRate := (countOutcome .error cases : ℚ) / cases.length
      criticalFailedCases := criticalCases .failed cases
      criticalErrorCases := criticalCases .error cases
      totalLatencyMs := totalLatency run
      inputTokens
      outputTokens
      totalTokens := inputTokens + outputTokens
      casesWithUnknownUsage := run.cases.countP (fun result => result.providerResult.usage.isNone)
      nonempty := Nat.one_le_iff_ne_zero.mpr empty
      passRatio := isRatio_div (by omega)
      errorRatio := isRatio_div (by omega)
      latencyBounded := totalLatency_nonneg run
      counts := total
      tokens := rfl }

section Rules

variable (policy : RegressionPolicy)

/-- `repr` of a tuple of strings, in an f-string. -/
def reprTuple (runtime : Runtime) : List String → String
  | [] => "()"
  | [name] => "(" ++ pyRepr runtime.printable name ++ ",)"
  | names => "(" ++ ", ".intercalate (names.map (pyRepr runtime.printable)) ++ ")"

def incompatibleReason (runtime : Runtime) (baseline : BaselineComparison) : String :=
  let reasons :=
    (if baseline.configurationMatch then []
      else ["configuration hash mismatch between baseline and candidate"]) ++
    (if baseline.datasetMatch then []
      else ["dataset hash mismatch between baseline and candidate"]) ++
    (if baseline.missingInCandidate = [] then []
      else ["cases present in baseline but missing in candidate: " ++
        reprTuple runtime baseline.missingInCandidate]) ++
    (if baseline.missingInBaseline = [] then []
      else ["cases present in candidate but missing in baseline: " ++
        reprTuple runtime baseline.missingInBaseline])
  "Baseline comparison unavailable: " ++ "; ".intercalate reasons

/-- `_eval_drop_rule`. -/
def evalDropRule (ruleId : String) (threshold observed : Option ℚ) (unit : RuleUnit)
    (passedText failedText noObservationText noThresholdText : String) : RuleDecision :=
  match threshold, observed with
  | none, _ =>
    { ruleId, status := .notApplicable, observed := dumpFloat? observed, threshold := .null, unit,
      explanation := noThresholdText }
  | some limit, none =>
    { ruleId, status := .insufficientEvidence, observed := .null, threshold := .float limit, unit,
      explanation := noObservationText }
  | some limit, some value =>
    { ruleId, status := if value ≤ limit then .passed else .violated, observed := .float value,
      threshold := .float limit, unit,
      explanation := if value ≤ limit then passedText else failedText }

/-- A drop rule that is not evaluated. -/
def unevaluatedRule (ruleId : String) (status : RuleStatus) (observed threshold : Option ℚ)
    (unit : RuleUnit) (explanation : String) (affectedCases : List String) : RuleDecision :=
  { ruleId, status, observed := dumpFloat? observed, threshold := dumpFloat? threshold, unit,
    explanation, affectedCases }

def baselineDropRules (runtime : Runtime) : Option BaselineComparison → List RuleDecision
  | none =>
    [unevaluatedRule "maximum_pass_rate_drop" .notApplicable none (some policy.maximumPassRateDrop)
        .ratio "Baseline comparison is not available in local policy evaluation" [],
      unevaluatedRule "maximum_latency_increase_percent" .notApplicable none
        policy.maximumLatencyIncreasePercent .percent
        "Baseline comparison is not available in local policy evaluation" [],
      unevaluatedRule "maximum_cost_increase_percent" .notApplicable none
        policy.maximumCostIncreasePercent .percent
        "Cost and baseline comparison are not available in M5" []]
  | some baseline =>
    let affected := baseline.missingInCandidate ++ baseline.missingInBaseline
    if !baseline.configurationMatch || !baseline.datasetMatch then
      let reason := incompatibleReason runtime baseline
      [unevaluatedRule "maximum_pass_rate_drop" .insufficientEvidence baseline.passRateDrop
          (some policy.maximumPassRateDrop) .ratio reason affected,
        unevaluatedRule "maximum_latency_increase_percent" .insufficientEvidence
          (some baseline.latencyIncreasePct) policy.maximumLatencyIncreasePercent .percent reason
          affected,
        unevaluatedRule "maximum_cost_increase_percent" .insufficientEvidence
          baseline.costIncreasePct policy.maximumCostIncreasePercent .percent reason affected]
    else
      [evalDropRule "maximum_pass_rate_drop" (some policy.maximumPassRateDrop)
          baseline.passRateDrop .ratio "Pass rate drop is within the allowed maximum"
          "Pass rate drop exceeds the allowed maximum" "Pass rate drop cannot be computed"
          "No maximum_pass_rate_drop policy configured",
        evalDropRule "maximum_latency_increase_percent" policy.maximumLatencyIncreasePercent
          (some baseline.latencyIncreasePct) .percent
          "Latency increase is within the allowed maximum"
          "Latency increase exceeds the allowed maximum" "Latency increase cannot be computed"
          "No maximum_latency_increase_percent policy configured",
        evalDropRule "maximum_cost_increase_percent" policy.maximumCostIncreasePercent
          baseline.costIncreasePct .percent "Cost increase is within the allowed maximum"
          "Cost increase exceeds the allowed maximum" "Cost increase cannot be computed"
          "No maximum_cost_increase_percent policy configured"]

def errorRateRule (metrics : RunMetrics) (cases : List CaseSummary) : RuleDecision :=
  let errorOk := decide (metrics.errorRate ≤ policy.maximumErrorRate)
  { ruleId := "maximum_error_rate"
    status := if errorOk then .passed else .insufficientEvidence
    observed := .float metrics.errorRate
    threshold := .float policy.maximumErrorRate
    unit := .ratio
    explanation := if errorOk then "Execution error rate is within the allowed maximum"
      else "Execution error rate exceeds the allowed maximum"
    affectedCases := (cases.filter (fun case => case.outcome = .error)).map CaseSummary.caseKey }

def criticalEvidenceRule (metrics : RunMetrics) : RuleDecision :=
  let noCriticalErrors := decide (metrics.criticalErrorCases = [])
  { ruleId := "critical_case_evidence"
    status := if noCriticalErrors then .passed else .insufficientEvidence
    observed := .int metrics.criticalErrorCases.length
    threshold := .int 0
    unit := .count
    explanation := if noCriticalErrors then "All critical cases produced valid evidence"
      else "Critical cases are missing valid evidence"
    affectedCases := metrics.criticalErrorCases }

def passRateRule (metrics : RunMetrics) : RuleDecision :=
  let passRateOk := decide (policy.minimumPassRate ≤ metrics.passRate)
  { ruleId := "minimum_pass_rate"
    status := if passRateOk then .passed else .violated
    observed := .float metrics.passRate
    threshold := .float policy.minimumPassRate
    unit := .ratio
    explanation := if passRateOk then "Case pass rate meets the minimum"
      else "Case pass rate is below the minimum" }

def criticalQualityRule (metrics : RunMetrics) : RuleDecision :=
  let criticalQualityOk := decide (metrics.criticalFailedCases = [])
  let satisfied := !policy.criticalCasesMustPass || criticalQualityOk
  { ruleId := "critical_cases_must_pass"
    status := if satisfied then .passed else .violated
    observed := .bool criticalQualityOk
    threshold := .bool policy.criticalCasesMustPass
    unit := .boolean
    explanation := if satisfied then "Critical-case quality requirement is satisfied"
      else "One or more critical cases failed required evaluators"
    affectedCases := metrics.criticalFailedCases }

/-- `_rules`: the fixed rules in their precedence order. -/
def rules (runtime : Runtime) (metrics : RunMetrics) (cases : List CaseSummary)
    (baseline : Option BaselineComparison) : List RuleDecision :=
  [errorRateRule policy metrics cases, criticalEvidenceRule metrics, passRateRule policy metrics,
    criticalQualityRule policy metrics] ++ baselineDropRules policy runtime baseline

end Rules

/-- The outcome both entry points draw from the set of rule statuses. -/
def decideOutcome (rules : List RuleDecision) : GateOutcome :=
  let statuses := rules.map RuleDecision.status
  if .insufficientEvidence ∈ statuses then .error
  else if .violated ∈ statuses then .fail
  else .pass

def aggregateAndDecide (runtime : Runtime) (specification : EvaluationSpecificationV1)
    (run : LocalRunResult) : Except PyError GateDecision := do
  let cases ← caseSummaries specification run
  let metrics ← metrics run cases
  let rules := rules specification.policy runtime metrics cases none
  return { outcome := decideOutcome rules, metrics, cases, rules }

/-- A run of one case whose exact-match evaluator passed or failed. -/
def gradedRun (passed : Bool) : LocalRunResult where
  status := .completed
  suite := "suite"
  configurationHash := HexDigest.zero
  datasetHash := HexDigest.zero
  totalCases := 1
  successfulCases := 1
  errorCases := 0
  cases := [{
    caseKey := "first"
    ordinal := 0
    requestHash := HexDigest.zero
    providerResult := .ok
    evaluations := [.graded passed] }]

end RegressionDetection.Policy
