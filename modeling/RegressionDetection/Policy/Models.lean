import RegressionDetection.Execution.Runner

/-! Aggregate and gate-decision models. -/

namespace RegressionDetection.Policy

open Foundation Specification

inductive CaseOutcome where
  | passed
  | failed
  | error
deriving DecidableEq

inductive GateOutcome where
  | pass
  | fail
  | error
deriving DecidableEq

inductive RuleStatus where
  | passed
  | violated
  | insufficientEvidence
  | notApplicable
deriving DecidableEq

def CaseOutcome.value : CaseOutcome → String
  | .passed => "passed"
  | .failed => "failed"
  | .error => "error"

def GateOutcome.value : GateOutcome → String
  | .pass => "pass"
  | .fail => "fail"
  | .error => "error"

def RuleStatus.value : RuleStatus → String
  | .passed => "passed"
  | .violated => "violated"
  | .insufficientEvidence => "insufficient_evidence"
  | .notApplicable => "not_applicable"

/-- Better outcomes rank higher. -/
def CaseOutcome.rank : CaseOutcome → Nat
  | .error => 0
  | .failed => 1
  | .passed => 2

def GateOutcome.severity : GateOutcome → Nat
  | .pass => 0
  | .fail => 1
  | .error => 2

structure CaseSummary where
  caseKey : String
  critical : Bool
  outcome : CaseOutcome
  passedEvaluators : Nat
  failedEvaluators : Nat
  erroredEvaluators : Nat
  notApplicableEvaluators : Nat
deriving DecidableEq

/-- Aggregate metrics, before their validation. -/
structure RunMetricsFields where
  totalCases : Nat
  passedCases : Nat
  failedCases : Nat
  errorCases : Nat
  passRate : ℚ
  errorRate : ℚ
  criticalFailedCases : List String
  criticalErrorCases : List String
  totalLatencyMs : ℚ
  inputTokens : Nat
  outputTokens : Nat
  totalTokens : Nat
  casesWithUnknownUsage : Nat
deriving DecidableEq

/-- Aggregate metrics with the bounds and `validate_counts`. -/
structure RunMetrics extends RunMetricsFields where
  nonempty : 1 ≤ totalCases
  passRatio : IsRatio passRate
  errorRatio : IsRatio errorRate
  latencyBounded : 0 ≤ totalLatencyMs
  counts : passedCases + failedCases + errorCases = totalCases
  tokens : totalTokens = inputTokens + outputTokens

theorem RunMetrics.fields_injective : Function.Injective RunMetrics.toRunMetricsFields := by
  rintro ⟨⟩ ⟨⟩ same
  cases same
  rfl

instance : DecidableEq RunMetrics := RunMetrics.fields_injective.decidableEq

inductive RuleUnit where
  | ratio
  | count
  | boolean
  | percent
deriving DecidableEq

/-- One rule's decision; `observed` and `threshold` are a number, a flag or None. -/
structure RuleDecision where
  ruleId : String
  status : RuleStatus
  observed : Json
  threshold : Json
  unit : RuleUnit
  explanation : String
  affectedCases : List String := []
deriving DecidableEq

structure BaselineComparison where
  configurationMatch : Bool
  datasetMatch : Bool
  totalCasesCandidate : Nat
  totalCasesBaseline : Nat
  matchingCaseKeys : List String
  missingInCandidate : List String
  missingInBaseline : List String
  passRateBaseline : Option ℚ
  passRateCandidate : Option ℚ
  passRateDrop : Option ℚ
  latencyMsBaseline : ℚ
  latencyMsCandidate : ℚ
  latencyIncreasePct : ℚ
  costBaseline : Option ℚ
  costCandidate : Option ℚ
  costIncreasePct : Option ℚ
  dropRatio : ∀ drop ∈ passRateDrop, IsRatio drop
  latencyBounded : 0 ≤ latencyIncreasePct
  costBounded : ∀ increase ∈ costIncreasePct, 0 ≤ increase

/-- `engine_version` is the literal `"1"`. -/
structure GateDecision where
  outcome : GateOutcome
  metrics : RunMetrics
  cases : List CaseSummary
  rules : List RuleDecision
deriving DecidableEq

end RegressionDetection.Policy
