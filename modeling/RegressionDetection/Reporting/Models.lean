import RegressionDetection.Policy.Models

/-! Report view models. `schema_version` is the literal `"1"`. -/

namespace RegressionDetection.Reporting

open Foundation Specification Providers Evaluators Policy

def reportSchemaVersion : String := "1"

structure ReportProvenance where
  suite : String
  configurationHash : HexDigest
  datasetHash : HexDigest
  prompt : VersionedTargetRef
  model : VersionedTargetRef
  agent : Option VersionedTargetRef

structure ReportEvaluation where
  evaluatorName : String
  evaluatorType : EvaluatorType
  status : EvaluationStatus
  explanation : String
  errorCode : Option String

structure ReportCase where
  caseKey : String
  ordinal : Nat
  critical : Bool
  outcome : CaseOutcome
  providerStatus : ProviderStatus
  resolvedModel : Option String
  latencyMs : ℚ
  outputExcerpt : Option String
  providerError : Option ProviderError
  evaluations : List ReportEvaluation
  latencyBounded : 0 ≤ latencyMs

structure JsonReport where
  generatorVersion : String
  gateOutcome : GateOutcome
  provenance : ReportProvenance
  metrics : RunMetrics
  rules : List RuleDecision
  cases : List ReportCase
  metadata : List (String × Json)

end RegressionDetection.Reporting
