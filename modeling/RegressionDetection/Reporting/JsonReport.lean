import RegressionDetection.Persistence.Statements
import RegressionDetection.Reporting.Models

/-! Construction of the JSON report of an evaluation. -/

namespace RegressionDetection.Reporting

open Foundation Specification Providers Evaluators Policy Execution Persistence

/-- `_MAX_OUTPUT_EXCERPT`. -/
def maxOutputExcerpt : Nat := 1000

/-- `_output_excerpt`. -/
def outputExcerpt (output : Option String) : Option String :=
  output.map fun text =>
    if text.length ≤ maxOutputExcerpt then text
    else String.ofList (text.toList.take maxOutputExcerpt ++ ['…'])

def reportEvaluation (evaluation : EvaluationResult) : ReportEvaluation where
  evaluatorName := evaluation.evaluatorName
  evaluatorType := evaluation.evaluatorType
  status := evaluation.status
  explanation := evaluation.explanation
  errorCode := evaluation.errorCode

/-- The entry of one result; `summaries` is the dictionary of the gate's summaries. -/
def reportCase (summaries : List (String × CaseSummary)) (result : CaseExecutionResult) :
    Except PyError ReportCase := do
  let summary ← getItem summaries result.caseKey
  return { caseKey := result.caseKey, ordinal := result.ordinal, critical := summary.critical,
           outcome := summary.outcome, providerStatus := result.providerResult.status,
           resolvedModel := result.providerResult.resolvedModel,
           latencyMs := result.providerResult.latencyMs,
           outputExcerpt := outputExcerpt result.providerResult.output,
           providerError := result.providerResult.error,
           evaluations := result.evaluations.map reportEvaluation,
           latencyBounded := result.providerResult.latencyBounded }

/-- `build_json_report`; the generator version is the package's `__version__`. -/
def buildJsonReport (version : String) (specification : EvaluationSpecificationV1)
    (report : LocalEvaluationReport) : Except PyError JsonReport := do
  let cases ← report.run.cases.mapM (reportCase (summariesByKey report))
  return { generatorVersion := version, gateOutcome := report.gate.outcome,
           provenance :=
             { suite := specification.suite
               configurationHash := report.run.configurationHash
               datasetHash := report.run.datasetHash
               prompt := specification.prompt.target
               model := specification.model.target
               agent := specification.agent.map AgentDefinition.target }
           metrics := report.gate.metrics, rules := report.gate.rules, cases,
           metadata := specification.metadata }

section Excerpts

/-- The excerpt is at most one marker longer than its bound. -/
theorem outputExcerpt_length (output : Option String) :
    ∀ excerpt ∈ outputExcerpt output, excerpt.length ≤ maxOutputExcerpt + 1 := by
  intro excerpt member
  obtain ⟨text, _, rfl⟩ := Option.mem_map.mp member
  split
  · omega
  · rw [String.length_ofList, List.length_append, List.length_take, List.length_singleton]
    omega

end Excerpts

section Construction

variable {version : String} {specification : EvaluationSpecificationV1}
  {report : LocalEvaluationReport} {json : JsonReport}

/-- The entries of a report are those of its results, in order. -/
theorem buildJsonReport_cases (built : buildJsonReport version specification report = .ok json) :
    List.Forall₂ (fun result entry => reportCase (summariesByKey report) result = .ok entry)
      report.run.cases json.cases := by
  obtain ⟨cases, mapped, made⟩ := bind_eq_ok.mp built
  cases made
  exact mapM_eq_ok.mp mapped

/-- A report can be built exactly when its gate summarises every case. -/
theorem buildJsonReport_returns :
    (∃ json, buildJsonReport version specification report = .ok json) ↔ Summarised report := by
  have keys : (summariesByKey report).map Prod.fst = report.gate.cases.map CaseSummary.caseKey := by
    simp [summariesByKey, Function.comp_def]
  constructor
  · rintro ⟨json, built⟩ result member
    obtain ⟨cases, mapped, _⟩ := bind_eq_ok.mp built
    obtain ⟨entry, made⟩ := returns_of_mem_mapM mapped member
    obtain ⟨summary, found, _⟩ := bind_eq_ok.mp made
    rw [← keys]
    exact List.mem_map.mpr ⟨_, mem_of_lookup (getItem_eq_ok.mp found), rfl⟩
  · intro summarised
    have each : ∀ result ∈ report.run.cases, ∃ entry,
        reportCase (summariesByKey report) result = .ok entry := by
      intro result member
      obtain ⟨summary, found⟩ := getItem_returns (keys.symm ▸ summarised result member)
      exact ⟨_, bind_eq_ok.mpr ⟨summary, found, rfl⟩⟩
    obtain ⟨cases, mapped⟩ := mapM_returns each
    exact ⟨_, bind_eq_ok.mpr ⟨cases, mapped, rfl⟩⟩

end Construction

end RegressionDetection.Reporting
