import RegressionDetection.Policy.Engine

/-! Comparison of a candidate run with a baseline run, and the gate decision that
includes the baseline-drop rules. -/

namespace RegressionDetection.Policy

open Foundation Specification Providers Evaluators Execution

/-- The branches of `_case_outcome` for the result it found. -/
def foundOutcome (status : ProviderStatus) (requiredStatuses : List EvaluationStatus) : CaseOutcome :=
  if status = .error ∨
      requiredStatuses.any (fun s => s = .errored ∨ s = .notApplicable) = true then .error
  else if requiredStatuses.any (fun s => s = .failed) = true then .failed
  else .passed

/-- The loop of `_case_outcome`: the first result under the key decides. -/
def searchOutcome (specification : EvaluationSpecificationV1) (caseKey : String) :
    List CaseExecutionResult → Except PyError (Option CaseOutcome)
  | [] => .ok none
  | result :: rest =>
    if result.caseKey ≠ caseKey then searchOutcome specification caseKey rest
    else do
      let required ← requiredStatuses specification result.evaluations
      return some (foundOutcome result.providerResult.status required)

/-- `_case_outcome`. -/
def caseOutcome (run : LocalRunResult) (caseKey : String)
    (specification : EvaluationSpecificationV1) : Except PyError (Option CaseOutcome) :=
  searchOutcome specification caseKey run.cases

/-- `_pass_rate`. -/
def passRate (run : LocalRunResult) (specification : EvaluationSpecificationV1) :
    Except PyError (Option ℚ) :=
  if run.cases = [] then .ok none
  else do
    let found ← run.cases.mapM (fun result => caseOutcome run result.caseKey specification)
    let outcomes := found.filterMap id
    if outcomes = [] then return none
    else return some ((outcomes.countP (fun outcome => outcome = .passed) : ℚ) / outcomes.length)

/-- `_aggregate_latency`. -/
def aggregateLatency (run : LocalRunResult) : ℚ :=
  (run.cases.map (fun result => result.providerResult.latencyMs)).sum

/-- The loop of `_aggregate_cost`: an unknown cost ends it. -/
def accumulateCost (total : ℚ) : List CaseExecutionResult → Option ℚ
  | [] => some total
  | result :: rest =>
    match result.providerResult.cost with
    | none => none
    | some cost => accumulateCost (total + cost) rest

/-- `_aggregate_cost`. -/
def aggregateCost (run : LocalRunResult) : Option ℚ := accumulateCost 0 run.cases

/-- `_pct_change`: no percentage is taken of a baseline of zero. -/
def pctChange (baseline candidate : ℚ) : ℚ :=
  if baseline = 0 then 0 else (candidate - baseline) / baseline * 100

/-- `sorted(set(names) & set(others))`. -/
def sortedIntersection (names others : List String) : List String :=
  ((names.filter (fun name => decide (name ∈ others))).dedup).insertionSort (· ≤ ·)

/-- The drop between two rates, when both are known. -/
def rateDrop (baseline candidate : Option ℚ) : Option ℚ :=
  match baseline, candidate with
  | some before, some after => some (max (before - after) 0)
  | _, _ => none

/-- The increase between two costs, when both are known. -/
def costIncrease (baseline candidate : Option ℚ) : Option ℚ :=
  match baseline, candidate with
  | some before, some after => some (max (pctChange before after) 0)
  | _, _ => none

theorem costIncrease_nonneg (baseline candidate : Option ℚ) :
    ∀ increase ∈ costIncrease baseline candidate, 0 ≤ increase := by
  intro increase computed
  unfold costIncrease at computed
  split at computed
  · cases computed
    exact le_max_right _ _
  · cases computed

/-- `compare_candidate_to_baseline`. Of the constraints of `BaselineComparison` only
the bounds of the rate drop are not immediate, and are checked. -/
def compareCandidateToBaseline (candidateRun baselineRun : LocalRunResult)
    (specification : EvaluationSpecificationV1) : Except PyError BaselineComparison := do
  let candidateKeys := candidateRun.cases.map CaseExecutionResult.caseKey
  let baselineKeys := baselineRun.cases.map CaseExecutionResult.caseKey
  let passRateBaseline ← passRate baselineRun specification
  let passRateCandidate ← passRate candidateRun specification
  let passRateDrop := rateDrop passRateBaseline passRateCandidate
  let latencyMsBaseline := aggregateLatency baselineRun
  let latencyMsCandidate := aggregateLatency candidateRun
  let costBaseline := aggregateCost baselineRun
  let costCandidate := aggregateCost candidateRun
  if dropRatio : ∀ drop ∈ passRateDrop, IsRatio drop then
    return {
      configurationMatch := decide (candidateRun.configurationHash = baselineRun.configurationHash)
      datasetMatch := decide (candidateRun.datasetHash = baselineRun.datasetHash)
      totalCasesCandidate := candidateRun.cases.length
      totalCasesBaseline := baselineRun.cases.length
      matchingCaseKeys := sortedIntersection candidateKeys baselineKeys
      missingInCandidate := sortedDifference baselineKeys candidateKeys
      missingInBaseline := sortedDifference candidateKeys baselineKeys
      passRateBaseline
      passRateCandidate
      passRateDrop
      latencyMsBaseline
      latencyMsCandidate
      latencyIncreasePct := max (pctChange latencyMsBaseline latencyMsCandidate) 0
      costBaseline
      costCandidate
      costIncreasePct := costIncrease costBaseline costCandidate
      dropRatio
      latencyBounded := le_max_right _ _
      costBounded := costIncrease_nonneg _ _ }
  else throw (.validationError "BaselineComparison.pass_rate_drop")

/-- `compare_and_decide`. -/
def compareAndDecide (runtime : Runtime) (specification : EvaluationSpecificationV1)
    (candidateRun baselineRun : LocalRunResult) : Except PyError GateDecision := do
  let baseline ← compareCandidateToBaseline candidateRun baselineRun specification
  let cases ← caseSummaries specification candidateRun
  let metrics ← metrics candidateRun cases
  let rules := rules specification.policy runtime metrics cases (some baseline)
  return { outcome := decideOutcome rules, metrics, cases, rules }

end RegressionDetection.Policy
