import Mathlib.Tactic.FieldSimp
import Mathlib.Tactic.Linarith
import Mathlib.Tactic.Ring
import RegressionDetection.Policy.Agreement

/-! What a baseline adds to the gate: the drop rules in terms of the two runs, and
that they can only make the outcome more severe. -/

namespace RegressionDetection.Policy

open Foundation Specification Providers Evaluators Execution

section Costs

/-- Every case of the run has a known cost. -/
def KnownCosts (run : LocalRunResult) : Prop :=
  ∀ result ∈ run.cases, result.providerResult.cost.isSome = true
deriving Decidable

/-- The known costs of the run together. -/
def totalCost (run : LocalRunResult) : ℚ :=
  (run.cases.map (fun result => result.providerResult.cost.getD 0)).sum

theorem accumulateCost_known {results : List CaseExecutionResult} (total : ℚ)
    (known : ∀ result ∈ results, result.providerResult.cost.isSome = true) :
    accumulateCost total results =
      some (total + (results.map (fun result => result.providerResult.cost.getD 0)).sum) := by
  induction results generalizing total with
  | nil => simp [accumulateCost]
  | cons first rest ih =>
    obtain ⟨cost, priced⟩ := Option.isSome_iff_exists.mp (known first List.mem_cons_self)
    have others := ih (total + cost) fun result later => known result (List.mem_cons_of_mem _ later)
    simp [accumulateCost, priced, others, add_assoc]

theorem accumulateCost_unknown {results : List CaseExecutionResult} (total : ℚ)
    (unknown : ¬ ∀ result ∈ results, result.providerResult.cost.isSome = true) :
    accumulateCost total results = none := by
  induction results generalizing total with
  | nil => simp at unknown
  | cons first rest ih =>
    cases priced : first.providerResult.cost with
    | none => simp [accumulateCost, priced]
    | some cost =>
      simp only [List.forall_mem_cons, priced, Option.isSome_some, true_and] at unknown
      simp [accumulateCost, priced, ih (total + cost) unknown]

theorem aggregateCost_known {run : LocalRunResult} (known : KnownCosts run) :
    aggregateCost run = some (totalCost run) := by
  rw [aggregateCost, accumulateCost_known 0 known, zero_add]
  rfl

theorem aggregateCost_unknown {run : LocalRunResult} (unknown : ¬ KnownCosts run) :
    aggregateCost run = none :=
  accumulateCost_unknown 0 unknown

theorem totalCost_nonneg (run : LocalRunResult) : 0 ≤ totalCost run := by
  apply List.sum_nonneg
  intro cost member
  obtain ⟨result, _, rfl⟩ := List.mem_map.mp member
  cases priced : result.providerResult.cost with
  | none => simp
  | some value => simpa using result.providerResult.costBounded value priced

end Costs

section Percentages

/-- Over a positive baseline the percentage check is the cross-multiplied one. -/
theorem percent_le_iff {before after limit : ℚ} (positive : 0 < before) :
    (after - before) / before * 100 ≤ limit ↔ after ≤ before * (1 + limit / 100) := by
  rw [div_mul_eq_mul_div, div_le_iff₀ positive]
  constructor <;> intro bounded <;> linarith

/-- The clamped percentage is within a limit when the baseline is zero or the
candidate is within the limit's share above it. -/
theorem pctChange_le_iff {before after limit : ℚ} (baseline : 0 ≤ before) (bound : 0 ≤ limit) :
    max (pctChange before after) 0 ≤ limit ↔ before = 0 ∨ after ≤ before * (1 + limit / 100) := by
  unfold pctChange
  rcases baseline.eq_or_lt with rfl | positive
  · simpa using bound
  · rw [if_neg positive.ne', max_le_iff, percent_le_iff positive, and_iff_left bound,
      or_iff_right positive.ne']

theorem pctChange_self (value : ℚ) : pctChange value value = 0 := by
  simp [pctChange]

end Percentages

section DropRules

variable {policy : RegressionPolicy} {runtime : Runtime} {values : RunMetrics}
  {cases : List CaseSummary} {comparison : BaselineComparison}

/-- The status `_eval_drop_rule` gives. -/
def limitStatus (threshold observed : Option ℚ) : RuleStatus :=
  match threshold, observed with
  | none, _ => .notApplicable
  | some _, none => .insufficientEvidence
  | some limit, some value => if value ≤ limit then .passed else .violated

theorem evalDropRule_status (ruleId : String) (threshold observed : Option ℚ) (unit : RuleUnit)
    (passedText failedText noObservationText noThresholdText : String) :
    (evalDropRule ruleId threshold observed unit passedText failedText noObservationText
      noThresholdText).status = limitStatus threshold observed := by
  cases threshold <;> cases observed <;> rfl

/-- The status of the first rule with the identifier. -/
def ruleStatus (rules : List RuleDecision) (ruleId : String) : Option RuleStatus :=
  (rules.find? (fun rule => rule.ruleId = ruleId)).map RuleDecision.status

/-- The identifiers of the three baseline-drop rules. -/
def dropRuleIds : List String :=
  ["maximum_pass_rate_drop", "maximum_latency_increase_percent", "maximum_cost_increase_percent"]

theorem evalDropRule_ruleId (ruleId : String) (threshold observed : Option ℚ) (unit : RuleUnit)
    (passedText failedText noObservationText noThresholdText : String) :
    (evalDropRule ruleId threshold observed unit passedText failedText noObservationText
      noThresholdText).ruleId = ruleId := by
  cases threshold <;> cases observed <;> rfl

/-- The four rules of the run itself come before the drop rules. -/
def ownRules (policy : RegressionPolicy) (values : RunMetrics) (cases : List CaseSummary) :
    List RuleDecision :=
  [errorRateRule policy values cases, criticalEvidenceRule values, passRateRule policy values,
    criticalQualityRule policy values]

theorem rules_eq (baseline : Option BaselineComparison) :
    rules policy runtime values cases baseline =
      ownRules policy values cases ++ baselineDropRules policy runtime baseline := rfl

theorem ruleStatus_append {ruleId : String} (listed : ruleId ∈ dropRuleIds)
    (drops : List RuleDecision) :
    ruleStatus (ownRules policy values cases ++ drops) ruleId = ruleStatus drops ruleId := by
  have other : ∀ rule ∈ ownRules policy values cases, rule.ruleId ∉ dropRuleIds := by
    simp [ownRules, errorRateRule, criticalEvidenceRule, passRateRule, criticalQualityRule,
      dropRuleIds]
  have none : (ownRules policy values cases).find? (fun rule => rule.ruleId = ruleId) = none := by
    rw [List.find?_eq_none]
    intro rule member same
    exact other rule member (of_decide_eq_true same ▸ listed)
  rw [ruleStatus, List.find?_append, none, Option.none_or, ruleStatus]

/-- Between runs of equal hashes each drop rule checks its own figure. -/
theorem ruleStatus_compatible (policy : RegressionPolicy) (runtime : Runtime) (values : RunMetrics)
    (cases : List CaseSummary) (configuration : comparison.configurationMatch = true)
    (dataset : comparison.datasetMatch = true) :
    ruleStatus (rules policy runtime values cases (some comparison)) "maximum_pass_rate_drop" =
        some (limitStatus (some policy.maximumPassRateDrop) comparison.passRateDrop) ∧
      ruleStatus (rules policy runtime values cases (some comparison))
          "maximum_latency_increase_percent" =
        some (limitStatus policy.maximumLatencyIncreasePercent
          (some comparison.latencyIncreasePct)) ∧
      ruleStatus (rules policy runtime values cases (some comparison))
          "maximum_cost_increase_percent" =
        some (limitStatus policy.maximumCostIncreasePercent comparison.costIncreasePct) := by
  simp only [rules_eq]
  rw [ruleStatus_append (by simp [dropRuleIds]), ruleStatus_append (by simp [dropRuleIds]),
    ruleStatus_append (by simp [dropRuleIds])]
  simp [ruleStatus, baselineDropRules, configuration, dataset, evalDropRule_ruleId,
    evalDropRule_status]

theorem baselineDropRules_compatible (policy : RegressionPolicy) (runtime : Runtime)
    (configuration : comparison.configurationMatch = true)
    (dataset : comparison.datasetMatch = true) :
    (baselineDropRules policy runtime (some comparison)).map RuleDecision.status =
      [limitStatus (some policy.maximumPassRateDrop) comparison.passRateDrop,
        limitStatus policy.maximumLatencyIncreasePercent (some comparison.latencyIncreasePct),
        limitStatus policy.maximumCostIncreasePercent comparison.costIncreasePct] := by
  simp [baselineDropRules, configuration, dataset, evalDropRule_status]

/-- No increase is within every limit. -/
theorem limitStatus_zero {threshold : Option ℚ} (bound : ∀ limit ∈ threshold, 0 ≤ limit) :
    limitStatus threshold (some 0) = .passed ∨ limitStatus threshold (some 0) = .notApplicable := by
  cases threshold with
  | none => exact .inr rfl
  | some limit => exact .inl (if_pos (bound limit rfl))

end DropRules

section Outcomes

variable {own more : List RuleDecision}

/-- Further rules never make the outcome less severe. -/
theorem decideOutcome_append_le (own more : List RuleDecision) :
    (decideOutcome own).severity ≤ (decideOutcome (own ++ more)).severity := by
  unfold decideOutcome
  simp only [List.map_append, List.mem_append]
  by_cases missing : RuleStatus.insufficientEvidence ∈ own.map RuleDecision.status
  · simp only [missing, true_or, ↓reduceIte]
    exact Nat.le_refl _
  · by_cases violated : RuleStatus.violated ∈ own.map RuleDecision.status
    · simp only [missing, violated, true_or, false_or, ↓reduceIte]
      split <;> decide
    · simp only [missing, violated, ↓reduceIte]
      exact Nat.zero_le _

/-- Rules that passed or do not apply leave the outcome alone. -/
theorem decideOutcome_append_quiet
    (quiet : ∀ status ∈ more.map RuleDecision.status, status = .passed ∨ status = .notApplicable) :
    decideOutcome (own ++ more) = decideOutcome own := by
  have evidence : RuleStatus.insufficientEvidence ∉ more.map RuleDecision.status := by
    intro member
    rcases quiet _ member with same | same <;> cases same
  have quality : RuleStatus.violated ∉ more.map RuleDecision.status := by
    intro member
    rcases quiet _ member with same | same <;> cases same
  unfold decideOutcome
  simp only [List.map_append, List.mem_append, evidence, quality, or_false]

theorem decideOutcome_append_missing
    (missing : RuleStatus.insufficientEvidence ∈ more.map RuleDecision.status) :
    decideOutcome (own ++ more) = .error := by
  unfold decideOutcome
  simp only [List.map_append, List.mem_append, missing, or_true, ↓reduceIte]

/-- Without a baseline the outcome is that of the run's own rules. -/
theorem decideOutcome_rules_none {policy : RegressionPolicy} {runtime : Runtime} {values : RunMetrics}
    {cases : List CaseSummary} :
    decideOutcome (rules policy runtime values cases none) =
      decideOutcome (ownRules policy values cases) := by
  rw [rules_eq]
  apply decideOutcome_append_quiet
  simp [baselineDropRules, unevaluatedRule]

end Outcomes

section Tightening

variable {specification : EvaluationSpecification} {run : LocalRunResult}

/-- The drop rules of a run compared with itself pass or do not apply, but for a
cost limit without known costs. -/
theorem selfComparison_outcome {rate : ℚ} {comparison : BaselineComparison} {runtime : Runtime}
    {values : RunMetrics} {cases : List CaseSummary} (compares : Compares run run rate rate comparison) :
    decideOutcome (rules specification.val.policy runtime values cases (some comparison)) =
      if specification.val.policy.maximumCostIncreasePercent.isSome = true ∧ ¬ KnownCosts run then
        .error
      else decideOutcome (rules specification.val.policy runtime values cases none) := by
  obtain ⟨_, _, _, _, _, _, _, _, policyValid, _⟩ := specification.property
  obtain ⟨_, ⟨dropBound, _⟩, _, latencyBound, costBound⟩ := policyValid
  have configuration : comparison.configurationMatch = true := by simp [compares.configuration]
  have dataset : comparison.datasetMatch = true := by simp [compares.dataset]
  have statuses := baselineDropRules_compatible specification.val.policy runtime configuration
    dataset
  rw [compares.drop, compares.latency, compares.cost, sub_self, max_self, pctChange_self,
    max_self] at statuses
  have rateStatus : limitStatus (some specification.val.policy.maximumPassRateDrop) (some 0) =
      .passed := if_pos dropBound
  have latencyStatus := limitStatus_zero latencyBound
  rw [decideOutcome_rules_none, rules_eq]
  by_cases known : KnownCosts run
  · rw [if_neg (fun both => both.2 known)]
    apply decideOutcome_append_quiet
    rw [statuses, aggregateCost_known known, costIncrease, pctChange_self, max_self, rateStatus]
    simpa using ⟨latencyStatus, limitStatus_zero costBound⟩
  · have unpriced : costIncrease (aggregateCost run) (aggregateCost run) = none := by
      rw [aggregateCost_unknown known]
      rfl
    rw [unpriced] at statuses
    cases limit : specification.val.policy.maximumCostIncreasePercent with
    | none =>
      rw [if_neg (by simp)]
      apply decideOutcome_append_quiet
      rw [statuses, rateStatus, limit]
      simpa [limitStatus] using latencyStatus
    | some bound =>
      rw [if_pos ⟨rfl, known⟩]
      apply decideOutcome_append_missing
      rw [statuses, limit]
      simp [limitStatus]

end Tightening

section Limits

variable {specification : EvaluationSpecification} {candidate baseline : LocalRunResult}

/-- The runs have the same hashes. -/
structure Compatible (candidate baseline : LocalRunResult) : Prop where
  configuration : candidate.configurationHash = baseline.configurationHash
  dataset : candidate.datasetHash = baseline.datasetHash

theorem aggregateLatency_nonneg (run : LocalRunResult) : 0 ≤ aggregateLatency run :=
  totalLatency_nonneg run

theorem limitStatus_passed {threshold observed : Option ℚ} :
    limitStatus threshold observed = .passed ↔
      ∃ limit ∈ threshold, ∃ value ∈ observed, value ≤ limit := by
  cases threshold with
  | none => simp [limitStatus]
  | some limit =>
    cases observed with
    | none => simp [limitStatus]
    | some value => simp [limitStatus]

/-- The figures of a comparison that returned. -/
theorem compareCandidateToBaseline_figures {comparison : BaselineComparison}
    (compared : compareCandidateToBaseline candidate baseline specification.val = .ok comparison) :
    comparison.configurationMatch =
        decide (candidate.configurationHash = baseline.configurationHash) ∧
      comparison.datasetMatch = decide (candidate.datasetHash = baseline.datasetHash) ∧
      comparison.latencyIncreasePct =
        max (pctChange (aggregateLatency baseline) (aggregateLatency candidate)) 0 ∧
      comparison.costIncreasePct =
        costIncrease (aggregateCost baseline) (aggregateCost candidate) := by
  obtain ⟨before, _, rest⟩ := bind_eq_ok.mp compared
  obtain ⟨after, _, built⟩ := bind_eq_ok.mp rest
  dsimp only at built
  split at built
  · cases built
    exact ⟨rfl, rfl, rfl, rfl⟩
  · cases built

end Limits

/-- The percentage limits of compatible runs: each bounds the real increase, except
over a total of zero, of which no percentage is taken. -/
theorem percentLimits_bound (runtime : Runtime) (specification : EvaluationSpecification)
    {candidate baseline : LocalRunResult} (compatible : Compatible candidate baseline) :
    (RunOver specification candidate → RunOver specification baseline →
      ∃ gate, compareAndDecide runtime specification.val candidate baseline = .ok gate) ∧
    ∀ gate, compareAndDecide runtime specification.val candidate baseline = .ok gate →
      (∀ limit ∈ specification.val.policy.maximumLatencyIncreasePercent,
        ruleStatus gate.rules "maximum_latency_increase_percent" = some .passed ↔
          aggregateLatency baseline = 0 ∨
            aggregateLatency candidate ≤ aggregateLatency baseline * (1 + limit / 100)) ∧
      (∀ limit ∈ specification.val.policy.maximumCostIncreasePercent,
        KnownCosts candidate → KnownCosts baseline →
        (ruleStatus gate.rules "maximum_cost_increase_percent" = some .passed ↔
          totalCost baseline = 0 ∨ totalCost candidate ≤ totalCost baseline * (1 + limit / 100))) := by
  constructor
  · intro own other
    obtain ⟨_, _, _, _, _, _, _, _, _, _, _, decided⟩ := compareAndDecide_returns runtime own other
    exact ⟨_, decided⟩
  intro gate decided
  obtain ⟨_, _, _, _, _, _, _, _, ⟨_, _, _, latencyBound, costBound⟩, _⟩ := specification.property
  obtain ⟨comparison, compared, rest⟩ := bind_eq_ok.mp decided
  obtain ⟨cases, _, rest⟩ := bind_eq_ok.mp rest
  obtain ⟨values, _, made⟩ := bind_eq_ok.mp rest
  cases made
  obtain ⟨configuration, dataset, latency, cost⟩ := compareCandidateToBaseline_figures compared
  rw [decide_eq_true compatible.configuration] at configuration
  rw [decide_eq_true compatible.dataset] at dataset
  obtain ⟨_, latencyStatus, costStatus⟩ := ruleStatus_compatible specification.val.policy runtime
    values cases configuration dataset
  constructor
  · intro limit limited
    rw [latencyStatus, latency, Option.some.injEq, limitStatus_passed,
      ← pctChange_le_iff (aggregateLatency_nonneg baseline) (latencyBound limit limited)]
    rw [Option.mem_def] at limited
    simp [limited]
  · intro limit limited known knownBefore
    rw [costStatus, cost, aggregateCost_known known, aggregateCost_known knownBefore,
      Option.some.injEq, limitStatus_passed,
      ← pctChange_le_iff (totalCost_nonneg baseline) (costBound limit limited)]
    rw [Option.mem_def] at limited
    simp [limited, costIncrease]

/-- The one-case document with a policy of its own. -/
def policyDocument (policy : RegressionPolicy) : EvaluationSpecificationV1 :=
  { plainDocument "Say ok" ["first"] {} with policy }

/-- No increase of the total latency is allowed. -/
def flatLatency : RegressionPolicy := { maximumLatencyIncreasePercent := some 0 }

theorem flatLatency_valid : (policyDocument flatLatency).Valid := by decide +kernel

theorem second_latencyBounded : (0 : ℚ) ≤ 1000 := by decide +kernel

/-- The answer `"ok"` after a second. -/
def slowAnswer : InferenceResult :=
  { InferenceResult.ok with latencyMs := 1000, latencyBounded := second_latencyBounded }

/-- The passing run of one case, answered after a second. -/
def slowRun : LocalRunResult :=
  { gradedRun true with
    cases := (gradedRun true).cases.map fun result => { result with providerResult := slowAnswer } }

/-- Over an instant baseline the latency limit lets any candidate pass. -/
theorem slowRun_passes :
    (slowRun.configurationHash = (gradedRun true).configurationHash ∧
      slowRun.datasetHash = (gradedRun true).datasetHash) ∧
    (compareAndDecide Runtime.ascii (policyDocument flatLatency) slowRun (gradedRun true)).toOption.map
        (fun gate => ruleStatus gate.rules "maximum_latency_increase_percent") =
      some (some .passed) ∧
    ¬ aggregateLatency slowRun ≤ aggregateLatency (gradedRun true) * (1 + 0 / 100) := by
  decide +kernel

theorem timedRun_over (run : LocalRunResult) (timed : run = gradedRun true ∨ run = slowRun) :
    RunOver ⟨_, flatLatency_valid⟩ run := by
  rcases timed with rfl | rfl
  all_goals
    refine ⟨by decide, ?_⟩
    intro result member
    obtain rfl := List.mem_singleton.mp member
    exact ⟨by decide, by decide⟩

/-- Over a baseline that took its time the limit bounds the latency. -/
theorem slowRun_bound : ∃ gate,
    compareAndDecide Runtime.ascii (policyDocument flatLatency) (gradedRun true) slowRun = .ok gate ∧
    (ruleStatus gate.rules "maximum_latency_increase_percent" = some .passed ↔
      aggregateLatency slowRun = 0 ∨
        aggregateLatency (gradedRun true) ≤ aggregateLatency slowRun * (1 + 0 / 100)) := by
  obtain ⟨returns, bound⟩ := percentLimits_bound Runtime.ascii ⟨_, flatLatency_valid⟩
    (⟨rfl, rfl⟩ : Compatible (gradedRun true) slowRun)
  obtain ⟨gate, decided⟩ := returns (timedRun_over _ (.inl rfl)) (timedRun_over _ (.inr rfl))
  exact ⟨gate, decided, (bound gate decided).1 0 rfl⟩

end RegressionDetection.Policy
