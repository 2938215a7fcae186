import RegressionDetection.Policy.BaselineGate
import RegressionDetection.Policy.Verdict

/-! The gate against a baseline is monotone: neither a laxer policy nor a candidate that does better
makes it more severe. -/

namespace RegressionDetection.Policy

open Foundation Specification Providers Evaluators Execution

/-- How much a rule's status weighs on the gate. -/
def RuleStatus.weight : RuleStatus → Nat
  | .passed => 0
  | .notApplicable => 0
  | .violated => 1
  | .insufficientEvidence => 2

/-- Where the larger figure is there, so is the smaller one. -/
def Below (smaller larger : Option ℚ) : Prop :=
  ∀ value ∈ larger, ∃ lesser ∈ smaller, lesser ≤ value

/-- Every threshold of the first policy is at least as strict. -/
structure Relaxes (strict lax : RegressionPolicy) : Prop where
  passRate : lax.minimumPassRate ≤ strict.minimumPassRate
  errorRate : strict.maximumErrorRate ≤ lax.maximumErrorRate
  critical : lax.criticalCasesMustPass = true → strict.criticalCasesMustPass = true
  passRateDrop : strict.maximumPassRateDrop ≤ lax.maximumPassRateDrop
  latencyIncrease : Below strict.maximumLatencyIncreasePercent lax.maximumLatencyIncreasePercent
  costIncrease : Below strict.maximumCostIncreasePercent lax.maximumCostIncreasePercent

/-- The figures that the run's own rules check, no worse. -/
structure BetterFigures (first second : RunMetrics) : Prop where
  errors : second.errorRate ≤ first.errorRate
  passes : first.passRate ≤ second.passRate
  evidence : first.criticalErrorCases = [] → second.criticalErrorCases = []
  quality : first.criticalErrorCases = [] → first.criticalFailedCases = [] →
    second.criticalFailedCases = []

/-- The second run does at least as well as the first one: case for case, and in what it took. -/
structure BetterRun (specification : EvaluationSpecification) (first second : LocalRunResult) : Prop where
  keys : first.cases.map CaseExecutionResult.caseKey = second.cases.map CaseExecutionResult.caseKey
  outcomes : ∀ cases others, caseSummaries specification.val first = .ok cases →
    caseSummaries specification.val second = .ok others → Improves cases others
  latency : aggregateLatency second ≤ aggregateLatency first
  costs : KnownCosts first → KnownCosts second ∧ totalCost second ≤ totalCost first
  configuration : first.configurationHash = second.configurationHash
  dataset : first.datasetHash = second.datasetHash

/-- No rule weighs more. -/
def Within (bound : Nat) (rules : List RuleDecision) : Prop :=
  ∀ status ∈ rules.map RuleDecision.status, status.weight ≤ bound

section Weights

theorem RuleStatus.weight_le (status : RuleStatus) : status.weight ≤ 2 := by
  cases status <;> decide

/-- The gate is as severe as the worst of its rules. -/
theorem severity_le_iff {rules : List RuleDecision} {bound : Nat} :
    (decideOutcome rules).severity ≤ bound ↔ Within bound rules := by
  constructor
  · intro within status member
    refine le_trans ?_ within
    unfold decideOutcome
    cases status <;> simp only [member, ↓reduceIte, RuleStatus.weight]
    all_goals try exact Nat.zero_le _
    · split <;> decide
    · decide
  · intro within
    unfold decideOutcome
    dsimp only
    split
    · rename_i missing
      exact within _ missing
    · split
      · rename_i violated
        exact within _ violated
      · exact Nat.zero_le _

theorem within_append {bound : Nat} {own more : List RuleDecision} :
    Within bound (own ++ more) ↔ Within bound own ∧ Within bound more := by
  unfold Within
  rw [List.map_append]
  exact List.forall_mem_append

/-- What passes a check still passes a laxer one. -/
theorem checked_weight {tight loose : Bool} (carries : tight = true → loose = true)
    (failing : RuleStatus) :
    (if loose then RuleStatus.passed else failing).weight ≤
      (if tight then RuleStatus.passed else failing).weight := by
  cases tight with
  | true => rw [if_pos (carries rfl), if_pos rfl]
  | false =>
    rw [if_neg Bool.false_ne_true]
    split
    · exact Nat.zero_le _
    · exact le_refl _

/-- A looser limit on a smaller figure weighs no more. -/
theorem limitStatus_weight {tight loose before after : Option ℚ} (looser : Below tight loose)
    (smaller : Below after before) :
    (limitStatus loose after).weight ≤ (limitStatus tight before).weight := by
  cases loose with
  | none => exact Nat.zero_le _
  | some limit =>
    obtain ⟨tighter, set, within⟩ := looser limit rfl
    obtain rfl := Option.mem_def.mp set
    cases before with
    | none => exact RuleStatus.weight_le _
    | some value =>
      obtain ⟨lesser, known, less⟩ := smaller value rfl
      obtain rfl := Option.mem_def.mp known
      unfold limitStatus
      dsimp only
      by_cases fits : value ≤ tighter
      · rw [if_pos fits, if_pos ((less.trans fits).trans within)]
      · rw [if_neg fits]
        split <;> decide

end Weights

section Rules

variable {strict lax : RegressionPolicy} {first second : RunMetrics} {cases others : List CaseSummary}

/-- The run's own rules, under a laxer policy and on better figures. -/
theorem ownRules_weight (relaxes : Relaxes strict lax) (better : BetterFigures first second) {bound : Nat}
    (within : Within bound (ownRules strict first cases)) : Within bound (ownRules lax second others) := by
  simp only [Within, ownRules, List.map_cons, List.map_nil, List.forall_mem_cons, List.not_mem_nil,
    false_imp_iff, implies_true, and_true] at within ⊢
  obtain ⟨errorRate, evidence, passRate, quality⟩ := within
  refine ⟨(checked_weight ?_ _).trans errorRate, (checked_weight ?_ _).trans evidence,
    (checked_weight ?_ _).trans passRate, ?_⟩
  · rw [decide_eq_true_eq, decide_eq_true_eq]
    exact fun fits => (better.errors.trans fits).trans relaxes.errorRate
  · rw [decide_eq_true_eq, decide_eq_true_eq]
    exact better.evidence
  · rw [decide_eq_true_eq, decide_eq_true_eq]
    exact fun fits => (relaxes.passRate.trans fits).trans better.passes
  · by_cases noErrors : first.criticalErrorCases = []
    · refine (checked_weight ?_ _).trans quality
      simp only [Bool.or_eq_true, Bool.not_eq_true', decide_eq_true_eq]
      intro satisfied
      by_cases must : lax.criticalCasesMustPass = true
      · exact .inr (better.quality noErrors (satisfied.resolve_left (by simp [relaxes.critical must])))
      · exact .inl (Bool.eq_false_iff.mpr must)
    · -- A critical case without evidence outweighs what its failure would weigh.
      simp only [criticalEvidenceRule, noErrors, decide_false, Bool.false_eq_true, ↓reduceIte] at evidence
      exact (RuleStatus.weight_le _).trans evidence

/-- The drop rules, under a laxer policy and on a smaller drop. -/
theorem baselineDropRules_weight {runtime : Runtime} (relaxes : Relaxes strict lax)
    {one other : BaselineComparison}
    (configuration : other.configurationMatch = one.configurationMatch)
    (dataset : other.datasetMatch = one.datasetMatch)
    (drop : Below other.passRateDrop one.passRateDrop)
    (latency : other.latencyIncreasePct ≤ one.latencyIncreasePct)
    (cost : Below other.costIncreasePct one.costIncreasePct) {bound : Nat}
    (within : Within bound (baselineDropRules strict runtime (some one))) :
    Within bound (baselineDropRules lax runtime (some other)) := by
  unfold Within at within ⊢
  by_cases compatible : one.configurationMatch = true ∧ one.datasetMatch = true
  · rw [baselineDropRules_compatible strict runtime compatible.1 compatible.2] at within
    rw [baselineDropRules_compatible lax runtime (configuration.trans compatible.1)
      (dataset.trans compatible.2)]
    simp only [List.forall_mem_cons, List.not_mem_nil, false_imp_iff, implies_true, and_true]
      at within ⊢
    obtain ⟨rate, slower, dearer⟩ := within
    have limit : Below (some strict.maximumPassRateDrop) (some lax.maximumPassRateDrop) :=
      fun _ same => ⟨_, rfl, Option.some.inj same ▸ relaxes.passRateDrop⟩
    have increase : Below (some other.latencyIncreasePct) (some one.latencyIncreasePct) :=
      fun _ same => ⟨_, rfl, Option.some.inj same ▸ latency⟩
    exact ⟨(limitStatus_weight limit drop).trans rate,
      (limitStatus_weight relaxes.latencyIncrease increase).trans slower,
      (limitStatus_weight relaxes.costIncrease cost).trans dearer⟩
  · have missing : RuleStatus.insufficientEvidence ∈
        (baselineDropRules strict runtime (some one)).map RuleDecision.status := by
      have apart : (!one.configurationMatch || !one.datasetMatch) = true := by
        simpa [Bool.and_eq_true, imp_iff_not_or] using compatible
      simp [baselineDropRules, apart, unevaluatedRule]
    exact fun status _ => status.weight_le.trans (within _ missing)

end Rules

section Runs

theorem Improves.figures {run other : LocalRunResult} {cases others : List CaseSummary}
    {values later : RunMetrics} (better : Improves cases others)
    (critical : cases.map CaseSummary.critical = others.map CaseSummary.critical)
    (aggregated : metrics run cases = .ok values) (again : metrics other others = .ok later) :
    BetterFigures values later := by
  have sized : (cases.length : ℚ) = others.length := congrArg Nat.cast better.length_eq
  obtain ⟨pass, error, failed, errors⟩ := metrics_ok aggregated
  obtain ⟨laterPass, laterError, laterFailed, laterErrors⟩ := metrics_ok again
  refine ⟨?_, ?_, ?_, ?_⟩
  · rw [error, laterError, sized]
    exact div_le_div_of_nonneg_right (Nat.cast_le.mpr better.errors) (Nat.cast_nonneg _)
  · rw [pass, laterPass, sized]
    exact div_le_div_of_nonneg_right (Nat.cast_le.mpr better.passes) (Nat.cast_nonneg _)
  · rw [errors, laterErrors, noCriticalErrors_iff, noCriticalErrors_iff]
    exact better.critical critical
  · rw [errors, failed, laterFailed]
    intro noErrors noFailures
    exact (noCriticalShortfalls_iff.mpr (better.critical critical
      (noCriticalShortfalls_iff.mp ⟨noErrors, noFailures⟩))).2

theorem pctChange_mono {before after later : ℚ} (nonneg : 0 ≤ before) (less : later ≤ after) :
    pctChange before later ≤ pctChange before after := by
  unfold pctChange
  split
  · exact le_refl _
  · have share : (later - before) / before ≤ (after - before) / before :=
      div_le_div_of_nonneg_right (sub_le_sub_right less before) nonneg
    exact mul_le_mul_of_nonneg_right share (by norm_num)

theorem costIncrease_below {first second baseline : LocalRunResult}
    (cheaper : KnownCosts first → KnownCosts second ∧ totalCost second ≤ totalCost first) :
    Below (costIncrease (aggregateCost baseline) (aggregateCost second))
      (costIncrease (aggregateCost baseline) (aggregateCost first)) := by
  intro increase computed
  by_cases known : KnownCosts first
  · obtain ⟨priced, total⟩ := cheaper known
    by_cases knownBefore : KnownCosts baseline
    · rw [aggregateCost_known known, aggregateCost_known knownBefore] at computed
      rw [aggregateCost_known priced, aggregateCost_known knownBefore]
      refine ⟨_, rfl, ?_⟩
      obtain rfl := Option.some.inj computed
      exact max_le_max_right 0 (pctChange_mono (totalCost_nonneg baseline) total)
    · rw [aggregateCost_unknown knownBefore] at computed
      cases computed
  · rw [aggregateCost_unknown known] at computed
    unfold costIncrease at computed
    split at computed
    · rename_i impossible
      cases impossible
    · cases computed

/-- The comparison asks the specification only for its evaluators. -/
theorem compareCandidateToBaseline_congr {one other : EvaluationSpecificationV1}
    (same : one.evaluators = other.evaluators) (candidate baseline : LocalRunResult) :
    compareCandidateToBaseline candidate baseline one =
      compareCandidateToBaseline candidate baseline other := by
  have required : requiredStatuses one = requiredStatuses other := by
    unfold requiredStatuses evaluatorRequired
    rw [same]
  have searched (key : String) (results : List CaseExecutionResult) :
      searchOutcome one key results = searchOutcome other key results := by
    induction results with
    | nil => rfl
    | cons result rest ih => rw [searchOutcome, searchOutcome, ih, required]
  have rates (run : LocalRunResult) : passRate run one = passRate run other := by
    simp only [passRate, caseOutcome, searched]
  unfold compareCandidateToBaseline
  simp only [rates]

end Runs

/-- Half of the cases may fail, and the others get slower. -/
def halfPolicy : RegressionPolicy :=
  { minimumPassRate := 1 / 2, maximumPassRateDrop := 1 / 2, maximumLatencyIncreasePercent := none }

theorem halfPolicy_valid : (policyDocument halfPolicy).Valid := by decide +kernel

theorem gradedRun_better :
    BetterRun ⟨plainDocument "Say ok" ["first"] {}, greeting_valid⟩ (gradedRun false) (gradedRun true) where
  keys := rfl
  outcomes := by
    intro cases others derived again
    have failed : caseSummaries (plainDocument "Say ok" ["first"] {}) (gradedRun false) =
        .ok [⟨"first", false, .failed, 0, 1, 0, 0⟩] := by decide
    have passed : caseSummaries (plainDocument "Say ok" ["first"] {}) (gradedRun true) =
        .ok [⟨"first", false, .passed, 1, 0, 0, 0⟩] := by decide
    cases failed.symm.trans derived
    cases passed.symm.trans again
    exact .cons (by decide) .nil
  latency := le_refl _
  costs := fun known => absurd known (by decide)
  configuration := rfl
  dataset := rfl

end RegressionDetection.Policy
