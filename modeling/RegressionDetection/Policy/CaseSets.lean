import RegressionDetection.Execution.OrderedPrefix
import RegressionDetection.Policy.BaselineGate

/-! Runs of one specification over different case sets, one of them cancelled. Their
hashes agree, so the drop rules compare them all the same. -/

namespace RegressionDetection.Policy

open Foundation Specification Providers Evaluators Execution

/-- The run comes from an execution of the specification. -/
def ProducedBy (environment : Environment) (specification : EvaluationSpecification)
    (run : LocalRunResult) : Prop :=
  ∃ (σ : Type) (provider : Provider σ) (cancelled : Nat → Bool) (start later : σ),
    executeLocal environment provider specification cancelled start = .ok (run, later)

/-- The runs cover the same set of case keys. -/
def SameCases (candidate baseline : LocalRunResult) : Prop :=
  ∀ key, key ∈ candidate.cases.map CaseExecutionResult.caseKey ↔
    key ∈ baseline.cases.map CaseExecutionResult.caseKey

/-- None of the baseline-drop rules passed. -/
def NonePassed (rules : List RuleDecision) : Prop :=
  ∀ ruleId ∈ dropRuleIds, ruleStatus rules ruleId ≠ some .passed

/-- Each baseline-drop rule reports that evidence is missing. -/
def Surfaced (rules : List RuleDecision) : Prop :=
  ∀ ruleId ∈ dropRuleIds, ruleStatus rules ruleId = some .insufficientEvidence

section Limits

variable (specification : EvaluationSpecification) (candidate baseline : LocalRunResult)

/-- The share of the results that passed. -/
def passedShare (run : LocalRunResult) : ℚ :=
  share (fun result => decide (PassedCase specification result)) run

/-- The figures of the two runs exceed every limit that is set and can be checked. -/
structure EveryLimitExceeded : Prop where
  rate : specification.val.policy.maximumPassRateDrop <
    passedShare specification baseline - passedShare specification candidate
  latency : ∀ limit ∈ specification.val.policy.maximumLatencyIncreasePercent,
    aggregateLatency baseline ≠ 0 ∧
      aggregateLatency baseline * (1 + limit / 100) < aggregateLatency candidate
  cost : ∀ limit ∈ specification.val.policy.maximumCostIncreasePercent,
    KnownCosts candidate → KnownCosts baseline →
      totalCost baseline ≠ 0 ∧ totalCost baseline * (1 + limit / 100) < totalCost candidate

end Limits

section Produced

variable {environment : Environment} {specification : EvaluationSpecification}
  {run candidate baseline : LocalRunResult}

/-- A run carries the hashes of its specification, whatever cases it covers. -/
theorem ProducedBy.hashes (own : ProducedBy environment specification run) :
    run.configurationHash =
        (specificationHashes environment.runtime specification.val).configuration ∧
      run.datasetHash = (specificationHashes environment.runtime specification.val).dataset := by
  obtain ⟨σ, provider, cancelled, start, later, returned⟩ := own
  obtain ⟨_, _, looped⟩ := bind_eq_ok.mp returned
  obtain ⟨⟨loop, stopped⟩, _, made⟩ := bind_eq_ok.mp looped
  cases made
  exact ⟨rfl, rfl⟩

theorem ProducedBy.runOver (own : ProducedBy environment specification run)
    (nonempty : run.cases ≠ []) : RunOver specification run := by
  obtain ⟨σ, provider, cancelled, start, later, returned⟩ := own
  obtain ⟨done, rest, split, _, evidence, _⟩ := executeLocal_evidence returned
  exact ⟨nonempty, evidence.belongs split⟩

theorem ProducedBy.distinct (own : ProducedBy environment specification run) :
    (run.cases.map CaseExecutionResult.caseKey).Nodup := by
  obtain ⟨σ, provider, cancelled, start, later, returned⟩ := own
  obtain ⟨done, rest, split, _, evidence, _⟩ := executeLocal_evidence returned
  have all := specification.property.references.caseKeys
  rw [split, List.map_append] at all
  exact evidence.keys ▸ all.of_append_left

theorem ProducedBy.compatible (own : ProducedBy environment specification candidate)
    (other : ProducedBy environment specification baseline) : Compatible candidate baseline where
  configuration := own.hashes.1.trans other.hashes.1.symm
  dataset := own.hashes.2.trans other.hashes.2.symm

/-- The pass rate is the share of the results that passed. -/
theorem passRate_eq_passedShare (own : RunOver specification run)
    (distinct : (run.cases.map CaseExecutionResult.caseKey).Nodup) :
    passRate run specification.val = .ok (some (passedShare specification run)) := by
  obtain ⟨cases, summarised⟩ := caseSummaries_returns own.belongs
  obtain ⟨values, aggregated⟩ := metrics_returns own.nonempty summarised
  have counted := countOutcome_classified summarised fun result summary made =>
    (caseSummary_classified made).2.2
  rw [passRate_agrees distinct own.nonempty summarised aggregated, (metrics_ok aggregated).1,
    counted, caseSummaries_length summarised]
  rfl

end Produced

section Exceeded

theorem nonePassed_iff {rules : List RuleDecision} {rate latency cost : RuleStatus}
    (rateStatus : ruleStatus rules "maximum_pass_rate_drop" = some rate)
    (latencyStatus : ruleStatus rules "maximum_latency_increase_percent" = some latency)
    (costStatus : ruleStatus rules "maximum_cost_increase_percent" = some cost) :
    NonePassed rules ↔ rate ≠ .passed ∧ latency ≠ .passed ∧ cost ≠ .passed := by
  simp [NonePassed, dropRuleIds, rateStatus, latencyStatus, costStatus]

theorem rateLimit_exceeded {limit before after : ℚ} (bound : 0 ≤ limit) :
    limitStatus (some limit) (some (max (before - after) 0)) ≠ .passed ↔ limit < before - after := by
  rw [Ne, limitStatus_passed, ← not_le]
  apply not_congr
  simp [bound]

theorem percentLimit_exceeded {threshold : Option ℚ} {before after : ℚ}
    (bound : ∀ limit ∈ threshold, 0 ≤ limit) (baseline : 0 ≤ before) :
    limitStatus threshold (some (max (pctChange before after) 0)) ≠ .passed ↔
      ∀ limit ∈ threshold, before ≠ 0 ∧ before * (1 + limit / 100) < after := by
  rw [Ne, limitStatus_passed, not_exists]
  refine forall_congr' fun limit => ?_
  rw [not_and]
  refine forall_congr' fun limited => ?_
  simp only [Option.mem_def, Option.some.injEq, exists_eq_left']
  rw [pctChange_le_iff baseline (bound limit limited), not_or, not_le]

theorem costLimit_exceeded {threshold : Option ℚ} {candidate baseline : LocalRunResult}
    (bound : ∀ limit ∈ threshold, 0 ≤ limit) :
    limitStatus threshold (costIncrease (aggregateCost baseline) (aggregateCost candidate)) ≠ .passed ↔
      ∀ limit ∈ threshold, KnownCosts candidate → KnownCosts baseline →
        totalCost baseline ≠ 0 ∧ totalCost baseline * (1 + limit / 100) < totalCost candidate := by
  by_cases both : KnownCosts candidate ∧ KnownCosts baseline
  · obtain ⟨known, knownBefore⟩ := both
    rw [aggregateCost_known known, aggregateCost_known knownBefore, costIncrease,
      percentLimit_exceeded bound (totalCost_nonneg baseline)]
    simp only [known, knownBefore, true_imp_iff]
  · have unknown : costIncrease (aggregateCost baseline) (aggregateCost candidate) = none := by
      rw [not_and_or] at both
      rcases both with missing | missing
      · rw [aggregateCost_unknown missing]
        cases aggregateCost baseline <;> rfl
      · rw [aggregateCost_unknown missing]
        rfl
    rw [unknown, Ne, limitStatus_passed]
    constructor
    · intro _ limit _ known knownBefore
      exact absurd ⟨known, knownBefore⟩ both
    · rintro _ ⟨_, _, _, impossible, _⟩
      cases impossible

end Exceeded

/-- Over different case sets the mismatch is never surfaced; none of the drop rules
passes only where every limit is exceeded between the two sets. -/
theorem caseSets_surfaced_iff (environment : Environment) (specification : EvaluationSpecification)
    {candidate baseline : LocalRunResult} (own : ProducedBy environment specification candidate)
    (other : ProducedBy environment specification baseline) (nonempty : candidate.cases ≠ [])
    (nonemptyBaseline : baseline.cases ≠ []) :
    ∃ gate, compareAndDecide environment.runtime specification.val candidate baseline = .ok gate ∧
      ((¬ SameCases candidate baseline → NonePassed gate.rules ∧ Surfaced gate.rules) ↔
        SameCases candidate baseline) ∧
      (NonePassed gate.rules ↔ EveryLimitExceeded specification candidate baseline) := by
  have candidateOver := own.runOver nonempty
  have baselineOver := other.runOver nonemptyBaseline
  have compatible := own.compatible other
  obtain ⟨cases, values, comparison, after, before, _, _, afterRate, beforeRate, compared, compares,
    decided⟩ := compareAndDecide_returns environment.runtime candidateOver baselineOver
  cases afterRate.symm.trans (passRate_eq_passedShare candidateOver own.distinct)
  cases beforeRate.symm.trans (passRate_eq_passedShare baselineOver other.distinct)
  obtain ⟨_, _, _, _, _, _, _, _, ⟨_, ⟨dropBound, _⟩, _, latencyBound, costBound⟩, _⟩ :=
    specification.property
  have configuration : comparison.configurationMatch = true := by
    rw [compares.configuration, decide_eq_true compatible.configuration]
  have dataset : comparison.datasetMatch = true := by
    rw [compares.dataset, decide_eq_true compatible.dataset]
  obtain ⟨rateStatus, latencyStatus, costStatus⟩ := ruleStatus_compatible
    specification.val.policy environment.runtime values cases configuration dataset
  rw [compares.drop] at rateStatus
  rw [compares.latency] at latencyStatus
  rw [compares.cost] at costStatus
  refine ⟨_, decided, ⟨fun surfaced => ?_, fun same different => absurd same different⟩, ?_⟩
  · by_contra different
    have missing := (surfaced different).2 "maximum_pass_rate_drop" (by simp [dropRuleIds])
    rw [rateStatus, Option.some.injEq, limitStatus] at missing
    split at missing <;> cases missing
  · rw [nonePassed_iff rateStatus latencyStatus costStatus, rateLimit_exceeded dropBound,
      percentLimit_exceeded latencyBound (aggregateLatency_nonneg baseline),
      costLimit_exceeded costBound]
    exact ⟨fun all => ⟨all.1, all.2.1, all.2.2⟩,
      fun exceeded => ⟨exceeded.rate, exceeded.latency, exceeded.cost⟩⟩

theorem greetings_completed : (executeLocal Environment.plain Provider.ok ⟨_, twoGreetings_valid⟩
    neverCancelled ()).toOption.isSome = true := by decide

/-- The run of both cases. -/
def bothGreetings : LocalRunResult × Unit :=
  (executeLocal Environment.plain Provider.ok ⟨_, twoGreetings_valid⟩ neverCancelled
    ()).toOption.get greetings_completed

theorem stoppedGreetings_produced :
    ProducedBy Environment.plain ⟨_, twoGreetings_valid⟩ stoppedGreetings.1 :=
  ⟨Unit, Provider.ok, fun ordinal => ordinal = 1, (), (), rfl⟩

theorem bothGreetings_produced :
    ProducedBy Environment.plain ⟨_, twoGreetings_valid⟩ bothGreetings.1 :=
  ⟨Unit, Provider.ok, neverCancelled, (), (), rfl⟩

theorem greetings_nonempty : stoppedGreetings.1.cases ≠ [] ∧ bothGreetings.1.cases ≠ [] := by
  decide +kernel

/-- A run stopped after one of two cases passes the drop rule against the run of both. -/
theorem stoppedGreetings_passes :
    (ProducedBy Environment.plain ⟨_, twoGreetings_valid⟩ stoppedGreetings.1 ∧
      ProducedBy Environment.plain ⟨_, twoGreetings_valid⟩ bothGreetings.1) ∧
    (stoppedGreetings.1.cases ≠ [] ∧ bothGreetings.1.cases ≠ []) ∧
    ¬ SameCases stoppedGreetings.1 bothGreetings.1 ∧
    (compareAndDecide Runtime.ascii (plainDocument "Say ok" ["first", "second"] {})
        stoppedGreetings.1 bothGreetings.1).toOption.map
        (fun gate => ruleStatus gate.rules "maximum_pass_rate_drop") = some (some .passed) := by
  refine ⟨⟨stoppedGreetings_produced, bothGreetings_produced⟩, greetings_nonempty, ?_, ?_⟩
  · intro same
    exact absurd ((same "second").mpr (by decide +kernel)) (by decide +kernel)
  · decide +kernel

theorem stoppedGreetings_unsurfaced : ∃ gate,
    compareAndDecide Runtime.ascii (plainDocument "Say ok" ["first", "second"] {})
      stoppedGreetings.1 bothGreetings.1 = .ok gate ∧
    ((¬ SameCases stoppedGreetings.1 bothGreetings.1 → NonePassed gate.rules ∧ Surfaced gate.rules) ↔
      SameCases stoppedGreetings.1 bothGreetings.1) ∧
    (NonePassed gate.rules ↔
      EveryLimitExceeded ⟨_, twoGreetings_valid⟩ stoppedGreetings.1 bothGreetings.1) :=
  caseSets_surfaced_iff Environment.plain ⟨_, twoGreetings_valid⟩ stoppedGreetings_produced
    bothGreetings_produced greetings_nonempty.1 greetings_nonempty.2

end RegressionDetection.Policy
