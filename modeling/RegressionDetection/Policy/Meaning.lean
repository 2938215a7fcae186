import RegressionDetection.Execution.Evidence

/-! The gate in the words of the policy document: cases are classified by their
required evaluators, rates are taken over all cases, and missing evidence comes
before missing quality. -/

namespace RegressionDetection.Policy

open Foundation Specification Providers Evaluators Execution

section Wording

variable (specification : EvaluationSpecification)

/-- The evaluator of the name is required. -/
def Required (name : String) : Prop :=
  ∃ evaluator ∈ specification.val.evaluators, evaluator.name = name ∧ evaluator.required = true
deriving Decidable

/-- The case of the key is critical. -/
def Critical (key : String) : Prop :=
  ∃ case ∈ specification.val.cases, case.key = key ∧ case.critical = true
deriving Decidable

/-- The case counts as error. -/
def ErrorCase (result : CaseExecutionResult) : Prop :=
  result.providerResult.status = .error ∨
    ∃ evaluation ∈ result.evaluations, Required specification evaluation.evaluatorName ∧
      (evaluation.status = .errored ∨ evaluation.status = .notApplicable)
deriving Decidable

/-- The case counts as failed. -/
def FailedCase (result : CaseExecutionResult) : Prop :=
  ¬ ErrorCase specification result ∧
    ∃ evaluation ∈ result.evaluations, Required specification evaluation.evaluatorName ∧
      evaluation.status = .failed
deriving Decidable

/-- The case counts as passed. -/
def PassedCase (result : CaseExecutionResult) : Prop :=
  ¬ ErrorCase specification result ∧ ¬ FailedCase specification result
deriving Decidable

/-- The share of the results that meet a condition. -/
def share (p : CaseExecutionResult → Bool) (run : LocalRunResult) : ℚ :=
  (run.cases.countP p : ℚ) / run.cases.length

/-- Too many errors, or a critical case without evidence. -/
def EvidenceMissing (run : LocalRunResult) : Prop :=
  specification.val.policy.maximumErrorRate <
      share (fun result => decide (ErrorCase specification result)) run ∨
    ∃ result ∈ run.cases, Critical specification result.caseKey ∧ ErrorCase specification result
deriving Decidable

/-- Too few passes, or a critical case that failed and must not. -/
def QualityMissing (run : LocalRunResult) : Prop :=
  share (fun result => decide (PassedCase specification result)) run <
      specification.val.policy.minimumPassRate ∨
    specification.val.policy.criticalCasesMustPass = true ∧
      ∃ result ∈ run.cases, Critical specification result.caseKey ∧ FailedCase specification result
deriving Decidable

/-- The two results differ in the evaluations of optional evaluators only. -/
structure OptionalDiffer (first second : CaseExecutionResult) : Prop where
  caseKey : first.caseKey = second.caseKey
  providerResult : first.providerResult = second.providerResult
  evaluations : List.Forall₂
    (fun one other => one.evaluatorName = other.evaluatorName ∧
      (Required specification one.evaluatorName → one.status = other.status))
    first.evaluations second.evaluations

end Wording

section Classification

variable {specification : EvaluationSpecification}

theorem getItem_required {name : String} {flag : Bool}
    (found : getItem (evaluatorRequired specification.val) name = .ok flag) :
    flag = true ↔ Required specification name := by
  have listed := mem_of_lookup (getItem_eq_ok.mp found)
  constructor
  · rintro rfl
    obtain ⟨evaluator, defined, same⟩ := List.mem_map.mp listed
    exact ⟨evaluator, defined, congrArg Prod.fst same, congrArg Prod.snd same⟩
  · rintro ⟨evaluator, defined, rfl, required⟩
    have distinct : ((evaluatorRequired specification.val).map Prod.fst).Nodup := by
      simpa [evaluatorRequired, Function.comp_def] using
        specification.property.references.evaluatorNames
    have entry : (evaluator.name, true) ∈ evaluatorRequired specification.val :=
      List.mem_map.mpr ⟨evaluator, defined, by rw [required]⟩
    exact Except.ok.inj (found.symm.trans (getItem_of_mem distinct entry))

theorem isCritical_iff {key : String} :
    isCritical specification.val key = true ↔ Critical specification key := by
  have distinct : ((caseDefinitions specification.val).map Prod.fst).Nodup := by
    simpa [caseDefinitions, Function.comp_def] using specification.property.references.caseKeys
  unfold isCritical
  constructor
  · intro critical
    cases found : lookup (caseDefinitions specification.val) key with
    | none => simp [found] at critical
    | some case =>
      obtain ⟨other, declared, same⟩ := List.mem_map.mp (mem_of_lookup found)
      obtain ⟨rfl, rfl⟩ := Prod.mk.inj same
      exact ⟨other, declared, rfl, by simpa [found] using critical⟩
  · rintro ⟨case, declared, rfl, critical⟩
    have entry : (case.key, case) ∈ caseDefinitions specification.val :=
      List.mem_map.mpr ⟨case, declared, rfl⟩
    rw [lookup_of_mem distinct entry]
    exact critical

/-- The statuses that decide a case are those of its required evaluators. -/
theorem mem_requiredStatuses {evaluations : List EvaluationResult} {statuses : List EvaluationStatus}
    (returned : requiredStatuses specification.val evaluations = .ok statuses)
    {status : EvaluationStatus} :
    status ∈ statuses ↔ ∃ evaluation ∈ evaluations,
      Required specification evaluation.evaluatorName ∧ evaluation.status = status := by
  obtain ⟨flagged, mapped, made⟩ := bind_eq_ok.mp returned
  cases made
  constructor
  · intro member
    obtain ⟨⟨flag, _⟩, kept, rfl⟩ := List.mem_map.mp member
    obtain ⟨listed, required⟩ := List.mem_filter.mp kept
    obtain ⟨evaluation, present, applied⟩ := exists_of_mem_mapM mapped listed
    obtain ⟨other, found, same⟩ := bind_eq_ok.mp applied
    cases same
    exact ⟨evaluation, present, (getItem_required found).mp required, rfl⟩
  · rintro ⟨evaluation, present, required, rfl⟩
    obtain ⟨pair, applied, listed⟩ := image_of_mem_mapM mapped present
    obtain ⟨flag, found, same⟩ := bind_eq_ok.mp applied
    cases same
    exact List.mem_map.mpr ⟨_, List.mem_filter.mpr ⟨listed, (getItem_required found).mpr required⟩, rfl⟩

/-- The derived outcome is the document's classification. -/
theorem caseSummary_classified {result : CaseExecutionResult} {summary : CaseSummary}
    (summarised : caseSummary specification.val result = .ok summary) :
    (summary.outcome = .error ↔ ErrorCase specification result) ∧
      (summary.outcome = .failed ↔ FailedCase specification result) ∧
      (summary.outcome = .passed ↔ PassedCase specification result) := by
  obtain ⟨required, returned, rest⟩ := bind_eq_ok.mp summarised
  obtain ⟨definition, _, made⟩ := bind_eq_ok.mp rest
  cases made
  have error : ErrorCase specification result ↔ result.providerResult.status = .error ∨
      .errored ∈ required ∨ .notApplicable ∈ required := by
    rw [mem_requiredStatuses returned, mem_requiredStatuses returned]
    unfold ErrorCase
    refine or_congr Iff.rfl ⟨?_, ?_⟩
    · rintro ⟨evaluation, present, needed, status | status⟩
      · exact .inl ⟨evaluation, present, needed, status⟩
      · exact .inr ⟨evaluation, present, needed, status⟩
    · rintro (⟨evaluation, present, needed, status⟩ | ⟨evaluation, present, needed, status⟩)
      · exact ⟨evaluation, present, needed, .inl status⟩
      · exact ⟨evaluation, present, needed, .inr status⟩
  have failed : FailedCase specification result ↔
      ¬ ErrorCase specification result ∧ .failed ∈ required := by
    rw [mem_requiredStatuses returned]
    rfl
  simp only [PassedCase, failed, error, deriveOutcome]
  split
  · rename_i missing
    simp [missing]
  · rename_i present
    by_cases quality : EvaluationStatus.failed ∈ required <;> simp [present, quality]

end Classification

section Aggregation

variable {specification : EvaluationSpecification} {run : LocalRunResult} {cases : List CaseSummary}

/-- The gate decision once the summaries and the metrics are there. -/
theorem aggregateAndDecide_eq (runtime : Runtime) {values : RunMetrics}
    (summarised : caseSummaries specification.val run = .ok cases)
    (aggregated : metrics run cases = .ok values) :
    aggregateAndDecide runtime specification.val run =
      .ok { outcome := decideOutcome (rules specification.val.policy runtime values cases none)
            metrics := values, cases
            rules := rules specification.val.policy runtime values cases none } :=
  bind_eq_ok.mpr ⟨cases, summarised, bind_eq_ok.mpr ⟨values, aggregated, rfl⟩⟩

/-- Counting summaries with an outcome is counting results of that class. -/
theorem countOutcome_classified {outcome : CaseOutcome} {p : CaseExecutionResult → Prop}
    [DecidablePred p] (summarised : caseSummaries specification.val run = .ok cases)
    (classified : ∀ result summary, caseSummary specification.val result = .ok summary →
      (summary.outcome = outcome ↔ p result)) :
    countOutcome outcome cases = run.cases.countP (fun result => decide (p result)) := by
  have flags : cases.map (fun summary => decide (summary.outcome = outcome)) =
      run.cases.map (fun result => decide (p result)) :=
    map_eq_of_mapM summarised fun result summary own =>
      decide_eq_decide.mpr (classified result summary own)
  have counted := congrArg (List.countP id) flags
  rwa [List.countP_map, List.countP_map] at counted

/-- A critical summary with an outcome is a critical result of that class. -/
theorem criticalCases_classified {outcome : CaseOutcome} {p : CaseExecutionResult → Prop}
    (summarised : caseSummaries specification.val run = .ok cases)
    (classified : ∀ result summary, caseSummary specification.val result = .ok summary →
      (summary.outcome = outcome ↔ p result)) :
    criticalCases outcome cases = [] ↔
      ¬ ∃ result ∈ run.cases, Critical specification result.caseKey ∧ p result := by
  rw [criticalCases_eq_nil]
  constructor
  · rintro clean ⟨result, member, critical, own⟩
    obtain ⟨summary, made, listed⟩ := image_of_mem_mapM summarised member
    have flagged := (caseSummary_ok made).2.trans (isCritical_iff.mpr critical)
    exact clean summary listed flagged ((classified result summary made).mpr own)
  · intro clean summary listed critical same
    obtain ⟨result, member, made⟩ := exists_of_mem_mapM summarised listed
    have flagged := (caseSummary_ok made).2.symm.trans critical
    exact clean ⟨result, member, isCritical_iff.mp flagged, (classified result summary made).mp same⟩

theorem caseSummaries_length (summarised : caseSummaries specification.val run = .ok cases) :
    cases.length = run.cases.length := by
  simpa using congrArg List.length (caseSummaries_aligned summarised).1

/-- The outcome of the gate, worded over the results. -/
theorem gate_worded (runtime : Runtime) {values : RunMetrics}
    (summarised : caseSummaries specification.val run = .ok cases)
    (aggregated : metrics run cases = .ok values) :
    (decideOutcome (rules specification.val.policy runtime values cases none) = .error ↔
        EvidenceMissing specification run) ∧
      (decideOutcome (rules specification.val.policy runtime values cases none) = .fail ↔
        ¬ EvidenceMissing specification run ∧ QualityMissing specification run) ∧
      (decideOutcome (rules specification.val.policy runtime values cases none) = .pass ↔
        ¬ EvidenceMissing specification run ∧ ¬ QualityMissing specification run) := by
  obtain ⟨passRate, errorRate, failures, errors⟩ := metrics_ok aggregated
  have errorCount := countOutcome_classified summarised fun result summary made =>
    (caseSummary_classified made).1
  have passCount := countOutcome_classified summarised fun result summary made =>
    (caseSummary_classified made).2.2
  have criticalErrors := criticalCases_classified summarised fun result summary made =>
    (caseSummary_classified made).1
  have criticalFailures := criticalCases_classified summarised fun result summary made =>
    (caseSummary_classified made).2.1
  rw [errorCount, caseSummaries_length summarised] at errorRate
  rw [passCount, caseSummaries_length summarised] at passRate
  rw [← failures] at criticalFailures
  rw [← errors] at criticalErrors
  have evidence : EvidenceMissing specification run ↔
      ¬ (values.errorRate ≤ specification.val.policy.maximumErrorRate ∧
        values.criticalErrorCases = []) := by
    rw [criticalErrors, errorRate, not_and_or, not_le, not_not]
    rfl
  have quality : QualityMissing specification run ↔
      ¬ (specification.val.policy.minimumPassRate ≤ values.passRate ∧
        (specification.val.policy.criticalCasesMustPass = true → values.criticalFailedCases = [])) := by
    rw [criticalFailures, passRate, not_and_or, not_le, Classical.not_imp, not_not]
    rfl
  rw [decideOutcome_rules, evidence, quality]
  split
  · rename_i supported
    split <;> simp_all
  · rename_i unsupported
    simp_all

end Aggregation

section OptionalEvaluators

variable {specification : EvaluationSpecification}

/-- What is said of the statuses of required evaluators is said of both results. -/
theorem OptionalDiffer.required {first second : CaseExecutionResult}
    (differ : OptionalDiffer specification first second) (p : EvaluationStatus → Prop) :
    (∃ evaluation ∈ first.evaluations,
        Required specification evaluation.evaluatorName ∧ p evaluation.status) ↔
      ∃ evaluation ∈ second.evaluations,
        Required specification evaluation.evaluatorName ∧ p evaluation.status := by
  have pairs := differ.evaluations
  clear differ
  generalize first.evaluations = ones at pairs ⊢
  generalize second.evaluations = others at pairs ⊢
  induction pairs with
  | nil => simp
  | cons own _ ih =>
    obtain ⟨name, status⟩ := own
    simp only [List.mem_cons, exists_eq_or_imp, ih]
    rw [← name]
    refine or_congr (and_congr_right fun required => ?_) Iff.rfl
    rw [status required]

theorem OptionalDiffer.errorCase {first second : CaseExecutionResult}
    (differ : OptionalDiffer specification first second) :
    ErrorCase specification first ↔ ErrorCase specification second := by
  unfold ErrorCase
  rw [differ.providerResult, differ.required fun status => status = .errored ∨ status = .notApplicable]

theorem OptionalDiffer.failedCase {first second : CaseExecutionResult}
    (differ : OptionalDiffer specification first second) :
    FailedCase specification first ↔ FailedCase specification second := by
  unfold FailedCase
  rw [differ.errorCase, differ.required fun status => status = .failed]

theorem OptionalDiffer.belongs {first second : CaseExecutionResult}
    (differ : OptionalDiffer specification first second) (belongs : Belongs specification first) :
    Belongs specification second := by
  refine ⟨differ.caseKey ▸ belongs.case, ?_⟩
  have known := belongs.evaluators
  have pairs := differ.evaluations
  clear differ belongs
  generalize first.evaluations = ones at known pairs
  generalize second.evaluations = others at pairs ⊢
  induction pairs with
  | nil => simp
  | cons own _ ih =>
    intro evaluation member
    rcases List.mem_cons.mp member with rfl | later
    · exact own.1 ▸ known _ List.mem_cons_self
    · exact ih (fun one listed => known one (List.mem_cons_of_mem _ listed)) evaluation later

/-- What the gate reads of a summary. -/
structure SameVerdict (first second : CaseSummary) : Prop where
  caseKey : first.caseKey = second.caseKey
  critical : first.critical = second.critical
  outcome : first.outcome = second.outcome

theorem OptionalDiffer.caseSummary {first second : CaseExecutionResult} {one other : CaseSummary}
    (differ : OptionalDiffer specification first second)
    (made : caseSummary specification.val first = .ok one)
    (again : caseSummary specification.val second = .ok other) : SameVerdict one other := by
  obtain ⟨key, critical⟩ := caseSummary_ok made
  obtain ⟨otherKey, otherCritical⟩ := caseSummary_ok again
  refine ⟨by rw [key, otherKey, differ.caseKey], by rw [critical, otherCritical, differ.caseKey], ?_⟩
  obtain ⟨error, failed, _⟩ := caseSummary_classified made
  obtain ⟨otherError, otherFailed, _⟩ := caseSummary_classified again
  rw [differ.errorCase, ← otherError] at error
  rw [differ.failedCase, ← otherFailed] at failed
  cases same : one.outcome <;> cases different : other.outcome <;> simp_all

/-- Runs that differ in optional evaluators have summaries of the same verdicts. -/
theorem caseSummaries_optional {run other : LocalRunResult} {cases : List CaseSummary}
    (differ : List.Forall₂ (OptionalDiffer specification) run.cases other.cases)
    (belongs : ∀ result ∈ run.cases, Belongs specification result)
    (summarised : caseSummaries specification.val run = .ok cases) :
    ∃ others, caseSummaries specification.val other = .ok others ∧
      List.Forall₂ SameVerdict cases others := by
  have pairs := mapM_eq_ok.mp summarised
  clear summarised
  unfold caseSummaries
  generalize run.cases = results at differ belongs pairs
  generalize other.cases = changed at differ ⊢
  induction differ generalizing cases with
  | nil =>
    cases pairs
    exact ⟨[], rfl, .nil⟩
  | @cons first second _ _ own _ ih =>
    cases pairs with
    | cons made rest =>
      obtain ⟨others, mapped, same⟩ := ih
        (fun result member => belongs result (List.mem_cons_of_mem _ member)) rest
      obtain ⟨summary, again⟩ := caseSummary_returns
        (own.belongs (belongs first List.mem_cons_self))
      exact ⟨summary :: others, mapM_eq_ok.mpr (.cons again (mapM_eq_ok.mp mapped)),
        .cons (own.caseSummary made again) same⟩

theorem countOutcome_same {cases others : List CaseSummary}
    (same : List.Forall₂ SameVerdict cases others) (outcome : CaseOutcome) :
    countOutcome outcome cases = countOutcome outcome others := by
  induction same with
  | nil => rfl
  | cons own _ ih =>
    unfold countOutcome at ih ⊢
    rw [List.countP_cons, List.countP_cons, ih, own.outcome]

theorem keysWhere_same {cases others : List CaseSummary}
    (same : List.Forall₂ SameVerdict cases others) (p : Bool → CaseOutcome → Bool) :
    (cases.filter fun case => p case.critical case.outcome).map CaseSummary.caseKey =
      (others.filter fun case => p case.critical case.outcome).map CaseSummary.caseKey := by
  induction same with
  | nil => rfl
  | cons own _ ih =>
    rw [List.filter_cons, List.filter_cons, own.critical, own.outcome]
    split
    · rw [List.map_cons, List.map_cons, ih, own.caseKey]
    · exact ih

/-- The metrics read the verdicts and the provider results only. -/
theorem metrics_same {run other : LocalRunResult} {cases others : List CaseSummary}
    (same : List.Forall₂ SameVerdict cases others)
    (provider : run.cases.map CaseExecutionResult.providerResult =
      other.cases.map CaseExecutionResult.providerResult) :
    metrics run cases = metrics other others := by
  have sized : cases.length = others.length := same.length_eq
  have critical (outcome : CaseOutcome) : criticalCases outcome cases = criticalCases outcome others :=
    keysWhere_same same fun critical found => critical && decide (found = outcome)
  have latency : totalLatency run = totalLatency other := by
    have mapped := congrArg (List.map fun result : InferenceResult => result.latencyMs) provider
    rw [List.map_map, List.map_map] at mapped
    exact congrArg List.sum mapped
  have usage : usages run = usages other := by
    have mapped := congrArg (List.filterMap fun result : InferenceResult => result.usage) provider
    rw [List.filterMap_map, List.filterMap_map] at mapped
    exact mapped
  have unknown : run.cases.countP (fun result => result.providerResult.usage.isNone) =
      other.cases.countP (fun result => result.providerResult.usage.isNone) := by
    have mapped := congrArg (List.countP fun result : InferenceResult => result.usage.isNone) provider
    rw [List.countP_map, List.countP_map] at mapped
    exact mapped
  unfold metrics
  by_cases empty : cases.length = 0
  · rw [dif_pos empty, dif_pos (sized ▸ empty)]
  · rw [dif_neg empty, dif_neg (sized ▸ empty)]
    apply congrArg Except.ok
    apply RunMetrics.fields_injective
    simp only [sized, countOutcome_same same, critical, latency, usage, unknown]

theorem rules_same {policy : RegressionPolicy} {runtime : Runtime} {values : RunMetrics}
    {cases others : List CaseSummary} (same : List.Forall₂ SameVerdict cases others) :
    rules policy runtime values cases none = rules policy runtime values others none := by
  have affected := keysWhere_same same fun _ outcome => decide (outcome = .error)
  simp only [rules, errorRateRule, affected]

end OptionalEvaluators

/-- The gate means what the policy document says, and optional evaluators have no part in it. -/
theorem aggregateAndDecide_means (runtime : Runtime) (specification : EvaluationSpecification)
    {run : LocalRunResult} (nonempty : run.cases ≠ [])
    (belongs : ∀ result ∈ run.cases, Belongs specification result) :
    ∃ gate, aggregateAndDecide runtime specification.val run = .ok gate ∧
      (gate.outcome = .error ↔ EvidenceMissing specification run) ∧
      (gate.outcome = .fail ↔
        ¬ EvidenceMissing specification run ∧ QualityMissing specification run) ∧
      (gate.outcome = .pass ↔
        ¬ EvidenceMissing specification run ∧ ¬ QualityMissing specification run) ∧
      ∀ other : LocalRunResult,
        List.Forall₂ (OptionalDiffer specification) run.cases other.cases →
        ∃ otherGate, aggregateAndDecide runtime specification.val other = .ok otherGate ∧
          otherGate.outcome = gate.outcome ∧ otherGate.rules = gate.rules ∧
          otherGate.metrics = gate.metrics := by
  obtain ⟨cases, summarised⟩ := caseSummaries_returns belongs
  obtain ⟨values, aggregated⟩ := metrics_returns nonempty summarised
  obtain ⟨error, fail, pass⟩ := gate_worded runtime summarised aggregated
  refine ⟨_, aggregateAndDecide_eq runtime summarised aggregated, error, fail, pass, ?_⟩
  intro other differ
  obtain ⟨others, again, same⟩ := caseSummaries_optional differ belongs summarised
  have provider : run.cases.map CaseExecutionResult.providerResult =
      other.cases.map CaseExecutionResult.providerResult := by
    clear summarised again aggregated error fail pass nonempty belongs
    generalize run.cases = results at differ
    generalize other.cases = changed at differ
    induction differ with
    | nil => rfl
    | cons own _ ih => rw [List.map_cons, List.map_cons, ih, own.providerResult]
  have also := (metrics_same same provider).symm.trans aggregated
  refine ⟨_, aggregateAndDecide_eq runtime again also, ?_, (rules_same same).symm, rfl⟩
  simp only [rules_same same]

/-- A run of one passing case passes the gate. -/
theorem gradedRun_passes : ∃ gate,
    aggregateAndDecide Runtime.ascii (plainDocument "Say ok" ["first"] {}) (gradedRun true) = .ok gate ∧
      gate.outcome = .pass := by
  have belongs : ∀ result ∈ (gradedRun true).cases,
      Belongs ⟨plainDocument "Say ok" ["first"] {}, greeting_valid⟩ result := by
    intro result member
    obtain rfl := List.mem_singleton.mp member
    exact ⟨by decide, by decide⟩
  have nonempty : (gradedRun true).cases ≠ [] := by decide
  obtain ⟨gate, decided, _, _, pass, _⟩ :=
    aggregateAndDecide_means Runtime.ascii ⟨_, greeting_valid⟩ nonempty belongs
  exact ⟨gate, decided, pass.mpr (by decide +kernel)⟩

end RegressionDetection.Policy
