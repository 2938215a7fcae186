import RegressionDetection.Policy.Comparison
import RegressionDetection.Policy.Meaning

/-! The comparison and the gate classify cases alike: the search by key and the
single pass give the same outcomes and the same pass rate. -/

namespace RegressionDetection.Policy

open Foundation Specification Providers Evaluators Execution

/-- A nonempty run over the cases of the specification. -/
structure RunOver (specification : EvaluationSpecification) (run : LocalRunResult) : Prop where
  nonempty : run.cases ≠ []
  belongs : ∀ result ∈ run.cases, Belongs specification result

section Outcomes

variable {specification : EvaluationSpecification} {run : LocalRunResult}

/-- The two copies of the classification agree. -/
theorem foundOutcome_eq (status : ProviderStatus) (required : List EvaluationStatus) :
    foundOutcome status required = deriveOutcome status required := by
  have missing : required.any (fun s => s = .errored ∨ s = .notApplicable) = true ↔
      .errored ∈ required ∨ .notApplicable ∈ required := by
    rw [List.any_eq_true]
    constructor
    · rintro ⟨found, member, kind⟩
      rcases of_decide_eq_true kind with rfl | rfl
      · exact .inl member
      · exact .inr member
    · rintro (member | member)
      · exact ⟨_, member, by simp⟩
      · exact ⟨_, member, by simp⟩
  have failing : required.any (fun s => s = .failed) = true ↔ .failed ∈ required := by
    rw [List.any_eq_true]
    constructor
    · rintro ⟨found, member, kind⟩
      exact of_decide_eq_true kind ▸ member
    · intro member
      exact ⟨_, member, by simp⟩
  unfold foundOutcome deriveOutcome
  simp only [missing, failing]

/-- The search finds the first result under the key. -/
theorem searchOutcome_returns {caseKey : String} {results : List CaseExecutionResult}
    (belongs : ∀ result ∈ results, Belongs specification result)
    (present : caseKey ∈ results.map CaseExecutionResult.caseKey) :
    ∃ outcome, searchOutcome specification.val caseKey results = .ok (some outcome) := by
  induction results with
  | nil => simp at present
  | cons first rest ih =>
    unfold searchOutcome
    by_cases own : first.caseKey = caseKey
    · obtain ⟨summary, made⟩ := caseSummary_returns (belongs first List.mem_cons_self)
      obtain ⟨required, returned, _⟩ := bind_eq_ok.mp made
      rw [if_neg (not_not.mpr own)]
      exact ⟨_, bind_eq_ok.mpr ⟨required, returned, rfl⟩⟩
    · rw [if_pos own]
      refine ih (fun result later => belongs result (List.mem_cons_of_mem _ later)) ?_
      rw [List.map_cons, List.mem_cons] at present
      exact present.resolve_left (Ne.symm own)

/-- Under distinct keys the search finds the outcome of the summary. -/
theorem searchOutcome_agrees {result : CaseExecutionResult} {summary : CaseSummary}
    {results : List CaseExecutionResult}
    (distinct : (results.map CaseExecutionResult.caseKey).Nodup) (member : result ∈ results)
    (made : caseSummary specification.val result = .ok summary) :
    searchOutcome specification.val result.caseKey results = .ok (some summary.outcome) := by
  induction results with
  | nil => cases member
  | cons first rest ih =>
    obtain ⟨fresh, others⟩ := List.nodup_cons.mp distinct
    unfold searchOutcome
    rcases List.mem_cons.mp member with rfl | later
    · obtain ⟨required, returned, rest⟩ := bind_eq_ok.mp made
      obtain ⟨definition, _, same⟩ := bind_eq_ok.mp rest
      cases same
      rw [if_neg (by simp)]
      simp only [foundOutcome_eq]
      exact bind_eq_ok.mpr ⟨required, returned, rfl⟩
    · have other : first.caseKey ≠ result.caseKey := by
        intro same
        exact fresh (same ▸ List.mem_map.mpr ⟨result, later, rfl⟩)
      rw [if_pos other]
      exact ih others later

/-- Search by key and single pass give each result the same outcome. -/
theorem caseOutcomes_agree {cases : List CaseSummary}
    (distinct : (run.cases.map CaseExecutionResult.caseKey).Nodup)
    (summarised : caseSummaries specification.val run = .ok cases) :
    List.Forall₂ (fun result summary =>
      caseOutcome run result.caseKey specification.val = .ok (some summary.outcome)) run.cases cases := by
  have pairs : List.Forall₂ (fun result summary => result ∈ run.cases ∧
      caseSummary specification.val result = .ok summary) run.cases cases :=
    (List.forall₂_and_left _ _).mpr ⟨fun _ member => member, mapM_eq_ok.mp summarised⟩
  exact pairs.imp fun result summary own => searchOutcome_agrees distinct own.1 own.2

/-- What the pass rate is computed from, once every outcome is found. -/
theorem passRate_eq {outcomes : List CaseOutcome} (nonempty : run.cases ≠ [])
    (found : run.cases.mapM (fun result => caseOutcome run result.caseKey specification.val) =
      .ok (outcomes.map some)) :
    passRate run specification.val =
      .ok (some ((outcomes.countP (fun outcome => outcome = .passed) : ℚ) / outcomes.length)) := by
  have kept : (outcomes.map some).filterMap id = outcomes := by
    rw [List.filterMap_map]
    exact List.filterMap_some
  have sized := (mapM_eq_ok.mp found).length_eq
  rw [List.length_map] at sized
  have present : outcomes ≠ [] := by
    rintro rfl
    exact nonempty (List.length_eq_zero_iff.mp sized)
  rw [passRate, if_neg nonempty]
  refine bind_eq_ok.mpr ⟨_, found, ?_⟩
  rw [kept, if_neg present]
  rfl

/-- A nonempty run of the specification has a pass rate. -/
theorem RunOver.passRate_returns (own : RunOver specification run) :
    ∃ rate, passRate run specification.val = .ok (some rate) ∧ IsRatio rate := by
  have each : ∀ result ∈ run.cases, ∃ outcome,
      caseOutcome run result.caseKey specification.val = .ok (some outcome) :=
    fun result member => searchOutcome_returns own.belongs (List.mem_map.mpr ⟨result, member, rfl⟩)
  obtain ⟨outcomes, mapped⟩ := mapM_returns_map some each
  exact ⟨_, passRate_eq own.nonempty mapped, isRatio_div List.countP_le_length⟩

/-- Under distinct keys the pass rate is that of the summaries. -/
theorem passRate_agrees {cases : List CaseSummary} {values : RunMetrics}
    (distinct : (run.cases.map CaseExecutionResult.caseKey).Nodup) (nonempty : run.cases ≠ [])
    (summarised : caseSummaries specification.val run = .ok cases)
    (aggregated : metrics run cases = .ok values) :
    passRate run specification.val = .ok (some values.passRate) := by
  have found : run.cases.mapM (fun result => caseOutcome run result.caseKey specification.val) =
      .ok ((cases.map CaseSummary.outcome).map some) := by
    rw [mapM_eq_ok, List.map_map, List.forall₂_map_right_iff]
    exact caseOutcomes_agree distinct summarised
  rw [passRate_eq nonempty found, (metrics_ok aggregated).1, List.countP_map, List.length_map]
  rfl

end Outcomes

section Comparison

variable {specification : EvaluationSpecification} {candidate baseline : LocalRunResult}

/-- The fields the drop rules read, of a comparison of two runs with their rates. -/
structure Compares (candidate baseline : LocalRunResult) (after before : ℚ)
    (comparison : BaselineComparison) : Prop where
  configuration : comparison.configurationMatch =
    decide (candidate.configurationHash = baseline.configurationHash)
  dataset : comparison.datasetMatch = decide (candidate.datasetHash = baseline.datasetHash)
  rate : comparison.passRateCandidate = some after
  drop : comparison.passRateDrop = some (max (before - after) 0)
  latency : comparison.latencyIncreasePct =
    max (pctChange (aggregateLatency baseline) (aggregateLatency candidate)) 0
  cost : comparison.costIncreasePct = costIncrease (aggregateCost baseline) (aggregateCost candidate)

theorem isRatio_drop {before after : ℚ} (first : IsRatio before) (second : IsRatio after) :
    IsRatio (max (before - after) 0) := by
  refine ⟨le_max_right _ _, max_le ?_ zero_le_one⟩
  simpa using sub_le_sub first.2 second.1

/-- Runs with pass rates are compared. -/
theorem compareCandidateToBaseline_returns {after before : ℚ}
    (candidateRate : passRate candidate specification.val = .ok (some after))
    (baselineRate : passRate baseline specification.val = .ok (some before))
    (afterRatio : IsRatio after) (beforeRatio : IsRatio before) :
    ∃ comparison, compareCandidateToBaseline candidate baseline specification.val = .ok comparison ∧
      Compares candidate baseline after before comparison := by
  have ratio : ∀ drop ∈ rateDrop (some before) (some after), IsRatio drop := by
    intro drop computed
    cases computed
    exact isRatio_drop beforeRatio afterRatio
  unfold compareCandidateToBaseline
  simp only [candidateRate, baselineRate, bind, Except.bind]
  rw [dif_pos ratio]
  exact ⟨_, rfl, rfl, rfl, rfl, rfl, rfl, rfl⟩

/-- Two runs of the specification get a gate decision with a comparison. -/
theorem compareAndDecide_returns (runtime : Runtime) (own : RunOver specification candidate)
    (other : RunOver specification baseline) :
    ∃ cases values comparison after before,
      caseSummaries specification.val candidate = .ok cases ∧
      metrics candidate cases = .ok values ∧
      passRate candidate specification.val = .ok (some after) ∧
      passRate baseline specification.val = .ok (some before) ∧
      compareCandidateToBaseline candidate baseline specification.val = .ok comparison ∧
      Compares candidate baseline after before comparison ∧
      compareAndDecide runtime specification.val candidate baseline =
        .ok { outcome := decideOutcome
                (rules specification.val.policy runtime values cases (some comparison))
              metrics := values, cases
              rules := rules specification.val.policy runtime values cases (some comparison) } := by
  obtain ⟨cases, summarised⟩ := caseSummaries_returns own.belongs
  obtain ⟨values, aggregated⟩ := metrics_returns own.nonempty summarised
  obtain ⟨after, candidateRate, afterRatio⟩ := own.passRate_returns
  obtain ⟨before, baselineRate, beforeRatio⟩ := other.passRate_returns
  obtain ⟨comparison, compared, compares⟩ :=
    compareCandidateToBaseline_returns candidateRate baselineRate afterRatio beforeRatio
  exact ⟨cases, values, comparison, after, before, summarised, aggregated, candidateRate,
    baselineRate, compared, compares, bind_eq_ok.mpr ⟨comparison, compared,
      bind_eq_ok.mpr ⟨cases, summarised, bind_eq_ok.mpr ⟨values, aggregated, rfl⟩⟩⟩⟩

end Comparison

/-- The comparison judges the outcomes and the pass rate that the gate does, and its
rate drop is a ratio. -/
theorem comparison_agrees (runtime : Runtime) (specification : EvaluationSpecification)
    {candidate baseline : LocalRunResult} (own : RunOver specification candidate)
    (other : RunOver specification baseline)
    (distinct : (candidate.cases.map CaseExecutionResult.caseKey).Nodup) :
    ∃ cases comparison gate drop, caseSummaries specification.val candidate = .ok cases ∧
      List.Forall₂ (fun result summary =>
        caseOutcome candidate result.caseKey specification.val = .ok (some summary.outcome))
        candidate.cases cases ∧
      compareCandidateToBaseline candidate baseline specification.val = .ok comparison ∧
      compareAndDecide runtime specification.val candidate baseline = .ok gate ∧
      gate.cases = cases ∧
      gate.rules = rules specification.val.policy runtime gate.metrics cases (some comparison) ∧
      comparison.passRateCandidate = some gate.metrics.passRate ∧
      comparison.passRateDrop = some drop ∧ IsRatio drop := by
  obtain ⟨cases, values, comparison, after, before, summarised, aggregated, rate, _, compared,
    compares, decided⟩ := compareAndDecide_returns runtime own other
  have same := passRate_agrees distinct own.nonempty summarised aggregated
  cases rate.symm.trans same
  exact ⟨cases, comparison, _, _, summarised, caseOutcomes_agree distinct summarised, compared,
    decided, rfl, rfl, compares.rate, compares.drop, comparison.dropRatio _ compares.drop⟩

theorem gradedRun_over (passed : Bool) :
    RunOver ⟨plainDocument "Say ok" ["first"] {}, greeting_valid⟩ (gradedRun passed) where
  nonempty := by simp [gradedRun]
  belongs := by
    intro result member
    obtain rfl := List.mem_singleton.mp member
    exact ⟨by cases passed <;> decide, by cases passed <;> decide⟩

/-- A failing candidate against a passing baseline. -/
theorem gradedRun_agrees : ∃ cases comparison gate drop,
    caseSummaries (plainDocument "Say ok" ["first"] {}) (gradedRun false) = .ok cases ∧
    List.Forall₂ (fun result summary =>
      caseOutcome (gradedRun false) result.caseKey (plainDocument "Say ok" ["first"] {}) =
        .ok (some summary.outcome)) (gradedRun false).cases cases ∧
    compareCandidateToBaseline (gradedRun false) (gradedRun true)
      (plainDocument "Say ok" ["first"] {}) = .ok comparison ∧
    compareAndDecide Runtime.ascii (plainDocument "Say ok" ["first"] {}) (gradedRun false)
      (gradedRun true) = .ok gate ∧
    gate.cases = cases ∧
    gate.rules = rules {} Runtime.ascii gate.metrics cases (some comparison) ∧
    comparison.passRateCandidate = some gate.metrics.passRate ∧
    comparison.passRateDrop = some drop ∧ IsRatio drop :=
  comparison_agrees Runtime.ascii ⟨plainDocument "Say ok" ["first"] {}, greeting_valid⟩
    (gradedRun_over false) (gradedRun_over true) (by decide)

end RegressionDetection.Policy
