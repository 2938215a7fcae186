import RegressionDetection.Errors
import RegressionDetection.Foundation.Fallible
import RegressionDetection.Specification.Models

/-! Preflight enforcement of the execution limits. -/

namespace RegressionDetection.Execution

open Foundation Specification

/-- The case-count limit of `preflight_check`. -/
def checkCaseCount (limits : ExecutionLimits) (caseCount : Nat) : Except PyError Unit :=
  match limits.maxCases with
  | none => .ok ()
  | some limit =>
    if caseCount > limit then
      .error (.limitExceeded "max_cases_exceeded"
        ("Run has " ++ toString caseCount ++ " cases but the limit is " ++ toString limit))
    else .ok ()

/-- `(limits.estimated_cost_per_case or 0.0) * case_count`. -/
def estimatedCost (limits : ExecutionLimits) (caseCount : Nat) : ℚ :=
  limits.estimatedCostPerCase.getD 0 * caseCount

/-- The estimated-cost limit of `preflight_check`. -/
def checkEstimatedCost (runtime : Runtime) (limits : ExecutionLimits) (caseCount : Nat) :
    Except PyError Unit :=
  match limits.maxEstimatedCost with
  | none => .ok ()
  | some limit =>
    if estimatedCost limits caseCount > limit then
      .error (.limitExceeded "max_estimated_cost_exceeded"
        ("Estimated cost " ++ runtime.floatRepr (estimatedCost limits caseCount) ++
          " exceeds the limit " ++ runtime.floatRepr limit))
    else .ok ()

def preflightCheck (runtime : Runtime) (specification : EvaluationSpecificationV1) :
    Except PyError Unit := do
  checkCaseCount specification.limits specification.cases.length
  checkEstimatedCost runtime specification.limits specification.cases.length

def effectiveOutputTokens (specification : EvaluationSpecificationV1) : Nat :=
  match specification.limits.maxOutputTokens with
  | none => specification.model.maxOutputTokens
  | some limit => min specification.model.maxOutputTokens limit

/-- The run stays inside both preflight limits. -/
structure WithinLimits (specification : EvaluationSpecificationV1) : Prop where
  caseCount : ∀ limit ∈ specification.limits.maxCases, specification.cases.length ≤ limit
  cost : ∀ limit ∈ specification.limits.maxEstimatedCost,
    estimatedCost specification.limits specification.cases.length ≤ limit

theorem checkCaseCount_ok {limits : ExecutionLimits} {caseCount : Nat} :
    checkCaseCount limits caseCount = .ok () ↔ ∀ limit ∈ limits.maxCases, caseCount ≤ limit := by
  unfold checkCaseCount
  cases limits.maxCases with
  | none => simp
  | some limit =>
    by_cases exceeded : caseCount > limit
    · simp [exceeded]
    · simp [exceeded, not_lt.mp exceeded]

theorem checkEstimatedCost_ok {runtime : Runtime} {limits : ExecutionLimits} {caseCount : Nat} :
    checkEstimatedCost runtime limits caseCount = .ok () ↔
      ∀ limit ∈ limits.maxEstimatedCost, estimatedCost limits caseCount ≤ limit := by
  unfold checkEstimatedCost
  cases limits.maxEstimatedCost with
  | none => simp
  | some limit =>
    by_cases exceeded : estimatedCost limits caseCount > limit
    · simp [exceeded]
    · simp [exceeded, not_lt.mp exceeded]

/-- The preflight passes exactly within the limits. -/
theorem preflightCheck_ok {runtime : Runtime} {specification : EvaluationSpecificationV1} :
    preflightCheck runtime specification = .ok () ↔ WithinLimits specification := by
  constructor
  · intro passed
    obtain ⟨_, counted, priced⟩ := bind_eq_ok.mp passed
    exact ⟨checkCaseCount_ok.mp counted, checkEstimatedCost_ok.mp priced⟩
  · rintro ⟨counted, priced⟩
    exact bind_eq_ok.mpr ⟨(), checkCaseCount_ok.mpr counted, checkEstimatedCost_ok.mpr priced⟩

/-- Whatever the preflight raises is a limit error. -/
theorem preflightCheck_error {runtime : Runtime} {specification : EvaluationSpecificationV1}
    {error : PyError} (raised : preflightCheck runtime specification = .error error) :
    ∃ code message, error = .limitExceeded code message := by
  rcases bind_eq_error.mp raised with first | ⟨_, _, second⟩
  · unfold checkCaseCount at first
    split at first
    · cases first
    · split at first <;> cases first
      exact ⟨_, _, rfl⟩
  · unfold checkEstimatedCost at second
    split at second
    · cases second
    · split at second <;> cases second
      exact ⟨_, _, rfl⟩

/-- The token cap of a validated specification is one a request accepts. -/
theorem effectiveOutputTokens_bounded {specification : EvaluationSpecificationV1}
    (valid : specification.Valid) :
    1 ≤ effectiveOutputTokens specification ∧ effectiveOutputTokens specification ≤ 1000000 := by
  obtain ⟨_, _, ⟨_, _, _, modelTokens, _⟩, _, _, _, _, _, _, ⟨_, limitTokens, _⟩, _⟩ := valid
  unfold effectiveOutputTokens
  cases capped : specification.limits.maxOutputTokens with
  | none => exact modelTokens
  | some limit =>
    have bounds := limitTokens limit (by rw [capped]; rfl)
    simp only
    omega

end RegressionDetection.Execution
