import RegressionDetection.Execution.OrderedPrefix
import RegressionDetection.Foundation.Budget

/-! The cost cap of a run is a hard stop: it is checked before each call, and once
the reported costs reach it no later case leads to a call. -/

namespace RegressionDetection.Execution

open Foundation Specification Providers Evaluators

section Rendered

variable (environment : Environment) (specification : EvaluationSpecification)

/-- The requests of the cases that can be rendered, in order. -/
def renderedRequests (cases : List GoldenCase) : List InferenceRequest :=
  cases.filterMap fun case => (buildRequest environment specification.val case).toOption

/-- The provider results recorded for the cases that can be rendered, in order. -/
def renderedResults (cases : List GoldenCase) (results : List CaseExecutionResult) :
    List InferenceResult :=
  (cases.zip results).filterMap fun record =>
    (buildRequest environment specification.val record.1).toOption.map
      fun _ => record.2.providerResult

/-- The calls are those of the longest prefix of the renderable cases before each of
which the reported costs are below the cap; the others got the budget error. -/
structure HardStop (cap : ℚ) (run : LocalRunResult) (calls : List Exchange) : Prop where
  below : SpentBelow cap 0 (reportedCosts calls)
  asked : ∃ skipped, renderedRequests environment specification specification.val.cases =
    calls.map Exchange.request ++ skipped ∧ (skipped ≠ [] → cap ≤ (reportedCosts calls).sum)
  recorded : ∃ refusals, renderedResults environment specification specification.val.cases run.cases =
    calls.map Exchange.result ++ refusals ∧ ∀ result ∈ refusals, BudgetExceeded result
  known : (run.cases.map fun result => result.providerResult.cost.getD 0).sum =
    (reportedCosts calls).sum
  bounded : ∀ before last, calls = before ++ [last] →
    (run.cases.map fun result => result.providerResult.cost.getD 0).sum <
      cap + last.result.cost.getD 0
  free : cap = 0 → calls = []

end Rendered

section Spending

variable {environment : Environment} {specification : EvaluationSpecification} {ordinal : Nat}
  {spent cap : ℚ} {cases : List GoldenCase} {results : List CaseExecutionResult}
  {calls : List Exchange}

theorem Serves.spentBelow (capped : specification.val.limits.maxTotalCost = some cap)
    (serves : Serves environment specification ordinal spent cases results calls) :
    SpentBelow cap spent (reportedCosts calls) := by
  induction serves with
  | nil => exact .nil
  | cons _ served _ ih =>
    cases served with
    | unrendered => simpa [reportedCosts] using ih
    | skipped => simpa [reportedCosts] using ih
    | called request result _ below =>
      refine .cons (below cap capped) ?_
      simpa [reportedCosts] using ih

/-- The renderable cases are the called ones and then those the cap forbade. -/
theorem Serves.rendered (capped : specification.val.limits.maxTotalCost = some cap)
    (serves : Serves environment specification ordinal spent cases results calls) :
    ∃ skipped refusals,
      renderedRequests environment specification cases = calls.map Exchange.request ++ skipped ∧
      renderedResults environment specification cases results =
        calls.map Exchange.result ++ refusals ∧
      (∀ result ∈ refusals, BudgetExceeded result) ∧
      (skipped ≠ [] → cap ≤ spent + (reportedCosts calls).sum) := by
  induction serves with
  | nil => exact ⟨[], [], rfl, rfl, by simp, by simp⟩
  | cons _ served others ih =>
    obtain ⟨skipped, refusals, requests, recorded, exceeded, reached⟩ := ih
    cases served with
    | unrendered error _ built =>
      refine ⟨skipped, refusals, ?_, ?_, exceeded, by simpa [reportedCosts] using reached⟩
      · simpa [renderedRequests, built, Except.toOption] using requests
      · simpa [renderedResults, built, Except.toOption] using recorded
    | skipped request limit _ built own within refused =>
      obtain rfl : limit = cap := Option.some.inj (own.symm.trans capped)
      -- The cap was reached before, so nothing is called from here on.
      have none := (others.spentBelow capped).eq_nil (by simpa [reportedCosts] using within)
      obtain rfl := List.map_eq_nil_iff.mp none
      refine ⟨request :: skipped, _ :: refusals, ?_, ?_, List.forall_mem_cons.mpr ⟨refused, exceeded⟩,
        fun _ => by simpa [reportedCosts] using within⟩
      · simpa [renderedRequests, built, Except.toOption] using requests
      · simpa [renderedResults, built, Except.toOption] using recorded
    | called request _ built _ =>
      refine ⟨skipped, refusals, ?_, ?_, exceeded, fun left => ?_⟩
      · simpa [renderedRequests, built, Except.toOption] using requests
      · simpa [renderedResults, built, Except.toOption] using recorded
      · simpa [reportedCosts, add_assoc] using reached left

/-- Only calls report costs. -/
theorem Serves.known
    (serves : Serves environment specification ordinal spent cases results calls) :
    (results.map fun result => result.providerResult.cost.getD 0).sum = (reportedCosts calls).sum := by
  induction serves with
  | nil => rfl
  | cons _ served _ ih =>
    rw [List.map_cons, List.sum_cons, ih, reportedCosts, reportedCosts, List.map_append,
      List.sum_append]
    apply congrArg (· + _)
    cases served with
    | unrendered _ _ _ failed =>
      obtain ⟨refused, same, _⟩ := failed
      rw [same]
      rfl
    | skipped _ _ _ _ _ _ exceeded =>
      obtain ⟨refused, same, _⟩ := exceeded
      rw [same]
      rfl
    | called => simp

end Spending

/-- In an uncancelled execution that returns, the cost cap is a hard stop. -/
theorem executeLocal_hardStop {σ : Type} (environment : Environment) (provider : Provider σ)
    (specification : EvaluationSpecification) (start : σ) {cap : ℚ} {run : LocalRunResult} {later : σ}
    (capped : specification.val.limits.maxTotalCost = some cap)
    (returned : executeLocal environment provider specification neverCancelled start =
      .ok (run, later)) :
    ∃ calls, executeLocal environment provider.recording specification neverCancelled (start, []) =
        .ok (run, (later, calls)) ∧ HardStop environment specification cap run calls := by
  obtain ⟨calls, done, rest, recorded, split, serves, _, ⟨_, _, impossible⟩ | ⟨_, none⟩⟩ :=
    executeLocal_serves returned
  · cases impossible
  subst none
  rw [List.append_nil] at split
  subst split
  obtain ⟨skipped, refusals, requests, results, exceeded, reached⟩ := serves.rendered capped
  have below := serves.spentBelow capped
  refine ⟨calls, recorded, below, ⟨skipped, requests, by simpa using reached⟩,
    ⟨refusals, results, exceeded⟩, serves.known, ?_, ?_⟩
  · intro before last split
    subst split
    rw [reportedCosts, List.map_append] at below
    have total := below.total
    rw [serves.known, reportedCosts, List.map_append]
    simpa using total
  · rintro rfl
    have none := below.eq_nil le_rfl
    exact List.map_eq_nil_iff.mp none

theorem cappedGreetings_valid :
    (plainDocument "Say ok" ["first", "second"] { maxTotalCost := some (1 / 10) }).Valid := by
  decide +kernel

theorem tenth_costBounded : ∀ value ∈ some (1 / 10 : ℚ), 0 ≤ value := by
  intro value member
  cases member
  decide +kernel

/-- The answer `"ok"` at a tenth. -/
def chargedAnswer : InferenceResult :=
  { InferenceResult.ok with cost := some (1 / 10), costBounded := tenth_costBounded }

def chargingProvider : Provider Unit where
  generate _ _ := (chargedAnswer, ())

theorem cappedGreetings_returns : (executeLocal Environment.plain chargingProvider
    ⟨_, cappedGreetings_valid⟩ neverCancelled ()).toOption.isSome = true := by decide +kernel

/-- The run of two cases whose first call costs as much as the run may. -/
def cappedGreetings : LocalRunResult × Unit :=
  (executeLocal Environment.plain chargingProvider ⟨_, cappedGreetings_valid⟩ neverCancelled
    ()).toOption.get cappedGreetings_returns

theorem cappedGreetings_hardStop :
    ∃ calls, executeLocal Environment.plain chargingProvider.recording ⟨_, cappedGreetings_valid⟩
        neverCancelled ((), []) = .ok (cappedGreetings.1, ((), calls)) ∧
      HardStop Environment.plain ⟨_, cappedGreetings_valid⟩ (1 / 10) cappedGreetings.1 calls := by
  have returned : executeLocal Environment.plain chargingProvider ⟨_, cappedGreetings_valid⟩
      neverCancelled () = .ok (cappedGreetings.1, ()) := by decide +kernel
  exact executeLocal_hardStop Environment.plain chargingProvider ⟨_, cappedGreetings_valid⟩ () rfl
    returned

end RegressionDetection.Execution
