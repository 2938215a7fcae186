import RegressionDetection.Execution.Report

/-! Executions over related providers. Two providers that give the same answers from related states
drive an execution through the same results, and leave related states. -/

namespace RegressionDetection.Execution

open Foundation Specification Providers Policy Evaluators

/-- From related states the providers give such a request the same answer, and stay related. -/
structure Simulates {σ τ : Type} (related : σ → τ → Prop) (asked : InferenceRequest → Prop)
    (first : Provider σ) (second : Provider τ) : Prop where
  results : ∀ s t request, related s t → asked request →
    (first.generate s request).1 = (second.generate t request).1
  states : ∀ s t request, related s t → asked request →
    related (first.generate s request).2 (second.generate t request).2

/-- A request that is built for a case of the specification. -/
def BuiltFor (environment : Environment) (specification : EvaluationSpecification)
    (request : InferenceRequest) : Prop :=
  ∃ case ∈ specification.val.cases, buildRequest environment specification.val case = .ok request

/-- The same results and costs so far. -/
structure SameLoop {σ τ : Type} (related : σ → τ → Prop) (first : LoopState σ)
    (second : LoopState τ) : Prop where
  results : first.results = second.results
  accumulatedCost : first.accumulatedCost = second.accumulatedCost
  provider : related first.provider second.provider

/-- The same value, with related states. -/
def SameValue {σ τ α : Type} (related : σ → τ → Prop) (first : α × σ) (second : α × τ) : Prop :=
  first.1 = second.1 ∧ related first.2 second.2

section Simulation

variable {σ τ : Type} {related : σ → τ → Prop} {environment : Environment}
  {specification : EvaluationSpecification} {first : Provider σ} {second : Provider τ}

theorem SameLoop.append {loop : LoopState σ} {other : LoopState τ}
    (same : SameLoop related loop other) (result : CaseExecutionResult) :
    SameLoop related (appendResult loop result) (appendResult other result) where
  results := congrArg (· ++ [result]) same.results
  accumulatedCost := same.accumulatedCost
  provider := same.provider

variable (simulates : Simulates related (BuiltFor environment specification) first second)
include simulates

theorem answer_simulates {request : InferenceRequest}
    (built : BuiltFor environment specification request) {loop : LoopState σ} {other : LoopState τ}
    (same : SameLoop related loop other) :
    Outcomes (fun x y => x.1 = y.1 ∧ SameLoop related x.2 y.2)
      (answer environment first specification request loop)
      (answer environment second specification request other) := by
  unfold answer
  rw [same.accumulatedCost]
  cases reachedCap specification other.accumulatedCost with
  | some cap => exact (Outcomes.refl _).bind fun refused _ equal => .ok ⟨equal ▸ rfl, same⟩
  | none =>
    have result := simulates.results _ _ request same.provider built
    refine .ok ⟨result, same.results, ?_, simulates.states _ _ request same.provider built⟩
    dsimp only
    rw [result]

theorem executeCase_simulates {case : GoldenCase} (listed : case ∈ specification.val.cases)
    (ordinal : Nat) {loop : LoopState σ} {other : LoopState τ} (same : SameLoop related loop other) :
    Outcomes (SameLoop related) (executeCase environment first specification ordinal case loop)
      (executeCase environment second specification ordinal case other) := by
  unfold executeCase
  cases build : buildRequest environment specification.val case with
  | error error =>
    dsimp only
    split
    · refine (Outcomes.refl _).bind fun refused _ equal => ?_
      subst equal
      refine (Outcomes.refl _).bind fun evaluations _ equal => ?_
      subst equal
      exact .ok (same.append _)
    · exact .error error
  | ok request =>
    refine (answer_simulates simulates ⟨case, listed, build⟩ same).bind fun reply replied agree => ?_
    obtain ⟨result, later⟩ := reply
    obtain ⟨_, after⟩ := replied
    obtain ⟨rfl, loops⟩ := agree
    refine (Outcomes.refl _).bind fun evaluations _ equal => ?_
    subst equal
    exact .ok (loops.append _)

theorem executeCases_simulates (cancelled : Nat → Bool) {cases : List GoldenCase}
    (listed : ∀ case ∈ cases, case ∈ specification.val.cases) (ordinal : Nat)
    {loop : LoopState σ} {other : LoopState τ} (same : SameLoop related loop other) :
    Outcomes (fun x y => SameLoop related x.1 y.1 ∧ x.2 = y.2)
      (executeCases environment first specification cancelled ordinal cases loop)
      (executeCases environment second specification cancelled ordinal cases other) := by
  induction cases generalizing ordinal loop other with
  | nil => exact .ok ⟨same, rfl⟩
  | cons case rest ih =>
    obtain ⟨head, tail⟩ := List.forall_mem_cons.mp listed
    unfold executeCases
    split
    · exact .ok ⟨same, rfl⟩
    · exact (executeCase_simulates simulates head ordinal same).bind fun next later agree =>
        ih tail (ordinal + 1) agree

theorem executeLocal_simulates (cancelled : Nat → Bool) {start : σ} {begun : τ}
    (same : related start begun) :
    Outcomes (SameValue related) (executeLocal environment first specification cancelled start)
      (executeLocal environment second specification cancelled begun) := by
  unfold executeLocal
  refine (Outcomes.refl _).bind fun _ _ _ => ?_
  have initial : SameLoop related (initialLoop start) (initialLoop begun) := ⟨rfl, rfl, same⟩
  refine (executeCases_simulates simulates cancelled (fun _ member => member) 0 initial).bind
    fun ended finished agree => ?_
  obtain ⟨loop, stopped⟩ := ended
  obtain ⟨other, _⟩ := finished
  obtain ⟨loops, rfl⟩ := agree
  exact .ok ⟨congrArg (runResult environment specification stopped) loops.results, loops.provider⟩

theorem executeLocalEvaluation_simulates (cancelled : Nat → Bool) {start : σ} {begun : τ}
    (same : related start begun) :
    Outcomes (SameValue related)
      (executeLocalEvaluation environment first specification cancelled start)
      (executeLocalEvaluation environment second specification cancelled begun) := by
  unfold executeLocalEvaluation
  refine (executeLocal_simulates simulates cancelled same).bind fun ended finished agree => ?_
  obtain ⟨run, state⟩ := ended
  obtain ⟨_, left⟩ := finished
  obtain ⟨rfl, states⟩ := agree
  refine (Outcomes.refl _).bind fun report _ equal => ?_
  subst equal
  exact .ok ⟨rfl, states⟩

end Simulation

end RegressionDetection.Execution
