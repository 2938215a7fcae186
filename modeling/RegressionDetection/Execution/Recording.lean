import RegressionDetection.Execution.Evidence

/-! Executions over a recording provider. The log changes nothing in a run, so the
calls of an execution are what its recorded twin leaves in the log. -/

namespace RegressionDetection.Execution

open Foundation Specification Providers Evaluators

/-- The state of the loop without the log. -/
def forgetLog {σ : Type} (loop : LoopState (σ × List Exchange)) : LoopState σ :=
  { results := loop.results, accumulatedCost := loop.accumulatedCost, provider := loop.provider.1 }

section Twin

variable {σ : Type} (environment : Environment) (provider : Provider σ)
  (specification : EvaluationSpecification)

theorem answer_recording (request : InferenceRequest) (loop : LoopState (σ × List Exchange)) :
    (answer environment provider.recording specification request loop).map
        (fun reply => (reply.1, forgetLog reply.2)) =
      answer environment provider specification request (forgetLog loop) := by
  unfold answer
  have same : reachedCap specification (forgetLog loop).accumulatedCost =
      reachedCap specification loop.accumulatedCost := rfl
  rw [same]
  cases reachedCap specification loop.accumulatedCost with
  | none => rfl
  | some cap =>
    dsimp only
    cases ProviderError.new .budgetExceeded "max_total_cost_exceeded"
      ("Run cost cap " ++ environment.runtime.floatRepr cap ++ " reached before this case") false <;> rfl

theorem executeCase_recording (ordinal : Nat) (case : GoldenCase)
    (loop : LoopState (σ × List Exchange)) :
    (executeCase environment provider.recording specification ordinal case loop).map forgetLog =
      executeCase environment provider specification ordinal case (forgetLog loop) := by
  unfold executeCase
  cases buildRequest environment specification.val case with
  | error error =>
    dsimp only
    split
    · cases ProviderError.new .invalidRequest "template_render_error"
        (error.text environment.runtime) false with
      | error _ => rfl
      | ok refused =>
        simp only [bind, Except.bind]
        cases evaluateCase environment.libraries case none
          (evaluatorDefinitions specification.val) <;> rfl
    · rfl
  | ok request =>
    dsimp only
    rw [← answer_recording]
    cases answer environment provider.recording specification request loop with
    | error _ => rfl
    | ok reply =>
      simp only [bind, Except.bind, Except.map]
      cases evaluateCase environment.libraries case reply.1.output
        (evaluatorDefinitions specification.val) <;> rfl

theorem executeCases_recording (cancelled : Nat → Bool) (ordinal : Nat) (cases : List GoldenCase)
    (loop : LoopState (σ × List Exchange)) :
    (executeCases environment provider.recording specification cancelled ordinal cases loop).map
        (fun ended => (forgetLog ended.1, ended.2)) =
      executeCases environment provider specification cancelled ordinal cases (forgetLog loop) := by
  induction cases generalizing ordinal loop with
  | nil => rfl
  | cons case rest ih =>
    unfold executeCases
    split
    · rfl
    · rw [← executeCase_recording]
      cases executeCase environment provider.recording specification ordinal case loop with
      | error _ => rfl
      | ok next => exact ih (ordinal + 1) next

/-- The log changes neither the run nor the state of the provider. -/
theorem executeLocal_recording (cancelled : Nat → Bool) (start : σ) (log : List Exchange) :
    (executeLocal environment provider.recording specification cancelled (start, log)).map
        (fun ended => (ended.1, ended.2.1)) =
      executeLocal environment provider specification cancelled start := by
  have same := executeCases_recording environment provider specification cancelled 0
    specification.val.cases (initialLoop (start, log))
  unfold executeLocal
  cases preflightCheck environment.runtime specification.val with
  | error _ => rfl
  | ok _ =>
    have begun : forgetLog (initialLoop (start, log)) = initialLoop start := rfl
    simp only [bind, Except.bind]
    rw [← begun, ← same]
    cases executeCases environment provider.recording specification cancelled 0
      specification.val.cases (initialLoop (start, log)) <;> rfl

end Twin

/-- The costs the calls reported, an absent one counting as nothing. -/
def reportedCosts (calls : List Exchange) : List ℚ :=
  calls.map (fun call => call.result.cost.getD 0)

section Service

variable (environment : Environment) (specification : EvaluationSpecification)

/-- The record of a case: its key and place, and one evaluation for each of its
evaluators, inapplicable exactly without an output. -/
structure RecordOf (case : GoldenCase) (ordinal : Nat) (result : CaseExecutionResult) : Prop where
  key : result.caseKey = case.key
  place : result.ordinal = ordinal
  evaluators : result.evaluations.map EvaluationResult.evaluatorName = case.evaluators
  inapplicable : ∀ evaluation ∈ result.evaluations,
    evaluation.status = .notApplicable ↔ result.providerResult.output = none

/-- The error that stands for a call the cost cap forbids. -/
def BudgetExceeded (result : InferenceResult) : Prop :=
  ∃ refused : ProviderError, result = .failure refused ∧ refused.category = .budgetExceeded ∧
    refused.code = "max_total_cost_exceeded"

/-- The error that stands for a request that could not be built. -/
def RenderFailure (result : InferenceResult) : Prop :=
  ∃ refused : ProviderError, result = .failure refused ∧ refused.category = .invalidRequest ∧
    refused.code = "template_render_error"

/-- What becomes of a case after some cost was reported: its request cannot be
built, or the cap was reached, or it is the one call made. -/
inductive Served (case : GoldenCase) (spent : ℚ) : InferenceResult → List Exchange → Prop where
  | unrendered (error : PyError) (result : InferenceResult)
      (built : buildRequest environment specification.val case = .error error)
      (failed : RenderFailure result) : Served case spent result []
  | skipped (request : InferenceRequest) (cap : ℚ) (result : InferenceResult)
      (built : buildRequest environment specification.val case = .ok request)
      (capped : specification.val.limits.maxTotalCost = some cap) (reached : cap ≤ spent)
      (exceeded : BudgetExceeded result) : Served case spent result []
  | called (request : InferenceRequest) (result : InferenceResult)
      (built : buildRequest environment specification.val case = .ok request)
      (below : ∀ cap ∈ specification.val.limits.maxTotalCost, spent < cap) :
      Served case spent result [{ request, result }]

/-- The records of the cases in order with the calls made for them. -/
inductive Serves : Nat → ℚ → List GoldenCase → List CaseExecutionResult → List Exchange → Prop where
  | nil (ordinal : Nat) (spent : ℚ) : Serves ordinal spent [] [] []
  | cons {ordinal : Nat} {spent : ℚ} {case : GoldenCase} {rest : List GoldenCase}
      {result : CaseExecutionResult} {results : List CaseExecutionResult}
      {made later : List Exchange} (record : RecordOf case ordinal result)
      (served : Served environment specification case spent result.providerResult made)
      (others : Serves (ordinal + 1) (spent + (reportedCosts made).sum) rest results later) :
      Serves ordinal spent (case :: rest) (result :: results) (made ++ later)

end Service

section Calls

variable {σ : Type} {environment : Environment} {provider : Provider σ}
  {specification : EvaluationSpecification}

theorem reachedCap_eq_some {spent cap : ℚ} (reached : reachedCap specification spent = some cap) :
    specification.val.limits.maxTotalCost = some cap ∧ cap ≤ spent := by
  unfold reachedCap at reached
  obtain ⟨capped, below⟩ := Option.filter_eq_some_iff.mp reached
  exact ⟨capped, by simpa using below⟩

theorem reachedCap_eq_none {spent : ℚ} (unreached : reachedCap specification spent = none) :
    ∀ cap ∈ specification.val.limits.maxTotalCost, spent < cap := by
  intro cap capped
  simpa using Option.filter_eq_none_iff.mp unreached cap capped

/-- One iteration of the loop: the record it appends and the calls it logs. -/
theorem executeCase_served {case : GoldenCase} {ordinal : Nat}
    {loop next : LoopState (σ × List Exchange)}
    (executed : executeCase environment provider.recording specification ordinal case loop =
      .ok next) :
    ∃ result made, next.results = loop.results ++ [result] ∧
      next.provider.2 = loop.provider.2 ++ made ∧
      next.accumulatedCost = loop.accumulatedCost + (reportedCosts made).sum ∧
      RecordOf case ordinal result ∧
      Served environment specification case loop.accumulatedCost result.providerResult made := by
  unfold executeCase at executed
  split at executed
  · rename_i error built
    split at executed
    · obtain ⟨refused, raised, rest⟩ := bind_eq_ok.mp executed
      obtain ⟨evaluations, evaluated, made⟩ := bind_eq_ok.mp rest
      cases made
      obtain ⟨names, statuses⟩ := evaluateCase_ok evaluated
      exact ⟨_, [], rfl, by simp [appendResult], by simp [appendResult, reportedCosts],
        ⟨rfl, rfl, names, statuses⟩,
        .unrendered error _ built ⟨refused, rfl, ProviderError.new_fields raised⟩⟩
    · cases executed
  · rename_i request built
    obtain ⟨⟨result, later⟩, answered, rest⟩ := bind_eq_ok.mp executed
    obtain ⟨evaluations, evaluated, made⟩ := bind_eq_ok.mp rest
    cases made
    obtain ⟨names, statuses⟩ := evaluateCase_ok evaluated
    unfold answer at answered
    split at answered
    · rename_i cap reached
      obtain ⟨refused, raised, same⟩ := bind_eq_ok.mp answered
      cases same
      obtain ⟨capped, within⟩ := reachedCap_eq_some reached
      exact ⟨_, [], rfl, by simp [appendResult], by simp [appendResult, reportedCosts],
        ⟨rfl, rfl, names, statuses⟩, .skipped request cap _ built capped within
          ⟨refused, rfl, ProviderError.new_fields raised⟩⟩
    · rename_i unreached
      cases answered
      refine ⟨_, [{ request, result := (provider.generate loop.provider.1 request).1 }], rfl, rfl, ?_,
        ⟨rfl, rfl, names, statuses⟩, .called request _ built (reachedCap_eq_none unreached)⟩
      simp [appendResult, reportedCosts, addCost]

/-- The loop records the cases before the boundary at which it first finds the token
set, or else every case. -/
theorem executeCases_serves {cancelled : Nat → Bool} {cases : List GoldenCase} {ordinal : Nat}
    {loop : LoopState (σ × List Exchange)} {final : LoopState (σ × List Exchange) × Bool}
    (returned : executeCases environment provider.recording specification cancelled ordinal cases
      loop = .ok final) :
    ∃ results calls done rest, final.1.results = loop.results ++ results ∧
      final.1.provider.2 = loop.provider.2 ++ calls ∧ cases = done ++ rest ∧
      Serves environment specification ordinal loop.accumulatedCost done results calls ∧
      (∀ boundary < done.length, cancelled (ordinal + boundary) = false) ∧
      (final.2 = true ∧ rest ≠ [] ∧ cancelled (ordinal + done.length) = true ∨
        final.2 = false ∧ rest = []) := by
  induction cases generalizing ordinal loop with
  | nil =>
    cases returned
    exact ⟨[], [], [], [], by simp, by simp, rfl, .nil _ _, by simp, .inr ⟨rfl, rfl⟩⟩
  | cons case rest ih =>
    unfold executeCases at returned
    split at returned
    · rename_i set
      cases returned
      exact ⟨[], [], [], case :: rest, by simp, by simp, rfl, .nil _ _, by simp,
        .inl ⟨rfl, by simp, set⟩⟩
    · rename_i unset
      obtain ⟨next, executed, finished⟩ := bind_eq_ok.mp returned
      obtain ⟨result, made, grown, logged, spent, record, served⟩ := executeCase_served executed
      obtain ⟨results, calls, done, left, all, log, split, others, clear, ended⟩ := ih finished
      refine ⟨result :: results, made ++ calls, case :: done, left, by rw [all, grown]; simp,
        by rw [log, logged]; simp, by rw [split]; rfl, .cons record served (spent ▸ others), ?_, ?_⟩
      · intro boundary within
        cases boundary with
        | zero => simpa using unset
        | succ earlier =>
          have later := clear earlier (by simpa using within)
          rwa [show ordinal + (earlier + 1) = ordinal + 1 + earlier by omega]
      · rwa [List.length_cons, show ordinal + (done.length + 1) = ordinal + 1 + done.length by omega]

/-- The calls of an execution, in the log of its recorded twin. -/
theorem executeLocal_serves {cancelled : Nat → Bool} {start later : σ} {run : LocalRunResult}
    (returned : executeLocal environment provider specification cancelled start = .ok (run, later)) :
    ∃ calls done rest,
      executeLocal environment provider.recording specification cancelled (start, []) =
        .ok (run, (later, calls)) ∧ specification.val.cases = done ++ rest ∧
      Serves environment specification 0 0 done run.cases calls ∧
      (∀ boundary < done.length, cancelled boundary = false) ∧
      (run.status = .cancelled ∧ rest ≠ [] ∧ cancelled done.length = true ∨
        run.status = .completed ∧ rest = []) := by
  have same := executeLocal_recording environment provider specification cancelled start []
  rw [returned] at same
  cases recorded : executeLocal environment provider.recording specification cancelled (start, []) with
  | error raised => rw [recorded] at same; cases same
  | ok ended =>
    rw [recorded] at same
    obtain ⟨_, _, looped⟩ := bind_eq_ok.mp recorded
    obtain ⟨⟨loop, stopped⟩, executed, made⟩ := bind_eq_ok.mp looped
    cases made
    cases same
    obtain ⟨results, calls, done, rest, all, log, split, serves, clear, ended⟩ :=
      executeCases_serves executed
    have kept : (runResult environment specification stopped loop.results).cases = results := by
      simpa [runResult, initialLoop] using all
    have logged : loop.provider.2 = calls := by simpa [initialLoop] using log
    refine ⟨calls, done, rest, by rw [← logged], split, kept.symm ▸ serves, ?_, ?_⟩
    · intro boundary within
      simpa using clear boundary within
    · rw [Nat.zero_add] at ended
      rcases ended with ⟨rfl, left, set⟩ | ⟨rfl, none⟩
      · exact .inl ⟨rfl, left, set⟩
      · exact .inr ⟨rfl, none⟩

end Calls

end RegressionDetection.Execution
