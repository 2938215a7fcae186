import RegressionDetection.Execution.Cancellation
import RegressionDetection.Execution.Recording

/-! An execution yields an ordered, complete prefix of its cases, and asks the
provider about each of them at most once. -/

namespace RegressionDetection.Execution

open Foundation Specification Providers Evaluators

/-- The evaluations are those of the case's evaluators in order, and say that they
did not apply exactly when there was no output. -/
structure EvaluatedInOrder (case : GoldenCase) (result : CaseExecutionResult) : Prop where
  evaluators : result.evaluations.map EvaluationResult.evaluatorName = case.evaluators
  inapplicable : (∀ evaluation ∈ result.evaluations, evaluation.status = .notApplicable) ↔
    result.providerResult.output = none

/-- The results are those of the first cases, in order, up to the boundary at which
the token was first found set. -/
structure OrderedPrefix (specification : EvaluationSpecification) (cancelled : Nat → Bool)
    (run : LocalRunResult) : Prop where
  within : run.cases.length ≤ specification.val.cases.length
  keys : run.cases.map CaseExecutionResult.caseKey =
    (specification.val.cases.take run.cases.length).map GoldenCase.key
  ordinals : run.cases.map CaseExecutionResult.ordinal = List.range run.cases.length
  evaluations : List.Forall₂ EvaluatedInOrder
    (specification.val.cases.take run.cases.length) run.cases
  completed : run.cases.length = specification.val.cases.length ↔ run.status = .completed
  stopped : run.status = .cancelled ↔
    ∃ boundary < specification.val.cases.length, cancelled boundary = true
  unset : ∀ boundary < run.cases.length, cancelled boundary = false
  total : run.totalCases = run.cases.length
  successes : run.successfulCases =
    run.cases.countP (fun result => result.providerResult.status = .success)
  counts : run.successfulCases + run.errorCases = run.totalCases

/-- The calls are about the cases in order, each about one of its own and with its
result, and within both token limits. -/
structure CallsInOrder (specification : EvaluationSpecification) (run : LocalRunResult)
    (calls : List Exchange) : Prop where
  ordered : (calls.map fun call => (call.request.requestId, call.result)).Sublist
    (run.cases.map fun result => (result.caseKey, result.providerResult))
  once : (calls.map fun call => call.request.requestId).Nodup
  tokens : ∀ call ∈ calls,
    call.request.maxOutputTokens ≤ specification.val.model.maxOutputTokens ∧
      ∀ limit ∈ specification.val.limits.maxOutputTokens, call.request.maxOutputTokens ≤ limit

section Requests

theorem effectiveOutputTokens_le (specification : EvaluationSpecificationV1) :
    effectiveOutputTokens specification ≤ specification.model.maxOutputTokens ∧
      ∀ limit ∈ specification.limits.maxOutputTokens, effectiveOutputTokens specification ≤ limit := by
  unfold effectiveOutputTokens
  cases specification.limits.maxOutputTokens with
  | none => simp
  | some limit => simp

/-- A request carries the key of its case and the effective token cap. -/
theorem buildRequest_fields {environment : Environment} {specification : EvaluationSpecificationV1}
    {case : GoldenCase} {request : InferenceRequest}
    (built : buildRequest environment specification case = .ok request) :
    request.requestId = case.key ∧
      request.maxOutputTokens = effectiveOutputTokens specification := by
  obtain ⟨messages, _, made⟩ := bind_eq_ok.mp built
  exact InferenceRequest.new_fields made

end Requests

section Prefixes

theorem evaluators_ne_nil (specification : EvaluationSpecification) {case : GoldenCase}
    (member : case ∈ specification.val.cases) : case.evaluators ≠ [] := by
  obtain ⟨_, _, _, _, _, _, _, cases, _⟩ := specification.property
  obtain ⟨_, _, ⟨declared, _⟩, _⟩ := cases case member
  exact List.ne_nil_of_length_pos declared

variable {environment : Environment} {specification : EvaluationSpecification} {ordinal : Nat}
  {spent : ℚ} {cases : List GoldenCase} {results : List CaseExecutionResult} {calls : List Exchange}

theorem RecordOf.evaluatedInOrder {case : GoldenCase} {result : CaseExecutionResult}
    (record : RecordOf case ordinal result) (declared : case.evaluators ≠ []) :
    EvaluatedInOrder case result where
  evaluators := record.evaluators
  inapplicable := by
    constructor
    · intro all
      have evaluated : result.evaluations ≠ [] := by
        intro none
        exact declared (by rw [← record.evaluators, none, List.map_nil])
      obtain ⟨first, rest, same⟩ := List.exists_cons_of_ne_nil evaluated
      have listed : first ∈ result.evaluations := by simp [same]
      exact (record.inapplicable first listed).mp (all first listed)
    · intro silent evaluation listed
      exact (record.inapplicable evaluation listed).mpr silent

theorem Serves.records (serves : Serves environment specification ordinal spent cases results calls) :
    results.map CaseExecutionResult.caseKey = cases.map GoldenCase.key ∧
      results.map CaseExecutionResult.ordinal = List.range' ordinal cases.length := by
  induction serves with
  | nil => exact ⟨rfl, rfl⟩
  | cons record _ _ ih => simp [record.key, record.place, ih.1, ih.2, List.range'_succ]

theorem Serves.evaluations
    (serves : Serves environment specification ordinal spent cases results calls)
    (declared : ∀ case ∈ cases, case.evaluators ≠ []) :
    List.Forall₂ EvaluatedInOrder cases results := by
  induction serves with
  | nil => exact .nil
  | cons record _ _ ih =>
    exact .cons (record.evaluatedInOrder (declared _ List.mem_cons_self))
      (ih fun case later => declared case (List.mem_cons_of_mem _ later))

/-- A case leads to no call, or to one call under its key that gave its result. -/
theorem Served.made {case : GoldenCase} {result : InferenceResult} {made : List Exchange}
    (served : Served environment specification case spent result made) :
    made = [] ∨ ∃ request, buildRequest environment specification.val case = .ok request ∧
      made = [{ request, result }] := by
  cases served with
  | unrendered => exact .inl rfl
  | skipped => exact .inl rfl
  | called request _ built => exact .inr ⟨request, built, rfl⟩

/-- The calls follow the order of the records. -/
theorem Serves.ordered
    (serves : Serves environment specification ordinal spent cases results calls) :
    (calls.map fun call => (call.request.requestId, call.result)).Sublist
      (results.map fun result => (result.caseKey, result.providerResult)) := by
  induction serves with
  | nil => exact .slnil
  | cons record served _ ih =>
    rcases served.made with rfl | ⟨request, built, rfl⟩
    · exact ih.cons _
    · rw [List.map_append, List.map_cons, List.map_nil, List.map_cons, (buildRequest_fields built).1,
        record.key]
      exact ih.cons_cons _

/-- No key is called twice. -/
theorem Serves.distinct
    (serves : Serves environment specification ordinal spent cases results calls)
    (distinct : (cases.map GoldenCase.key).Nodup) :
    (calls.map fun call => call.request.requestId).Nodup := by
  have own := serves.ordered.map Prod.fst
  rw [List.map_map, List.map_map] at own
  have keys : (results.map CaseExecutionResult.caseKey).Nodup := serves.records.1 ▸ distinct
  exact keys.sublist own

theorem Serves.tokens
    (serves : Serves environment specification ordinal spent cases results calls) :
    ∀ call ∈ calls, call.request.maxOutputTokens = effectiveOutputTokens specification.val := by
  induction serves with
  | nil => simp
  | cons record served _ ih =>
    rcases served.made with rfl | ⟨request, built, rfl⟩
    · exact ih
    · exact List.forall_mem_cons.mpr ⟨(buildRequest_fields built).2, ih⟩

/-- The counts of a run are those of its results. -/
theorem executeLocal_counts {σ : Type} {provider : Provider σ} {cancelled : Nat → Bool}
    {start later : σ} {run : LocalRunResult}
    (returned : executeLocal environment provider specification cancelled start = .ok (run, later)) :
    run.totalCases = run.cases.length ∧
      run.successfulCases =
        run.cases.countP (fun result => result.providerResult.status = .success) ∧
      run.successfulCases + run.errorCases = run.totalCases := by
  obtain ⟨_, _, looped⟩ := bind_eq_ok.mp returned
  obtain ⟨⟨loop, stopped⟩, _, made⟩ := bind_eq_ok.mp looped
  cases made
  exact ⟨rfl, rfl, Nat.add_sub_cancel' List.countP_le_length⟩

end Prefixes

/-- Whenever an execution returns, its results are an ordered, complete prefix, and
the provider was asked at most once about each of its cases, in their order. -/
theorem executeLocal_orderedPrefix {σ : Type} (environment : Environment) (provider : Provider σ)
    (specification : EvaluationSpecification) (cancelled : Nat → Bool) (start : σ)
    {run : LocalRunResult} {later : σ}
    (returned : executeLocal environment provider specification cancelled start = .ok (run, later)) :
    OrderedPrefix specification cancelled run ∧
      ∃ calls, executeLocal environment provider.recording specification cancelled (start, []) =
          .ok (run, (later, calls)) ∧ CallsInOrder specification run calls := by
  obtain ⟨calls, done, rest, recorded, split, serves, clear, ended⟩ := executeLocal_serves returned
  obtain ⟨keys, ordinals⟩ := serves.records
  have length : run.cases.length = done.length := by
    simpa using congrArg List.length keys
  have first : specification.val.cases.take run.cases.length = done := by
    rw [split, length, List.take_left]
  have sized : specification.val.cases.length = done.length + rest.length := by
    rw [split, List.length_append]
  obtain ⟨total, successes, counts⟩ := executeLocal_counts returned
  have declared : ∀ case ∈ done, case.evaluators ≠ [] := by
    intro case member
    have own : case ∈ specification.val.cases := split ▸ List.mem_append_left _ member
    exact evaluators_ne_nil specification own
  have prefixed : OrderedPrefix specification cancelled run :=
    { within := by rw [length, sized]; exact Nat.le_add_right _ _
      keys := by rw [first, keys]
      ordinals := by rw [ordinals, ← length, List.range_eq_range']
      evaluations := by rw [first]; exact serves.evaluations declared
      completed := by
        rw [length, sized]
        rcases ended with ⟨status, left, _⟩ | ⟨status, none⟩
        · simp [status, left]
        · simp [status, none]
      stopped := by
        rcases ended with ⟨status, left, set⟩ | ⟨status, none⟩
        · have more := List.length_pos_of_ne_nil left
          simp only [status, true_iff]
          exact ⟨done.length, by omega, set⟩
        · simp only [status, reduceCtorEq, false_iff, not_exists, not_and, Bool.not_eq_true]
          intro boundary within
          exact clear boundary (by simpa [sized, none] using within)
      unset := length ▸ clear
      total
      successes
      counts }
  refine ⟨prefixed, calls, recorded, serves.ordered, ?_, ?_⟩
  · have all := specification.property.references.caseKeys
    rw [split, List.map_append] at all
    exact serves.distinct all.of_append_left
  · intro call made
    rw [serves.tokens call made]
    exact effectiveOutputTokens_le specification.val

theorem greetings_stopped : (executeLocal Environment.plain Provider.ok ⟨_, twoGreetings_valid⟩
    (fun ordinal => ordinal = 1) ()).toOption.isSome = true := by decide

/-- The run of two cases whose token was set during the first. -/
def stoppedGreetings : LocalRunResult × Unit :=
  (executeLocal Environment.plain Provider.ok ⟨_, twoGreetings_valid⟩ (fun ordinal => ordinal = 1)
    ()).toOption.get greetings_stopped

theorem stoppedGreetings_orderedPrefix :
    OrderedPrefix ⟨_, twoGreetings_valid⟩ (fun ordinal => ordinal = 1) stoppedGreetings.1 ∧
      ∃ calls, executeLocal Environment.plain Provider.ok.recording ⟨_, twoGreetings_valid⟩
          (fun ordinal => ordinal = 1) ((), []) = .ok (stoppedGreetings.1, ((), calls)) ∧
        CallsInOrder ⟨_, twoGreetings_valid⟩ stoppedGreetings.1 calls :=
  executeLocal_orderedPrefix Environment.plain Provider.ok ⟨_, twoGreetings_valid⟩
    (fun ordinal => ordinal = 1) () rfl

end RegressionDetection.Execution
