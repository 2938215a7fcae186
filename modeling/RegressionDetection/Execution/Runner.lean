import RegressionDetection.Execution.Rendering

/-! The sequential local runner: one terminal result per golden case, until the
cancellation token is seen set at a case boundary. -/

namespace RegressionDetection.Execution

open Foundation Foundation.FormatString Specification Providers Evaluators

structure CaseExecutionResult where
  caseKey : String
  ordinal : Nat
  requestHash : HexDigest
  providerResult : InferenceResult
  evaluations : List EvaluationResult
deriving DecidableEq

inductive RunStatus where
  | completed
  | cancelled
deriving DecidableEq

structure LocalRunResult where
  status : RunStatus
  suite : String
  configurationHash : HexDigest
  datasetHash : HexDigest
  totalCases : Nat
  successfulCases : Nat
  errorCases : Nat
  cases : List CaseExecutionResult
deriving DecidableEq

/-- The accumulators of the loop, with the state of the provider. -/
structure LoopState (σ : Type) where
  results : List CaseExecutionResult
  accumulatedCost : ℚ
  provider : σ

section Loop

variable {σ : Type} (environment : Environment) (provider : Provider σ)
  (specification : EvaluationSpecification)

/-- `max_total_cost is not None and accumulated_cost >= max_total_cost`, with the cap. -/
def reachedCap (accumulatedCost : ℚ) : Option ℚ :=
  specification.val.limits.maxTotalCost.filter (fun cap => decide (cap ≤ accumulatedCost))

/-- `accumulated_cost += provider_result.cost`. -/
def addCost (accumulatedCost : ℚ) (result : InferenceResult) : ℚ :=
  accumulatedCost + result.cost.getD 0

/-- The result of a case whose request was built: the budget error or the provider's answer. -/
def answer (request : InferenceRequest) (loop : LoopState σ) :
    Except PyError (InferenceResult × LoopState σ) :=
  match reachedCap specification loop.accumulatedCost with
  | some cap => do
    let error ← ProviderError.new .budgetExceeded "max_total_cost_exceeded"
      ("Run cost cap " ++ environment.runtime.floatRepr cap ++ " reached before this case") false
    return (.failure error, loop)
  | none =>
    let (result, later) := provider.generate loop.provider request
    .ok (result, { loop with accumulatedCost := addCost loop.accumulatedCost result, provider := later })

def appendResult (loop : LoopState σ) (result : CaseExecutionResult) : LoopState σ :=
  { loop with results := loop.results ++ [result] }

/-- The body of the loop after the cancellation check. -/
def executeCase (ordinal : Nat) (case : GoldenCase) (loop : LoopState σ) :
    Except PyError (LoopState σ) :=
  match buildRequest environment specification.val case with
  | .error error =>
    if error.isValueError then do
      let refused ← ProviderError.new .invalidRequest "template_render_error"
        (error.text environment.runtime) false
      let evaluations ← evaluateCase environment.libraries case none
        (evaluatorDefinitions specification.val)
      return appendResult loop
        { caseKey := case.key, ordinal, requestHash := HexDigest.zero,
          providerResult := .failure refused, evaluations }
    else .error error
  | .ok request => do
    let (providerResult, later) ← answer environment provider specification request loop
    let evaluations ← evaluateCase environment.libraries case providerResult.output
      (evaluatorDefinitions specification.val)
    return appendResult later
      { caseKey := case.key, ordinal, requestHash := requestHash environment request,
        providerResult, evaluations }

/-- The loop from one ordinal on; the flag is set when it stopped at a cancelled
token, which `cancelled` gives for each case boundary. -/
def executeCases (cancelled : Nat → Bool) :
    Nat → List GoldenCase → LoopState σ → Except PyError (LoopState σ × Bool)
  | _, [], loop => .ok (loop, false)
  | ordinal, case :: rest, loop =>
    if cancelled ordinal then .ok (loop, true)
    else do
      let next ← executeCase environment provider specification ordinal case loop
      executeCases cancelled (ordinal + 1) rest next

/-- `LocalRunResult(...)` at the end of `execute_local`. -/
def runResult (stopped : Bool) (results : List CaseExecutionResult) : LocalRunResult :=
  let hashes := specificationHashes environment.runtime specification.val
  let successfulCases := results.countP (fun result => result.providerResult.status = .success)
  { status := if stopped then .cancelled else .completed
    suite := specification.val.suite
    configurationHash := hashes.configuration
    datasetHash := hashes.dataset
    totalCases := results.length
    successfulCases
    errorCases := results.length - successfulCases
    cases := results }

def initialLoop (start : σ) : LoopState σ := { results := [], accumulatedCost := 0, provider := start }

def executeLocal (cancelled : Nat → Bool) (start : σ) : Except PyError (LocalRunResult × σ) := do
  preflightCheck environment.runtime specification.val
  let (loop, stopped) ← executeCases environment provider specification cancelled 0
    specification.val.cases (initialLoop start)
  return (runResult environment specification stopped loop.results, loop.provider)

/-- Without a cancellation token. -/
def neverCancelled : Nat → Bool := fun _ => false

end Loop

/-- A case of the run got its one terminal result: the typed error carrying the
rendering failure, or the result of the rendered request. -/
def Answered (environment : Environment) (specification : EvaluationSpecification)
    (case : GoldenCase) (result : CaseExecutionResult) : Prop :=
  result.caseKey = case.key ∧
    match buildRequest environment specification.val case with
    | .ok request => result.requestHash = requestHash environment request
    | .error error => result.requestHash = HexDigest.zero ∧
        ∃ refused : ProviderError, result.providerResult = .failure refused ∧
          refused.category = .invalidRequest ∧ refused.code = "template_render_error" ∧
          refused.message = error.text environment.runtime

/-- The evaluator functions return on every output. -/
def EvaluatorsReturn (libraries : Libraries) (specification : EvaluationSpecification) : Prop :=
  ∀ evaluator ∈ specification.val.evaluators, ∀ case ∈ specification.val.cases, ∀ output,
    ∃ result, evaluatorFunction libraries evaluator case output = .ok result

section Facts

variable {σ : Type} {environment : Environment} (provider : Provider σ)
  {specification : EvaluationSpecification}

theorem evaluateCase_returns (evaluators : EvaluatorsReturn environment.libraries specification)
    {case : GoldenCase} (member : case ∈ specification.val.cases) (output : Option String) :
    ∃ results, evaluateCase environment.libraries case output
      (evaluatorDefinitions specification.val) = .ok results := by
  cases output with
  | none =>
    obtain ⟨results, evaluated, _⟩ :=
      evaluateCase_none environment.libraries specification.property member
    exact ⟨results, evaluated⟩
  | some text =>
    apply mapM_returns
    intro name named
    obtain ⟨evaluator, defined, _, found⟩ := evaluator_found specification.property member named
    obtain ⟨result, evaluated⟩ := evaluators evaluator defined case member text
    exact ⟨result, bind_eq_ok.mpr ⟨evaluator, found, evaluated⟩⟩

theorem capMessage_bounded (runtime : Runtime) (cap : ℚ) :
    LengthWithin 1 1000 ("Run cost cap " ++ runtime.floatRepr cap ++ " reached before this case") := by
  have short := runtime.floatRepr_short cap
  have before : "Run cost cap ".length = 13 := by decide
  have after : " reached before this case".length = 25 := by decide
  unfold LengthWithin
  rw [String.length_append, String.length_append, before, after]
  omega

/-- A case with a request always gets an answer. -/
theorem answer_returns (environment : Environment) (specification : EvaluationSpecification)
    (request : InferenceRequest) (loop : LoopState σ) :
    ∃ result later, answer environment provider specification request loop = .ok (result, later) ∧
      later.results = loop.results := by
  unfold answer
  cases reachedCap specification loop.accumulatedCost with
  | none => exact ⟨_, _, rfl, rfl⟩
  | some cap =>
    have coded : LengthWithin 1 100 "max_total_cost_exceeded" := by decide
    have built := ProviderError.new_ok .budgetExceeded false coded
      (capMessage_bounded environment.runtime cap)
    exact ⟨_, _, bind_eq_ok.mpr ⟨_, built, rfl⟩, rfl⟩

/-- What one case of the loop appends, when its evaluators return: an answer,
unless its rendering failure is one the loop cannot report. -/
theorem executeCase_returns (evaluators : EvaluatorsReturn environment.libraries specification)
    {case : GoldenCase} (member : case ∈ specification.val.cases) (ordinal : Nat)
    (loop : LoopState σ) (reportable : ¬ Unreportable environment specification.val case) :
    ∃ next result, executeCase environment provider specification ordinal case loop = .ok next ∧
      next.results = loop.results ++ [result] ∧ Answered environment specification case result := by
  unfold executeCase Answered
  cases built : buildRequest environment specification.val case with
  | ok request =>
    obtain ⟨answered, later, replied, kept⟩ :=
      answer_returns provider environment specification request loop
    obtain ⟨evaluations, evaluated⟩ := evaluateCase_returns evaluators member answered.output
    let result : CaseExecutionResult :=
      { caseKey := case.key, ordinal, requestHash := requestHash environment request,
        providerResult := answered, evaluations }
    refine ⟨appendResult later result, result, ?_, ?_, rfl, rfl⟩
    · exact bind_eq_ok.mpr ⟨_, replied, bind_eq_ok.mpr ⟨_, evaluated, rfl⟩⟩
    · simp only [appendResult, kept]
  | error error =>
    have reported : Reported environment.runtime error := by
      by_contra unreported
      exact reportable ((buildRequest_unreported specification.property member).mp
        ⟨error, built, unreported⟩)
    obtain ⟨evaluations, evaluated⟩ := evaluateCase_returns evaluators member none
    have coded : LengthWithin 1 100 "template_render_error" := by decide
    have made := ProviderError.new_ok .invalidRequest false coded
      reported.2
    let refused : ProviderError :=
      { category := .invalidRequest, code := "template_render_error",
        message := error.text environment.runtime, retryable := false, codeBounded := coded,
        messageBounded := reported.2 }
    let result : CaseExecutionResult :=
      { caseKey := case.key, ordinal, requestHash := HexDigest.zero,
        providerResult := .failure refused, evaluations }
    simp only [reported.1, ↓reduceIte]
    refine ⟨appendResult loop result, result, ?_, rfl, rfl, rfl, refused, rfl, rfl, rfl, rfl⟩
    exact bind_eq_ok.mpr ⟨_, made, bind_eq_ok.mpr ⟨_, evaluated, rfl⟩⟩

/-- A rendering failure the loop cannot report ends the run with an exception. -/
theorem executeCase_raises {case : GoldenCase} (member : case ∈ specification.val.cases)
    (ordinal : Nat) (loop : LoopState σ)
    (unreportable : Unreportable environment specification.val case) :
    ∃ error, executeCase environment provider specification ordinal case loop = .error error := by
  obtain ⟨error, built, unreported⟩ :=
    (buildRequest_unreported specification.property member).mpr unreportable
  unfold executeCase
  rw [built]
  by_cases caught : error.isValueError = true
  · have coded : LengthWithin 1 100 "template_render_error" := by decide
    have unbounded : ¬ LengthWithin 1 1000 (error.text environment.runtime) :=
      fun bounded => unreported ⟨caught, bounded⟩
    cases made : ProviderError.new .invalidRequest "template_render_error"
        (error.text environment.runtime) false with
    | error refused =>
      refine ⟨refused, ?_⟩
      simp only [caught, ↓reduceIte]
      exact bind_eq_error.mpr (.inl made)
    | ok refused => exact absurd ((ProviderError.new_isOk_iff coded).mp ⟨refused, made⟩) unbounded
  · exact ⟨error, by simp [caught]⟩

/-- The uncancelled loop returns exactly when every case is reportable, and then
answers the cases in order. -/
theorem executeCases_returns (evaluators : EvaluatorsReturn environment.libraries specification)
    {cases : List GoldenCase} (members : ∀ case ∈ cases, case ∈ specification.val.cases)
    (ordinal : Nat) (loop : LoopState σ)
    (reportable : ∀ case ∈ cases, ¬ Unreportable environment specification.val case) :
    ∃ final results, executeCases environment provider specification neverCancelled ordinal cases
        loop = .ok (final, false) ∧ final.results = loop.results ++ results ∧
      List.Forall₂ (Answered environment specification) cases results := by
  induction cases generalizing ordinal loop with
  | nil => exact ⟨loop, [], rfl, by simp, .nil⟩
  | cons case rest ih =>
    obtain ⟨next, result, executed, grown, answered⟩ :=
      executeCase_returns provider evaluators (members case List.mem_cons_self) ordinal
        loop (reportable case List.mem_cons_self)
    obtain ⟨final, results, finished, all, answers⟩ := ih
      (fun other later => members other (List.mem_cons_of_mem _ later)) (ordinal + 1) next
      (fun other later => reportable other (List.mem_cons_of_mem _ later))
    refine ⟨final, result :: results, ?_, by rw [all, grown]; simp, .cons answered answers⟩
    simp only [executeCases, neverCancelled, Bool.false_eq_true, ↓reduceIte]
    exact bind_eq_ok.mpr ⟨next, executed, finished⟩

theorem executeCases_reportable {cases : List GoldenCase}
    (members : ∀ case ∈ cases, case ∈ specification.val.cases) (ordinal : Nat) (loop : LoopState σ)
    {final : LoopState σ × Bool}
    (returned : executeCases environment provider specification neverCancelled ordinal cases loop =
      .ok final) : ∀ case ∈ cases, ¬ Unreportable environment specification.val case := by
  induction cases generalizing ordinal loop with
  | nil => simp
  | cons case rest ih =>
    simp only [executeCases, neverCancelled, Bool.false_eq_true, ↓reduceIte] at returned
    obtain ⟨next, executed, finished⟩ := bind_eq_ok.mp returned
    intro other listed unreportable
    rcases List.mem_cons.mp listed with rfl | later
    · obtain ⟨error, raised⟩ := executeCase_raises provider
        (members other List.mem_cons_self) ordinal loop unreportable
      cases raised.symm.trans executed
    · exact ih (fun case member => members case (List.mem_cons_of_mem _ member)) (ordinal + 1) next
        finished other later unreportable

end Facts

section Documents

/-- A reference with the zero hash. -/
def zeroReference (kind : TargetKind) : VersionedTargetRef :=
  { kind, targetId := "target", version := "1", contentHash := HexDigest.zero }

/-- A small document: one prompt message, one exact-match evaluator, and one
case without inputs under each key. -/
def plainDocument (template : String) (keys : List String) (limits : ExecutionLimits) :
    EvaluationSpecificationV1 where
  suite := "suite"
  prompt := { target := zeroReference .prompt, messages := [{ role := .user, content := template }] }
  model := { target := zeroReference .model, modelId := "model" }
  evaluators := [{ name := "exact", type := .exactMatch }]
  cases := keys.map fun key => { key, inputs := [], expected := .str "ok", evaluators := ["exact"] }
  policy := {}
  limits

/-- An environment in which no library function is reached by text evaluators. -/
def Environment.plain : Environment where
  runtime := Runtime.ascii
  libraries :=
    { normalize := id
      compileRegex := fun _ => .returned ()
      searchRegex := fun pattern output => .returned (containsText output pattern)
      jsonLoads := fun _ => .handled (1, 1)
      checkSchema := fun _ => .returned ()
      validateSchema := fun _ _ => .returned () }
  contentError _ := "String should have at least 1 character"
  contentErrorBounded _ := by decide

theorem plainDocument_evaluatorsReturn {template : String} {keys : List String}
    {limits : ExecutionLimits} (valid : (plainDocument template keys limits).Valid) :
    EvaluatorsReturn libraries ⟨plainDocument template keys limits, valid⟩ := by
  intro evaluator defined case _ output
  have identifier := valid.evaluatorIdentifiers evaluator defined
  obtain rfl := List.mem_singleton.mp defined
  exact textEvaluator_returns identifier case output _ (by decide)

end Documents

theorem greeting_valid : (plainDocument "Say ok" ["first"] {}).Valid := by decide +kernel

theorem placeholder_valid : (plainDocument "Say \x7bname\x7d" ["first"] {}).Valid := by decide +kernel

end RegressionDetection.Execution
