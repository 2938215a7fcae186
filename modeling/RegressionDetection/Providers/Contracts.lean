import RegressionDetection.Errors
import RegressionDetection.Specification.Models

/-! Provider-neutral requests and results. A value carries its field bounds, so
constructing one is where pydantic can refuse. -/

namespace RegressionDetection.Providers

open Foundation Specification

structure InferenceMessage where
  role : MessageRole
  content : String
  bounded : LengthWithin 1 100000 content
deriving DecidableEq

structure InferenceRequest where
  requestId : String
  modelId : String
  messages : List InferenceMessage
  temperature : ℚ
  maxOutputTokens : Nat
  timeoutSeconds : ℚ
  requestIdBounded : LengthWithin 1 200 requestId
  modelIdBounded : LengthWithin 1 300 modelId
  messagesBounded : 1 ≤ messages.length ∧ messages.length ≤ 100
  temperatureBounded : 0 ≤ temperature ∧ temperature ≤ 2
  tokensBounded : 1 ≤ maxOutputTokens ∧ maxOutputTokens ≤ 1000000
  timeoutBounded : 0 < timeoutSeconds ∧ timeoutSeconds ≤ 600
deriving DecidableEq

inductive ErrorCategory where
  | authentication
  | invalidRequest
  | rateLimited
  | timeout
  | transientUpstream
  | contentPolicy
  | budgetExceeded
  | unknown
deriving DecidableEq

structure ProviderError where
  category : ErrorCategory
  code : String
  message : String
  retryable : Bool
  codeBounded : LengthWithin 1 100 code
  messageBounded : LengthWithin 1 1000 message
deriving DecidableEq

structure TokenUsage where
  inputTokens : Nat
  outputTokens : Nat
  totalTokens : Nat
  total : totalTokens = inputTokens + outputTokens
deriving DecidableEq

inductive ProviderStatus where
  | success
  | error
deriving DecidableEq

def ProviderStatus.value : ProviderStatus → String
  | .success => "success"
  | .error => "error"

/-- `validate_result_shape`: a success has output and no error, an error the reverse. -/
def ResultShape (status : ProviderStatus) (output : Option String)
    (error : Option ProviderError) : Prop :=
  match status with
  | .success => output.isSome = true ∧ error = none
  | .error => error.isSome = true ∧ output = none

instance : Decidable (ResultShape status output error) :=
  match status with
  | .success => inferInstanceAs (Decidable (_ ∧ _))
  | .error => inferInstanceAs (Decidable (_ ∧ _))

/-- The fields of a result, before their validation. -/
structure InferenceResultFields where
  status : ProviderStatus
  output : Option String := none
  resolvedModel : Option String := none
  finishReason : Option String := none
  usage : Option TokenUsage := none
  cost : Option ℚ := none
  latencyMs : ℚ
  error : Option ProviderError := none
deriving DecidableEq

structure InferenceResult extends InferenceResultFields where
  outputBounded : ∀ text ∈ output, text.length ≤ 1000000 := by simp
  modelBounded : ∀ text ∈ resolvedModel, text.length ≤ 300 := by simp
  reasonBounded : ∀ text ∈ finishReason, text.length ≤ 100 := by simp
  costBounded : ∀ value ∈ cost, 0 ≤ value := by simp
  latencyBounded : 0 ≤ latencyMs
  shape : ResultShape status output error

theorem InferenceResult.fields_injective : Function.Injective InferenceResult.toInferenceResultFields := by
  rintro ⟨⟩ ⟨⟩ same
  cases same
  rfl

instance : DecidableEq InferenceResult := InferenceResult.fields_injective.decidableEq

/-- The provider port; the state is whatever decides the next answer. -/
structure Provider (σ : Type) where
  generate : σ → InferenceRequest → InferenceResult × σ

/-- One call of a provider. -/
structure Exchange where
  request : InferenceRequest
  result : InferenceResult
deriving DecidableEq

/-- The provider with a log of its calls, which it does not read. -/
def Provider.recording {σ : Type} (provider : Provider σ) : Provider (σ × List Exchange) where
  generate state request :=
    let (result, later) := provider.generate state.1 request
    (result, (later, state.2 ++ [{ request, result }]))

section Construction

/-- `ProviderError(...)`: the bounds are checked when the value is built. -/
def ProviderError.new (category : ErrorCategory) (code message : String) (retryable : Bool) :
    Except PyError ProviderError :=
  if codeBounded : LengthWithin 1 100 code then
    if messageBounded : LengthWithin 1 1000 message then
      .ok { category, code, message, retryable, codeBounded, messageBounded }
    else .error (.validationError "ProviderError.message")
  else .error (.validationError "ProviderError.code")

/-- `InferenceRequest(...)`. -/
def InferenceRequest.new (requestId modelId : String) (messages : List InferenceMessage)
    (temperature : ℚ) (maxOutputTokens : Nat) (timeoutSeconds : ℚ) :
    Except PyError InferenceRequest :=
  if requestIdBounded : LengthWithin 1 200 requestId then
    if modelIdBounded : LengthWithin 1 300 modelId then
      if messagesBounded : 1 ≤ messages.length ∧ messages.length ≤ 100 then
        if temperatureBounded : 0 ≤ temperature ∧ temperature ≤ 2 then
          if tokensBounded : 1 ≤ maxOutputTokens ∧ maxOutputTokens ≤ 1000000 then
            if timeoutBounded : 0 < timeoutSeconds ∧ timeoutSeconds ≤ 600 then
              .ok { requestId, modelId, messages, temperature, maxOutputTokens, timeoutSeconds,
                    requestIdBounded, modelIdBounded, messagesBounded, temperatureBounded,
                    tokensBounded, timeoutBounded }
            else .error (.validationError "InferenceRequest.timeout_seconds")
          else .error (.validationError "InferenceRequest.max_output_tokens")
        else .error (.validationError "InferenceRequest.temperature")
      else .error (.validationError "InferenceRequest.messages")
    else .error (.validationError "InferenceRequest.model_id")
  else .error (.validationError "InferenceRequest.request_id")

/-- `InferenceResult(status="error", latency_ms=0.0, error=error)`. -/
def InferenceResult.failure (error : ProviderError) : InferenceResult where
  status := .error
  latencyMs := 0
  error := some error
  latencyBounded := le_refl (0 : ℚ)
  shape := ⟨rfl, rfl⟩

/-- `status="success"` with the given output. -/
def InferenceResult.successful (output : String) (bounded : output.length ≤ 1000000) :
    InferenceResult where
  status := .success
  output := some output
  latencyMs := 0
  outputBounded := by simpa using bounded
  latencyBounded := le_refl (0 : ℚ)
  shape := ⟨rfl, rfl⟩

/-- The answer `"ok"`. -/
def InferenceResult.ok : InferenceResult := .successful "ok" (by decide)

/-- A provider that gives every request the answer `"ok"`. -/
def Provider.ok : Provider Unit where
  generate _ _ := (InferenceResult.ok, ())

/-- A provider whose `generate` may raise. The flag says that it has: what an execution does after
that is not the code's. -/
def Provider.raising {σ : Type}
    (generate : σ → InferenceRequest → Except PyError InferenceResult × σ) : Provider (σ × Bool) where
  generate state request :=
    match generate state.1 request with
    | (.ok result, later) => (result, (later, state.2))
    | (.error _, later) => (.ok, (later, true))

/-- A request keeps the identifier and the token cap it is made with. -/
theorem InferenceRequest.new_fields {requestId modelId : String} {messages : List InferenceMessage}
    {temperature timeoutSeconds : ℚ} {maxOutputTokens : Nat} {request : InferenceRequest}
    (built : InferenceRequest.new requestId modelId messages temperature maxOutputTokens
      timeoutSeconds = .ok request) :
    request.requestId = requestId ∧ request.maxOutputTokens = maxOutputTokens := by
  unfold InferenceRequest.new at built
  split at built
  · split at built
    · split at built
      · split at built
        · split at built
          · split at built
            · cases built
              exact ⟨rfl, rfl⟩
            · cases built
          · cases built
        · cases built
      · cases built
    · cases built
  · cases built

theorem ProviderError.new_ok (category : ErrorCategory) {code message : String} (retryable : Bool)
    (codeBounded : LengthWithin 1 100 code) (messageBounded : LengthWithin 1 1000 message) :
    ProviderError.new category code message retryable =
      .ok { category, code, message, retryable, codeBounded, messageBounded } := by
  simp [ProviderError.new, codeBounded, messageBounded]

theorem ProviderError.new_fields {category : ErrorCategory} {code message : String}
    {retryable : Bool} {error : ProviderError}
    (built : ProviderError.new category code message retryable = .ok error) :
    error.category = category ∧ error.code = code := by
  unfold ProviderError.new at built
  split at built
  · split at built
    · cases built
      exact ⟨rfl, rfl⟩
    · cases built
  · cases built

/-- With a good code, construction fails exactly on a message out of bounds. -/
theorem ProviderError.new_isOk_iff {category : ErrorCategory} {code message : String}
    {retryable : Bool} (codeBounded : LengthWithin 1 100 code) :
    (∃ error, ProviderError.new category code message retryable = .ok error) ↔
      LengthWithin 1 1000 message := by
  constructor
  · rintro ⟨error, built⟩
    unfold ProviderError.new at built
    rw [dif_pos codeBounded] at built
    split at built
    · assumption
    · cases built
  · intro messageBounded
    exact ⟨_, ProviderError.new_ok category retryable codeBounded messageBounded⟩

end Construction

end RegressionDetection.Providers
