import Mathlib.Data.List.DropRight
import RegressionDetection.Providers.OpenRouter
import RegressionDetection.Specification.Loader

/-! The calls of the OpenRouter adapter: one POST for each, and what becomes of it. -/

namespace RegressionDetection.Providers

open Foundation Specification

/-- What is posted. -/
structure Post where
  url : String
  headers : List (String × String)
  body : Json
  timeout : ℚ

/-- How a POST ends: with a response, with `httpx.TimeoutException`, with another `httpx.HTTPError`
of this name, or with an exception that the adapter does not catch. -/
inductive Delivery where
  | answered (response : HttpResponse)
  | timedOut
  | failed (name : String)
  | raised (error : PyError)

/-- The end of a POST, and how many milliseconds it took. -/
structure Sent where
  delivery : Delivery
  latencyMs : ℚ
  latencyBounded : 0 ≤ latencyMs

/-- A POST as it went. -/
structure Sending where
  post : Post
  delivery : Delivery

/-- The adapter; the state is whatever decides what becomes of the next POST. -/
structure OpenRouterProvider (σ : Type) where
  apiKeyProvider : σ → String
  baseUrl : String := "https://openrouter.ai/api/v1"
  client : σ → Post → Sent × σ

def InferenceMessage.payload (message : InferenceMessage) : Json :=
  .obj [("role", .str message.role.value), ("content", .str message.content)]

/-- `_payload`. -/
def InferenceRequest.payload (request : InferenceRequest) : Json :=
  .obj [("model", .str request.modelId), ("messages", .arr (request.messages.map InferenceMessage.payload)),
    ("temperature", .float request.temperature), ("max_tokens", .int request.maxOutputTokens)]

/-- The result that a POST becomes. -/
def Sent.normalize (sent : Sent) : Except PyError InferenceResult :=
  match sent.delivery with
  | .answered response => Providers.normalize sent.latencyMs response
  | .timedOut => errorResult .timeout "timeout" "OpenRouter request timed out" true sent.latencyMs
  | .failed name =>
    errorResult .transientUpstream "transport_error" ("OpenRouter transport error: " ++ name) true
      sent.latencyMs
  | .raised error => .error error

namespace OpenRouterProvider

variable {σ : Type} (adapter : OpenRouterProvider σ)

/-- `_headers`. -/
def headers (state : σ) : List (String × String) :=
  [("Authorization", "Bearer " ++ adapter.apiKeyProvider state), ("Content-Type", "application/json")]

/-- The POST of a request. -/
def post (state : σ) (request : InferenceRequest) : Post where
  url := String.ofList (adapter.baseUrl.toList.rdropWhile (· = '/')) ++ "/chat/completions"
  headers := adapter.headers state
  body := request.payload
  timeout := request.timeoutSeconds

/-- `generate`. -/
def generate (state : σ) (request : InferenceRequest) : Except PyError InferenceResult × σ :=
  let (sent, later) := adapter.client state (adapter.post state request)
  (sent.normalize, later)

def provider : Provider (σ × Bool) := .raising adapter.generate

/-- The adapter with a log of its POSTs, which nothing reads. -/
def recording : OpenRouterProvider (σ × List Sending) where
  apiKeyProvider state := adapter.apiKeyProvider state.1
  baseUrl := adapter.baseUrl
  client state post :=
    let (sent, later) := adapter.client state.1 post
    (sent, (later, state.2 ++ [⟨post, sent.delivery⟩]))

end OpenRouterProvider

/-- An end that may pass: no answer, or a status that says so. -/
def Delivery.Transient : Delivery → Prop
  | .answered response => MayPass response.statusCode
  | .timedOut => True
  | .failed _ => True
  | .raised _ => False

/-- The upstream has produced a completion, which it charges for. -/
def Delivery.completed : Delivery → Bool
  | .answered response => response.statusCode = 200
  | _ => false

theorem Delivery.Transient.incomplete {delivery : Delivery} (transient : delivery.Transient) :
    delivery.completed = false := by
  cases delivery with
  | answered response =>
    refine decide_eq_false fun fine => ?_
    unfold Delivery.Transient MayPass at transient
    omega
  | timedOut => rfl
  | failed name => rfl
  | raised error => rfl

section Results

variable {result : InferenceResult}

/-- What the adapter makes of a POST: it never knows a cost, and its errors are about the upstream. -/
structure Adapted (result : InferenceResult) : Prop where
  unpriced : result.cost = none
  upstream : ∀ error ∈ result.error, error.category ≠ .budgetExceeded

theorem InferenceResult.new_adapted {status : ProviderStatus}
    {output resolvedModel finishReason : Option PyText} {usage : Option TokenUsage} {latencyMs : ℚ}
    {error : Option ProviderError} (upstream : ∀ found ∈ error, found.category ≠ .budgetExceeded)
    (built : InferenceResult.new status output resolvedModel finishReason usage latencyMs error =
      .ok result) : Adapted result := by
  obtain ⟨_, _, _, same⟩ := InferenceResult.new_fields built
  refine ⟨?_, same ▸ upstream⟩
  obtain ⟨_, _, built⟩ := bind_eq_ok.mp built
  obtain ⟨_, _, built⟩ := bind_eq_ok.mp built
  obtain ⟨_, _, built⟩ := bind_eq_ok.mp built
  split at built
  · split at built
    · cases built
      rfl
    · cases built
  · cases built

theorem errorResult_adapted {category : ErrorCategory} {code message : String} {retryable : Bool}
    {latencyMs : ℚ} (upstream : category ≠ .budgetExceeded)
    (returned : errorResult category code message retryable latencyMs = .ok result) :
    Adapted result := by
  obtain ⟨error, made, built⟩ := bind_eq_ok.mp returned
  refine InferenceResult.new_adapted (fun found same => ?_) built
  obtain rfl := Option.some.inj same
  rw [(ProviderError.new_fields made).1]
  exact upstream

theorem parseSuccess_adapted {latencyMs : ℚ} {body : Body}
    (returned : parseSuccess latencyMs body = .ok result) : Adapted result := by
  unfold parseSuccess at returned
  split at returned
  · split at returned
    · dsimp only at returned
      split at returned
      · exact errorResult_adapted (by decide) returned
      · obtain ⟨usage, _, built⟩ := bind_eq_ok.mp returned
        exact InferenceResult.new_adapted (by simp) built
    · exact errorResult_adapted (by decide) returned
  · exact errorResult_adapted (by decide) returned

theorem classifyStatus_upstream (statusCode : Nat) :
    (classifyStatus statusCode).1 ≠ .budgetExceeded := by
  unfold classifyStatus
  split_ifs <;> decide

theorem normalize_adapted {latencyMs : ℚ} {response : HttpResponse}
    (returned : normalize latencyMs response = .ok result) : Adapted result := by
  unfold normalize at returned
  split at returned
  · exact errorResult_adapted (classifyStatus_upstream _) returned
  · split at returned
    · exact errorResult_adapted (by decide) returned
    · split at returned
      · exact parseSuccess_adapted returned
      · split at returned
        · exact errorResult_adapted (by decide) returned
        · cases returned

theorem Sent.normalize_adapted {sent : Sent} (returned : sent.normalize = .ok result) :
    Adapted result := by
  unfold Sent.normalize at returned
  split at returned
  · exact Providers.normalize_adapted returned
  · exact errorResult_adapted (by decide) returned
  · exact errorResult_adapted (by decide) returned
  · cases returned

end Results

end RegressionDetection.Providers
