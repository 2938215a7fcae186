import RegressionDetection.Foundation.Fallible
import RegressionDetection.Providers.Contracts

/-! The scripted provider of local runs, and the fixture that scripts it. -/

namespace RegressionDetection.Providers

open Foundation Specification

/-- An entry of the fixture, as pydantic validates it. -/
structure FakeResponseDocument where
  output : Option String := none
  error : Option ProviderError := none
  inputTokens : Nat := 0
  outputTokens : Nat := 0
  latencyMs : ℚ := 0
  cost : Option ℚ := none
  outcome : output.isSome = !error.isSome
  latencyBounded : 0 ≤ latencyMs

/-- A scripted response. Unlike an entry of the fixture, it has no negative cost. -/
structure FakeResponse extends FakeResponseDocument where
  costBounded : ∀ value ∈ cost, 0 ≤ value

/-- `FakeResponse(...)`, with what is left of `__post_init__` to check. -/
def FakeResponseDocument.response (document : FakeResponseDocument) : Except PyError FakeResponse :=
  if costBounded : ∀ value ∈ document.cost, 0 ≤ value then .ok { document with costBounded }
  else .error (.valueError "FakeResponse cost cannot be negative")

/-- `load_fake_responses`, from the validated document on. -/
def loadFakeResponses (document : List (String × FakeResponseDocument)) :
    Except PyError (List (String × FakeResponse)) :=
  document.mapM fun entry => do return (entry.1, ← entry.2.response)

structure FakeProvider where
  responses : List (String × FakeResponse)

namespace FakeProvider

section Code

variable (fake : FakeProvider) (runtime : Runtime)

/-- The answer that a response scripts. -/
def scripted (request : InferenceRequest) (response : FakeResponse) : Except PyError InferenceResult :=
  match failed : response.error with
  | some error =>
    .ok { InferenceResult.failure error with
          latencyMs := response.latencyMs, latencyBounded := response.latencyBounded }
  | none =>
    if outputBounded : ∀ text ∈ response.output, text.length ≤ 1000000 then
      if modelBounded : ("fake/" ++ request.modelId).length ≤ 300 then
        .ok { status := .success, output := response.output
              resolvedModel := some ("fake/" ++ request.modelId), finishReason := some "stop"
              usage := some ⟨response.inputTokens, response.outputTokens,
                response.inputTokens + response.outputTokens, rfl⟩
              cost := response.cost, latencyMs := response.latencyMs
              outputBounded, modelBounded := by simpa using modelBounded, reasonBounded := by decide
              costBounded := response.costBounded
              latencyBounded := response.latencyBounded
              shape := ⟨by rw [response.outcome, failed]; rfl, rfl⟩ }
      else .error (.validationError "InferenceResult.resolved_model")
    else .error (.validationError "InferenceResult.output")

/-- `FakeProvider.generate`. -/
def generate (request : InferenceRequest) : Except PyError InferenceResult :=
  match lookup fake.responses request.requestId with
  | none => do
    let error ← ProviderError.new .invalidRequest "fake_response_missing"
      ("No fake response configured for request " ++ pyRepr runtime.printable request.requestId) false
    return .failure error
  | some response => scripted request response

/-- The provider of a local run. -/
def provider : Provider (Unit × Bool) := .raising fun state request => (fake.generate runtime request, state)

end Code

section Answers

variable {fake : FakeProvider} {runtime : Runtime}

theorem isIdentifierChar_bounds {c : Char} (valid : isIdentifierChar c = true) :
    45 ≤ c.toNat ∧ c.toNat ≤ 122 ∧ c.toNat ≠ 92 := by
  have within {low high : Char} (lower : low ≤ c) (upper : c ≤ high) :
      low.toNat ≤ c.toNat ∧ c.toNat ≤ high.toNat := ⟨lower, upper⟩
  simp only [isIdentifierChar, isAsciiAlphanumeric, Bool.or_eq_true, Bool.and_eq_true,
    decide_eq_true_eq] at valid
  rcases valid with (((⟨⟨low, high⟩ | ⟨low, high⟩⟩ | ⟨low, high⟩) | rfl) | rfl) | rfl
  · have bounds : 65 ≤ c.toNat ∧ c.toNat ≤ 90 := within low high
    omega
  · have bounds : 97 ≤ c.toNat ∧ c.toNat ≤ 122 := within low high
    omega
  · have bounds : 48 ≤ c.toNat ∧ c.toNat ≤ 57 := within low high
    omega
  all_goals decide

theorem reprChar_identifier (printable : Char → Bool) {c : Char} (valid : isIdentifierChar c = true) :
    reprChar printable '\'' c = [c] := by
  obtain ⟨low, high, plain⟩ := isIdentifierChar_bounds valid
  have apart (d : Char) (other : c.toNat ≠ d.toNat) : c ≠ d := fun same => other (same ▸ rfl)
  unfold reprChar
  rw [if_neg, if_neg (apart _ ?_), if_neg (apart _ ?_), if_neg (apart _ ?_), if_neg, if_pos]
  · simp only [Bool.or_eq_true, decide_eq_true_eq]
    omega
  · simp only [Bool.or_eq_true, decide_eq_true_eq, not_or]
    omega
  · show c.toNat ≠ 13
    omega
  · show c.toNat ≠ 10
    omega
  · show c.toNat ≠ 9
    omega
  · simp only [Bool.or_eq_true, decide_eq_true_eq, not_or]
    exact ⟨apart _ (show c.toNat ≠ 39 by omega), apart _ (show c.toNat ≠ 92 by omega)⟩

/-- An identifier is printed as it is, between quotes. -/
theorem length_pyRepr_identifier (printable : Char → Bool) {text : String} (valid : IsIdentifier text) :
    (pyRepr printable text).length = text.length + 2 := by
  have chars : ∀ c ∈ text.toList, isIdentifierChar c = true := by
    have starts := valid.1
    unfold startsAlphanumeric at starts
    cases letters : text.toList with
    | nil => exact fun c none => by cases none
    | cons first rest =>
      rw [letters] at starts
      obtain ⟨head, tail⟩ := Bool.and_eq_true_iff.mp starts
      exact List.forall_mem_cons.mpr ⟨by simp [isIdentifierChar, head], List.all_eq_true.mp tail⟩
  have unquoted : '\'' ∉ text.toList := fun member => absurd (chars '\'' member) (by decide)
  have same : text.toList.flatMap (reprChar printable '\'') = text.toList := by
    rw [List.flatMap_congr (fun c member => reprChar_identifier printable (chars c member))]
    exact List.flatMap_singleton' _
  simp only [pyRepr, unquoted, false_and, ↓reduceIte, same, String.length_ofList, List.length_cons,
    List.length_append, List.length_nil, String.length_toList]

/-- A request that is not in the fixture is a permanent error. -/
theorem generate_missing {request : InferenceRequest} (identifier : IsIdentifier request.requestId)
    (missing : lookup fake.responses request.requestId = none) :
    ∃ error, fake.generate runtime request = .ok (.failure error) ∧
      error.category = .invalidRequest ∧ error.code = "fake_response_missing" ∧
      error.retryable = false := by
  have bounded : LengthWithin 1 1000 ("No fake response configured for request " ++
      pyRepr runtime.printable request.requestId) := by
    have lead : "No fake response configured for request ".length = 40 := by decide
    have short := identifier.2
    unfold LengthWithin
    rw [String.length_append, lead, length_pyRepr_identifier _ identifier]
    omega
  have coded : LengthWithin 1 100 "fake_response_missing" := by decide
  refine ⟨⟨.invalidRequest, _, _, false, coded, bounded⟩, ?_, rfl, rfl, rfl⟩
  unfold generate
  rw [missing]
  exact bind_eq_ok.mpr ⟨_, ProviderError.new_ok .invalidRequest false coded bounded, rfl⟩

/-- A success fits into a result. -/
def FakeResponse.Fits (response : FakeResponse) (modelId : String) : Prop :=
  response.error = none →
    (∀ text ∈ response.output, text.length ≤ 1000000) ∧ modelId.length ≤ 295

theorem scripted_returns_iff {request : InferenceRequest} {response : FakeResponse} :
    (∃ result, scripted request response = .ok result) ↔
      FakeResponse.Fits response request.modelId := by
  have named : ("fake/" ++ request.modelId).length ≤ 300 ↔ request.modelId.length ≤ 295 := by
    have lead : "fake/".length = 5 := by decide
    rw [String.length_append, lead]
    omega
  have raises (error : PyError) : ¬ ∃ result : InferenceResult, .error error = Except.ok result := by
    rintro ⟨result, impossible⟩
    cases impossible
  unfold scripted FakeResponse.Fits
  split
  · rename_i error failed
    simp [failed]
  · rename_i failed
    simp only [failed, true_imp_iff]
    split
    · rename_i bounded
      split
      · rename_i short
        exact ⟨fun _ => ⟨bounded, named.mp short⟩, fun _ => ⟨_, rfl⟩⟩
      · rename_i long
        exact iff_of_false (raises _) fun fits => long (named.mpr fits.2)
    · rename_i unbounded
      exact iff_of_false (raises _) fun fits => unbounded fits.1

end Answers

end FakeProvider

end RegressionDetection.Providers
