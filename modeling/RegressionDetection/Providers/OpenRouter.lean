import Mathlib.Algebra.Order.Ring.Rat
import Mathlib.Data.List.Basic
import RegressionDetection.Foundation.Fallible
import RegressionDetection.Providers.Contracts

/-! The OpenRouter adapter: every HTTP response becomes a success or a typed error.
A body is untrusted, so its strings are Python strings: JSON can escape a surrogate
that has no partner, which no contract string may hold. -/

namespace RegressionDetection.Providers

open Foundation Specification

abbrev CodePoint := Fin 0x110000

/-- A Python string, unpaired surrogates included. -/
abbrev PyText := List CodePoint

def pyText (text : String) : PyText :=
  text.toList.map (fun c => ⟨c.toNat, by
    have valid : c.toNat < 0xd800 ∨ (0xdfff < c.toNat ∧ c.toNat < 0x110000) := c.valid
    omega⟩)

def charOf? (point : CodePoint) : Option Char :=
  if valid : point.val.isValidChar then some (Char.ofNatAux point.val valid) else none

/-- The text as Unicode, if it has no surrogates. -/
def unicode? (text : PyText) : Option String := (text.mapM charOf?).map String.ofList

/-- What `json.loads` returns; a NaN or an infinity is like any other float here. -/
inductive Body where
  | null
  | bool (value : Bool)
  | int (value : Int)
  | float (value : ℚ)
  | str (value : PyText)
  | arr (items : List Body)
  | obj (fields : List (PyText × Body))

/-- `fields.get(key)`; JSON `null` and a missing key are both `None`. -/
def member (fields : List (PyText × Body)) (key : String) : Body :=
  (lookup fields (pyText key)).getD .null

/-- A response of the upstream; `json` is what `response.json()` returns or raises, a
`ValueError` on a body that is not JSON. -/
structure HttpResponse where
  statusCode : Nat
  contentLength : Nat
  json : Except PyError Body
  threeDigits : statusCode < 1000

def maxResponseBytes : Nat := 5 * 1024 * 1024

/-- `_RETRYABLE_STATUS`. -/
def retryableStatus : List Nat := [408, 409, 429, 500, 502, 503, 504]

section Construction

/-- A bounded optional `str` field. -/
def validText (field : String) (limit : Nat) :
    Option PyText → Except PyError (Option { text : String // text.length ≤ limit })
  | none => .ok none
  | some points =>
    match unicode? points with
    | none => .error (.validationError field)
    | some text =>
      if bounded : text.length ≤ limit then .ok (some ⟨text, bounded⟩)
      else .error (.validationError field)

theorem bounded_of_mem {limit : Nat} {stored : Option { text : String // text.length ≤ limit }} :
    ∀ text ∈ stored.map Subtype.val, text.length ≤ limit := by
  intro text found
  obtain ⟨⟨kept, bounded⟩, _, rfl⟩ := Option.mem_map.mp found
  exact bounded

/-- `TokenUsage(...)`. -/
def TokenUsage.new (inputTokens outputTokens totalTokens : Int) : Except PyError TokenUsage :=
  if 0 ≤ inputTokens ∧ 0 ≤ outputTokens ∧ 0 ≤ totalTokens then
    if total : totalTokens.toNat = inputTokens.toNat + outputTokens.toNat then
      .ok ⟨inputTokens.toNat, outputTokens.toNat, totalTokens.toNat, total⟩
    else .error (.validationError "total_tokens must equal input_tokens + output_tokens")
  else .error (.validationError "TokenUsage")

theorem noCost_bounded : ∀ value ∈ (none : Option ℚ), 0 ≤ value := by simp

/-- `InferenceResult(...)`, of the fields this adapter gives. -/
def InferenceResult.new (status : ProviderStatus)
    (output resolvedModel finishReason : Option PyText) (usage : Option TokenUsage)
    (latencyMs : ℚ) (error : Option ProviderError) : Except PyError InferenceResult := do
  let output ← validText "InferenceResult.output" 1000000 output
  let resolvedModel ← validText "InferenceResult.resolved_model" 300 resolvedModel
  let finishReason ← validText "InferenceResult.finish_reason" 100 finishReason
  if latencyBounded : 0 ≤ latencyMs then
    if shape : ResultShape status (output.map Subtype.val) error then
      return { status, output := output.map Subtype.val,
               resolvedModel := resolvedModel.map Subtype.val,
               finishReason := finishReason.map Subtype.val, usage, latencyMs, error,
               outputBounded := bounded_of_mem, modelBounded := bounded_of_mem,
               reasonBounded := bounded_of_mem, costBounded := noCost_bounded, latencyBounded, shape }
    else throw (.validationError "InferenceResult")
  else throw (.validationError "InferenceResult.latency_ms")

end Construction

section Code

def classifyStatus (statusCode : Nat) : ErrorCategory × Bool :=
  if statusCode ∈ [401, 403] then (.authentication, false)
  else if statusCode = 429 then (.rateLimited, true)
  else if statusCode = 400 then (.invalidRequest, false)
  else if statusCode = 422 then (.contentPolicy, false)
  else if statusCode ∈ retryableStatus then (.transientUpstream, true)
  else if 500 ≤ statusCode ∧ statusCode < 600 then (.transientUpstream, true)
  else (.unknown, false)

/-- `_error`. -/
def errorResult (category : ErrorCategory) (code message : String) (retryable : Bool)
    (latencyMs : ℚ) : Except PyError InferenceResult := do
  let error ← ProviderError.new category code (String.ofList (message.toList.take 1000)) retryable
  InferenceResult.new .error none none none none latencyMs (some error)

/-- `value if isinstance(value, str) else None`. -/
def textOf? : Body → Option PyText
  | .str text => some text
  | _ => none

/-- The integer that an `int` is, and a `bool` is an `int`. -/
def intOf? : Body → Option Int
  | .int value => some value
  | .bool value => some (if value then 1 else 0)
  | _ => none

/-- `_parse_usage`. -/
def parseUsage : Body → Except PyError (Option TokenUsage)
  | .obj usage =>
    match intOf? (member usage "prompt_tokens"), intOf? (member usage "completion_tokens") with
    | some promptTokens, some completionTokens =>
      if promptTokens < 0 ∨ completionTokens < 0 then .ok none
      else do
        let counted ← TokenUsage.new promptTokens completionTokens (promptTokens + completionTokens)
        return some counted
    | _, _ => .ok none
  | _ => .ok none

variable (latencyMs : ℚ)

/-- `_parse_success`. -/
def parseSuccess : Body → Except PyError InferenceResult
  | .obj body =>
    match member body "choices" with
    | .arr (.obj choice :: _) =>
      let content :=
        match member choice "message" with
        | .obj message => textOf? (member message "content")
        | _ => none
      match content with
      | none => errorResult .unknown "missing_content"
          "OpenRouter choice contained no text content" false latencyMs
      | some content => do
        let usage ← parseUsage (member body "usage")
        InferenceResult.new .success (some content) (textOf? (member body "model"))
          (textOf? (member choice "finish_reason")) usage latencyMs none
    | _ => errorResult .unknown "missing_choices" "OpenRouter response contained no choices"
        false latencyMs
  | _ => errorResult .unknown "unexpected_body" "OpenRouter response was not an object"
      false latencyMs

/-- `_normalize`. -/
def normalize (response : HttpResponse) : Except PyError InferenceResult :=
  if response.statusCode ≠ 200 then
    let (category, retryable) := classifyStatus response.statusCode
    errorResult category ("http_" ++ toString response.statusCode)
      ("OpenRouter returned HTTP " ++ toString response.statusCode) retryable latencyMs
  else if maxResponseBytes < response.contentLength then
    errorResult .invalidRequest "response_too_large" "OpenRouter response exceeded the size limit"
      false latencyMs
  else
    match response.json with
    | .ok body => parseSuccess latencyMs body
    | .error error =>
      if error.isValueError then
        errorResult .unknown "invalid_json" "OpenRouter returned a non-JSON body" false latencyMs
      else .error error

end Code

/-- A text a contract field of this bound can hold. -/
def Fits (limit : Nat) (text : PyText) : Prop :=
  ∃ unicode, unicode? text = some unicode ∧ unicode.length ≤ limit

theorem charOf?_toNat (c : Char) (bound : c.toNat < 0x110000) :
    charOf? ⟨c.toNat, bound⟩ = some c := by
  unfold charOf?
  exact dif_pos c.valid

theorem unicode?_pyText (text : String) : unicode? (pyText text) = some text := by
  have whole (chars : List Char) (bounds : ∀ c : Char, c.toNat < 0x110000) :
      (chars.map fun c => (⟨c.toNat, bounds c⟩ : CodePoint)).mapM charOf? = some chars := by
    induction chars with
    | nil => rfl
    | cons c rest ih => simp [charOf?_toNat, ih]
  simp [unicode?, pyText, whole]

theorem fits_pyText {limit : Nat} {text : String} :
    Fits limit (pyText text) ↔ text.length ≤ limit := by
  simp [Fits, unicode?_pyText]

/-- A response with an object whose first choice carries text content. -/
structure TextResponse (response : HttpResponse) (body choice : List (PyText × Body))
    (content : PyText) : Prop where
  status : response.statusCode = 200
  sized : response.contentLength ≤ maxResponseBytes
  decoded : response.json = .ok (.obj body)
  choices : ∃ others, member body "choices" = .arr (.obj choice :: others)
  message : ∃ message, member choice "message" = .obj message ∧
    member message "content" = .str content

/-- The usage object gives these two counts as non-negative integers. -/
def CountsAre (usage : Body) (inputTokens outputTokens : Nat) : Prop :=
  ∃ fields, usage = .obj fields ∧ member fields "prompt_tokens" = .int inputTokens ∧
    member fields "completion_tokens" = .int outputTokens

/-- The statuses after which a later attempt may succeed: 408, 409, 429 and 5xx. -/
def MayPass (statusCode : Nat) : Prop :=
  statusCode = 408 ∨ statusCode = 409 ∨ statusCode = 429 ∨ (500 ≤ statusCode ∧ statusCode < 600)

/-- What a normalised result says about the response it comes from. -/
structure Normalises (response : HttpResponse) (result : InferenceResult) : Prop where
  success_iff : result.status = .success ↔
    ∃ body choice content, TextResponse response body choice content ∧ Fits 1000000 content
  output : ∀ body choice content, TextResponse response body choice content →
    result.output = unicode? content
  usage_iff : ∀ body choice content, TextResponse response body choice content →
    ∀ inputTokens outputTokens,
      (∃ usage, result.usage = some usage ∧ usage.inputTokens = inputTokens ∧
        usage.outputTokens = outputTokens) ↔
      CountsAre (member body "usage") inputTokens outputTokens
  retryable_iff : ∀ error, result.error = some error →
    (error.retryable = true ↔ MayPass response.statusCode)

/-- A count that is a JSON boolean, beside one that is a count or a boolean. -/
def BooleanCounts (usage : Body) : Prop :=
  ∃ fields inputTokens outputTokens, usage = .obj fields ∧
    intOf? (member fields "prompt_tokens") = some inputTokens ∧
    intOf? (member fields "completion_tokens") = some outputTokens ∧
    0 ≤ inputTokens ∧ 0 ≤ outputTokens ∧
    ¬ (member fields "prompt_tokens" = .int inputTokens ∧
      member fields "completion_tokens" = .int outputTokens)

/-- A body whose texts fit the result's fields and whose counts are no booleans. -/
structure Presentable (body choice : List (PyText × Body)) (content : PyText) : Prop where
  output : Fits 1000000 content
  model : ∀ text, member body "model" = .str text → Fits 300 text
  reason : ∀ text, member choice "finish_reason" = .str text → Fits 100 text
  counts : ¬ BooleanCounts (member body "usage")

section Construction

theorem validText_ok_iff {field : String} {limit : Nat} {text : Option PyText} :
    (∃ stored, validText field limit text = .ok stored) ↔ ∀ points ∈ text, Fits limit points := by
  cases text with
  | none => simp [validText]
  | some points =>
    simp only [validText, Option.mem_def, Option.some.injEq, forall_eq', Fits]
    cases unicode : unicode? points with
    | none => simp
    | some text =>
      by_cases bounded : text.length ≤ limit
      · simp [bounded]
      · simp [bounded]

theorem validText_val {field : String} {limit : Nat} {text : Option PyText}
    {stored : Option { text : String // text.length ≤ limit }}
    (valid : validText field limit text = .ok stored) :
    stored.map Subtype.val = text.bind unicode? := by
  cases text with
  | none =>
    cases valid
    rfl
  | some points =>
    unfold validText at valid
    dsimp only at valid
    cases unicode : unicode? points with
    | none =>
      rw [unicode] at valid
      cases valid
    | some text =>
      rw [unicode] at valid
      dsimp only at valid
      split at valid
      · cases valid
        exact unicode.symm
      · cases valid

/-- Counts that are not negative, with their sum, are valid. -/
theorem TokenUsage.new_ok {inputTokens outputTokens : Int} (input : 0 ≤ inputTokens)
    (output : 0 ≤ outputTokens) :
    TokenUsage.new inputTokens outputTokens (inputTokens + outputTokens) =
      .ok ⟨inputTokens.toNat, outputTokens.toNat, (inputTokens + outputTokens).toNat,
        Int.toNat_add input output⟩ := by
  have sum : 0 ≤ inputTokens + outputTokens := by omega
  rw [TokenUsage.new, if_pos ⟨input, output, sum⟩, dif_pos (Int.toNat_add input output)]

section Success

variable {content : PyText} {resolvedModel finishReason : Option PyText} {usage : Option TokenUsage}
  {latencyMs : ℚ}

theorem InferenceResult.new_fields {status : ProviderStatus} {output : Option PyText}
    {error : Option ProviderError} {result : InferenceResult}
    (built : InferenceResult.new status output resolvedModel finishReason usage latencyMs error =
      .ok result) :
    result.status = status ∧ result.output = output.bind unicode? ∧ result.usage = usage ∧
      result.error = error := by
  obtain ⟨text, valid, built⟩ := bind_eq_ok.mp built
  obtain ⟨_, _, built⟩ := bind_eq_ok.mp built
  obtain ⟨_, _, built⟩ := bind_eq_ok.mp built
  split at built
  · split at built
    · cases built
      exact ⟨rfl, validText_val valid, rfl, rfl⟩
    · cases built
  · cases built

/-- A success can be built exactly when its texts fit. -/
theorem InferenceResult.new_success_iff (nonneg : 0 ≤ latencyMs) :
    (∃ result, InferenceResult.new .success (some content) resolvedModel finishReason usage
        latencyMs none = .ok result) ↔
      Fits 1000000 content ∧ (∀ text ∈ resolvedModel, Fits 300 text) ∧
        ∀ text ∈ finishReason, Fits 100 text := by
  constructor
  · rintro ⟨result, built⟩
    obtain ⟨output, first, built⟩ := bind_eq_ok.mp built
    obtain ⟨model, second, built⟩ := bind_eq_ok.mp built
    obtain ⟨reason, third, _⟩ := bind_eq_ok.mp built
    exact ⟨validText_ok_iff.mp ⟨output, first⟩ content rfl, validText_ok_iff.mp ⟨model, second⟩,
      validText_ok_iff.mp ⟨reason, third⟩⟩
  · rintro ⟨fits, modelFits, reasonFits⟩
    obtain ⟨output, first⟩ :
        ∃ output, validText "InferenceResult.output" 1000000 (some content) = .ok output :=
      validText_ok_iff.mpr (by simpa using fits)
    obtain ⟨model, second⟩ :
        ∃ model, validText "InferenceResult.resolved_model" 300 resolvedModel = .ok model :=
      validText_ok_iff.mpr modelFits
    obtain ⟨reason, third⟩ :
        ∃ reason, validText "InferenceResult.finish_reason" 100 finishReason = .ok reason :=
      validText_ok_iff.mpr reasonFits
    have shape : ResultShape .success (output.map Subtype.val) none := by
      obtain ⟨unicode, same, _⟩ := fits
      rw [validText_val first, Option.bind_some, same]
      exact ⟨rfl, rfl⟩
    unfold InferenceResult.new
    simp only [first, second, third, bind, Except.bind]
    rw [dif_pos nonneg, dif_pos shape]
    exact ⟨_, rfl⟩

end Success

/-- An error with a code and a message is always built. -/
theorem errorResult_returns (category : ErrorCategory) {code message : String} (retryable : Bool)
    {latencyMs : ℚ} (codeBounded : LengthWithin 1 100 code) (worded : 1 ≤ message.length)
    (nonneg : 0 ≤ latencyMs) :
    ∃ result, errorResult category code message retryable latencyMs = .ok result ∧
      result.status = .error ∧ ∀ error, result.error = some error → error.retryable = retryable := by
  have clipped : LengthWithin 1 1000 (String.ofList (message.toList.take 1000)) := by
    have length : (String.ofList (message.toList.take 1000)).length = min 1000 message.length := by
      rw [String.length_ofList, List.length_take, String.length_toList]
    unfold LengthWithin
    omega
  unfold errorResult
  rw [ProviderError.new_ok category retryable codeBounded clipped]
  unfold InferenceResult.new
  simp only [validText, bind, Except.bind]
  rw [dif_pos nonneg]
  refine ⟨_, dif_pos ⟨rfl, rfl⟩, rfl, ?_⟩
  intro error same
  cases same
  rfl

end Construction

section Usage

/-- The counts as the code reads them, booleans included. -/
def CountsRead (usage : Body) (inputTokens outputTokens : Nat) : Prop :=
  ∃ fields, usage = .obj fields ∧ intOf? (member fields "prompt_tokens") = some ↑inputTokens ∧
    intOf? (member fields "completion_tokens") = some ↑outputTokens

theorem parseUsage_returns (usage : Body) :
    ∃ parsed, parseUsage usage = .ok parsed ∧ ∀ inputTokens outputTokens,
      (∃ counted, parsed = some counted ∧ counted.inputTokens = inputTokens ∧
        counted.outputTokens = outputTokens) ↔ CountsRead usage inputTokens outputTokens := by
  cases usage with
  | obj fields =>
    unfold CountsRead
    cases prompt : intOf? (member fields "prompt_tokens") with
    | none => exact ⟨none, by simp only [parseUsage, prompt], by simp [prompt]⟩
    | some promptTokens =>
      cases completion : intOf? (member fields "completion_tokens") with
      | none => exact ⟨none, by simp only [parseUsage, prompt, completion], by simp [completion]⟩
      | some completionTokens =>
        by_cases negative : promptTokens < 0 ∨ completionTokens < 0
        · refine ⟨none, by simp only [parseUsage, prompt, completion, negative, if_true], ?_⟩
          intro inputTokens outputTokens
          simp only [reduceCtorEq, false_and, exists_false, Body.obj.injEq, exists_eq_left', prompt,
            completion, Option.some.injEq, false_iff]
          omega
        · have counted := TokenUsage.new_ok (show 0 ≤ promptTokens by omega)
            (show 0 ≤ completionTokens by omega)
          refine ⟨_, by simp only [parseUsage, prompt, completion, negative, if_false, counted]; rfl, ?_⟩
          intro inputTokens outputTokens
          simp only [Option.some.injEq, exists_eq_left', Body.obj.injEq, prompt, completion]
          omega
  | _ => exact ⟨none, rfl, by simp [CountsRead]⟩

theorem CountsAre.read {usage : Body} {inputTokens outputTokens : Nat}
    (given : CountsAre usage inputTokens outputTokens) :
    CountsRead usage inputTokens outputTokens := by
  obtain ⟨fields, shape, prompt, completion⟩ := given
  exact ⟨fields, shape, by rw [prompt]; rfl, by rw [completion]; rfl⟩

/-- The counts that are read are the counts given exactly when none is a boolean. -/
theorem countsRead_iff_countsAre (usage : Body) :
    (∀ inputTokens outputTokens, CountsRead usage inputTokens outputTokens ↔
      CountsAre usage inputTokens outputTokens) ↔ ¬ BooleanCounts usage := by
  constructor
  · rintro same ⟨fields, inputTokens, outputTokens, shape, prompt, completion, input, output, odd⟩
    have read : CountsRead usage inputTokens.toNat outputTokens.toNat :=
      ⟨fields, shape, by rw [prompt, Int.toNat_of_nonneg input],
        by rw [completion, Int.toNat_of_nonneg output]⟩
    obtain ⟨others, again, first, second⟩ := (same _ _).mp read
    cases shape.symm.trans again
    rw [Int.toNat_of_nonneg input] at first
    rw [Int.toNat_of_nonneg output] at second
    exact odd ⟨first, second⟩
  · intro plain inputTokens outputTokens
    refine ⟨?_, CountsAre.read⟩
    rintro ⟨fields, shape, prompt, completion⟩
    refine ⟨fields, shape, ?_⟩
    by_contra odd
    exact plain ⟨fields, inputTokens, outputTokens, shape, prompt, completion,
      Int.natCast_nonneg _, Int.natCast_nonneg _, odd⟩

end Usage

section Normalize

variable {response : HttpResponse} {latencyMs : ℚ}

theorem classifyStatus_retryable (statusCode : Nat) :
    (classifyStatus statusCode).2 = true ↔ MayPass statusCode := by
  unfold classifyStatus MayPass
  simp only [retryableStatus, List.mem_cons, List.not_mem_nil, or_false]
  split
  · simp only [Bool.false_eq_true, false_iff]
    omega
  · split
    · simp only [true_iff]
      omega
    · split
      · simp only [Bool.false_eq_true, false_iff]
        omega
      · split
        · simp only [Bool.false_eq_true, false_iff]
          omega
        · split
          · simp only [true_iff]
            omega
          · split
            · simp only [true_iff]
              omega
            · simp only [Bool.false_eq_true, false_iff]
              omega

/-- The walk through the body finds one text at most. -/
theorem TextResponse.unique {body choice other otherChoice : List (PyText × Body)}
    {content otherContent : PyText} (text : TextResponse response body choice content)
    (again : TextResponse response other otherChoice otherContent) :
    body = other ∧ choice = otherChoice ∧ content = otherContent := by
  cases text.decoded.symm.trans again.decoded
  obtain ⟨_, choices⟩ := text.choices
  obtain ⟨_, otherChoices⟩ := again.choices
  cases choices.symm.trans otherChoices
  obtain ⟨_, message, found⟩ := text.message
  obtain ⟨_, otherMessage, otherFound⟩ := again.message
  cases message.symm.trans otherMessage
  cases found.symm.trans otherFound
  exact ⟨rfl, rfl, rfl⟩

theorem normalize_text {body choice : List (PyText × Body)} {content : PyText}
    (text : TextResponse response body choice content) :
    normalize latencyMs response = (do
      let usage ← parseUsage (member body "usage")
      InferenceResult.new .success (some content) (textOf? (member body "model"))
        (textOf? (member choice "finish_reason")) usage latencyMs none) := by
  obtain ⟨others, choices⟩ := text.choices
  obtain ⟨message, inMessage, found⟩ := text.message
  unfold normalize
  rw [if_neg (not_not.mpr text.status), if_neg (Nat.not_lt.mpr text.sized), text.decoded]
  simp only [parseSuccess, choices, inMessage, found, textOf?]

/-- A result that is an error, with this retry flag. -/
def IsError (retryable : Prop) (outcome : Except PyError InferenceResult) : Prop :=
  ∃ result, outcome = .ok result ∧ result.status = .error ∧
    ∀ error, result.error = some error → (error.retryable = true ↔ retryable)

/-- A literal error of the adapter is permanent. -/
theorem errorResult_permanent {category : ErrorCategory} {code message : String}
    (nonneg : 0 ≤ latencyMs) (codeBounded : LengthWithin 1 100 code)
    (worded : 1 ≤ message.length) :
    IsError False (errorResult category code message false latencyMs) := by
  obtain ⟨result, returned, status, flags⟩ :=
    errorResult_returns category false codeBounded worded nonneg
  refine ⟨result, returned, status, fun error found => ?_⟩
  simp [flags error found]

/-- A body without text is a permanent error. -/
theorem parseSuccess_error (nonneg : 0 ≤ latencyMs) (body : Body)
    (textless : ∀ fields choice others message content, body = .obj fields →
      member fields "choices" = .arr (.obj choice :: others) →
      member choice "message" = .obj message → member message "content" ≠ .str content) :
    IsError False (parseSuccess latencyMs body) := by
  unfold parseSuccess
  split
  · rename_i fields
    split
    · rename_i choice others choices
      have absent : (match member choice "message" with
          | .obj message => textOf? (member message "content")
          | _ => none) = none := by
        split
        · rename_i message inMessage
          unfold textOf?
          split
          · rename_i content found
            exact absurd found (textless fields choice others message content rfl choices inMessage)
          · rfl
        · rfl
      rw [absent]
      exact errorResult_permanent nonneg (by decide) (by decide)
    · exact errorResult_permanent nonneg (by decide) (by decide)
  · exact errorResult_permanent nonneg (by decide) (by decide)

/-- A status other than 200 is an error, retryable as the status says. -/
theorem errorResult_status (nonneg : 0 ≤ latencyMs) :
    IsError (MayPass response.statusCode) (errorResult (classifyStatus response.statusCode).1
      ("http_" ++ toString response.statusCode)
      ("OpenRouter returned HTTP " ++ toString response.statusCode)
      (classifyStatus response.statusCode).2 latencyMs) := by
  have short : (toString response.statusCode).length ≤ 3 :=
    (Nat.length_repr_le_iff (by decide)).mpr response.threeDigits
  have code : LengthWithin 1 100 ("http_" ++ toString response.statusCode) := by
    have prefixed : ("http_" ++ toString response.statusCode).length =
        5 + (toString response.statusCode).length := String.length_append _ _
    unfold LengthWithin
    omega
  have worded : 1 ≤ ("OpenRouter returned HTTP " ++ toString response.statusCode).length := by
    have prefixed : ("OpenRouter returned HTTP " ++ toString response.statusCode).length =
        25 + (toString response.statusCode).length := String.length_append _ _
    omega
  obtain ⟨result, returned, status, flags⟩ := errorResult_returns
    (classifyStatus response.statusCode).1 (classifyStatus response.statusCode).2 code worded nonneg
  refine ⟨result, returned, status, fun error found => ?_⟩
  rw [flags error found]
  exact classifyStatus_retryable response.statusCode

/-- What is no text response is an error, unless decoding raises something else than a
`ValueError`. -/
theorem normalize_error (nonneg : 0 ≤ latencyMs)
    (decodes : response.statusCode = 200 → response.contentLength ≤ maxResponseBytes →
      ∀ error, response.json = .error error → error.isValueError = true)
    (textless : ¬ ∃ body choice content, TextResponse response body choice content) :
    IsError (MayPass response.statusCode) (normalize latencyMs response) := by
  unfold normalize
  split
  · exact errorResult_status nonneg
  · rename_i fine
    have status : response.statusCode = 200 := not_not.mp fine
    have permanent : MayPass response.statusCode ↔ False := by
      rw [iff_false, MayPass]
      omega
    rw [permanent]
    split
    · exact errorResult_permanent nonneg (by decide) (by decide)
    · have sized : response.contentLength ≤ maxResponseBytes := Nat.not_lt.mp ‹_›
      split
      · rename_i body decoded
        apply parseSuccess_error nonneg
        intro fields choice others message content shape choices inMessage found
        exact textless ⟨fields, choice, content, status, sized, shape ▸ decoded, ⟨others, choices⟩,
          ⟨message, inMessage, found⟩⟩
      · rename_i error raised
        rw [if_pos (decodes status sized error raised)]
        exact errorResult_permanent nonneg (by decide) (by decide)

/-- An error is what a response without text has to become. -/
theorem IsError.normalises {outcome : Except PyError InferenceResult}
    (isError : IsError (MayPass response.statusCode) outcome)
    (textless : ¬ ∃ body choice content, TextResponse response body choice content) :
    ∃ result, outcome = .ok result ∧ Normalises response result := by
  obtain ⟨result, returned, status, flags⟩ := isError
  have none_found : ∀ {body choice : List (PyText × Body)} {content : PyText},
      ¬ TextResponse response body choice content := by
    intro body choice content text
    exact textless ⟨body, choice, content, text⟩
  refine ⟨result, returned, ?_, ?_, ?_, flags⟩
  · simp [status, none_found]
  · intro body choice content text
    exact absurd text none_found
  · intro body choice content text
    exact absurd text none_found

/-- A text response becomes its success exactly when the text is presentable. -/
theorem normalises_text_iff (nonneg : 0 ≤ latencyMs) {body choice : List (PyText × Body)}
    {content : PyText} (text : TextResponse response body choice content) :
    (∃ result, normalize latencyMs response = .ok result ∧ Normalises response result) ↔
      Presentable body choice content := by
  obtain ⟨usage, parsed, counts⟩ := parseUsage_returns (member body "usage")
  have computed : normalize latencyMs response =
      InferenceResult.new .success (some content) (textOf? (member body "model"))
        (textOf? (member choice "finish_reason")) usage latencyMs none := by
    rw [normalize_text text, parsed]
    rfl
  have textOf_iff : ∀ {value : Body} {points : PyText},
      points ∈ textOf? value ↔ value = .str points := by
    intro value points
    cases value <;> simp [textOf?]
  rw [computed]
  constructor
  · rintro ⟨result, built, normalises⟩
    obtain ⟨fits, model, reason⟩ := (InferenceResult.new_success_iff nonneg).mp ⟨result, built⟩
    obtain ⟨_, _, carried, _⟩ := InferenceResult.new_fields built
    refine ⟨fits, fun points shape => model points (textOf_iff.mpr shape),
      fun points shape => reason points (textOf_iff.mpr shape),
      (countsRead_iff_countsAre _).mp fun inputTokens outputTokens => ?_⟩
    rw [← counts, ← normalises.usage_iff body choice content text, carried]
  · intro presentable
    obtain ⟨result, built⟩ := (InferenceResult.new_success_iff nonneg).mpr
      ⟨presentable.output, fun points found => presentable.model points (textOf_iff.mp found),
        fun points found => presentable.reason points (textOf_iff.mp found)⟩
    obtain ⟨status, output, carried, clear⟩ := InferenceResult.new_fields built
    refine ⟨result, built, ?_, ?_, ?_, ?_⟩
    · simp only [status, true_iff]
      exact ⟨body, choice, content, text, presentable.output⟩
    · intro other otherChoice otherContent again
      obtain ⟨_, _, same⟩ := text.unique again
      rw [← same, output, Option.bind_some]
    · intro other otherChoice otherContent again inputTokens outputTokens
      obtain ⟨same, _, _⟩ := text.unique again
      rw [← same, carried, counts]
      exact (countsRead_iff_countsAre _).mpr presentable.counts inputTokens outputTokens
    · intro error found
      cases found.symm.trans clear

end Normalize

/-- A response is normalised as the contract says exactly if decoding its body raises
nothing but a `ValueError` and the text it carries, if any, is presentable. -/
theorem normalize_iff (response : HttpResponse) (latencyMs : ℚ) (nonneg : 0 ≤ latencyMs) :
    (∃ result, normalize latencyMs response = .ok result ∧ Normalises response result) ↔
      (response.statusCode = 200 → response.contentLength ≤ maxResponseBytes →
        ∀ error, response.json = .error error → error.isValueError = true) ∧
      ∀ body choice content, TextResponse response body choice content →
        Presentable body choice content := by
  by_cases carries : ∃ body choice content, TextResponse response body choice content
  · obtain ⟨body, choice, content, text⟩ := carries
    rw [normalises_text_iff nonneg text]
    constructor
    · intro presentable
      refine ⟨fun _ _ error raised => ?_, fun other otherChoice otherContent again => ?_⟩
      · cases raised.symm.trans text.decoded
      · obtain ⟨rfl, rfl, rfl⟩ := text.unique again
        exact presentable
    · rintro ⟨_, presentable⟩
      exact presentable body choice content text
  · constructor
    · rintro ⟨result, returned, _⟩
      refine ⟨fun status sized error raised => ?_, fun body choice content text => ?_⟩
      · unfold normalize at returned
        rw [if_neg (not_not.mpr status), if_neg (Nat.not_lt.mpr sized), raised] at returned
        dsimp only at returned
        split at returned
        · rename_i caught
          exact caught
        · cases returned
      · exact absurd ⟨body, choice, content, text⟩ carries
    · rintro ⟨decodes, _⟩
      exact (normalize_error nonneg decodes carries).normalises carries

/-- The fields of an answer `"ok"` that stopped for this reason. -/
def stoppedChoice (reason : String) : List (PyText × Body) :=
  [(pyText "message", .obj [(pyText "content", .str (pyText "ok"))]),
    (pyText "finish_reason", .str (pyText reason))]

def stoppedBody (reason : String) : List (PyText × Body) :=
  [(pyText "choices", .arr [.obj (stoppedChoice reason)])]

def stoppedResponse (reason : String) : HttpResponse where
  statusCode := 200
  contentLength := 300
  json := .ok (.obj (stoppedBody reason))
  threeDigits := by decide

theorem stoppedResponse_text (reason : String) :
    TextResponse (stoppedResponse reason) (stoppedBody reason) (stoppedChoice reason)
      (pyText "ok") where
  status := rfl
  sized := show 300 ≤ maxResponseBytes by decide
  decoded := rfl
  choices := ⟨[], rfl⟩
  message := ⟨_, rfl, rfl⟩

theorem normalize_iff_stop :
    ∃ result, normalize 0 (stoppedResponse "stop") = .ok result ∧
      Normalises (stoppedResponse "stop") result := by
  refine (normalize_iff (stoppedResponse "stop") 0 (le_refl 0)).mpr ⟨?_, ?_⟩
  · intro _ _ error raised
    cases raised
  · intro body choice content text
    obtain ⟨rfl, rfl, rfl⟩ := (stoppedResponse_text "stop").unique text
    refine ⟨fits_pyText.mpr (by decide), ?_, ?_, ?_⟩
    · intro points found
      cases found
    · intro points found
      cases found
      exact fits_pyText.mpr (by decide)
    · rintro ⟨fields, _, _, shape, _⟩
      cases shape

/-- A finish reason one character too long makes the result's own validation raise. -/
theorem normalize_long_reason :
    ¬ ∃ result, normalize 0 (stoppedResponse (String.ofList (List.replicate 101 'x'))) = .ok result ∧
      Normalises (stoppedResponse (String.ofList (List.replicate 101 'x'))) result := by
  rw [normalises_text_iff (le_refl 0) (stoppedResponse_text _)]
  intro presentable
  have short := fits_pyText.mp (presentable.reason _ rfl)
  rw [String.length_ofList, List.length_replicate] at short
  omega

end RegressionDetection.Providers
