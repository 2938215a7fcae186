import RegressionDetection.Errors
import RegressionDetection.Foundation.Decoding
import RegressionDetection.Specification.Loader

/-! `model_validate` on decoded JSON, and that it reads back what `model_dump` writes. -/

namespace RegressionDetection.Specification

open Foundation Foundation.Decoding

/-- What pydantic's lax mode makes of a value of another JSON type, where it makes
something of it. -/
structure LaxMode where
  integer : Json → Option Int
  number : Json → Option ℚ
  flag : Json → Option Bool

/-- Without a coercion. -/
def LaxMode.strict : LaxMode where
  integer _ := none
  number _ := none
  flag _ := none

section Scalars

variable (lax : LaxMode)

/-- The integer fields have a positive lower bound, so a negative value is refused. -/
def natural : Decoder Nat := fun value =>
  let read : Option Int :=
    match value with
    | .int own => some own
    | other => lax.integer other
  match read with
  | some (.ofNat count) => .ok count
  | _ => .error []

def number : Decoder ℚ
  | .float value => .ok value
  | other => (lax.number other).elim (.error []) .ok

def flag : Decoder Bool
  | .bool value => .ok value
  | other => (lax.flag other).elim (.error []) .ok

end Scalars

/-- `Field(pattern=r"^[a-f0-9]{64}$")`. -/
def hexDigest : Decoder HexDigest
  | .str text =>
    if sized : text.length = 64 then
      if lowerHex : text.toList.all isLowerHex = true then .ok { text, sized, lowerHex }
      else .error []
    else .error []
  | _ => .error []

def TargetKind.ofValue : String → Option TargetKind
  | "prompt" => some .prompt
  | "model" => some .model
  | "agent" => some .agent
  | _ => none

def MessageRole.ofValue : String → Option MessageRole
  | "system" => some .system
  | "user" => some .user
  | "assistant" => some .assistant
  | _ => none

def EvaluatorType.ofValue : String → Option EvaluatorType
  | "exact_match" => some .exactMatch
  | "normalized_match" => some .normalizedMatch
  | "contains" => some .contains
  | "regex" => some .regex
  | "json_valid" => some .jsonValid
  | "json_schema" => some .jsonSchema
  | _ => none

/-- `Literal[text]`. -/
def literal (text : String) : Decoder Unit :=
  choice fun other => if other = text then some () else none

def VersionedTargetRef.decode : Decoder VersionedTargetRef :=
  record ["kind", "target_id", "version", "content_hash"] fun members => do
    let kind ← field (choice TargetKind.ofValue) members "kind"
    let targetId ← field string members "target_id"
    let version ← field string members "version"
    let contentHash ← field hexDigest members "content_hash"
    return { kind, targetId, version, contentHash }

def PromptMessage.decode : Decoder PromptMessage :=
  record ["role", "content"] fun members => do
    let role ← field (choice MessageRole.ofValue) members "role"
    let content ← field string members "content"
    return { role, content }

def PromptDefinition.decode : Decoder PromptDefinition :=
  record ["target", "messages", "variables"] fun members => do
    let target ← field VersionedTargetRef.decode members "target"
    let messages ← field (items PromptMessage.decode) members "messages"
    let declaredVariables ← fieldOr [] (items string) members "variables"
    return { target, messages, declaredVariables }

section Models

variable (lax : LaxMode)

def ModelDefinition.decode : Decoder ModelDefinition :=
  record ["target", "provider", "model_id", "temperature", "max_output_tokens", "timeout_seconds"]
    fun members => do
      let target ← field VersionedTargetRef.decode members "target"
      field (literal "openrouter") members "provider"
      let modelId ← field string members "model_id"
      let temperature ← fieldOr 0 (number lax) members "temperature"
      let maxOutputTokens ← fieldOr 1024 (natural lax) members "max_output_tokens"
      let timeoutSeconds ← fieldOr 60 (number lax) members "timeout_seconds"
      return { target, modelId, temperature, maxOutputTokens, timeoutSeconds }

def AgentDefinition.decode : Decoder AgentDefinition :=
  record ["target", "name", "description"] fun members => do
    let target ← field VersionedTargetRef.decode members "target"
    let name ← field string members "name"
    let description ← fieldOr none (nullable string) members "description"
    return { target, name, description }

def EvaluatorDefinition.decode : Decoder EvaluatorDefinition :=
  record ["name", "type", "required"] fun members => do
    let name ← field string members "name"
    let type ← field (choice EvaluatorType.ofValue) members "type"
    let required ← fieldOr true (flag lax) members "required"
    return { name, type, required }

def GoldenCase.decode : Decoder GoldenCase :=
  record ["key", "inputs", "expected", "evaluators", "critical", "tags"] fun members => do
    let key ← field string members "key"
    let inputs ← field mapping members "inputs"
    let expected ← fieldOr .null anything members "expected"
    let evaluators ← field (items string) members "evaluators"
    let critical ← fieldOr false (flag lax) members "critical"
    let tags ← fieldOr [] (items string) members "tags"
    return { key, inputs, expected, evaluators, critical, tags }

def RegressionPolicy.decode : Decoder RegressionPolicy :=
  record ["minimum_pass_rate", "maximum_pass_rate_drop", "maximum_error_rate",
      "critical_cases_must_pass", "maximum_latency_increase_percent",
      "maximum_cost_increase_percent"] fun members => do
    let minimumPassRate ← fieldOr 1 (number lax) members "minimum_pass_rate"
    let maximumPassRateDrop ← fieldOr 0 (number lax) members "maximum_pass_rate_drop"
    let maximumErrorRate ← fieldOr 0 (number lax) members "maximum_error_rate"
    let criticalCasesMustPass ← fieldOr true (flag lax) members "critical_cases_must_pass"
    let maximumLatencyIncreasePercent ←
      fieldOr none (nullable (number lax)) members "maximum_latency_increase_percent"
    let maximumCostIncreasePercent ←
      fieldOr none (nullable (number lax)) members "maximum_cost_increase_percent"
    return { minimumPassRate, maximumPassRateDrop, maximumErrorRate, criticalCasesMustPass,
             maximumLatencyIncreasePercent, maximumCostIncreasePercent }

def ExecutionLimits.decode : Decoder ExecutionLimits :=
  record ["max_cases", "max_output_tokens", "max_concurrency", "max_estimated_cost",
      "max_total_cost", "estimated_cost_per_case"] fun members => do
    let maxCases ← fieldOr none (nullable (natural lax)) members "max_cases"
    let maxOutputTokens ← fieldOr none (nullable (natural lax)) members "max_output_tokens"
    let maxConcurrency ← fieldOr 1 (natural lax) members "max_concurrency"
    let maxEstimatedCost ← fieldOr none (nullable (number lax)) members "max_estimated_cost"
    let maxTotalCost ← fieldOr none (nullable (number lax)) members "max_total_cost"
    let estimatedCostPerCase ←
      fieldOr none (nullable (number lax)) members "estimated_cost_per_case"
    return { maxCases, maxOutputTokens, maxConcurrency, maxEstimatedCost, maxTotalCost,
             estimatedCostPerCase }

/-- The types of the document's fields, their defaults and the refusal of others. -/
def EvaluationSpecificationV1.decode : Decoder EvaluationSpecificationV1 :=
  record ["schema_version", "suite", "prompt", "model", "agent", "evaluators", "cases", "policy",
      "limits", "metadata"] fun members => do
    field (literal "1") members "schema_version"
    let suite ← field string members "suite"
    let prompt ← field PromptDefinition.decode members "prompt"
    let model ← field (ModelDefinition.decode lax) members "model"
    let agent ← fieldOr none (nullable AgentDefinition.decode) members "agent"
    let evaluators ← field (items (EvaluatorDefinition.decode lax)) members "evaluators"
    let cases ← field (items (GoldenCase.decode lax)) members "cases"
    let policy ← field (RegressionPolicy.decode lax) members "policy"
    let limits ← fieldOr {} (ExecutionLimits.decode lax) members "limits"
    let metadata ← fieldOr [] mapping members "metadata"
    return { suite, prompt, model, agent, evaluators, cases, policy, limits, metadata }

/-- `EvaluationSpecificationV1.model_validate`: the types of all fields, then their
constraints and the model validators. Pydantic reports every refusal, here the
first is named; what is accepted is the same. -/
def modelValidate (data : Json) : Except PyError EvaluationSpecification :=
  match EvaluationSpecificationV1.decode lax data with
  | .error place =>
    .error (.validationError ("EvaluationSpecificationV1." ++ ".".intercalate place))
  | .ok document =>
    if valid : document.Valid then .ok ⟨document, valid⟩
    else .error (.validationError "EvaluationSpecificationV1")

end Models

-- Each decoder finds the members of its dump under their names and reads them one by one.
section Reading

theorem string_reads (text : String) : string.Reads .str text := rfl

theorem mapping_reads (members : List (String × Json)) : mapping.Reads .obj members := rfl

theorem anything_reads (value : Json) : anything.Reads id value := rfl

theorem hexDigest_reads (digest : HexDigest) :
    hexDigest.Reads (fun digest => .str digest.text) digest := by
  simp [Decoder.Reads, hexDigest, digest.sized, digest.lowerHex]

theorem TargetKind.reads (kind : TargetKind) :
    (choice TargetKind.ofValue).Reads (fun kind => .str kind.value) kind := by
  cases kind <;> rfl

theorem MessageRole.reads (role : MessageRole) :
    (choice MessageRole.ofValue).Reads (fun role => .str role.value) role := by
  cases role <;> rfl

theorem EvaluatorType.reads (type : EvaluatorType) :
    (choice EvaluatorType.ofValue).Reads (fun type => .str type.value) type := by
  cases type <;> rfl

theorem literal_reads (text : String) : (literal text).Reads (fun _ => .str text) () := by
  simp [Decoder.Reads, literal, choice]

theorem strings_read (texts : List String) : (items string).Reads dumpStrings texts :=
  items_reads fun text _ => string_reads text

theorem VersionedTargetRef.reads (ref : VersionedTargetRef) :
    VersionedTargetRef.decode.Reads (VersionedTargetRef.modelDump false) ref := by
  change VersionedTargetRef.decode (.obj _) = _
  unfold VersionedTargetRef.decode
  rw [record_obj (by simp), field_ok rfl ref.kind.reads, field_ok rfl (string_reads ref.targetId),
    field_ok rfl (string_reads ref.version), field_ok rfl (hexDigest_reads ref.contentHash)]
  rfl

theorem PromptMessage.reads (message : PromptMessage) :
    PromptMessage.decode.Reads (PromptMessage.modelDump false) message := by
  change PromptMessage.decode (.obj _) = _
  unfold PromptMessage.decode
  rw [record_obj (by simp), field_ok rfl message.role.reads,
    field_ok rfl (string_reads message.content)]
  rfl

theorem PromptDefinition.reads (prompt : PromptDefinition) :
    PromptDefinition.decode.Reads (PromptDefinition.modelDump false) prompt := by
  change PromptDefinition.decode (.obj _) = _
  unfold PromptDefinition.decode
  rw [record_obj (by simp), field_ok rfl prompt.target.reads,
    field_ok rfl (items_reads fun message _ => message.reads),
    fieldOr_ok rfl (strings_read prompt.declaredVariables)]
  rfl

variable (lax : LaxMode)

theorem number_reads (value : ℚ) : (number lax).Reads .float value := rfl

theorem natural_reads (count : Nat) : (natural lax).Reads (fun count => .int count) count := rfl

theorem flag_reads (value : Bool) : (flag lax).Reads .bool value := rfl

theorem numbers_read (value : Option ℚ) : (nullable (number lax)).Reads dumpFloat? value :=
  nullable_reads (by simp) fun content _ => number_reads lax content

theorem naturals_read (value : Option Nat) : (nullable (natural lax)).Reads dumpInt? value := by
  have written :
      dumpInt? = fun value => (value.map fun count : Nat => Json.int count).getD .null := by
    funext value
    cases value <;> rfl
  rw [written]
  exact nullable_reads (by simp) fun count _ => natural_reads lax count

theorem ModelDefinition.reads (model : ModelDefinition) :
    (ModelDefinition.decode lax).Reads (ModelDefinition.modelDump false) model := by
  change ModelDefinition.decode lax (.obj _) = _
  unfold ModelDefinition.decode
  rw [record_obj (by simp), field_ok rfl model.target.reads,
    field_ok rfl (literal_reads "openrouter"), field_ok rfl (string_reads model.modelId),
    fieldOr_ok rfl (number_reads lax model.temperature),
    fieldOr_ok rfl (natural_reads lax model.maxOutputTokens),
    fieldOr_ok rfl (number_reads lax model.timeoutSeconds)]
  rfl

theorem AgentDefinition.reads (agent : AgentDefinition) :
    AgentDefinition.decode.Reads (AgentDefinition.modelDump false) agent := by
  change AgentDefinition.decode (.obj _) = _
  unfold AgentDefinition.decode
  rw [record_obj (by simp), field_ok rfl agent.target.reads, field_ok rfl (string_reads agent.name),
    fieldOr_ok rfl (nullable_reads (by simp) fun text _ => string_reads text)]
  rfl

theorem EvaluatorDefinition.reads (evaluator : EvaluatorDefinition) :
    (EvaluatorDefinition.decode lax).Reads (EvaluatorDefinition.modelDump false) evaluator := by
  change EvaluatorDefinition.decode lax (.obj _) = _
  unfold EvaluatorDefinition.decode
  rw [record_obj (by simp), field_ok rfl (string_reads evaluator.name),
    field_ok rfl evaluator.type.reads, fieldOr_ok rfl (flag_reads lax evaluator.required)]
  rfl

theorem GoldenCase.reads (case : GoldenCase) :
    (GoldenCase.decode lax).Reads (GoldenCase.modelDump false) case := by
  change GoldenCase.decode lax (.obj _) = _
  unfold GoldenCase.decode
  rw [record_obj (by simp), field_ok rfl (string_reads case.key),
    field_ok rfl (mapping_reads case.inputs), fieldOr_ok rfl (anything_reads case.expected),
    field_ok rfl (strings_read case.evaluators), fieldOr_ok rfl (flag_reads lax case.critical),
    fieldOr_ok rfl (strings_read case.tags)]
  rfl

theorem RegressionPolicy.reads (policy : RegressionPolicy) :
    (RegressionPolicy.decode lax).Reads (RegressionPolicy.modelDump false) policy := by
  change RegressionPolicy.decode lax (.obj _) = _
  unfold RegressionPolicy.decode
  rw [record_obj (by simp), fieldOr_ok rfl (number_reads lax policy.minimumPassRate),
    fieldOr_ok rfl (number_reads lax policy.maximumPassRateDrop),
    fieldOr_ok rfl (number_reads lax policy.maximumErrorRate),
    fieldOr_ok rfl (flag_reads lax policy.criticalCasesMustPass),
    fieldOr_ok rfl (numbers_read lax policy.maximumLatencyIncreasePercent),
    fieldOr_ok rfl (numbers_read lax policy.maximumCostIncreasePercent)]
  rfl

theorem ExecutionLimits.reads (limits : ExecutionLimits) :
    (ExecutionLimits.decode lax).Reads (ExecutionLimits.modelDump false) limits := by
  change ExecutionLimits.decode lax (.obj _) = _
  unfold ExecutionLimits.decode
  rw [record_obj (by simp), fieldOr_ok rfl (naturals_read lax limits.maxCases),
    fieldOr_ok rfl (naturals_read lax limits.maxOutputTokens),
    fieldOr_ok rfl (natural_reads lax limits.maxConcurrency),
    fieldOr_ok rfl (numbers_read lax limits.maxEstimatedCost),
    fieldOr_ok rfl (numbers_read lax limits.maxTotalCost),
    fieldOr_ok rfl (numbers_read lax limits.estimatedCostPerCase)]
  rfl

theorem EvaluationSpecificationV1.reads (document : EvaluationSpecificationV1) :
    (EvaluationSpecificationV1.decode lax).Reads (EvaluationSpecificationV1.modelDump false)
      document := by
  change EvaluationSpecificationV1.decode lax (.obj _) = _
  have present (agent : AgentDefinition) : agent.modelDump false ≠ .null := by
    simp [AgentDefinition.modelDump, dumpModel]
  unfold EvaluationSpecificationV1.decode EvaluationSpecificationV1.leadingMembers
    EvaluationSpecificationV1.trailingMembers
  rw [record_obj (by simp), field_ok rfl (literal_reads "1"),
    field_ok rfl (string_reads document.suite), field_ok rfl document.prompt.reads,
    field_ok rfl (document.model.reads lax),
    fieldOr_ok rfl (nullable_reads present fun agent _ => agent.reads),
    field_ok rfl (items_reads fun evaluator _ => evaluator.reads lax),
    field_ok rfl (items_reads fun case _ => case.reads lax),
    field_ok rfl (document.policy.reads lax), fieldOr_ok rfl (document.limits.reads lax),
    fieldOr_ok rfl (mapping_reads document.metadata)]
  rfl

/-- The dump of a valid document is accepted and reads back as the document. -/
theorem modelValidate_modelDump (specification : EvaluationSpecification) :
    modelValidate lax (specification.val.modelDump false) = .ok specification := by
  have reads := specification.val.reads lax
  unfold Decoder.Reads at reads
  unfold modelValidate
  rw [reads]
  exact dif_pos specification.property

end Reading
end RegressionDetection.Specification
