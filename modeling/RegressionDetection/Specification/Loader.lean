import RegressionDetection.Specification.Models

/-! `model_dump(mode="json")` of a specification and its canonical hashes. -/

namespace RegressionDetection.Specification

open Foundation

/-- A dumped model; `exclude_none` drops the model's own None-valued fields. -/
def dumpModel (excludeNone : Bool) (fields : List (String × Json)) : Json :=
  .obj (if excludeNone then fields.filter (fun field => decide (field.2 ≠ .null)) else fields)

def dumpStrings (texts : List String) : Json := .arr (texts.map .str)

def dumpFloat? (value : Option ℚ) : Json := (value.map Json.float).getD .null

def dumpInt? (value : Option Nat) : Json := (value.map (fun n => Json.int n)).getD .null

def TargetKind.value : TargetKind → String
  | .prompt => "prompt"
  | .model => "model"
  | .agent => "agent"

def MessageRole.value : MessageRole → String
  | .system => "system"
  | .user => "user"
  | .assistant => "assistant"

def EvaluatorType.value : EvaluatorType → String
  | .exactMatch => "exact_match"
  | .normalizedMatch => "normalized_match"
  | .contains => "contains"
  | .regex => "regex"
  | .jsonValid => "json_valid"
  | .jsonSchema => "json_schema"

def VersionedTargetRef.modelDump (excludeNone : Bool) (ref : VersionedTargetRef) : Json :=
  dumpModel excludeNone [("kind", .str ref.kind.value), ("target_id", .str ref.targetId),
    ("version", .str ref.version), ("content_hash", .str ref.contentHash.text)]

def PromptMessage.modelDump (excludeNone : Bool) (message : PromptMessage) : Json :=
  dumpModel excludeNone [("role", .str message.role.value), ("content", .str message.content)]

def PromptDefinition.modelDump (excludeNone : Bool) (prompt : PromptDefinition) : Json :=
  dumpModel excludeNone [("target", prompt.target.modelDump excludeNone),
    ("messages", .arr (prompt.messages.map (PromptMessage.modelDump excludeNone))),
    ("variables", dumpStrings prompt.declaredVariables)]

def ModelDefinition.modelDump (excludeNone : Bool) (model : ModelDefinition) : Json :=
  dumpModel excludeNone [("target", model.target.modelDump excludeNone),
    ("provider", .str "openrouter"), ("model_id", .str model.modelId),
    ("temperature", .float model.temperature), ("max_output_tokens", .int model.maxOutputTokens),
    ("timeout_seconds", .float model.timeoutSeconds)]

def AgentDefinition.modelDump (excludeNone : Bool) (agent : AgentDefinition) : Json :=
  dumpModel excludeNone [("target", agent.target.modelDump excludeNone), ("name", .str agent.name),
    ("description", (agent.description.map Json.str).getD .null)]

def EvaluatorDefinition.modelDump (excludeNone : Bool) (evaluator : EvaluatorDefinition) : Json :=
  dumpModel excludeNone [("name", .str evaluator.name), ("type", .str evaluator.type.value),
    ("required", .bool evaluator.required)]

def GoldenCase.modelDump (excludeNone : Bool) (case : GoldenCase) : Json :=
  dumpModel excludeNone [("key", .str case.key), ("inputs", .obj case.inputs),
    ("expected", case.expected), ("evaluators", dumpStrings case.evaluators),
    ("critical", .bool case.critical), ("tags", dumpStrings case.tags)]

def RegressionPolicy.modelDump (excludeNone : Bool) (policy : RegressionPolicy) : Json :=
  dumpModel excludeNone [("minimum_pass_rate", .float policy.minimumPassRate),
    ("maximum_pass_rate_drop", .float policy.maximumPassRateDrop),
    ("maximum_error_rate", .float policy.maximumErrorRate),
    ("critical_cases_must_pass", .bool policy.criticalCasesMustPass),
    ("maximum_latency_increase_percent", dumpFloat? policy.maximumLatencyIncreasePercent),
    ("maximum_cost_increase_percent", dumpFloat? policy.maximumCostIncreasePercent)]

def ExecutionLimits.modelDump (excludeNone : Bool) (limits : ExecutionLimits) : Json :=
  dumpModel excludeNone [("max_cases", dumpInt? limits.maxCases),
    ("max_output_tokens", dumpInt? limits.maxOutputTokens),
    ("max_concurrency", .int limits.maxConcurrency),
    ("max_estimated_cost", dumpFloat? limits.maxEstimatedCost),
    ("max_total_cost", dumpFloat? limits.maxTotalCost),
    ("estimated_cost_per_case", dumpFloat? limits.estimatedCostPerCase)]

def dumpCases (excludeNone : Bool) (cases : List GoldenCase) : Json :=
  .arr (cases.map (GoldenCase.modelDump excludeNone))

/-- The members of the dumped document before and after `cases`. -/
def EvaluationSpecificationV1.leadingMembers (excludeNone : Bool)
    (specification : EvaluationSpecificationV1) : List (String × Json) :=
  [("schema_version", .str "1"), ("suite", .str specification.suite),
    ("prompt", specification.prompt.modelDump excludeNone),
    ("model", specification.model.modelDump excludeNone),
    ("agent", (specification.agent.map (AgentDefinition.modelDump excludeNone)).getD .null),
    ("evaluators", .arr (specification.evaluators.map (EvaluatorDefinition.modelDump excludeNone)))]

def EvaluationSpecificationV1.trailingMembers (excludeNone : Bool)
    (specification : EvaluationSpecificationV1) : List (String × Json) :=
  [("policy", specification.policy.modelDump excludeNone),
    ("limits", specification.limits.modelDump excludeNone),
    ("metadata", .obj specification.metadata)]

/-- `specification.model_dump(mode="json", exclude_none=excludeNone)`. -/
def EvaluationSpecificationV1.modelDump (excludeNone : Bool)
    (specification : EvaluationSpecificationV1) : Json :=
  dumpModel excludeNone (specification.leadingMembers excludeNone ++
    [("cases", dumpCases excludeNone specification.cases)] ++
    specification.trailingMembers excludeNone)

structure SpecificationHashes where
  configuration : HexDigest
  dataset : HexDigest
deriving DecidableEq

/-- `canonical_json`, before its UTF-8 encoding. -/
def canonicalJson (runtime : Runtime) (value : Json) : String := value.dumps runtime.floatRepr

def contentHash (runtime : Runtime) (value : Json) : HexDigest :=
  runtime.sha256 (canonicalJson runtime value)

/-- `document.pop(name)` on the dumped members. -/
def popMember (name : String) (fields : List (String × Json)) : List (String × Json) × Json :=
  (fields.filter (fun field => decide (field.1 ≠ name)),
    ((fields.find? (fun field => decide (field.1 = name))).map Prod.snd).getD .null)

def specificationHashes (runtime : Runtime) (specification : EvaluationSpecificationV1) :
    SpecificationHashes :=
  match specification.modelDump true with
  | .obj document =>
    let (configuration, caseManifest) := popMember "cases" document
    { configuration := contentHash runtime (.obj configuration)
      dataset := contentHash runtime caseManifest }
  -- A dumped model is always an object.
  | other => { configuration := contentHash runtime other, dataset := contentHash runtime .null }

private theorem popMember_middle {name : String} {before after : List (String × Json)} {value : Json}
    (early : ∀ field ∈ before, field.1 ≠ name) (late : ∀ field ∈ after, field.1 ≠ name) :
    popMember name (before ++ [(name, value)] ++ after) = (before ++ after, value) := by
  have skipped : before.find? (fun field => decide (field.1 = name)) = none := by
    simpa [List.find?_eq_none] using early
  have keptEarly : before.filter (fun field => decide (field.1 ≠ name)) = before := by
    simpa [List.filter_eq_self] using early
  have keptLate : after.filter (fun field => decide (field.1 ≠ name)) = after := by
    simpa [List.filter_eq_self] using late
  simp only [popMember, List.filter_append, keptEarly, keptLate, List.find?_append, skipped]
  simp

/-- The hashes split the document at `cases`: one covers every other member,
the other the ordered case list. -/
theorem specificationHashes_eq (runtime : Runtime) (specification : EvaluationSpecificationV1) :
    specificationHashes runtime specification =
      { configuration := contentHash runtime (dumpModel true
          (specification.leadingMembers true ++ specification.trailingMembers true))
        dataset := contentHash runtime (dumpCases true specification.cases) } := by
  have early : ∀ field ∈ (specification.leadingMembers true).filter
      (fun field => decide (field.2 ≠ .null)), field.1 ≠ "cases" := by
    intro field member
    have listed := (List.mem_filter.mp member).1
    simp only [EvaluationSpecificationV1.leadingMembers, List.mem_cons, List.not_mem_nil,
      or_false] at listed
    rcases listed with rfl | rfl | rfl | rfl | rfl | rfl <;> simp
  have late : ∀ field ∈ (specification.trailingMembers true).filter
      (fun field => decide (field.2 ≠ .null)), field.1 ≠ "cases" := by
    intro field member
    have listed := (List.mem_filter.mp member).1
    simp only [EvaluationSpecificationV1.trailingMembers, List.mem_cons, List.not_mem_nil,
      or_false] at listed
    rcases listed with rfl | rfl | rfl <;> simp
  have kept : [("cases", dumpCases true specification.cases)].filter
      (fun field => decide (field.2 ≠ .null)) = [("cases", dumpCases true specification.cases)] := by
    simp [dumpCases]
  simp only [specificationHashes, EvaluationSpecificationV1.modelDump, dumpModel, ↓reduceIte,
    List.filter_append, kept, popMember_middle early late]

end RegressionDetection.Specification
