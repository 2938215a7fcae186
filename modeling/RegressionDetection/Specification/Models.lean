import Mathlib.Data.List.Dedup
import RegressionDetection.Foundation.Python

/-! The evaluation specification of schema version 1. Every model has its
fields and a decidable `Valid`, its field constraints and model validators. -/

namespace RegressionDetection.Specification

open Foundation

/-- `Field(min_length=low, max_length=high)`. -/
def LengthWithin (low high : Nat) (text : String) : Prop := low ≤ text.length ∧ text.length ≤ high
deriving Decidable

def isAsciiAlphanumeric (c : Char) : Bool :=
  ('A' ≤ c && c ≤ 'Z') || ('a' ≤ c && c ≤ 'z') || ('0' ≤ c && c ≤ '9')

/-- `[A-Za-z0-9._-]`. -/
def isIdentifierChar (c : Char) : Bool := isAsciiAlphanumeric c || c = '.' || c = '_' || c = '-'

/-- `^[A-Za-z0-9][A-Za-z0-9._-]*$`. -/
def startsAlphanumeric (text : String) : Bool :=
  match text.toList with
  | [] => false
  | c :: rest => isAsciiAlphanumeric c && rest.all isIdentifierChar

/-- `Identifier`: `^[A-Za-z0-9][A-Za-z0-9._-]{0,127}$`. -/
def IsIdentifier (text : String) : Prop := startsAlphanumeric text = true ∧ text.length ≤ 128
deriving Decidable

theorem IsIdentifier.lengthWithin {text : String} (valid : IsIdentifier text) :
    LengthWithin 1 128 text := by
  refine ⟨?_, valid.2⟩
  have starts := valid.1
  unfold startsAlphanumeric at starts
  cases chars : text.toList with
  | nil => simp [chars] at starts
  | cons c rest =>
    rw [← String.length_toList, chars]
    simp

/-- What the model validators raise; the texts are in `SpecificationError.text`. -/
inductive SpecificationError where
  | promptKind
  | promptVariables
  | modelKind
  | agentKind
  | caseEvaluators
  | caseTags
  | caseKeys
  | evaluatorNames
  | unknownEvaluators (key : String) (names : List String)
  | missingInputs (key : String) (names : List String)
  | unexpectedInputs (key : String) (names : List String)
deriving DecidableEq

/-- `repr` of a list of strings. -/
def reprList (runtime : Runtime) (names : List String) : String :=
  "[" ++ ", ".intercalate (names.map (pyRepr runtime.printable)) ++ "]"

def SpecificationError.text (runtime : Runtime) : SpecificationError → String
  | .promptKind => "prompt.target.kind must be 'prompt'"
  | .promptVariables => "prompt variables must be unique"
  | .modelKind => "model.target.kind must be 'model'"
  | .agentKind => "agent.target.kind must be 'agent'"
  | .caseEvaluators => "case evaluators must be unique"
  | .caseTags => "case tags must be unique"
  | .caseKeys => "case keys must be unique"
  | .evaluatorNames => "evaluator names must be unique"
  | .unknownEvaluators key names => "case " ++ pyRepr runtime.printable key ++
      " references unknown evaluators: " ++ reprList runtime names
  | .missingInputs key names => "case " ++ pyRepr runtime.printable key ++
      " is missing prompt inputs: " ++ reprList runtime names
  | .unexpectedInputs key names => "case " ++ pyRepr runtime.printable key ++
      " has unexpected prompt inputs: " ++ reprList runtime names

/-- Raise unless the condition holds. -/
def require (condition : Prop) [Decidable condition] (error : SpecificationError) :
    Except SpecificationError Unit :=
  if condition then .ok () else .error error

theorem require_ok {condition : Prop} [Decidable condition] {error : SpecificationError} :
    require condition error = .ok () ↔ condition := by
  unfold require
  split <;> simp_all

inductive TargetKind where
  | prompt
  | model
  | agent
deriving DecidableEq

structure VersionedTargetRef where
  kind : TargetKind
  targetId : String
  version : String
  contentHash : HexDigest
deriving DecidableEq

def VersionedTargetRef.Valid (ref : VersionedTargetRef) : Prop :=
  LengthWithin 1 200 ref.targetId ∧ LengthWithin 1 200 ref.version
deriving Decidable

inductive MessageRole where
  | system
  | user
  | assistant
deriving DecidableEq

structure PromptMessage where
  role : MessageRole
  content : String
deriving DecidableEq

/-- The source's field `variables` is `declaredVariables`, `variables` being a Lean keyword. -/
structure PromptDefinition where
  target : VersionedTargetRef
  messages : List PromptMessage
  declaredVariables : List String := []
deriving DecidableEq

def PromptDefinition.validatePrompt (prompt : PromptDefinition) : Except SpecificationError Unit := do
  require (prompt.target.kind = .prompt) .promptKind
  require prompt.declaredVariables.Nodup .promptVariables

def PromptDefinition.Valid (prompt : PromptDefinition) : Prop :=
  prompt.target.Valid ∧ (1 ≤ prompt.messages.length ∧ prompt.messages.length ≤ 100) ∧
    (∀ message ∈ prompt.messages, LengthWithin 1 100000 message.content) ∧
    prompt.declaredVariables.length ≤ 100 ∧ (∀ name ∈ prompt.declaredVariables, IsIdentifier name) ∧
    prompt.validatePrompt = .ok ()
deriving Decidable

/-- `provider` is the literal `openrouter` and carries no information. -/
structure ModelDefinition where
  target : VersionedTargetRef
  modelId : String
  temperature : ℚ := 0
  maxOutputTokens : Nat := 1024
  timeoutSeconds : ℚ := 60
deriving DecidableEq

def ModelDefinition.validateKind (model : ModelDefinition) : Except SpecificationError Unit :=
  require (model.target.kind = .model) .modelKind

def ModelDefinition.Valid (model : ModelDefinition) : Prop :=
  model.target.Valid ∧ LengthWithin 1 300 model.modelId ∧
    (0 ≤ model.temperature ∧ model.temperature ≤ 2) ∧
    (1 ≤ model.maxOutputTokens ∧ model.maxOutputTokens ≤ 1000000) ∧
    (0 < model.timeoutSeconds ∧ model.timeoutSeconds ≤ 600) ∧ model.validateKind = .ok ()
deriving Decidable

structure AgentDefinition where
  target : VersionedTargetRef
  name : String
  description : Option String := none
deriving DecidableEq

def AgentDefinition.validateKind (agent : AgentDefinition) : Except SpecificationError Unit :=
  require (agent.target.kind = .agent) .agentKind

def AgentDefinition.Valid (agent : AgentDefinition) : Prop :=
  agent.target.Valid ∧ LengthWithin 1 200 agent.name ∧
    (∀ text ∈ agent.description, text.length ≤ 2000) ∧ agent.validateKind = .ok ()
deriving Decidable

inductive EvaluatorType where
  | exactMatch
  | normalizedMatch
  | contains
  | regex
  | jsonValid
  | jsonSchema
deriving DecidableEq

structure EvaluatorDefinition where
  name : String
  type : EvaluatorType
  required : Bool := true
deriving DecidableEq

/-- One golden case. `expected` is `Json.null` where the source has `None`;
`inputs` is a dictionary in insertion order. -/
structure GoldenCase where
  key : String
  inputs : List (String × Json)
  expected : Json := .null
  evaluators : List String
  critical : Bool := false
  tags : List String := []
deriving DecidableEq

def GoldenCase.validateCollections (case : GoldenCase) : Except SpecificationError Unit := do
  require case.evaluators.Nodup .caseEvaluators
  require case.tags.Nodup .caseTags

def GoldenCase.Valid (case : GoldenCase) : Prop :=
  IsIdentifier case.key ∧ (case.inputs.map Prod.fst).Nodup ∧
    (1 ≤ case.evaluators.length ∧ case.evaluators.length ≤ 50) ∧
    (∀ name ∈ case.evaluators, IsIdentifier name) ∧
    case.tags.length ≤ 50 ∧ (∀ tag ∈ case.tags, IsIdentifier tag) ∧
    case.validateCollections = .ok ()
deriving Decidable

structure RegressionPolicy where
  minimumPassRate : ℚ := 1
  maximumPassRateDrop : ℚ := 0
  maximumErrorRate : ℚ := 0
  criticalCasesMustPass : Bool := true
  maximumLatencyIncreasePercent : Option ℚ := none
  maximumCostIncreasePercent : Option ℚ := none
deriving DecidableEq

/-- `Field(ge=0.0, le=1.0)`. -/
def IsRatio (value : ℚ) : Prop := 0 ≤ value ∧ value ≤ 1
deriving Decidable

def RegressionPolicy.Valid (policy : RegressionPolicy) : Prop :=
  IsRatio policy.minimumPassRate ∧ IsRatio policy.maximumPassRateDrop ∧
    IsRatio policy.maximumErrorRate ∧
    (∀ limit ∈ policy.maximumLatencyIncreasePercent, 0 ≤ limit) ∧
    (∀ limit ∈ policy.maximumCostIncreasePercent, 0 ≤ limit)
deriving Decidable

structure ExecutionLimits where
  maxCases : Option Nat := none
  maxOutputTokens : Option Nat := none
  maxConcurrency : Nat := 1
  maxEstimatedCost : Option ℚ := none
  maxTotalCost : Option ℚ := none
  estimatedCostPerCase : Option ℚ := none
deriving DecidableEq

def ExecutionLimits.Valid (limits : ExecutionLimits) : Prop :=
  (∀ bound ∈ limits.maxCases, 1 ≤ bound ∧ bound ≤ 100000) ∧
    (∀ bound ∈ limits.maxOutputTokens, 1 ≤ bound ∧ bound ≤ 1000000) ∧
    (1 ≤ limits.maxConcurrency ∧ limits.maxConcurrency ≤ 64) ∧
    (∀ cost ∈ limits.maxEstimatedCost, 0 ≤ cost) ∧ (∀ cost ∈ limits.maxTotalCost, 0 ≤ cost) ∧
    (∀ cost ∈ limits.estimatedCostPerCase, 0 ≤ cost)
deriving Decidable

/-- The whole document; `schema_version` is the literal `"1"`. -/
structure EvaluationSpecificationV1 where
  suite : String
  prompt : PromptDefinition
  model : ModelDefinition
  agent : Option AgentDefinition := none
  evaluators : List EvaluatorDefinition
  cases : List GoldenCase
  policy : RegressionPolicy
  limits : ExecutionLimits := {}
  metadata : List (String × Json) := []
deriving DecidableEq

/-- `sorted(set(names) - set(known))`. -/
def sortedDifference (names known : List String) : List String :=
  ((names.filter (fun name => decide (name ∉ known))).dedup).insertionSort (· ≤ ·)

def validateCaseReferences (known declared : List String) (case : GoldenCase) :
    Except SpecificationError Unit := do
  let unknown := sortedDifference case.evaluators known
  require (unknown = []) (.unknownEvaluators case.key unknown)
  let missing := sortedDifference declared (case.inputs.map Prod.fst)
  require (missing = []) (.missingInputs case.key missing)
  let unexpected := sortedDifference (case.inputs.map Prod.fst) declared
  require (unexpected = []) (.unexpectedInputs case.key unexpected)

/-- The loop of `validate_references`: the first bad case is reported. -/
def validateCases (known declared : List String) : List GoldenCase → Except SpecificationError Unit
  | [] => .ok ()
  | case :: rest => do
    validateCaseReferences known declared case
    validateCases known declared rest

def EvaluationSpecificationV1.validateReferences (specification : EvaluationSpecificationV1) :
    Except SpecificationError Unit := do
  require (specification.cases.map GoldenCase.key).Nodup .caseKeys
  require (specification.evaluators.map EvaluatorDefinition.name).Nodup .evaluatorNames
  validateCases (specification.evaluators.map EvaluatorDefinition.name)
    specification.prompt.declaredVariables specification.cases

def EvaluationSpecificationV1.Valid (specification : EvaluationSpecificationV1) : Prop :=
  IsIdentifier specification.suite ∧ specification.prompt.Valid ∧ specification.model.Valid ∧
    (∀ agent ∈ specification.agent, agent.Valid) ∧
    (1 ≤ specification.evaluators.length ∧ specification.evaluators.length ≤ 50) ∧
    (∀ evaluator ∈ specification.evaluators, IsIdentifier evaluator.name) ∧
    (1 ≤ specification.cases.length ∧ specification.cases.length ≤ 100000) ∧
    (∀ case ∈ specification.cases, case.Valid) ∧ specification.policy.Valid ∧
    specification.limits.Valid ∧ (specification.metadata.map Prod.fst).Nodup ∧
    specification.validateReferences = .ok ()
deriving Decidable

/-- `EvaluationSpecification`: a document that passed validation. -/
abbrev EvaluationSpecification := { document : EvaluationSpecificationV1 // document.Valid }

theorem sortedDifference_eq_nil {names known : List String} :
    sortedDifference names known = [] ↔ ∀ name ∈ names, name ∈ known := by
  rw [List.eq_nil_iff_forall_not_mem]
  simp only [sortedDifference, List.mem_insertionSort, List.mem_dedup, List.mem_filter,
    decide_eq_true_eq, not_and, not_not]

/-- What the reference checks establish about one case. -/
structure CaseReferences (known declared : List String) (case : GoldenCase) : Prop where
  evaluatorsKnown : ∀ name ∈ case.evaluators, name ∈ known
  inputsComplete : ∀ name ∈ declared, name ∈ case.inputs.map Prod.fst
  inputsDeclared : ∀ name ∈ case.inputs.map Prod.fst, name ∈ declared

private theorem except_seq_ok {first second : Except SpecificationError Unit} :
    (first >>= fun _ => second) = .ok () ↔ first = .ok () ∧ second = .ok () := by
  cases first <;> simp [bind, Except.bind]

theorem validateCaseReferences_ok {known declared : List String} {case : GoldenCase} :
    validateCaseReferences known declared case = .ok () ↔ CaseReferences known declared case := by
  unfold validateCaseReferences
  simp only [except_seq_ok, require_ok, sortedDifference_eq_nil]
  exact ⟨fun ⟨a, b, c⟩ => ⟨a, b, c⟩, fun ⟨a, b, c⟩ => ⟨a, b, c⟩⟩

theorem validateCases_ok {known declared : List String} {cases : List GoldenCase} :
    validateCases known declared cases = .ok () ↔
      ∀ case ∈ cases, CaseReferences known declared case := by
  induction cases with
  | nil => simp [validateCases]
  | cons case rest ih =>
    simp [validateCases, except_seq_ok, validateCaseReferences_ok, ih]

/-- The reference checks as one statement about the document. -/
structure References (specification : EvaluationSpecificationV1) : Prop where
  caseKeys : (specification.cases.map GoldenCase.key).Nodup
  evaluatorNames : (specification.evaluators.map EvaluatorDefinition.name).Nodup
  caseReferences : ∀ case ∈ specification.cases,
    CaseReferences (specification.evaluators.map EvaluatorDefinition.name)
      specification.prompt.declaredVariables case

theorem validateReferences_ok {specification : EvaluationSpecificationV1} :
    specification.validateReferences = .ok () ↔ References specification := by
  unfold EvaluationSpecificationV1.validateReferences
  simp only [except_seq_ok, require_ok, validateCases_ok]
  exact ⟨fun ⟨a, b, c⟩ => ⟨a, b, c⟩, fun ⟨a, b, c⟩ => ⟨a, b, c⟩⟩

theorem EvaluationSpecificationV1.Valid.references {specification : EvaluationSpecificationV1}
    (valid : specification.Valid) : References specification := by
  obtain ⟨_, _, _, _, _, _, _, _, _, _, _, checked⟩ := valid
  exact validateReferences_ok.mp checked

theorem EvaluationSpecificationV1.Valid.cases_ne_nil {specification : EvaluationSpecificationV1}
    (valid : specification.Valid) : specification.cases ≠ [] := by
  obtain ⟨_, _, _, _, _, _, ⟨nonempty, _⟩, _⟩ := valid
  exact List.ne_nil_of_length_pos nonempty

theorem EvaluationSpecificationV1.Valid.evaluatorIdentifiers
    {specification : EvaluationSpecificationV1} (valid : specification.Valid) :
    ∀ evaluator ∈ specification.evaluators, IsIdentifier evaluator.name := by
  obtain ⟨_, _, _, _, _, identifiers, _⟩ := valid
  exact identifiers

end RegressionDetection.Specification
