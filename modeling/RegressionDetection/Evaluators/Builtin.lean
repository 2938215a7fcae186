import RegressionDetection.Errors
import RegressionDetection.Foundation.Fallible
import RegressionDetection.Specification.Models

/-! The built-in evaluators. What `unicodedata`, `regex`, `json.loads` and
`jsonschema` answer is a parameter; which of their exceptions is caught is not. -/

namespace RegressionDetection.Evaluators

open Foundation Specification

inductive EvaluationStatus where
  | passed
  | failed
  | errored
  | notApplicable
deriving DecidableEq

def EvaluationStatus.value : EvaluationStatus → String
  | .passed => "passed"
  | .failed => "failed"
  | .errored => "errored"
  | .notApplicable => "not_applicable"

/-- Evidence of one evaluator; `Json.null` is the source's `None`. -/
structure EvaluationResult where
  evaluatorName : String
  evaluatorType : EvaluatorType
  status : EvaluationStatus
  explanation : String
  expected : Json
  observed : Json
  errorCode : Option String
  nameBounded : LengthWithin 1 128 evaluatorName
  explanationBounded : LengthWithin 1 2000 explanation
  codeBounded : ∀ code ∈ errorCode, code.length ≤ 100
  codeShape : status = .errored ↔ errorCode.isSome = true
deriving DecidableEq

/-- How a library call ends: a value, the exception its caller handles, or another one. -/
inductive LibraryCall (ε α : Type) where
  | returned (value : α)
  | handled (error : ε)
  | raised (name : String)

/-- The third-party and standard-library functions the evaluators call. -/
structure Libraries where
  /-- `" ".join(unicodedata.normalize("NFKC", value).casefold().split())`. -/
  normalize : String → String
  /-- Compilation inside `regex.search`; handled is the text of `regex.error`. -/
  compileRegex : String → LibraryCall String Unit
  /-- The match itself; handled is `TimeoutError`. -/
  searchRegex : String → String → LibraryCall Unit Bool
  /-- `json.loads`; handled is the line and column of `JSONDecodeError`. -/
  jsonLoads : String → LibraryCall (Nat × Nat) Json
  /-- `validator_for(schema).check_schema(schema)`; handled is the `SchemaError` message. -/
  checkSchema : Json → LibraryCall String Unit
  /-- `validator.validate(instance)`; handled is the `ValidationError` message. -/
  validateSchema : Json → Json → LibraryCall String Unit

def maxEvidenceText : Nat := 500

/-- `_bounded`. -/
def bounded (value : String) : String :=
  if value.length ≤ maxEvidenceText then value
  else String.ofList (value.toList.take maxEvidenceText ++ ['…'])

/-- `EvaluationResult(evaluator_name=evaluator.name, evaluator_type=evaluator.type, ...)`. -/
def EvaluationResult.new (evaluator : EvaluatorDefinition) (status : EvaluationStatus)
    (explanation : String) (expected observed : Json) (errorCode : Option String) :
    Except PyError EvaluationResult :=
  if nameBounded : LengthWithin 1 128 evaluator.name then
    if explanationBounded : LengthWithin 1 2000 explanation then
      if codeBounded : ∀ code ∈ errorCode, code.length ≤ 100 then
        if codeShape : status = .errored ↔ errorCode.isSome = true then
          .ok { evaluatorName := evaluator.name, evaluatorType := evaluator.type, status,
                explanation, expected, observed, errorCode, nameBounded, explanationBounded,
                codeBounded, codeShape }
        else if status = .errored then
          .error (.validationError "errored evaluation requires error_code")
        else .error (.validationError "error_code is only valid for errored evaluations")
      else .error (.validationError "error_code")
    else .error (.validationError "explanation")
  else .error (.validationError "evaluator_name")

/-- No code is within the bound. -/
theorem codeBounded_none : ∀ code ∈ (none : Option String), code.length ≤ 100 := by simp

/-- Evidence of an exact match, passed or failed. -/
def EvaluationResult.graded (passed : Bool) : EvaluationResult where
  evaluatorName := "exact"
  evaluatorType := .exactMatch
  status := if passed then .passed else .failed
  explanation := "graded"
  expected := .null
  observed := .null
  errorCode := none
  nameBounded := by decide
  explanationBounded := by decide
  codeBounded := codeBounded_none
  codeShape := by cases passed <;> simp

section Evaluators

variable (libraries : Libraries) (evaluator : EvaluatorDefinition) (case : GoldenCase)
  (output : String)

/-- `_text_expected`: the string expectation, or the configuration error. -/
def textExpected : Except PyError (String ⊕ EvaluationResult) :=
  match case.expected with
  | .str expected => .ok (.inl expected)
  | other => do
    let result ← EvaluationResult.new evaluator .errored
      "Evaluator requires a string expected value" other .null (some "invalid_expected_type")
    return .inr result

/-- `_text_result`. -/
def textResult (expected : String) (passed : Bool) (operation : String) :
    Except PyError EvaluationResult :=
  EvaluationResult.new evaluator (if passed then .passed else .failed)
    (if passed then "Output " ++ operation ++ " expected text"
      else "Output did not " ++ operation ++ " expected text")
    (.str (bounded expected)) (.str (bounded output)) none

/-- The shape `_exact`, `_normalized` and `_contains` share. -/
def textEvaluator (accepts : String → Bool) (operation : String) :
    Except PyError EvaluationResult := do
  match ← textExpected evaluator case with
  | .inr result => return result
  | .inl expected => textResult evaluator output expected (accepts expected) operation

def exact : Except PyError EvaluationResult :=
  textEvaluator evaluator case output (fun expected => output == expected) "exactly match"

def normalized : Except PyError EvaluationResult :=
  textEvaluator evaluator case output
    (fun expected => libraries.normalize output == libraries.normalize expected) "match normalized"

/-- `expected in output`. -/
def containsText (expected : String) : Bool :=
  output.toList.tails.any (fun tail => expected.toList.isPrefixOf tail)

def contains : Except PyError EvaluationResult :=
  textEvaluator evaluator case output (containsText output) "contain"

def regex : Except PyError EvaluationResult := do
  match ← textExpected evaluator case with
  | .inr result => return result
  | .inl pattern =>
    match libraries.compileRegex pattern with
    | .handled text =>
      EvaluationResult.new evaluator .errored ("Invalid regular expression: " ++ bounded text)
        (.str (bounded pattern)) .null (some "invalid_regex")
    | .raised name => throw (.external name)
    | .returned () =>
      match libraries.searchRegex pattern output with
      | .handled () =>
        EvaluationResult.new evaluator .errored "Regular expression exceeded the execution timeout"
          (.str (bounded pattern)) .null (some "regex_timeout")
      | .raised name => throw (.external name)
      | .returned matched => textResult evaluator output pattern matched "match regular expression"

/-- `_parse_output`: the parsed value, or the quality failure. -/
def parseOutput : Except PyError (Json ⊕ EvaluationResult) :=
  match libraries.jsonLoads output with
  | .returned value => .ok (.inl value)
  | .handled (line, column) => do
    let failure ← EvaluationResult.new evaluator .failed
      ("Output is not valid JSON at line " ++ toString line ++ ", column " ++ toString column)
      .null (.str (bounded output)) none
    return .inr failure
  | .raised name => .error (.external name)

def jsonValid : Except PyError EvaluationResult := do
  match ← parseOutput libraries evaluator output with
  | .inr failure => return failure
  | .inl parsed => EvaluationResult.new evaluator .passed "Output is valid JSON" .null parsed none

/-- The schema part of `_json_schema`, on an object expectation. -/
def validateParsed (parsed : Json) : Except PyError EvaluationResult :=
  match libraries.checkSchema case.expected with
  | .handled message =>
    EvaluationResult.new evaluator .errored
      ("Expected JSON Schema is invalid: " ++ bounded message) case.expected .null
      (some "invalid_json_schema")
  | .raised name => .error (.external name)
  | .returned () =>
    match libraries.validateSchema case.expected parsed with
    | .handled message =>
      EvaluationResult.new evaluator .failed
        ("Output does not satisfy JSON Schema: " ++ bounded message) case.expected parsed none
    | .raised name => .error (.external name)
    | .returned () =>
      EvaluationResult.new evaluator .passed "Output satisfies JSON Schema" case.expected parsed none

def jsonSchema : Except PyError EvaluationResult := do
  match ← parseOutput libraries evaluator output with
  | .inr failure => return failure
  | .inl parsed =>
    match case.expected with
    | .obj _ => validateParsed libraries evaluator case parsed
    | other =>
      EvaluationResult.new evaluator .errored "JSON Schema evaluator requires an object expected value"
        other .null (some "invalid_schema_type")

/-- The `_EVALUATORS` table. -/
def evaluatorFunction : Except PyError EvaluationResult :=
  match evaluator.type with
  | .exactMatch => exact evaluator case output
  | .normalizedMatch => normalized libraries evaluator case output
  | .contains => contains evaluator case output
  | .regex => regex libraries evaluator case output
  | .jsonValid => jsonValid libraries evaluator output
  | .jsonSchema => jsonSchema libraries evaluator case output

end Evaluators

/-- One step of the loop of `evaluate_case`. -/
def evaluateNamed (libraries : Libraries) (case : GoldenCase) (output : Option String)
    (definitions : List (String × EvaluatorDefinition)) (name : String) :
    Except PyError EvaluationResult := do
  let evaluator ← getItem definitions name
  match output with
  | none =>
    EvaluationResult.new evaluator .notApplicable "Provider did not produce output" .null .null none
  | some text => evaluatorFunction libraries evaluator case text

def evaluateCase (libraries : Libraries) (case : GoldenCase) (output : Option String)
    (definitions : List (String × EvaluatorDefinition)) : Except PyError (List EvaluationResult) :=
  case.evaluators.mapM (evaluateNamed libraries case output definitions)

/-- `{evaluator.name: evaluator for evaluator in specification.evaluators}`. -/
def evaluatorDefinitions (specification : EvaluationSpecificationV1) :
    List (String × EvaluatorDefinition) :=
  specification.evaluators.map (fun evaluator => (evaluator.name, evaluator))

section Lookup

variable {specification : EvaluationSpecificationV1} {case : GoldenCase} {name : String}

/-- Every evaluator a validated case names is defined, under its own name. -/
theorem evaluator_found (valid : specification.Valid) (member : case ∈ specification.cases)
    (named : name ∈ case.evaluators) :
    ∃ evaluator ∈ specification.evaluators, evaluator.name = name ∧
      getItem (evaluatorDefinitions specification) name = .ok evaluator := by
  have known := (valid.references.caseReferences case member).evaluatorsKnown name named
  obtain ⟨evaluator, defined, same⟩ := List.mem_map.mp known
  refine ⟨evaluator, defined, same, getItem_of_mem ?_ ?_⟩
  · simpa [evaluatorDefinitions, Function.comp_def] using valid.references.evaluatorNames
  · exact List.mem_map.mpr ⟨evaluator, defined, by rw [same]⟩

theorem EvaluationResult.new_ok {evaluator : EvaluatorDefinition} {status : EvaluationStatus}
    {explanation : String} {expected observed : Json} {errorCode : Option String}
    (named : IsIdentifier evaluator.name) (explained : LengthWithin 1 2000 explanation)
    (codeBounded : ∀ code ∈ errorCode, code.length ≤ 100)
    (codeShape : status = .errored ↔ errorCode.isSome = true) :
    ∃ result, EvaluationResult.new evaluator status explanation expected observed errorCode =
      .ok result ∧ result.evaluatorName = evaluator.name ∧ result.status = status := by
  unfold EvaluationResult.new
  rw [dif_pos named.lengthWithin, dif_pos explained, dif_pos codeBounded, dif_pos codeShape]
  exact ⟨_, rfl, rfl, rfl⟩

private theorem evaluateNamed_none (libraries : Libraries) (valid : specification.Valid)
    (member : case ∈ specification.cases) (named : name ∈ case.evaluators) :
    ∃ result, evaluateNamed libraries case none (evaluatorDefinitions specification) name =
      .ok result ∧ result.status = .notApplicable := by
  obtain ⟨evaluator, defined, _, found⟩ := evaluator_found valid member named
  have explained : LengthWithin 1 2000 "Provider did not produce output" := by decide
  have uncoded : EvaluationStatus.notApplicable = .errored ↔
      (none : Option String).isSome = true := by simp
  obtain ⟨result, built, _, status⟩ := EvaluationResult.new_ok
    (valid.evaluatorIdentifiers _ defined) explained (by simp) uncoded
  exact ⟨result, bind_eq_ok.mpr ⟨evaluator, found, built⟩, status⟩

/-- Without output every declared evaluator of a validated case is inapplicable. -/
theorem evaluateCase_none (libraries : Libraries) (valid : specification.Valid)
    (member : case ∈ specification.cases) :
    ∃ results, evaluateCase libraries case none (evaluatorDefinitions specification) = .ok results ∧
      ∀ result ∈ results, result.status = .notApplicable := by
  obtain ⟨results, mapped⟩ := mapM_returns fun name named =>
    let ⟨result, applied, _⟩ := evaluateNamed_none libraries valid member named
    ⟨result, applied⟩
  refine ⟨results, mapped, ?_⟩
  intro result produced
  obtain ⟨name, named, applied⟩ := exists_of_mem_mapM mapped produced
  obtain ⟨other, again, status⟩ := evaluateNamed_none libraries valid member named
  cases applied.symm.trans again
  exact status

/-- The text evaluators return on every output: their explanations are fixed texts. -/
theorem textEvaluator_returns {evaluator : EvaluatorDefinition} (named : IsIdentifier evaluator.name)
    (case : GoldenCase) (output : String) (accepts : String → Bool) {operation : String}
    (short : operation.length ≤ 100) :
    ∃ result, textEvaluator evaluator case output accepts operation = .ok result := by
  unfold textEvaluator textExpected
  have uncoded (passed : Bool) : (if passed then EvaluationStatus.passed else .failed) = .errored ↔
      (none : Option String).isSome = true := by cases passed <;> simp
  have explained (passed : Bool) : LengthWithin 1 2000 (if passed then
      "Output " ++ operation ++ " expected text"
      else "Output did not " ++ operation ++ " expected text") := by
    have first : "Output ".length = 7 := by decide
    have second : "Output did not ".length = 15 := by decide
    have last : " expected text".length = 14 := by decide
    cases passed <;> simp only [Bool.false_eq_true, ↓reduceIte, LengthWithin, String.length_append,
      first, second, last] <;> omega
  split
  · rename_i expected _
    obtain ⟨result, built, _⟩ := EvaluationResult.new_ok named (explained (accepts expected))
      (by simp) (uncoded (accepts expected))
    exact ⟨result, built⟩
  · have refused : LengthWithin 1 2000 "Evaluator requires a string expected value" := by decide
    have coded : ∀ code ∈ some "invalid_expected_type", code.length ≤ 100 := by decide
    have shaped : EvaluationStatus.errored = .errored ↔
        (some "invalid_expected_type").isSome = true := by simp
    obtain ⟨result, built, _⟩ := EvaluationResult.new_ok named refused coded shaped
    exact ⟨result, bind_eq_ok.mpr ⟨.inr result, bind_eq_ok.mpr ⟨result, built, rfl⟩, rfl⟩⟩

end Lookup

section Grades

variable {libraries : Libraries} {evaluator : EvaluatorDefinition} {case : GoldenCase}
  {output : String} {result : EvaluationResult}

/-- The result is the evaluator's, and about an output. -/
structure GradedBy (evaluator : EvaluatorDefinition) (result : EvaluationResult) : Prop where
  name : result.evaluatorName = evaluator.name
  applied : result.status ≠ .notApplicable

theorem EvaluationResult.new_fields {status : EvaluationStatus} {explanation : String}
    {expected observed : Json} {errorCode : Option String}
    (built : EvaluationResult.new evaluator status explanation expected observed errorCode =
      .ok result) : result.evaluatorName = evaluator.name ∧ result.status = status := by
  unfold EvaluationResult.new at built
  split at built
  · split at built
    · split at built
      · split at built
        · cases built
          exact ⟨rfl, rfl⟩
        · split at built <;> cases built
      · cases built
    · cases built
  · cases built

theorem EvaluationResult.new_graded {status : EvaluationStatus} {explanation : String}
    {expected observed : Json} {errorCode : Option String}
    (built : EvaluationResult.new evaluator status explanation expected observed errorCode =
      .ok result) (applied : status ≠ .notApplicable) : GradedBy evaluator result := by
  obtain ⟨name, same⟩ := EvaluationResult.new_fields built
  exact ⟨name, same ▸ applied⟩

theorem textExpected_graded (returned : textExpected evaluator case = .ok (.inr result)) :
    GradedBy evaluator result := by
  unfold textExpected at returned
  split at returned
  · cases returned
  · obtain ⟨other, built, same⟩ := bind_eq_ok.mp returned
    cases same
    exact EvaluationResult.new_graded built (by decide)

theorem textResult_graded {expected operation : String} {passed : Bool}
    (returned : textResult evaluator output expected passed operation = .ok result) :
    GradedBy evaluator result :=
  EvaluationResult.new_graded returned (by cases passed <;> decide)

theorem textEvaluator_graded {accepts : String → Bool} {operation : String}
    (returned : textEvaluator evaluator case output accepts operation = .ok result) :
    GradedBy evaluator result := by
  obtain ⟨expectation, found, rest⟩ := bind_eq_ok.mp returned
  cases expectation with
  | inr refused =>
    cases rest
    exact textExpected_graded found
  | inl expected => exact textResult_graded rest

theorem regex_graded (returned : regex libraries evaluator case output = .ok result) :
    GradedBy evaluator result := by
  obtain ⟨expectation, found, rest⟩ := bind_eq_ok.mp returned
  cases expectation with
  | inr refused =>
    cases rest
    exact textExpected_graded found
  | inl pattern =>
    dsimp only at rest
    split at rest
    · exact EvaluationResult.new_graded rest (by decide)
    · cases rest
    · split at rest
      · exact EvaluationResult.new_graded rest (by decide)
      · cases rest
      · exact textResult_graded rest

theorem parseOutput_graded (returned : parseOutput libraries evaluator output = .ok (.inr result)) :
    GradedBy evaluator result := by
  unfold parseOutput at returned
  split at returned
  · cases returned
  · obtain ⟨failure, built, same⟩ := bind_eq_ok.mp returned
    cases same
    exact EvaluationResult.new_graded built (by decide)
  · cases returned

theorem jsonValid_graded (returned : jsonValid libraries evaluator output = .ok result) :
    GradedBy evaluator result := by
  obtain ⟨parsed, found, rest⟩ := bind_eq_ok.mp returned
  cases parsed with
  | inr failure =>
    cases rest
    exact parseOutput_graded found
  | inl value => exact EvaluationResult.new_graded rest (by decide)

theorem validateParsed_graded {parsed : Json}
    (returned : validateParsed libraries evaluator case parsed = .ok result) :
    GradedBy evaluator result := by
  unfold validateParsed at returned
  split at returned
  · exact EvaluationResult.new_graded returned (by decide)
  · cases returned
  · split at returned
    · exact EvaluationResult.new_graded returned (by decide)
    · cases returned
    · exact EvaluationResult.new_graded returned (by decide)

theorem jsonSchema_graded (returned : jsonSchema libraries evaluator case output = .ok result) :
    GradedBy evaluator result := by
  obtain ⟨parsed, found, rest⟩ := bind_eq_ok.mp returned
  cases parsed with
  | inr failure =>
    cases rest
    exact parseOutput_graded found
  | inl value =>
    dsimp only at rest
    split at rest
    · exact validateParsed_graded rest
    · exact EvaluationResult.new_graded rest (by decide)

/-- Given an output every evaluator applies. -/
theorem evaluatorFunction_graded
    (returned : evaluatorFunction libraries evaluator case output = .ok result) :
    GradedBy evaluator result := by
  unfold evaluatorFunction at returned
  split at returned
  · exact textEvaluator_graded returned
  · exact textEvaluator_graded returned
  · exact textEvaluator_graded returned
  · exact regex_graded returned
  · exact jsonValid_graded returned
  · exact jsonSchema_graded returned

variable {answer : Option String} {specification : EvaluationSpecificationV1} {name : String}

/-- An evaluation bears the name it was asked for, of a defined evaluator, and is
inapplicable exactly without an output. -/
theorem evaluateNamed_ok
    (evaluated : evaluateNamed libraries case answer (evaluatorDefinitions specification) name =
      .ok result) :
    result.evaluatorName = name ∧ name ∈ specification.evaluators.map EvaluatorDefinition.name ∧
      (result.status = .notApplicable ↔ answer = none) := by
  obtain ⟨evaluator, found, rest⟩ := bind_eq_ok.mp evaluated
  obtain ⟨defined, listed, same⟩ := List.mem_map.mp (mem_of_lookup (getItem_eq_ok.mp found))
  obtain ⟨rfl, rfl⟩ := Prod.mk.inj same
  have known : defined.name ∈ specification.evaluators.map EvaluatorDefinition.name :=
    List.mem_map.mpr ⟨defined, listed, rfl⟩
  cases answer with
  | none =>
    obtain ⟨named, status⟩ := EvaluationResult.new_fields rest
    exact ⟨named, known, by simp [status]⟩
  | some text =>
    have graded := evaluatorFunction_graded rest
    exact ⟨graded.name, known, by simp [graded.applied]⟩

/-- The evaluations of a case are those of its evaluators, in their order. -/
theorem evaluateCase_ok {results : List EvaluationResult}
    (evaluated : evaluateCase libraries case answer (evaluatorDefinitions specification) = .ok results) :
    results.map EvaluationResult.evaluatorName = case.evaluators ∧
      ∀ result ∈ results, result.status = .notApplicable ↔ answer = none := by
  constructor
  · have named := map_eq_of_mapM evaluated fun name _ own => (evaluateNamed_ok own).1
    rwa [List.map_id'] at named
  · intro result member
    obtain ⟨name, _, applied⟩ := exists_of_mem_mapM evaluated member
    exact (evaluateNamed_ok applied).2.2

/-- Every evaluation of a case carries the name of a defined evaluator. -/
theorem evaluateCase_names {results : List EvaluationResult}
    (evaluated : evaluateCase libraries case answer (evaluatorDefinitions specification) = .ok results) :
    ∀ result ∈ results, result.evaluatorName ∈ specification.evaluators.map EvaluatorDefinition.name := by
  intro result member
  obtain ⟨name, _, applied⟩ := exists_of_mem_mapM evaluated member
  obtain ⟨same, known, _⟩ := evaluateNamed_ok applied
  exact same ▸ known

end Grades

end RegressionDetection.Evaluators
