import RegressionDetection.Evaluators.Builtin

/-! What an evaluation says about the expectation and the output: misconfiguration is
an error, and a status of quality is the value of the assertion. -/

namespace RegressionDetection.Evaluators

open Foundation Specification

/-- The libraries as predicates: their calls end with a value or the exception the
evaluators handle, at a position some string has. -/
structure AsPredicates (libraries : Libraries) : Prop where
  compileRegex : ∀ pattern name, libraries.compileRegex pattern ≠ .raised name
  searchRegex : ∀ pattern output name, libraries.searchRegex pattern output ≠ .raised name
  jsonLoads : ∀ output name, libraries.jsonLoads output ≠ .raised name
  checkSchema : ∀ schema name, libraries.checkSchema schema ≠ .raised name
  validateSchema : ∀ schema parsed name, libraries.validateSchema schema parsed ≠ .raised name
  positions : ∀ output line column, libraries.jsonLoads output = .handled (line, column) →
    line < 2 ^ 63 ∧ column < 2 ^ 63

section Laws

variable (libraries : Libraries) (evaluator : EvaluatorDefinition) (case : GoldenCase)
  (output : String)

/-- The case expects something this evaluator can assert. -/
def WellFormed : Prop :=
  match evaluator.type with
  | .exactMatch | .normalizedMatch | .contains => ∃ text, case.expected = .str text
  | .regex => ∃ pattern, case.expected = .str pattern ∧ libraries.compileRegex pattern = .returned ()
  | .jsonValid => True
  | .jsonSchema => (∃ fields, case.expected = .obj fields) ∧
      libraries.checkSchema case.expected = .returned ()

/-- The output parses as JSON. -/
def IsJson : Prop := ∃ parsed, libraries.jsonLoads output = .returned parsed

/-- The assertion of the evaluator about the output. -/
def Asserts : Prop :=
  match evaluator.type with
  | .exactMatch => case.expected = .str output
  | .normalizedMatch => ∃ text, case.expected = .str text ∧
      libraries.normalize output = libraries.normalize text
  | .contains => ∃ text, case.expected = .str text ∧ containsText output text = true
  | .regex => ∃ pattern, case.expected = .str pattern ∧
      libraries.searchRegex pattern output = .returned true
  | .jsonValid => IsJson libraries output
  | .jsonSchema => ∃ parsed, libraries.jsonLoads output = .returned parsed ∧
      libraries.validateSchema case.expected parsed = .returned ()

/-- The search of a regular expression that ran out of time. -/
def TimesOut : Prop :=
  evaluator.type = .regex ∧
    ∃ pattern, case.expected = .str pattern ∧ libraries.searchRegex pattern output = .handled ()

/-- An error says nothing about quality and a status of quality is the assertion's value. -/
structure Lawful (result : EvaluationResult) : Prop where
  misconfigured : ¬ WellFormed libraries evaluator case → result.status = .errored
  passed_iff : WellFormed libraries evaluator case →
    (result.status = .passed ↔ Asserts libraries evaluator case output)
  errored_iff : WellFormed libraries evaluator case →
    (result.status = .errored ↔ TimesOut libraries evaluator case output)
  failed_iff : WellFormed libraries evaluator case →
    (result.status = .failed ↔
      ¬ Asserts libraries evaluator case output ∧ ¬ TimesOut libraries evaluator case output)

/-- A schema evaluator meets a schema that is none and an output that is no JSON. -/
def HidesBadSchema : Prop :=
  evaluator.type = .jsonSchema ∧ ¬ WellFormed libraries evaluator case ∧ ¬ IsJson libraries output

end Laws

section Statuses

variable {libraries : Libraries} {evaluator : EvaluatorDefinition} {case : GoldenCase}
  {output : String}

/-- The status of an assertion's value. -/
def gradeOf (passed : Bool) : EvaluationStatus := if passed then .passed else .failed

/-- An evaluation that returns with this status. -/
def EndsWith (evaluation : Except PyError EvaluationResult) (status : EvaluationStatus) : Prop :=
  ∃ result, evaluation = .ok result ∧ result.status = status

theorem bounded_length (text : String) : (bounded text).length ≤ 501 := by
  unfold bounded maxEvidenceText
  split
  · omega
  · rw [String.length_ofList, List.length_append, List.length_take, List.length_singleton]
    omega

/-- Building the evidence of an assertion gives it its status. -/
theorem endsWith_grade (named : IsIdentifier evaluator.name) (passed : Bool) {explanation : String}
    (expected observed : Json) (explained : LengthWithin 1 2000 explanation) :
    EndsWith (EvaluationResult.new evaluator (gradeOf passed) explanation expected observed none)
      (gradeOf passed) := by
  have uncoded : gradeOf passed = .errored ↔ (none : Option String).isSome = true := by
    cases passed <;> simp [gradeOf]
  have built : ∃ result, EvaluationResult.new evaluator (gradeOf passed) explanation expected
      observed none = .ok result ∧ result.evaluatorName = evaluator.name ∧
        result.status = gradeOf passed :=
    EvaluationResult.new_ok named explained codeBounded_none uncoded
  obtain ⟨result, built, _, status⟩ := built
  exact ⟨result, built, status⟩

theorem endsWith_errored (named : IsIdentifier evaluator.name) {explanation code : String}
    (expected observed : Json) (explained : LengthWithin 1 2000 explanation)
    (coded : code.length ≤ 100) :
    EndsWith (EvaluationResult.new evaluator .errored explanation expected observed (some code))
      .errored := by
  have codes : ∀ other ∈ some code, other.length ≤ 100 := by
    intro other same
    cases same
    exact coded
  have built : ∃ result, EvaluationResult.new evaluator .errored explanation expected observed
      (some code) = .ok result ∧ result.evaluatorName = evaluator.name ∧
        result.status = .errored :=
    EvaluationResult.new_ok named explained codes (by simp)
  obtain ⟨result, built, _, status⟩ := built
  exact ⟨result, built, status⟩

theorem textResult_endsWith (named : IsIdentifier evaluator.name) (output expected : String)
    (passed : Bool) {operation : String} (short : operation.length ≤ 100) :
    EndsWith (textResult evaluator output expected passed operation) (gradeOf passed) := by
  apply endsWith_grade named
  have first : "Output ".length = 7 := by decide
  have second : "Output did not ".length = 15 := by decide
  have last : " expected text".length = 14 := by decide
  cases passed <;> simp only [Bool.false_eq_true, ↓reduceIte, LengthWithin, String.length_append,
    first, second, last] <;> omega

/-- Without a string expectation the text evaluators report an error. -/
theorem textExpected_refuses (named : IsIdentifier evaluator.name)
    (other : ¬ ∃ text, case.expected = .str text) :
    ∃ result, textExpected evaluator case = .ok (.inr result) ∧ result.status = .errored := by
  have refused : EndsWith (EvaluationResult.new evaluator .errored
      "Evaluator requires a string expected value" case.expected .null
      (some "invalid_expected_type")) .errored :=
    endsWith_errored named _ _ (by decide) (by decide)
  obtain ⟨result, built, status⟩ := refused
  refine ⟨result, ?_, status⟩
  unfold textExpected
  split
  · rename_i text found
    exact absurd ⟨text, found⟩ other
  · exact bind_eq_ok.mpr ⟨result, built, rfl⟩

theorem textExpected_string {text : String} (found : case.expected = .str text) :
    textExpected evaluator case = .ok (.inl text) := by
  unfold textExpected
  rw [found]

theorem textEvaluator_refuses (named : IsIdentifier evaluator.name) (accepts : String → Bool)
    (operation : String) (other : ¬ ∃ text, case.expected = .str text) :
    EndsWith (textEvaluator evaluator case output accepts operation) .errored := by
  obtain ⟨result, refused, status⟩ := textExpected_refuses named other
  exact ⟨result, bind_eq_ok.mpr ⟨_, refused, rfl⟩, status⟩

theorem textEvaluator_grades (named : IsIdentifier evaluator.name) (accepts : String → Bool)
    {operation text : String} (short : operation.length ≤ 100)
    (found : case.expected = .str text) :
    EndsWith (textEvaluator evaluator case output accepts operation) (gradeOf (accepts text)) := by
  obtain ⟨result, graded, status⟩ := textResult_endsWith named output text (accepts text) short
  exact ⟨result, bind_eq_ok.mpr ⟨_, textExpected_string found, graded⟩, status⟩

/-- The three ways a regular expression can end. -/
theorem regex_endsWith (output : String) (named : IsIdentifier evaluator.name)
    (predicates : AsPredicates libraries) {pattern : String} (found : case.expected = .str pattern) :
    (libraries.compileRegex pattern ≠ .returned () →
      EndsWith (regex libraries evaluator case output) .errored) ∧
    (libraries.compileRegex pattern = .returned () →
      (libraries.searchRegex pattern output = .handled () →
        EndsWith (regex libraries evaluator case output) .errored) ∧
      ∀ matched, libraries.searchRegex pattern output = .returned matched →
        EndsWith (regex libraries evaluator case output) (gradeOf matched)) := by
  unfold regex
  rw [textExpected_string found]
  dsimp only [bind, Except.bind]
  cases compiled : libraries.compileRegex pattern with
  | raised name => exact absurd compiled (predicates.compileRegex pattern name)
  | handled text =>
    have explained : LengthWithin 1 2000 ("Invalid regular expression: " ++ bounded text) := by
      have lead : "Invalid regular expression: ".length = 28 := by decide
      have short := bounded_length text
      rw [LengthWithin, String.length_append, lead]
      omega
    exact ⟨fun _ => endsWith_errored named _ _ explained (by decide), fun same => by cases same⟩
  | returned =>
    refine ⟨fun other => absurd rfl other, fun _ => ⟨?_, ?_⟩⟩
    · intro timedOut
      rw [timedOut]
      exact endsWith_errored named _ _ (by decide) (by decide)
    · intro matched searched
      rw [searched]
      exact textResult_endsWith named output pattern matched (by decide)

theorem parseOutput_json {parsed : Json} (decoded : libraries.jsonLoads output = .returned parsed) :
    parseOutput libraries evaluator output = .ok (.inl parsed) := by
  unfold parseOutput
  rw [decoded]

/-- Output that is no JSON is a quality failure. -/
theorem parseOutput_fails (named : IsIdentifier evaluator.name) (predicates : AsPredicates libraries)
    (other : ¬ IsJson libraries output) :
    ∃ result, parseOutput libraries evaluator output = .ok (.inr result) ∧
      result.status = .failed := by
  unfold parseOutput
  cases decoded : libraries.jsonLoads output with
  | returned parsed => exact absurd ⟨parsed, decoded⟩ other
  | raised name => exact absurd decoded (predicates.jsonLoads output name)
  | handled position =>
    obtain ⟨line, column⟩ := position
    obtain ⟨lineSmall, columnSmall⟩ := predicates.positions output line column decoded
    have explained : LengthWithin 1 2000
        ("Output is not valid JSON at line " ++ toString line ++ ", column " ++ toString column) := by
      have digits : ∀ number : Nat, number < 2 ^ 63 → (toString number).length ≤ 19 :=
        fun number small => (Nat.length_repr_le_iff (by decide)).mpr (by omega)
      have lead : "Output is not valid JSON at line ".length = 33 := by decide
      have middle : ", column ".length = 9 := by decide
      have first := digits line lineSmall
      have second := digits column columnSmall
      rw [LengthWithin, String.length_append, String.length_append, String.length_append, lead,
        middle]
      omega
    obtain ⟨result, built, status⟩ :=
      endsWith_grade named false .null (.str (bounded output)) explained
    exact ⟨result, bind_eq_ok.mpr ⟨result, built, rfl⟩, status⟩

theorem jsonValid_endsWith (output : String) (named : IsIdentifier evaluator.name)
    (predicates : AsPredicates libraries) :
    (IsJson libraries output → EndsWith (jsonValid libraries evaluator output) .passed) ∧
      (¬ IsJson libraries output → EndsWith (jsonValid libraries evaluator output) .failed) := by
  constructor
  · rintro ⟨parsed, decoded⟩
    obtain ⟨result, built, status⟩ :=
      endsWith_grade named true .null parsed (show LengthWithin 1 2000 "Output is valid JSON" by decide)
    exact ⟨result, bind_eq_ok.mpr ⟨_, parseOutput_json decoded, built⟩, status⟩
  · intro other
    obtain ⟨failure, parsed, status⟩ := parseOutput_fails named predicates other
    exact ⟨failure, bind_eq_ok.mpr ⟨_, parsed, rfl⟩, status⟩

/-- Whatever the schema is, output that is no JSON fails. -/
theorem jsonSchema_fails (case : GoldenCase) (named : IsIdentifier evaluator.name)
    (predicates : AsPredicates libraries)
    (other : ¬ IsJson libraries output) :
    EndsWith (jsonSchema libraries evaluator case output) .failed := by
  obtain ⟨failure, parsed, status⟩ := parseOutput_fails named predicates other
  exact ⟨failure, bind_eq_ok.mpr ⟨_, parsed, rfl⟩, status⟩

/-- A schema is checked before the output is validated against it. -/
theorem validateParsed_endsWith (case : GoldenCase) (named : IsIdentifier evaluator.name)
    (predicates : AsPredicates libraries) (parsed : Json) :
    (libraries.checkSchema case.expected ≠ .returned () →
      EndsWith (validateParsed libraries evaluator case parsed) .errored) ∧
    (libraries.checkSchema case.expected = .returned () →
      (libraries.validateSchema case.expected parsed = .returned () →
        EndsWith (validateParsed libraries evaluator case parsed) .passed) ∧
      (libraries.validateSchema case.expected parsed ≠ .returned () →
        EndsWith (validateParsed libraries evaluator case parsed) .failed)) := by
  unfold validateParsed
  cases checked : libraries.checkSchema case.expected with
  | raised name => exact absurd checked (predicates.checkSchema _ name)
  | handled message =>
    have explained : LengthWithin 1 2000 ("Expected JSON Schema is invalid: " ++ bounded message) := by
      have lead : "Expected JSON Schema is invalid: ".length = 33 := by decide
      have short := bounded_length message
      rw [LengthWithin, String.length_append, lead]
      omega
    exact ⟨fun _ => endsWith_errored named _ _ explained (by decide), fun same => by cases same⟩
  | returned =>
    refine ⟨fun other => absurd rfl other, fun _ => ⟨?_, ?_⟩⟩
    · intro valid
      rw [valid]
      exact endsWith_grade named true _ _ (by decide)
    · intro other
      cases validated : libraries.validateSchema case.expected parsed with
      | raised name => exact absurd validated (predicates.validateSchema _ _ name)
      | returned => exact absurd validated other
      | handled message =>
        have explained : LengthWithin 1 2000
            ("Output does not satisfy JSON Schema: " ++ bounded message) := by
          have lead : "Output does not satisfy JSON Schema: ".length = 37 := by decide
          have short := bounded_length message
          rw [LengthWithin, String.length_append, lead]
          omega
        exact endsWith_grade named false _ _ explained

theorem jsonSchema_object {parsed : Json} {fields : List (String × Json)}
    (decoded : libraries.jsonLoads output = .returned parsed) (shape : case.expected = .obj fields) :
    jsonSchema libraries evaluator case output = validateParsed libraries evaluator case parsed := by
  unfold jsonSchema
  rw [parseOutput_json decoded, shape]
  rfl

theorem jsonSchema_refuses (named : IsIdentifier evaluator.name) {parsed : Json}
    (decoded : libraries.jsonLoads output = .returned parsed)
    (other : ¬ ∃ fields, case.expected = .obj fields) :
    EndsWith (jsonSchema libraries evaluator case output) .errored := by
  unfold jsonSchema
  rw [parseOutput_json decoded]
  dsimp only [bind, Except.bind]
  split
  · rename_i fields shape
    exact absurd ⟨fields, shape⟩ other
  · exact endsWith_errored named _ _ (by decide) (by decide)

end Statuses

section Laws

variable {libraries : Libraries} {evaluator : EvaluatorDefinition} {case : GoldenCase}
  {output : String}

/-- An evaluation that returns lawfully. -/
def EndsLawfully (libraries : Libraries) (evaluator : EvaluatorDefinition) (case : GoldenCase)
    (output : String) (evaluation : Except PyError EvaluationResult) : Prop :=
  ∃ result, evaluation = .ok result ∧ Lawful libraries evaluator case output result

variable {evaluation : Except PyError EvaluationResult}

theorem EndsWith.misconfigured (ends : EndsWith evaluation .errored)
    (malformed : ¬ WellFormed libraries evaluator case) :
    EndsLawfully libraries evaluator case output evaluation := by
  obtain ⟨result, returned, status⟩ := ends
  exact ⟨result, returned, fun _ => status, fun formed => absurd formed malformed,
    fun formed => absurd formed malformed, fun formed => absurd formed malformed⟩

theorem EndsWith.graded {passed : Bool} (ends : EndsWith evaluation (gradeOf passed))
    (formed : WellFormed libraries evaluator case)
    (value : Asserts libraries evaluator case output ↔ passed = true)
    (inTime : ¬ TimesOut libraries evaluator case output) :
    EndsLawfully libraries evaluator case output evaluation := by
  obtain ⟨result, returned, status⟩ := ends
  refine ⟨result, returned, fun malformed => absurd formed malformed, fun _ => ?_, fun _ => ?_,
    fun _ => ?_⟩
  · rw [status, value]
    cases passed <;> simp [gradeOf]
  · simp only [inTime, iff_false, status]
    cases passed <;> simp [gradeOf]
  · rw [status, value]
    cases passed <;> simp [gradeOf, inTime]

theorem EndsWith.timedOut (ends : EndsWith evaluation .errored)
    (formed : WellFormed libraries evaluator case)
    (late : TimesOut libraries evaluator case output)
    (unsettled : ¬ Asserts libraries evaluator case output) :
    EndsLawfully libraries evaluator case output evaluation := by
  obtain ⟨result, returned, status⟩ := ends
  exact ⟨result, returned, fun malformed => absurd formed malformed,
    fun _ => by simp [status, unsettled], fun _ => by simp [status, late],
    fun _ => by simp [status, late]⟩

/-- Only a regular expression can run out of time. -/
theorem not_timesOut (other : evaluator.type ≠ .regex) :
    ¬ TimesOut libraries evaluator case output := fun late => other late.1

/-- The text evaluators are lawful on every expectation and output. -/
theorem textEvaluator_lawful (named : IsIdentifier evaluator.name) (accepts : String → Bool)
    {operation : String} (short : operation.length ≤ 100)
    (formed_iff : WellFormed libraries evaluator case ↔ ∃ text, case.expected = .str text)
    (value : ∀ text, case.expected = .str text →
      (Asserts libraries evaluator case output ↔ accepts text = true))
    (untimed : evaluator.type ≠ .regex) :
    EndsLawfully libraries evaluator case output
      (textEvaluator evaluator case output accepts operation) := by
  by_cases formed : ∃ text, case.expected = .str text
  · obtain ⟨text, found⟩ := formed
    exact (textEvaluator_grades named accepts short found).graded (formed_iff.mpr ⟨text, found⟩)
      (value text found) (not_timesOut untimed)
  · exact (textEvaluator_refuses named accepts operation formed).misconfigured
      (mt formed_iff.mp formed)

/-- With a pattern in hand, what a regular expression needs and asserts is about that one. -/
theorem expected_pattern {pattern : String} (found : case.expected = .str pattern)
    (p : String → Prop) : (∃ other, case.expected = .str other ∧ p other) ↔ p pattern := by
  rw [found]
  simp

theorem regex_lawful_pattern (named : IsIdentifier evaluator.name)
    (predicates : AsPredicates libraries) (type : evaluator.type = .regex) {pattern : String}
    (found : case.expected = .str pattern) :
    EndsLawfully libraries evaluator case output (regex libraries evaluator case output) := by
  have formed_iff : WellFormed libraries evaluator case ↔
      libraries.compileRegex pattern = .returned () := by
    simp only [WellFormed, type, expected_pattern found]
  have asserts_iff : Asserts libraries evaluator case output ↔
      libraries.searchRegex pattern output = .returned true := by
    simp only [Asserts, type, expected_pattern found]
  have late_iff : TimesOut libraries evaluator case output ↔
      libraries.searchRegex pattern output = .handled () := by
    simp only [TimesOut, type, true_and, expected_pattern found]
  obtain ⟨bad, good⟩ := regex_endsWith output named predicates found
  by_cases compiles : libraries.compileRegex pattern = .returned ()
  · obtain ⟨late, inTime⟩ := good compiles
    cases searched : libraries.searchRegex pattern output with
    | raised name => exact absurd searched (predicates.searchRegex _ _ name)
    | handled =>
      exact (late searched).timedOut (formed_iff.mpr compiles) (late_iff.mpr searched)
        (by simp [asserts_iff, searched])
    | returned matched =>
      exact (inTime matched searched).graded (formed_iff.mpr compiles)
        (by simp [asserts_iff, searched]) (by simp [late_iff, searched])
  · exact (bad compiles).misconfigured (mt formed_iff.mp compiles)

theorem regex_lawful (named : IsIdentifier evaluator.name) (predicates : AsPredicates libraries)
    (type : evaluator.type = .regex) :
    EndsLawfully libraries evaluator case output (regex libraries evaluator case output) := by
  by_cases string : ∃ pattern, case.expected = .str pattern
  · obtain ⟨pattern, found⟩ := string
    exact regex_lawful_pattern named predicates type found
  · obtain ⟨result, refused, status⟩ := textExpected_refuses named string
    have ends : EndsWith (regex libraries evaluator case output) .errored :=
      ⟨result, bind_eq_ok.mpr ⟨_, refused, rfl⟩, status⟩
    refine ends.misconfigured fun formed => ?_
    simp only [WellFormed, type] at formed
    obtain ⟨pattern, found, _⟩ := formed
    exact string ⟨pattern, found⟩

theorem jsonValid_lawful (named : IsIdentifier evaluator.name) (predicates : AsPredicates libraries)
    (type : evaluator.type = .jsonValid) :
    EndsLawfully libraries evaluator case output (jsonValid libraries evaluator output) := by
  have formed : WellFormed libraries evaluator case := by simp only [WellFormed, type]
  have asserts_iff : Asserts libraries evaluator case output ↔ IsJson libraries output := by
    simp only [Asserts, type]
  have untimed : ¬ TimesOut libraries evaluator case output := not_timesOut (by simp [type])
  obtain ⟨passes, fails⟩ := jsonValid_endsWith output named predicates
  by_cases json : IsJson libraries output
  · have ends : EndsWith (jsonValid libraries evaluator output) (gradeOf true) := passes json
    exact ends.graded formed (by simp [asserts_iff, json]) untimed
  · have ends : EndsWith (jsonValid libraries evaluator output) (gradeOf false) := fails json
    exact ends.graded formed (by simp [asserts_iff, json]) untimed

theorem jsonSchema_wellFormed_iff (type : evaluator.type = .jsonSchema) :
    WellFormed libraries evaluator case ↔ (∃ fields, case.expected = .obj fields) ∧
      libraries.checkSchema case.expected = .returned () := by
  simp only [WellFormed, type]

/-- What a schema asserts of an output that is no JSON, and of one that is. -/
theorem jsonSchema_not_asserts (type : evaluator.type = .jsonSchema)
    (notJson : ¬ IsJson libraries output) : ¬ Asserts libraries evaluator case output := by
  simp only [Asserts, type]
  rintro ⟨parsed, decoded, _⟩
  exact notJson ⟨parsed, decoded⟩

theorem jsonSchema_asserts_iff (type : evaluator.type = .jsonSchema) {parsed : Json}
    (decoded : libraries.jsonLoads output = .returned parsed) :
    Asserts libraries evaluator case output ↔
      libraries.validateSchema case.expected parsed = .returned () := by
  simp only [Asserts, type]
  constructor
  · rintro ⟨other, again, valid⟩
    cases decoded.symm.trans again
    exact valid
  · intro valid
    exact ⟨parsed, decoded, valid⟩

/-- On an output that is JSON the schema evaluator is lawful for every expectation. -/
theorem jsonSchema_lawful_json (named : IsIdentifier evaluator.name)
    (predicates : AsPredicates libraries) (type : evaluator.type = .jsonSchema)
    (json : IsJson libraries output) :
    EndsLawfully libraries evaluator case output (jsonSchema libraries evaluator case output) := by
  have formed_iff : WellFormed libraries evaluator case ↔ _ := jsonSchema_wellFormed_iff type
  obtain ⟨parsed, decoded⟩ := json
  by_cases object : ∃ fields, case.expected = .obj fields
  · obtain ⟨fields, shape⟩ := object
    rw [jsonSchema_object decoded shape]
    obtain ⟨bad, good⟩ := validateParsed_endsWith case named predicates parsed
    by_cases checks : libraries.checkSchema case.expected = .returned ()
    · have formed := formed_iff.mpr ⟨⟨fields, shape⟩, checks⟩
      have untimed : ¬ TimesOut libraries evaluator case output := not_timesOut (by simp [type])
      have value : Asserts libraries evaluator case output ↔ _ := jsonSchema_asserts_iff type decoded
      obtain ⟨passes, fails⟩ := good checks
      by_cases valid : libraries.validateSchema case.expected parsed = .returned ()
      · have ends : EndsWith (validateParsed libraries evaluator case parsed) (gradeOf true) :=
          passes valid
        exact ends.graded formed (by simp [value, valid]) untimed
      · have ends : EndsWith (validateParsed libraries evaluator case parsed) (gradeOf false) :=
          fails valid
        exact ends.graded formed (by simp [value, valid]) untimed
    · exact (bad checks).misconfigured fun formed => checks (formed_iff.mp formed).2
  · exact (jsonSchema_refuses named decoded object).misconfigured
      fun formed => object (formed_iff.mp formed).1

/-- The schema evaluator is lawful unless the output hides a bad schema. -/
theorem jsonSchema_lawful_iff (named : IsIdentifier evaluator.name)
    (predicates : AsPredicates libraries) (type : evaluator.type = .jsonSchema) :
    EndsLawfully libraries evaluator case output (jsonSchema libraries evaluator case output) ↔
      ¬ HidesBadSchema libraries evaluator case output := by
  by_cases json : IsJson libraries output
  · have shown : ¬ HidesBadSchema libraries evaluator case output := fun hides => hides.2.2 json
    exact iff_of_true (jsonSchema_lawful_json named predicates type json) shown
  · obtain ⟨failure, returned, status⟩ :=
      jsonSchema_fails case named predicates json
    constructor
    · rintro ⟨result, again, lawful⟩ ⟨_, malformed, _⟩
      cases returned.symm.trans again
      cases (lawful.misconfigured malformed).symm.trans status
    · intro shown
      have formed : WellFormed libraries evaluator case := by
        by_contra malformed
        exact shown ⟨type, malformed, json⟩
      have ends : EndsWith (jsonSchema libraries evaluator case output) (gradeOf false) :=
        ⟨failure, returned, status⟩
      have unsettled : ¬ Asserts libraries evaluator case output := jsonSchema_not_asserts type json
      exact ends.graded formed (by simp [unsettled]) (not_timesOut (by simp [type]))

/-- Of the six evaluators only the schema evaluator can misreport. -/
theorem evaluatorFunction_lawful_iff (named : IsIdentifier evaluator.name)
    (predicates : AsPredicates libraries) (case : GoldenCase) (output : String) :
    EndsLawfully libraries evaluator case output
        (evaluatorFunction libraries evaluator case output) ↔
      ¬ HidesBadSchema libraries evaluator case output := by
  have shown : evaluator.type ≠ .jsonSchema → ¬ HidesBadSchema libraries evaluator case output :=
    fun other hides => other hides.1
  unfold evaluatorFunction
  cases type : evaluator.type with
  | exactMatch =>
    refine iff_of_true ?_ (shown (by simp [type]))
    apply textEvaluator_lawful named _ (by decide)
    · simp only [WellFormed, type]
    · intro text found
      simp only [Asserts, type, found, Json.str.injEq, beq_iff_eq]
      exact eq_comm
    · simp [type]
  | normalizedMatch =>
    refine iff_of_true ?_ (shown (by simp [type]))
    apply textEvaluator_lawful named _ (by decide)
    · simp only [WellFormed, type]
    · intro text found
      simp [Asserts, type, found]
    · simp [type]
  | contains =>
    refine iff_of_true ?_ (shown (by simp [type]))
    apply textEvaluator_lawful named _ (by decide)
    · simp only [WellFormed, type]
    · intro text found
      simp [Asserts, type, found]
    · simp [type]
  | regex => exact iff_of_true (regex_lawful named predicates type) (shown (by simp [type]))
  | jsonValid => exact iff_of_true (jsonValid_lawful named predicates type) (shown (by simp [type]))
  | jsonSchema => exact jsonSchema_lawful_iff named predicates type

end Laws

/-- The definitions name a valid evaluator for each name of the case. -/
def Defines (definitions : List (String × EvaluatorDefinition)) (case : GoldenCase) : Prop :=
  ∀ name ∈ case.evaluators, ∃ evaluator,
    getItem definitions name = .ok evaluator ∧ IsIdentifier evaluator.name

/-- Every evaluation of the case is lawful, in the order of its evaluators. -/
def LawfulCase (libraries : Libraries) (definitions : List (String × EvaluatorDefinition))
    (case : GoldenCase) (output : String) (evaluation : Except PyError (List EvaluationResult)) :
    Prop :=
  ∃ results, evaluation = .ok results ∧
    List.Forall₂ (fun name result => ∃ evaluator, getItem definitions name = .ok evaluator ∧
      Lawful libraries evaluator case output result) case.evaluators results

/-- Libraries of a document with the one valid schema `{}` and the one JSON output `{}`. -/
def schemaLibraries : Libraries where
  normalize := id
  compileRegex _ := .returned ()
  searchRegex pattern output := .returned (containsText output pattern)
  jsonLoads output := if output = "\x7b\x7d" then .returned (.obj []) else .handled (1, 1)
  checkSchema schema := if schema = .obj [] then .returned () else .handled "is not valid"
  validateSchema _ _ := .returned ()

theorem schemaLibraries_predicates : AsPredicates schemaLibraries where
  compileRegex := by simp [schemaLibraries]
  searchRegex := by simp [schemaLibraries]
  jsonLoads := by
    intro output name
    simp only [schemaLibraries]
    split <;> simp
  checkSchema := by
    intro schema name
    simp only [schemaLibraries]
    split <;> simp
  validateSchema := by simp [schemaLibraries]
  positions := by
    intro output line column decoded
    simp only [schemaLibraries] at decoded
    split at decoded
    · cases decoded
    · cases decoded
      decide

def shapeDefinitions : List (String × EvaluatorDefinition) :=
  [("shape", { name := "shape", type := .jsonSchema })]

/-- A case whose schema names a type that JSON Schema does not have. -/
def misconfiguredCase : GoldenCase where
  key := "greeting"
  inputs := []
  expected := .obj [("type", .str "definitely-not-a-json-schema-type")]
  evaluators := ["shape"]

theorem shapeDefinitions_defines : Defines shapeDefinitions misconfiguredCase := by
  intro name named
  obtain rfl := List.mem_singleton.mp named
  exact ⟨_, rfl, by decide⟩

end RegressionDetection.Evaluators
