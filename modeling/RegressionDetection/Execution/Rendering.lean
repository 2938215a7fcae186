import RegressionDetection.Evaluators.Builtin
import RegressionDetection.Execution.Limits
import RegressionDetection.Foundation.FormatString
import RegressionDetection.Providers.Contracts
import RegressionDetection.Specification.Loader

/-! Rendering of prompt templates into one inference request, and the ways it
can fail. -/

namespace RegressionDetection.Execution

open Foundation Foundation.FormatString Specification Providers Evaluators

/-- What the runner relies on outside the package. `contentError` is the text of
pydantic's error for a message content out of bounds, which quotes a bounded
part of the content. -/
structure Environment where
  runtime : Runtime
  libraries : Libraries
  contentError : String → String
  contentErrorBounded : ∀ content, LengthWithin 1 1000 (contentError content)

section Template

variable (runtime : Runtime)

/-- `_json_text`. -/
def jsonText : Json → String
  | .str text => text
  | value => value.dumps runtime.floatRepr

/-- `{key: _json_text(value) for key, value in case.inputs.items()}`. -/
def templateValues (case : GoldenCase) : List (String × String) :=
  case.inputs.map (fun input => (input.1, jsonText runtime input.2))

/-- The texts of the two refusals of `_render_template`. -/
def unsupportedExpression (name : List Char) : String :=
  "Unsupported prompt field expression: " ++ pyRepr runtime.printable (String.ofList name)

def unsupportedFormatting (name : List Char) : String :=
  "Prompt field formatting is unsupported: " ++ pyRepr runtime.printable (String.ofList name)

/-- Why the guard loop refuses a field, if it does. -/
def fieldRefusal (field : Replacement) : Option String :=
  if field.name = [] ∨ field.name.any (fun c => c = '.' ∨ c = '[' ∨ c = ']') = true then
    some (unsupportedExpression runtime field.name)
  else if field.spec ≠ [] ∨ field.conversion.isSome = true then
    some (unsupportedFormatting runtime field.name)
  else none

/-- The guard loop of `_render_template` over `_formatter.parse(template)`. -/
def checkFields : Markup → Except PyError Unit
  | .done => .ok ()
  | .bad message => .error (.valueError message)
  | .chunk head rest =>
    match head.field.bind (fieldRefusal runtime) with
    | some refusal => .error (.valueError refusal)
    | none => checkFields rest

/-- How `str.format_map` reads a field name: as an argument position or a key. -/
inductive FieldIndex where
  | key
  | position
  | tooManyDigits
deriving DecidableEq

/-- `PY_SSIZE_T_MAX` of a 64-bit interpreter. -/
def maxIndex : Nat := 2 ^ 63 - 1

/-- The digit loop of `get_integer`; overflow is noticed before a later character is read. -/
def readIndex : Nat → List Char → FieldIndex
  | _, [] => .position
  | accumulator, c :: rest =>
    match runtime.decimal c with
    | none => .key
    | some digit =>
      if accumulator > (maxIndex - digit) / 10 then .tooManyDigits
      else readIndex (accumulator * 10 + digit) rest

def fieldIndex (name : List Char) : FieldIndex :=
  if name = [] then .key else readIndex runtime 0 name

/-- The value of one field without attributes or subscripts. -/
def formatField (values : List (String × String)) (name : List Char) : Except PyError String :=
  match fieldIndex runtime name with
  | .tooManyDigits => .error (.valueError "Too many decimal digits in format string")
  | .position => .error (.valueError "Format string contains positional fields")
  | .key => getItem values (String.ofList name)

/-- `template.format_map(values)`. The guard has passed, so no field carries a
conversion or a specification and each value is inserted as it is. -/
def formatMap (values : List (String × String)) : Markup → Except PyError (List Char)
  | .done => .ok []
  | .bad message => .error (.valueError message)
  | .chunk head rest =>
    match head.field with
    | none => do
      let tail ← formatMap values rest
      return head.literal ++ tail
    | some field => do
      let value ← formatField runtime values field.name
      let tail ← formatMap values rest
      return head.literal ++ value.toList ++ tail

def renderTemplate (template : String) (case : GoldenCase) : Except PyError String := do
  checkFields runtime (markup template.toList)
  let rendered ← formatMap runtime (templateValues runtime case) (markup template.toList)
  return String.ofList rendered

end Template

section Request

variable (environment : Environment)

/-- `InferenceMessage(role=message.role, content=_render_template(...))`. -/
def buildMessage (case : GoldenCase) (message : PromptMessage) : Except PyError InferenceMessage := do
  let content ← renderTemplate environment.runtime message.content case
  if bounded : LengthWithin 1 100000 content then
    return { role := message.role, content, bounded }
  else throw (.validationError (environment.contentError content))

def buildRequest (specification : EvaluationSpecificationV1) (case : GoldenCase) :
    Except PyError InferenceRequest := do
  let messages ← specification.prompt.messages.mapM (buildMessage environment case)
  InferenceRequest.new case.key specification.model.modelId messages
    specification.model.temperature (effectiveOutputTokens specification)
    specification.model.timeoutSeconds

/-- `_request_hash`. -/
def requestHash (request : InferenceRequest) : HexDigest :=
  contentHash environment.runtime (.obj [
    ("request_id", .str request.requestId), ("model_id", .str request.modelId),
    ("messages", .arr (request.messages.map (fun message =>
      .obj [("role", .str message.role.value), ("content", .str message.content)]))),
    ("temperature", .float request.temperature),
    ("max_output_tokens", .int request.maxOutputTokens),
    ("timeout_seconds", .float request.timeoutSeconds)])

end Request

section Failures

variable {runtime : Runtime}

/-- The first field the guard refuses, unless the text stops parsing before it. -/
def refusal (runtime : Runtime) : Markup → Option String
  | .done | .bad _ => none
  | .chunk head rest =>
    match head.field.bind (fieldRefusal runtime) with
    | some text => some text
    | none => refusal runtime rest

/-- The names of the fields, in order. -/
def fieldNames : Markup → List (List Char)
  | .done | .bad _ => []
  | .chunk head rest => (head.field.map Replacement.name).toList ++ fieldNames rest

/-- `format_map` finds a value for the field. -/
def Supplied (runtime : Runtime) (case : GoldenCase) (name : List Char) : Prop :=
  fieldIndex runtime name = .key ∧ String.ofList name ∈ case.inputs.map Prod.fst
deriving Decidable

/-- A refusal whose quoted field name makes its text longer than a provider error may be. -/
def RefusedAtLength (runtime : Runtime) (template : String) : Prop :=
  ∃ text, refusal runtime (markup template.toList) = some text ∧ 1000 < text.length

/-- The template parses, the guard passes every field, and the first field
without a value is a key: one that the case does not declare. -/
def UndeclaredField (runtime : Runtime) (case : GoldenCase) (template : String) : Prop :=
  (markup template.toList).failure = none ∧ refusal runtime (markup template.toList) = none ∧
    ∃ name, (fieldNames (markup template.toList)).find?
      (fun name => !decide (Supplied runtime case name)) = some name ∧
      fieldIndex runtime name = .key

/-- A prompt message that becomes a request message for the case. -/
def Delivered (environment : Environment) (case : GoldenCase) (message : PromptMessage) : Prop :=
  ∃ content, renderTemplate environment.runtime message.content case = .ok content ∧
    LengthWithin 1 100000 content

/-- The first message the case cannot deliver fails in one of the two ways the
runner does not turn into a result. -/
def Unreportable (environment : Environment) (specification : EvaluationSpecificationV1)
    (case : GoldenCase) : Prop :=
  ∃ before message after, specification.prompt.messages = before ++ message :: after ∧
    (∀ earlier ∈ before, Delivered environment case earlier) ∧
    (RefusedAtLength environment.runtime message.content ∨
      UndeclaredField environment.runtime case message.content)

/-- `except ValueError` catches the error and `ProviderError` accepts its text. -/
def Reported (runtime : Runtime) (error : PyError) : Prop :=
  error.isValueError = true ∧ LengthWithin 1 1000 (error.text runtime)
deriving Decidable

theorem checkFields_eq (fields : Markup) :
    checkFields runtime fields =
      match refusal runtime fields, fields.failure with
      | some text, _ => .error (.valueError text)
      | none, some message => .error (.valueError message)
      | none, none => .ok () := by
  induction fields with
  | done => rfl
  | bad message => rfl
  | chunk head rest ih =>
    cases refused : head.field.bind (fieldRefusal runtime) with
    | some text => simp [checkFields, refusal, refused]
    | none => simp [checkFields, refusal, refused, Markup.failure, ih]

theorem templateValues_keys (case : GoldenCase) :
    (templateValues runtime case).map Prod.fst = case.inputs.map Prod.fst := by
  simp [templateValues, Function.comp_def]

theorem formatField_of_supplied {case : GoldenCase} {name : List Char}
    (supplied : Supplied runtime case name) :
    ∃ value, formatField runtime (templateValues runtime case) name = .ok value := by
  unfold formatField
  rw [supplied.1]
  exact getItem_returns (by rw [templateValues_keys]; exact supplied.2)

/-- A field without a value raises a KeyError if it is read as a key, and a
short ValueError otherwise. -/
theorem formatField_of_unsupplied {case : GoldenCase} {name : List Char}
    (unsupplied : ¬ Supplied runtime case name) :
    ∃ error, formatField runtime (templateValues runtime case) name = .error error ∧
      (Reported runtime error ↔ fieldIndex runtime name ≠ .key) := by
  unfold formatField
  cases index : fieldIndex runtime name with
  | key =>
    have missing : String.ofList name ∉ (templateValues runtime case).map Prod.fst := by
      rw [templateValues_keys]
      exact fun present => unsupplied ⟨index, present⟩
    refine ⟨_, getItem_eq_error.mpr ⟨missing, rfl⟩, fun reported => ?_, fun other => absurd rfl other⟩
    exact absurd reported.1 Bool.false_ne_true
  | position =>
    have short : LengthWithin 1 1000 "Format string contains positional fields" := by decide
    exact ⟨_, rfl, fun _ => by simp, fun _ => ⟨rfl, short⟩⟩
  | tooManyDigits =>
    have short : LengthWithin 1 1000 "Too many decimal digits in format string" := by decide
    exact ⟨_, rfl, fun _ => by simp, fun _ => ⟨rfl, short⟩⟩

/-- Past the guard, rendering raises what the first unsupplied field raises. -/
theorem formatMap_error {case : GoldenCase} {fields : Markup} (parses : fields.failure = none)
    {error : PyError} :
    formatMap runtime (templateValues runtime case) fields = .error error ↔
      ∃ name, (fieldNames fields).find? (fun name => !decide (Supplied runtime case name)) =
        some name ∧ formatField runtime (templateValues runtime case) name = .error error := by
  induction fields with
  | done => simp [formatMap, fieldNames]
  | bad message => cases parses
  | chunk head rest ih =>
    have restParses : rest.failure = none := parses
    cases placed : head.field with
    | none =>
      have names : fieldNames (.chunk head rest) = fieldNames rest := by simp [fieldNames, placed]
      rw [names, ← ih restParses]
      simp only [formatMap, placed]
      cases formatMap runtime (templateValues runtime case) rest <;>
        simp [bind, Except.bind, pure, Except.pure]
    | some field =>
      have names : fieldNames (.chunk head rest) = field.name :: fieldNames rest := by
        simp [fieldNames, placed]
      rw [names]
      simp only [formatMap, placed]
      by_cases supplied : Supplied runtime case field.name
      · obtain ⟨value, found⟩ := formatField_of_supplied supplied
        rw [List.find?_cons_of_neg (by simpa using supplied), ← ih restParses, found]
        cases formatMap runtime (templateValues runtime case) rest <;>
          simp [bind, Except.bind, pure, Except.pure]
      · obtain ⟨raised, failed, _⟩ := formatField_of_unsupplied supplied
        rw [List.find?_cons_of_pos (by simpa using supplied)]
        simp [failed, bind, Except.bind]

theorem parseErrors_bounded : ∀ message ∈ parseErrors, LengthWithin 1 1000 message := by
  decide +kernel

theorem fieldRefusal_nonempty {field : Replacement} {text : String}
    (refused : fieldRefusal runtime field = some text) : 1 ≤ text.length := by
  have quoted : 1 ≤ (pyRepr runtime.printable (String.ofList field.name)).length :=
    Nat.le_trans (Nat.le_add_left 1 _) (length_pyRepr runtime.printable (String.ofList field.name))
  unfold fieldRefusal at refused
  split at refused
  · rw [← Option.some.inj refused]
    unfold unsupportedExpression
    rw [String.length_append]
    exact Nat.le_trans quoted (Nat.le_add_left _ _)
  · split at refused
    · rw [← Option.some.inj refused]
      unfold unsupportedFormatting
      rw [String.length_append]
      exact Nat.le_trans quoted (Nat.le_add_left _ _)
    · cases refused

theorem refusal_nonempty {fields : Markup} {text : String}
    (refused : refusal runtime fields = some text) : 1 ≤ text.length := by
  induction fields with
  | done => cases refused
  | bad message => cases refused
  | chunk head rest ih =>
    unfold refusal at refused
    cases first : head.field.bind (fieldRefusal runtime) with
    | none =>
      rw [first] at refused
      exact ih refused
    | some own =>
      obtain rfl : own = text := by simpa [first] using refused
      obtain ⟨field, _, refuses⟩ := Option.bind_eq_some_iff.mp first
      exact fieldRefusal_nonempty refuses

/-- The failures of a template that no result reports: a refusal that is too
long, and a field the case does not declare. -/
theorem renderTemplate_unreported {case : GoldenCase} {template : String} :
    (∃ error, renderTemplate runtime template case = .error error ∧ ¬ Reported runtime error) ↔
      RefusedAtLength runtime template ∨ UndeclaredField runtime case template := by
  unfold renderTemplate RefusedAtLength UndeclaredField
  rw [checkFields_eq]
  cases refused : refusal runtime (markup template.toList) with
  | some text =>
    have reported : Reported runtime (.valueError text) ↔ text.length ≤ 1000 :=
      ⟨fun known => known.2.2, fun short => ⟨rfl, refusal_nonempty refused, short⟩⟩
    constructor
    · rintro ⟨error, raised, unreported⟩
      cases raised
      exact .inl ⟨text, rfl, Nat.lt_of_not_le (mt reported.mpr unreported)⟩
    · rintro (⟨same, known, long⟩ | ⟨_, impossible, _⟩)
      · cases known
        exact ⟨_, rfl, fun short => Nat.not_le_of_lt long (reported.mp short)⟩
      · cases impossible
  | none =>
    cases failed : (markup template.toList).failure with
    | some message =>
      have reported : Reported runtime (.valueError message) :=
        ⟨rfl, parseErrors_bounded message (markup_failure failed)⟩
      constructor
      · rintro ⟨error, raised, unreported⟩
        cases raised
        exact absurd reported unreported
      · rintro (⟨_, impossible, _⟩ | ⟨impossible, _⟩) <;> cases impossible
    | none =>
      constructor
      · rintro ⟨error, raised, unreported⟩
        rcases bind_eq_error.mp raised with impossible | ⟨_, _, later⟩
        · cases impossible
        · rcases bind_eq_error.mp later with formatting | ⟨_, _, impossible⟩
          · obtain ⟨name, first, field⟩ := (formatMap_error failed).mp formatting
            have unsupplied : ¬ Supplied runtime case name := by
              simpa using List.find?_some first
            obtain ⟨other, again, reported⟩ := formatField_of_unsupplied unsupplied
            cases field.symm.trans again
            exact .inr ⟨rfl, rfl, name, first, not_not.mp (mt reported.mpr unreported)⟩
          · cases impossible
      · rintro (⟨_, impossible, _⟩ | ⟨_, _, name, first, key⟩)
        · cases impossible
        · have unsupplied : ¬ Supplied runtime case name := by
            simpa using List.find?_some first
          obtain ⟨error, field, reported⟩ := formatField_of_unsupplied unsupplied
          have formatting := (formatMap_error failed).mpr ⟨name, first, field⟩
          refine ⟨error, ?_, fun known => reported.mp known key⟩
          exact bind_eq_error.mpr (.inr ⟨(), rfl, bind_eq_error.mpr (.inl formatting)⟩)

theorem buildMessage_returns {environment : Environment} {case : GoldenCase}
    {message : PromptMessage} :
    (∃ built, buildMessage environment case message = .ok built) ↔
      Delivered environment case message := by
  unfold buildMessage Delivered
  cases renderTemplate environment.runtime message.content case with
  | error error => simp [bind, Except.bind]
  | ok content =>
    by_cases bounded : LengthWithin 1 100000 content <;>
      simp [bind, Except.bind, bounded, pure, Except.pure, throw, throwThe, MonadExceptOf.throw]

theorem buildMessage_unreported {environment : Environment} {case : GoldenCase}
    {message : PromptMessage} :
    (∃ error, buildMessage environment case message = .error error ∧
        ¬ Reported environment.runtime error) ↔
      RefusedAtLength environment.runtime message.content ∨
        UndeclaredField environment.runtime case message.content := by
  rw [← renderTemplate_unreported]
  unfold buildMessage
  cases renderTemplate environment.runtime message.content case with
  | error error => simp [bind, Except.bind]
  | ok content =>
    have accepted := environment.contentErrorBounded content
    by_cases bounded : LengthWithin 1 100000 content <;>
      simp [bind, Except.bind, bounded, pure, Except.pure, throw, throwThe, MonadExceptOf.throw,
        Reported, PyError.isValueError, accepted]

/-- The fields of a validated specification fit a request. -/
theorem newRequest_returns {specification : EvaluationSpecificationV1}
    (valid : specification.Valid) {case : GoldenCase} (member : case ∈ specification.cases)
    {messages : List InferenceMessage}
    (counted : messages.length = specification.prompt.messages.length) :
    ∃ request, InferenceRequest.new case.key specification.model.modelId messages
      specification.model.temperature (effectiveOutputTokens specification)
      specification.model.timeoutSeconds = .ok request := by
  have tokens := effectiveOutputTokens_bounded valid
  obtain ⟨_, ⟨_, messageCount, _⟩, ⟨_, modelId, temperature, _, timeout, _⟩, _, _, _, _, cases, _⟩ :=
    valid
  have identifier := (cases case member).1.lengthWithin
  have keyed : LengthWithin 1 200 case.key := ⟨identifier.1, by have := identifier.2; omega⟩
  unfold InferenceRequest.new
  rw [dif_pos keyed, dif_pos modelId, dif_pos (counted ▸ messageCount), dif_pos temperature,
    dif_pos tokens, dif_pos timeout]
  exact ⟨_, rfl⟩

/-- A request fails exactly when a message does, with the first one's error. -/
theorem buildRequest_error {environment : Environment} {specification : EvaluationSpecificationV1}
    (valid : specification.Valid) {case : GoldenCase} (member : case ∈ specification.cases)
    {error : PyError} :
    buildRequest environment specification case = .error error ↔
      ∃ before message after, specification.prompt.messages = before ++ message :: after ∧
        (∀ earlier ∈ before, Delivered environment case earlier) ∧
        buildMessage environment case message = .error error := by
  unfold buildRequest
  rw [bind_eq_error]
  constructor
  · rintro (failed | ⟨messages, built, impossible⟩)
    · obtain ⟨before, message, after, results, same, mapped, raised⟩ := mapM_eq_error.mp failed
      refine ⟨before, message, after, same, ?_, raised⟩
      intro earlier early
      exact buildMessage_returns.mp (returns_of_mem_mapM mapped early)
    · obtain ⟨request, made⟩ := newRequest_returns valid member (mapM_eq_ok.mp built).length_eq.symm
      cases made.symm.trans impossible
  · rintro ⟨before, message, after, same, delivered, raised⟩
    obtain ⟨results, mapped⟩ := mapM_returns fun earlier early =>
      buildMessage_returns.mpr (delivered earlier early)
    exact .inl (mapM_eq_error.mpr ⟨before, message, after, results, same, mapped, raised⟩)

theorem buildRequest_unreported {environment : Environment}
    {specification : EvaluationSpecificationV1} (valid : specification.Valid) {case : GoldenCase}
    (member : case ∈ specification.cases) :
    (∃ error, buildRequest environment specification case = .error error ∧
        ¬ Reported environment.runtime error) ↔ Unreportable environment specification case := by
  constructor
  · rintro ⟨error, raised, unreported⟩
    obtain ⟨before, message, after, same, delivered, failed⟩ :=
      (buildRequest_error valid member).mp raised
    exact ⟨before, message, after, same, delivered,
      buildMessage_unreported.mp ⟨error, failed, unreported⟩⟩
  · rintro ⟨before, message, after, same, delivered, kind⟩
    obtain ⟨error, failed, unreported⟩ := buildMessage_unreported.mpr kind
    exact ⟨error, (buildRequest_error valid member).mpr
      ⟨before, message, after, same, delivered, failed⟩, unreported⟩

end Failures

end RegressionDetection.Execution
