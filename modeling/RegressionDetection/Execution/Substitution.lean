import RegressionDetection.Execution.Rendering

/-! `str.format_map` as the interpreter runs it, with attribute and item reads,
conversions and nested specifications, and what is left of it once the guard of
`_render_template` has passed: simultaneous substitution. -/

namespace RegressionDetection.Execution

open Foundation Foundation.FormatString Specification

/-- A read of an attribute or an item of an object, by its text in the template. -/
inductive Access where
  | attribute (name : List Char)
  | item (key : List Char)
deriving DecidableEq

/-- A computation with the reads it makes. -/
structure Reading (α : Type) where
  outcome : Except PyError α
  reads : List Access

namespace Reading

instance : Monad Reading where
  pure value := ⟨.ok value, []⟩
  bind first next :=
    match first.outcome with
    | .error error => ⟨.error error, first.reads⟩
    | .ok value => ⟨(next value).outcome, first.reads ++ (next value).reads⟩

/-- A computation that reads nothing. -/
def plain (outcome : Except PyError α) : Reading α := ⟨outcome, []⟩

def access (read : Access) (outcome : Except PyError α) : Reading α := ⟨outcome, [read]⟩

theorem plain_ok_bind (value : α) (next : α → Reading β) :
    (plain (.ok value) >>= next) = next value := rfl

theorem plain_bind (first : Except PyError α) (next : α → Except PyError β) :
    (plain first >>= fun value => plain (next value)) = plain (first >>= next) := by
  cases first <;> rfl

end Reading

/-- The objects that formatting can reach from the input texts. A text formats to itself
under the empty specification; everything else is arbitrary. -/
structure Objects (Obj : Type) where
  ofText : String → Obj
  readAttribute : Obj → List Char → Except PyError Obj
  /-- The key is read as an index if it is a number. -/
  readItem : Obj → List Char → FieldIndex → Except PyError Obj
  /-- `do_conversion`. -/
  convert : Char → Obj → Except PyError Obj
  format : Obj → String → Except PyError String
  format_text : ∀ text, format (ofText text) "" = .ok text

section Interpreter

variable {Obj : Type} (runtime : Runtime) (objects : Objects Obj) (values : List (String × String))

def raiseValueError (text : String) : Reading α := .plain (.error (.valueError text))

/-- A character that ends the first part of a field name, or an attribute in it. -/
def continuesName (c : Char) : Bool := c != '.' && c != '['

theorem dropWhile_length (p : Char → Bool) (text : List Char) :
    (text.dropWhile p).length ≤ text.length :=
  (List.dropWhile_sublist p).length_le

/-- The loop over `FieldNameIterator_next`. -/
def readPath (object : Obj) : List Char → Reading Obj
  | [] => pure object
  | '.' :: rest =>
    let name := rest.takeWhile continuesName
    if name = [] then raiseValueError "Empty attribute in format string"
    else do
      let found ← Reading.access (.attribute name) (objects.readAttribute object name)
      readPath found (rest.dropWhile continuesName)
  | '[' :: rest =>
    let key := rest.takeWhile (fun c => c != ']')
    match _remaining : rest.dropWhile (fun c => c != ']') with
    | [] => raiseValueError "Missing ']' in format string"
    | _ :: after =>
      if fieldIndex runtime key = .tooManyDigits then
        raiseValueError "Too many decimal digits in format string"
      else if key = [] then raiseValueError "Empty attribute in format string"
      else do
        let found ← Reading.access (.item key) (objects.readItem object key (fieldIndex runtime key))
        readPath found after
  | _ :: _ => raiseValueError "Only '.' or '[' may follow ']' in format field specifier"
termination_by rest => rest.length
decreasing_by
  · have shorter := dropWhile_length continuesName rest
    simp only [List.length_cons]
    omega
  · have shorter := dropWhile_length (fun c => c != ']') rest
    rw [_remaining] at shorter
    simp only [List.length_cons] at shorter ⊢
    omega

/-- `get_field_object`, for `format_map`: there are no positional arguments. -/
def fieldObject (name : List Char) : Reading Obj :=
  let first := name.takeWhile continuesName
  match fieldIndex runtime first with
  | .tooManyDigits => raiseValueError "Too many decimal digits in format string"
  | .position => raiseValueError "Format string contains positional fields"
  | .key =>
    if first = [] then raiseValueError "Format string contains positional fields"
    else do
      let value ← Reading.plain (getItem values (String.ofList first))
      readPath runtime objects (objects.ofText value) (name.dropWhile continuesName)

/-- `output_markup`; `expand` builds a specification that has fields of its own. -/
def outputMarkup (expand : List Char → Reading (List Char)) (field : Replacement) :
    Reading (List Char) := do
  let object ← fieldObject runtime objects values field.name
  let converted ← match field.conversion with
    | none => pure object
    | some conversion => Reading.plain (objects.convert conversion object)
  let spec ← if '{' ∈ field.spec then expand field.spec else pure field.spec
  let text ← Reading.plain (objects.format converted (String.ofList spec))
  return text.toList

/-- `do_markup`. -/
def doMarkup (expand : List Char → Reading (List Char)) : Markup → Reading (List Char)
  | .done => pure []
  | .bad message => raiseValueError message
  | .chunk head rest =>
    match head.field with
    | none => do
      let tail ← doMarkup expand rest
      return head.literal ++ tail
    | some field => do
      let value ← outputMarkup runtime objects values expand field
      let tail ← doMarkup expand rest
      return head.literal ++ value ++ tail

/-- `build_string` with the recursion that is left. -/
def buildString : Nat → List Char → Reading (List Char)
  | 0, _ => raiseValueError "Max string recursion exceeded"
  | depth + 1, text => doMarkup runtime objects values (buildString depth) (markup text)

/-- `_render_template` on the interpreter's `format_map`, which nests specifications
at most once. -/
def interpretTemplate (template : String) (case : GoldenCase) : Reading String := do
  Reading.plain (checkFields runtime (markup template.toList))
  let rendered ← buildString runtime objects (templateValues runtime case) 2 template.toList
  return String.ofList rendered

end Interpreter

/-- The chunks of a template, in order. -/
def chunks : Markup → List Chunk
  | .done | .bad _ => []
  | .chunk head rest => head :: chunks rest

/-- A field that is nothing but a nonempty name. -/
structure SimpleField (field : Replacement) : Prop where
  named : field.name ≠ []
  undotted : ∀ c ∈ field.name, c ≠ '.' ∧ c ≠ '[' ∧ c ≠ ']'
  unformatted : field.spec = []
  unconverted : field.conversion = none

/-- `value` is the text of the case's input of that name. -/
def InputText (runtime : Runtime) (case : GoldenCase) (name : List Char) (value : String) : Prop :=
  ∃ input, lookup case.inputs (String.ofList name) = some input ∧ value = jsonText runtime input

/-- What a chunk contributes: its literal, then its field's input as it is. -/
def Contribution (runtime : Runtime) (case : GoldenCase) (chunk : Chunk) (text : List Char) : Prop :=
  match chunk.field with
  | none => text = chunk.literal
  | some field => ∃ value, InputText runtime case field.name value ∧
      text = chunk.literal ++ value.toList

/-- Plain simultaneous substitution: the template parses into literals and simple
fields, and the text is the literals with every field replaced by its input. -/
structure Substitutes (runtime : Runtime) (template : String) (case : GoldenCase) (text : String) :
    Prop where
  parses : (markup template.toList).failure = none
  simple : ∀ chunk ∈ chunks (markup template.toList), ∀ field ∈ chunk.field, SimpleField field
  declared : ∀ chunk ∈ chunks (markup template.toList), ∀ field ∈ chunk.field,
    String.ofList field.name ∈ case.inputs.map Prod.fst
  concatenated : ∃ pieces, text.toList = pieces.flatten ∧
    List.Forall₂ (Contribution runtime case) (chunks (markup template.toList)) pieces

section Guarded

variable {runtime : Runtime}

theorem fieldRefusal_eq_none {field : Replacement} :
    fieldRefusal runtime field = none ↔ SimpleField field := by
  unfold fieldRefusal
  constructor
  · intro accepted
    split at accepted
    · cases accepted
    · rename_i named
      split at accepted
      · cases accepted
      · rename_i plain
        simp only [not_or, List.any_eq_true, decide_eq_true_eq, not_exists, not_and] at named plain
        exact ⟨named.1, fun c member => named.2 c member, by simpa using plain.1,
          by simpa using plain.2⟩
  · rintro ⟨named, undotted, unformatted, unconverted⟩
    simpa [named, unformatted, unconverted] using undotted

/-- The guard passes exactly the templates that parse into simple fields. -/
theorem checkFields_eq_ok {fields : Markup} :
    checkFields runtime fields = .ok () ↔ fields.failure = none ∧
      ∀ chunk ∈ chunks fields, ∀ field ∈ chunk.field, SimpleField field := by
  induction fields with
  | done => simp [checkFields, Markup.failure, chunks]
  | bad message => simp [checkFields, Markup.failure]
  | chunk head rest ih =>
    cases placed : head.field with
    | none => simpa [checkFields, Markup.failure, chunks, placed] using ih
    | some field =>
      cases refused : fieldRefusal runtime field with
      | some text =>
        have complex : ¬ SimpleField field := fun simple => by
          rw [fieldRefusal_eq_none.mpr simple] at refused
          cases refused
        simp [checkFields, chunks, placed, refused, complex]
      | none =>
        have simple := fieldRefusal_eq_none.mp refused
        simpa [checkFields, Markup.failure, chunks, placed, refused, simple] using ih

theorem SimpleField.whole {field : Replacement} (simple : SimpleField field) :
    field.name.takeWhile continuesName = field.name ∧ field.name.dropWhile continuesName = [] := by
  have continues : ∀ c ∈ field.name, continuesName c = true := fun c member => by
    have clean := simple.undotted c member
    simp [continuesName, clean.1, clean.2.1]
  exact ⟨List.takeWhile_eq_self_iff.mpr continues, List.dropWhile_eq_nil_iff.mpr continues⟩

variable {Obj : Type} {objects : Objects Obj} {values : List (String × String)}
  {expand : List Char → Reading (List Char)}

theorem fieldObject_simple {field : Replacement} (simple : SimpleField field) :
    fieldObject runtime objects values field.name =
      Reading.plain (do return objects.ofText (← formatField runtime values field.name)) := by
  obtain ⟨whole, ended⟩ := simple.whole
  unfold fieldObject formatField
  rw [whole, ended]
  cases index : fieldIndex runtime field.name with
  | tooManyDigits => simp only [index]; rfl
  | position => simp only [index]; rfl
  | key =>
    simp only [index, if_neg simple.named, readPath]
    exact Reading.plain_bind (getItem values (String.ofList field.name)) fun value =>
      .ok (objects.ofText value)

/-- A simple field is replaced by its value, and nothing is read to do it. -/
theorem outputMarkup_simple {field : Replacement} (simple : SimpleField field) :
    outputMarkup runtime objects values expand field =
      Reading.plain (do return (← formatField runtime values field.name).toList) := by
  unfold outputMarkup
  rw [fieldObject_simple simple, simple.unconverted, simple.unformatted]
  cases formatField runtime values field.name with
  | error error => rfl
  | ok value =>
    have shown : objects.format (objects.ofText value) (String.ofList []) = .ok value :=
      objects.format_text value
    simp [Reading.plain, shown, bind, pure, Except.bind, Except.pure]

/-- Past the guard the interpreter does what `formatMap` says. -/
theorem doMarkup_guarded {fields : Markup} (passed : checkFields runtime fields = .ok ()) :
    doMarkup runtime objects values expand fields = Reading.plain (formatMap runtime values fields) := by
  obtain ⟨parses, simple⟩ := checkFields_eq_ok.mp passed
  clear passed
  induction fields with
  | done => rfl
  | bad message => cases parses
  | chunk head rest ih =>
    have tail := ih parses fun chunk member => simple chunk (List.mem_cons_of_mem head member)
    simp only [doMarkup, formatMap]
    cases placed : head.field with
    | none =>
      rw [tail]
      exact Reading.plain_bind (formatMap runtime values rest) fun text => .ok (head.literal ++ text)
    | some field =>
      simp only [outputMarkup_simple (simple head (List.mem_cons_self ..) field placed), tail]
      cases formatField runtime values field.name <;> cases formatMap runtime values rest <;> rfl

theorem interpretTemplate_eq (template : String) (case : GoldenCase) :
    interpretTemplate runtime objects template case =
      Reading.plain (renderTemplate runtime template case) := by
  unfold interpretTemplate renderTemplate
  cases passed : checkFields runtime (markup template.toList) with
  | error error => rfl
  | ok _ =>
    rw [Reading.plain_ok_bind, buildString, doMarkup_guarded passed]
    exact Reading.plain_bind (formatMap runtime (templateValues runtime case)
      (markup template.toList)) fun rendered => .ok (String.ofList rendered)

theorem formatField_eq_ok {case : GoldenCase} {name : List Char} {value : String} :
    formatField runtime (templateValues runtime case) name = .ok value ↔
      fieldIndex runtime name = .key ∧ InputText runtime case name value := by
  unfold formatField InputText templateValues
  cases fieldIndex runtime name with
  | tooManyDigits => simp
  | position => simp
  | key =>
    simp only [getItem_eq_ok, lookup_map, Option.map_eq_some_iff, true_and]
    exact ⟨fun ⟨input, found, shown⟩ => ⟨input, found, shown.symm⟩,
      fun ⟨input, found, shown⟩ => ⟨input, found, shown.symm⟩⟩

/-- Every chunk contributes its piece, whatever the pieces around it hold. -/
theorem formatMap_pieces {case : GoldenCase} {fields : Markup} {text : List Char}
    (formatted : formatMap runtime (templateValues runtime case) fields = .ok text) :
    ∃ pieces, text = pieces.flatten ∧
      List.Forall₂ (Contribution runtime case) (chunks fields) pieces := by
  induction fields generalizing text with
  | done =>
    cases formatted
    exact ⟨[], rfl, .nil⟩
  | bad message => cases formatted
  | chunk head rest ih =>
    simp only [formatMap] at formatted
    cases placed : head.field with
    | none =>
      rw [placed] at formatted
      obtain ⟨tail, later, joined⟩ := bind_eq_ok.mp formatted
      obtain ⟨pieces, rfl, contributed⟩ := ih later
      have own : Contribution runtime case head head.literal := by simp [Contribution, placed]
      cases joined
      exact ⟨head.literal :: pieces, rfl, .cons own contributed⟩
    | some field =>
      rw [placed] at formatted
      obtain ⟨value, found, following⟩ := bind_eq_ok.mp formatted
      obtain ⟨tail, later, joined⟩ := bind_eq_ok.mp following
      obtain ⟨pieces, rfl, contributed⟩ := ih later
      have own : Contribution runtime case head (head.literal ++ value.toList) := by
        simp only [Contribution, placed]
        exact ⟨value, (formatField_eq_ok.mp found).2, rfl⟩
      cases joined
      exact ⟨(head.literal ++ value.toList) :: pieces, rfl, .cons own contributed⟩

/-- A chunk that contributes names an input of the case. -/
theorem declared_of_contributions {case : GoldenCase} {found : List Chunk}
    {pieces : List (List Char)} (contributed : List.Forall₂ (Contribution runtime case) found pieces) :
    ∀ chunk ∈ found, ∀ field ∈ chunk.field,
      String.ofList field.name ∈ case.inputs.map Prod.fst := by
  induction contributed with
  | nil => simp
  | cons own _ ih =>
    intro chunk member field placed
    rcases List.mem_cons.mp member with rfl | later
    · unfold Contribution at own
      rw [placed] at own
      obtain ⟨value, ⟨input, found, _⟩, _⟩ := own
      exact List.mem_map.mpr ⟨_, mem_of_lookup found, rfl⟩
    · exact ih chunk later field placed

/-- Whatever the objects behind the inputs would answer, a rendered prompt is the
plain substitution of the inputs' texts, and none of them was asked. -/
theorem interpretTemplate_substitutes {template : String} {case : GoldenCase} {text : String}
    (rendered : (interpretTemplate runtime objects template case).outcome = .ok text) :
    Substitutes runtime template case text ∧
      (interpretTemplate runtime objects template case).reads = [] := by
  rw [interpretTemplate_eq] at rendered ⊢
  refine ⟨?_, rfl⟩
  obtain ⟨_, passed, formatting⟩ := bind_eq_ok.mp rendered
  obtain ⟨characters, formatted, same⟩ := bind_eq_ok.mp formatting
  obtain ⟨parses, simple⟩ := checkFields_eq_ok.mp passed
  obtain ⟨pieces, joined, contributed⟩ := formatMap_pieces formatted
  cases same
  refine ⟨parses, simple, declared_of_contributions contributed, pieces, ?_, contributed⟩
  rw [String.toList_ofList, joined]

end Guarded

/-- Inputs whose attributes and items all answer. -/
def Objects.answering : Objects String where
  ofText text := text
  readAttribute _ name := .ok (String.ofList name)
  readItem _ key _ := .ok (String.ofList key)
  convert _ text := .ok text
  format text spec := .ok (text ++ spec)
  format_text text := by rw [String.append_empty]

/-- An input that is itself a template. -/
def bracedCase : GoldenCase where
  key := "first"
  inputs := [("name", .str "\x7bother.secret\x7d"), ("other", .arr [.int 1, .str "\x7bname\x7d"])]
  evaluators := []

def bracedTemplate : String := "Say \x7b\x7b\x7bname\x7d: \x7bother\x7d"

def bracedText : String := "Say \x7b\x7bother.secret\x7d: [1,\"\x7bname\x7d\"]"

theorem interpretTemplate_substitutes_braces :
    (interpretTemplate Runtime.ascii Objects.answering bracedTemplate bracedCase).outcome =
      .ok bracedText ∧
    Substitutes Runtime.ascii bracedTemplate bracedCase bracedText ∧
    (interpretTemplate Runtime.ascii Objects.answering bracedTemplate bracedCase).reads = [] := by
  have rendered : (interpretTemplate Runtime.ascii Objects.answering bracedTemplate
      bracedCase).outcome = .ok bracedText := by
    rw [interpretTemplate_eq]
    decide +kernel
  exact ⟨rendered, interpretTemplate_substitutes rendered⟩

end RegressionDetection.Execution
