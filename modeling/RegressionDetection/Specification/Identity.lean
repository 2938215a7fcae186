import RegressionDetection.Foundation.JsonText
import RegressionDetection.Specification.Loader

/-! What the canonical hashes of a specification identify. A dumped model determines
its fields, whether or not the None-valued ones are dropped. -/

namespace RegressionDetection.Specification

open Foundation Foundation.Json

section Dumped

variable {fields others : List (String × Json)}

theorem sorted_eq_null {value : Json} : sorted value = .null ↔ value = .null := by
  cases value <;> simp [sorted]

/-- The members a dump keeps, each with its keys in order. -/
private theorem sortedFields_kept (fields : List (String × Json)) :
    sortedFields (fields.filter (fun field => decide (field.2 ≠ .null))) =
      (sortedFields fields).filter (fun field => decide (field.2 ≠ .null)) := by
  rw [sortedFields_eq, sortedFields_eq, List.filter_map]
  refine congrArg (List.map _) (List.filter_congr fun field _ => ?_)
  simp [sorted_eq_null]

/-- Dropping the None-valued members of two dumps with the same names loses nothing. -/
private theorem kept_perm_iff (names : fields.map Prod.fst = others.map Prod.fst)
    (distinct : (fields.map Prod.fst).Nodup) :
    (fields.filter (fun field => decide (field.2 ≠ .null))).Perm
      (others.filter (fun field => decide (field.2 ≠ .null))) ↔ fields = others := by
  refine ⟨fun perm => fields_eq_of_subset names distinct ?_, fun same => same ▸ List.Perm.refl _⟩
  intro field member
  by_cases empty : field.2 = .null
  · have named : field.1 ∈ fields.map Prod.fst := List.mem_map_of_mem member
    obtain ⟨other, listed, name⟩ := List.mem_map.mp (names ▸ named)
    by_cases missing : other.2 = .null
    · rwa [← Prod.ext name (missing.trans empty.symm)]
    · have kept : other ∈ others.filter (fun field => decide (field.2 ≠ .null)) := by
        simp [listed, missing]
      have back := (List.mem_filter.mp (perm.symm.subset kept)).1
      have same := List.inj_on_of_nodup_map distinct back member name
      exact absurd (same ▸ empty) missing
  · have kept : field ∈ fields.filter (fun field => decide (field.2 ≠ .null)) := by
      simp [member, empty]
    exact (List.mem_filter.mp (perm.subset kept)).1

/-- A dumped model determines its fields up to the order of keys inside them. -/
theorem sorted_dumpModel_iff (excludeNone : Bool)
    (names : fields.map Prod.fst = others.map Prod.fst) (distinct : (fields.map Prod.fst).Nodup) :
    sorted (dumpModel excludeNone fields) = sorted (dumpModel excludeNone others) ↔
      sortedFields fields = sortedFields others := by
  have sortedNames : (sortedFields fields).map Prod.fst = (sortedFields others).map Prod.fst := by
    rw [sortedFields_keys, sortedFields_keys, names]
  have sortedDistinct : ((sortedFields fields).map Prod.fst).Nodup := by
    rwa [sortedFields_keys]
  cases excludeNone with
  | false =>
    simp only [dumpModel, Bool.false_eq_true, ↓reduceIte, sorted, obj.injEq]
    rw [insertionSort_fields_iff sortedDistinct]
    exact ⟨fun perm => fields_eq_of_subset sortedNames sortedDistinct perm.subset,
      fun same => same ▸ List.Perm.refl _⟩
  | true =>
    simp only [dumpModel, ↓reduceIte, sorted, obj.injEq, sortedFields_kept]
    have keptDistinct : (((sortedFields fields).filter
        (fun field => decide (field.2 ≠ .null))).map Prod.fst).Nodup :=
      sortedDistinct.sublist (List.filter_sublist.map _)
    rw [insertionSort_fields_iff keptDistinct, kept_perm_iff sortedNames sortedDistinct]

/-- A list of dumps determines what each of its dumps does. -/
theorem sorted_arr_iff {α β : Type*} {dump : α → Json} {normal : α → β}
    (each : ∀ a b, sorted (dump a) = sorted (dump b) ↔ normal a = normal b) (first second : List α) :
    sorted (.arr (first.map dump)) = sorted (.arr (second.map dump)) ↔
      first.map normal = second.map normal := by
  simp only [sorted, arr.injEq, sortedItems_eq, List.map_map]
  induction first generalizing second with
  | nil => cases second <;> simp
  | cons a first ih =>
    cases second with
    | nil => simp
    | cons b second => simp [each, ih]

theorem dumpStrings_injective {first second : List String}
    (same : sorted (dumpStrings first) = sorted (dumpStrings second)) : first = second := by
  have plain (a b : String) : sorted (.str a) = sorted (.str b) ↔ id a = id b := by
    simp [sorted]
  simpa using (sorted_arr_iff plain first second).mp same

theorem dumpFloat?_injective {first second : Option ℚ}
    (same : sorted (dumpFloat? first) = sorted (dumpFloat? second)) : first = second := by
  cases first <;> cases second <;> simp_all [dumpFloat?, sorted]

theorem dumpInt?_injective {first second : Option Nat}
    (same : sorted (dumpInt? first) = sorted (dumpInt? second)) : first = second := by
  cases first <;> cases second <;> simp_all [dumpInt?, sorted]

end Dumped

section Models

/-- A dump of the type determines its value, with or without the None-valued fields. -/
def Determines {α : Type*} (dump : Bool → α → Json) : Prop :=
  ∀ excludeNone, Function.Injective (fun value => sorted (dump excludeNone value))

/-- Dumps of a type's models under fixed names determine it when their values do. -/
theorem Determines.of_fields {α : Type*} {dump : Bool → α → Json}
    {members : Bool → α → List (String × Json)}
    (dumped : ∀ excludeNone value, dump excludeNone value = dumpModel excludeNone (members excludeNone value))
    (names : ∀ excludeNone first second,
      (members excludeNone first).map Prod.fst = (members excludeNone second).map Prod.fst)
    (distinct : ∀ excludeNone value, ((members excludeNone value).map Prod.fst).Nodup)
    (values : ∀ excludeNone first second,
      sortedFields (members excludeNone first) = sortedFields (members excludeNone second) →
        first = second) : Determines dump := by
  intro excludeNone first second same
  simp only [dumped] at same
  exact values excludeNone first second
    ((sorted_dumpModel_iff excludeNone (names _ _ _) (distinct _ _)).mp same)

/-- A list of models is determined by its dump. -/
theorem Determines.list {α : Type*} {dump : Bool → α → Json} (each : Determines dump)
    (excludeNone : Bool) {first second : List α}
    (same : sorted (.arr (first.map (dump excludeNone))) = sorted (.arr (second.map (dump excludeNone)))) :
    first = second := by
  have one (a b : α) : sorted (dump excludeNone a) = sorted (dump excludeNone b) ↔ id a = id b :=
    (each excludeNone).eq_iff
  simpa using (sorted_arr_iff one first second).mp same

/-- An optional model is determined by its dump, `None` being dumped as null. -/
theorem Determines.option {α : Type*} {dump : Bool → α → Json} (each : Determines dump)
    (excludeNone : Bool) (filled : ∀ value, dump excludeNone value ≠ .null) {first second : Option α}
    (same : sorted ((first.map (dump excludeNone)).getD .null) =
      sorted ((second.map (dump excludeNone)).getD .null)) : first = second := by
  cases first with
  | none =>
    cases second with
    | none => rfl
    | some value => exact absurd (sorted_eq_null.mp same.symm) (filled value)
  | some value =>
    cases second with
    | none => exact absurd (sorted_eq_null.mp same) (filled value)
    | some other => exact congrArg some (each excludeNone same)

theorem VersionedTargetRef.modelDump_determines : Determines VersionedTargetRef.modelDump := by
  refine Determines.of_fields (fun _ _ => rfl) (fun _ _ _ => rfl) (fun _ _ => by simp) ?_
  intro excludeNone first second same
  obtain ⟨kind, targetId, version, text, _, _⟩ := first
  obtain ⟨kind', targetId', version', text', _, _⟩ := second
  simp only [sortedFields, sorted, List.cons.injEq, Prod.mk.injEq, true_and, str.injEq, and_true] at same
  obtain ⟨sameKind, rfl, rfl, rfl⟩ := same
  cases kind <;> cases kind' <;> simp_all [TargetKind.value]

theorem PromptMessage.modelDump_determines : Determines PromptMessage.modelDump := by
  refine Determines.of_fields (fun _ _ => rfl) (fun _ _ _ => rfl) (fun _ _ => by simp) ?_
  intro excludeNone first second same
  obtain ⟨role, content⟩ := first
  obtain ⟨role', content'⟩ := second
  simp only [sortedFields, sorted, List.cons.injEq, Prod.mk.injEq, true_and, str.injEq, and_true] at same
  obtain ⟨sameRole, rfl⟩ := same
  cases role <;> cases role' <;> simp_all [MessageRole.value]

theorem PromptDefinition.modelDump_determines : Determines PromptDefinition.modelDump := by
  refine Determines.of_fields (fun _ _ => rfl) (fun _ _ _ => rfl) (fun _ _ => by simp) ?_
  intro excludeNone first second same
  obtain ⟨target, messages, declared⟩ := first
  obtain ⟨target', messages', declared'⟩ := second
  simp only [sortedFields, List.cons.injEq, Prod.mk.injEq, true_and, and_true] at same
  obtain ⟨sameTarget, sameMessages, sameDeclared⟩ := same
  rw [VersionedTargetRef.modelDump_determines excludeNone sameTarget,
    PromptMessage.modelDump_determines.list excludeNone sameMessages,
    dumpStrings_injective sameDeclared]

theorem ModelDefinition.modelDump_determines : Determines ModelDefinition.modelDump := by
  refine Determines.of_fields (fun _ _ => rfl) (fun _ _ _ => rfl) (fun _ _ => by simp) ?_
  intro excludeNone first second same
  obtain ⟨target, modelId, temperature, tokens, timeout⟩ := first
  obtain ⟨target', modelId', temperature', tokens', timeout'⟩ := second
  simp only [sortedFields, sorted, List.cons.injEq, Prod.mk.injEq, true_and, and_true, str.injEq,
    float.injEq, int.injEq, Int.natCast_inj] at same
  obtain ⟨sameTarget, rfl, rfl, rfl, rfl⟩ := same
  rw [VersionedTargetRef.modelDump_determines excludeNone sameTarget]

theorem AgentDefinition.modelDump_determines : Determines AgentDefinition.modelDump := by
  refine Determines.of_fields (fun _ _ => rfl) (fun _ _ _ => rfl) (fun _ _ => by simp) ?_
  intro excludeNone first second same
  obtain ⟨target, name, description⟩ := first
  obtain ⟨target', name', description'⟩ := second
  simp only [sortedFields, sorted, List.cons.injEq, Prod.mk.injEq, true_and, and_true, str.injEq] at same
  obtain ⟨sameTarget, rfl, sameDescription⟩ := same
  rw [VersionedTargetRef.modelDump_determines excludeNone sameTarget]
  cases description <;> cases description' <;> simp_all [sorted]

theorem EvaluatorDefinition.modelDump_determines : Determines EvaluatorDefinition.modelDump := by
  refine Determines.of_fields (fun _ _ => rfl) (fun _ _ _ => rfl) (fun _ _ => by simp) ?_
  intro excludeNone first second same
  obtain ⟨name, type, required⟩ := first
  obtain ⟨name', type', required'⟩ := second
  simp only [sortedFields, sorted, List.cons.injEq, Prod.mk.injEq, true_and, and_true, str.injEq,
    bool.injEq] at same
  obtain ⟨rfl, sameType, rfl⟩ := same
  cases type <;> cases type' <;> simp_all [EvaluatorType.value]

theorem RegressionPolicy.modelDump_determines : Determines RegressionPolicy.modelDump := by
  refine Determines.of_fields (fun _ _ => rfl) (fun _ _ _ => rfl) (fun _ _ => by simp) ?_
  intro excludeNone first second same
  obtain ⟨passRate, drop, errorRate, critical, latency, cost⟩ := first
  obtain ⟨passRate', drop', errorRate', critical', latency', cost'⟩ := second
  simp only [sortedFields, List.cons.injEq, Prod.mk.injEq, true_and, and_true] at same
  obtain ⟨samePassRate, sameDrop, sameErrorRate, sameCritical, sameLatency, sameCost⟩ := same
  simp only [sorted, float.injEq, bool.injEq] at samePassRate sameDrop sameErrorRate sameCritical
  rw [samePassRate, sameDrop, sameErrorRate, sameCritical, dumpFloat?_injective sameLatency,
    dumpFloat?_injective sameCost]

theorem ExecutionLimits.modelDump_determines : Determines ExecutionLimits.modelDump := by
  refine Determines.of_fields (fun _ _ => rfl) (fun _ _ _ => rfl) (fun _ _ => by simp) ?_
  intro excludeNone first second same
  obtain ⟨cases, tokens, concurrency, estimated, total, perCase⟩ := first
  obtain ⟨cases', tokens', concurrency', estimated', total', perCase'⟩ := second
  simp only [sortedFields, List.cons.injEq, Prod.mk.injEq, true_and, and_true] at same
  obtain ⟨sameCases, sameTokens, sameConcurrency, sameEstimated, sameTotal, samePerCase⟩ := same
  simp only [sorted, int.injEq, Int.natCast_inj] at sameConcurrency
  rw [dumpInt?_injective sameCases, dumpInt?_injective sameTokens, sameConcurrency,
    dumpFloat?_injective sameEstimated, dumpFloat?_injective sameTotal,
    dumpFloat?_injective samePerCase]

end Models

section Documents

/-- The case with the keys of its dictionaries in order. -/
def GoldenCase.normal (case : GoldenCase) : GoldenCase :=
  { case with
    inputs := (sortedFields case.inputs).insertionSort (fun a b => a.1 ≤ b.1)
    expected := sorted case.expected }

/-- The document with the keys of its dictionaries in order. -/
def EvaluationSpecificationV1.normal (specification : EvaluationSpecificationV1) :
    EvaluationSpecificationV1 :=
  { specification with
    cases := specification.cases.map GoldenCase.normal
    metadata := (sortedFields specification.metadata).insertionSort (fun a b => a.1 ≤ b.1) }

theorem GoldenCase.sorted_modelDump_iff (excludeNone : Bool) (first second : GoldenCase) :
    sorted (first.modelDump excludeNone) = sorted (second.modelDump excludeNone) ↔
      first.normal = second.normal := by
  obtain ⟨key, inputs, expected, evaluators, critical, tags⟩ := first
  obtain ⟨key', inputs', expected', evaluators', critical', tags'⟩ := second
  unfold GoldenCase.modelDump
  rw [sorted_dumpModel_iff excludeNone (by rfl) (by simp)]
  simp only [sortedFields, GoldenCase.normal, List.cons.injEq, Prod.mk.injEq, true_and, and_true,
    GoldenCase.mk.injEq]
  constructor
  · rintro ⟨sameKey, sameInputs, sameExpected, sameEvaluators, sameCritical, sameTags⟩
    simp only [sorted, str.injEq, obj.injEq, bool.injEq] at sameKey sameInputs sameCritical
    exact ⟨sameKey, sameInputs, sameExpected, dumpStrings_injective sameEvaluators, sameCritical,
      dumpStrings_injective sameTags⟩
  · rintro ⟨rfl, sameInputs, sameExpected, rfl, rfl, rfl⟩
    simp [sorted, sameInputs, sameExpected]

theorem dumpCases_sorted_iff (excludeNone : Bool) (first second : List GoldenCase) :
    sorted (dumpCases excludeNone first) = sorted (dumpCases excludeNone second) ↔
      first.map GoldenCase.normal = second.map GoldenCase.normal :=
  sorted_arr_iff (GoldenCase.sorted_modelDump_iff excludeNone) first second

/-- The dumped document without its cases. -/
def EvaluationSpecificationV1.configurationDump (excludeNone : Bool)
    (specification : EvaluationSpecificationV1) : Json :=
  dumpModel excludeNone
    (specification.leadingMembers excludeNone ++ specification.trailingMembers excludeNone)

variable {s t : EvaluationSpecificationV1}

/-- The document outside its cases determines every other field. -/
theorem configurationDump_sorted_iff (excludeNone : Bool) :
    sorted (s.configurationDump excludeNone) = sorted (t.configurationDump excludeNone) ↔
      { s.normal with cases := [] } = { t.normal with cases := [] } := by
  obtain ⟨suite, prompt, model, agent, evaluators, cases, policy, limits, metadata⟩ := s
  obtain ⟨suite', prompt', model', agent', evaluators', cases', policy', limits', metadata'⟩ := t
  unfold EvaluationSpecificationV1.configurationDump
  rw [sorted_dumpModel_iff excludeNone (by rfl)
    (by simp [EvaluationSpecificationV1.leadingMembers, EvaluationSpecificationV1.trailingMembers])]
  simp only [EvaluationSpecificationV1.leadingMembers, EvaluationSpecificationV1.trailingMembers,
    List.cons_append, List.nil_append, sortedFields, EvaluationSpecificationV1.normal,
    List.cons.injEq, Prod.mk.injEq, true_and, and_true, EvaluationSpecificationV1.mk.injEq]
  constructor
  · rintro ⟨sameSuite, samePrompt, sameModel, sameAgent, sameEvaluators, samePolicy, sameLimits,
      sameMetadata⟩
    simp only [sorted, str.injEq, obj.injEq] at sameSuite sameMetadata
    have filled (agent : AgentDefinition) : agent.modelDump excludeNone ≠ .null := by
      simp [AgentDefinition.modelDump, dumpModel]
    exact ⟨sameSuite, PromptDefinition.modelDump_determines excludeNone samePrompt,
      ModelDefinition.modelDump_determines excludeNone sameModel,
      AgentDefinition.modelDump_determines.option excludeNone filled sameAgent,
      EvaluatorDefinition.modelDump_determines.list excludeNone sameEvaluators,
      RegressionPolicy.modelDump_determines excludeNone samePolicy,
      ExecutionLimits.modelDump_determines excludeNone sameLimits, sameMetadata⟩
  · rintro ⟨rfl, rfl, rfl, rfl, rfl, rfl, rfl, sameMetadata⟩
    simp [sorted, sameMetadata]

/-- The whole document determines its cases and everything outside them. -/
theorem modelDump_sorted_iff (excludeNone : Bool) :
    sorted (s.modelDump excludeNone) = sorted (t.modelDump excludeNone) ↔
      sorted (s.configurationDump excludeNone) = sorted (t.configurationDump excludeNone) ∧
      sorted (dumpCases excludeNone s.cases) = sorted (dumpCases excludeNone t.cases) := by
  unfold EvaluationSpecificationV1.modelDump EvaluationSpecificationV1.configurationDump
  rw [sorted_dumpModel_iff excludeNone (by rfl)
    (by simp [EvaluationSpecificationV1.leadingMembers, EvaluationSpecificationV1.trailingMembers]),
    sorted_dumpModel_iff excludeNone (by rfl)
    (by simp [EvaluationSpecificationV1.leadingMembers, EvaluationSpecificationV1.trailingMembers])]
  simp only [EvaluationSpecificationV1.leadingMembers, EvaluationSpecificationV1.trailingMembers,
    List.cons_append, List.nil_append, sortedFields, List.cons.injEq, Prod.mk.injEq, true_and,
    and_true]
  tauto

end Documents

section Identity

/-- Cases equal as frozen models are compared: their dictionaries up to the order of keys. -/
structure GoldenCase.Agrees (case other : GoldenCase) : Prop where
  key : case.key = other.key
  inputs : alike (.obj case.inputs) (.obj other.inputs) = true
  expected : alike case.expected other.expected = true
  evaluators : case.evaluators = other.evaluators
  critical : case.critical = other.critical
  tags : case.tags = other.tags

/-- Documents that agree on every field other than `cases`. -/
structure AgreeOutsideCases (s t : EvaluationSpecificationV1) : Prop where
  suite : s.suite = t.suite
  prompt : s.prompt = t.prompt
  model : s.model = t.model
  agent : s.agent = t.agent
  evaluators : s.evaluators = t.evaluators
  policy : s.policy = t.policy
  limits : s.limits = t.limits
  metadata : alike (.obj s.metadata) (.obj t.metadata) = true

/-- Every value a distinct dump keeps is distinct, and so is every value it drops. -/
theorem distinct_of_dumpModel {excludeNone : Bool} {fields : List (String × Json)}
    (whole : (dumpModel excludeNone fields).distinct = true) :
    ∀ field ∈ fields, field.2.distinct = true := by
  intro field member
  cases excludeNone with
  | false =>
    simp only [dumpModel, Bool.false_eq_true, ↓reduceIte, distinct, Bool.and_eq_true] at whole
    exact distinctFields_iff.mp whole.2 field member
  | true =>
    simp only [dumpModel, ↓reduceIte, distinct, Bool.and_eq_true] at whole
    by_cases empty : field.2 = .null
    · simp [empty, distinct]
    · exact distinctFields_iff.mp whole.2 field (by simp [member, empty])

theorem GoldenCase.agrees_iff_normal {case other : GoldenCase} {excludeNone : Bool}
    (own : (case.modelDump excludeNone).distinct = true)
    (others : (other.modelDump excludeNone).distinct = true) :
    case.Agrees other ↔ case.normal = other.normal := by
  have inputs : alike (.obj case.inputs) (.obj other.inputs) = true ↔
      sorted (.obj case.inputs) = sorted (.obj other.inputs) :=
    alike_iff_sorted (distinct_of_dumpModel own ("inputs", _) (by simp))
      (distinct_of_dumpModel others ("inputs", _) (by simp))
  have expected : alike case.expected other.expected = true ↔
      sorted case.expected = sorted other.expected :=
    alike_iff_sorted (distinct_of_dumpModel own ("expected", _) (by simp))
      (distinct_of_dumpModel others ("expected", _) (by simp))
  simp only [sorted, obj.injEq] at inputs
  simp only [GoldenCase.normal, GoldenCase.mk.injEq]
  constructor
  · intro agrees
    exact ⟨agrees.key, inputs.mp agrees.inputs, expected.mp agrees.expected, agrees.evaluators,
      agrees.critical, agrees.tags⟩
  · rintro ⟨key, sameInputs, sameExpected, evaluators, critical, tags⟩
    exact ⟨key, inputs.mpr sameInputs, expected.mpr sameExpected, evaluators, critical, tags⟩

theorem cases_agree_iff_normal {first second : List GoldenCase} {excludeNone : Bool}
    (own : (dumpCases excludeNone first).distinct = true)
    (others : (dumpCases excludeNone second).distinct = true) :
    List.Forall₂ GoldenCase.Agrees first second ↔
      first.map GoldenCase.normal = second.map GoldenCase.normal := by
  simp only [dumpCases, distinct, distinctItems_iff, List.forall_mem_map] at own others
  induction first generalizing second with
  | nil => cases second <;> simp
  | cons case first ih =>
    cases second with
    | nil => simp
    | cons other second =>
      rw [List.forall_mem_cons] at own others
      simp only [List.forall₂_cons, List.map_cons, List.cons.injEq]
      rw [GoldenCase.agrees_iff_normal own.1 others.1, ih own.2 others.2]

theorem agreeOutsideCases_iff_normal {s t : EvaluationSpecificationV1} {excludeNone : Bool}
    (own : (s.configurationDump excludeNone).distinct = true)
    (others : (t.configurationDump excludeNone).distinct = true) :
    AgreeOutsideCases s t ↔ { s.normal with cases := [] } = { t.normal with cases := [] } := by
  have listed (document : EvaluationSpecificationV1) : ("metadata", .obj document.metadata) ∈
      document.leadingMembers excludeNone ++ document.trailingMembers excludeNone := by
    simp [EvaluationSpecificationV1.trailingMembers]
  have metadata : alike (.obj s.metadata) (.obj t.metadata) = true ↔
      sorted (.obj s.metadata) = sorted (.obj t.metadata) :=
    alike_iff_sorted (distinct_of_dumpModel own _ (listed s)) (distinct_of_dumpModel others _ (listed t))
  simp only [sorted, obj.injEq] at metadata
  simp only [EvaluationSpecificationV1.normal, EvaluationSpecificationV1.mk.injEq, true_and]
  constructor
  · intro agree
    exact ⟨agree.suite, agree.prompt, agree.model, agree.agent, agree.evaluators, agree.policy,
      agree.limits, metadata.mp agree.metadata⟩
  · rintro ⟨suite, prompt, model, agent, evaluators, policy, limits, same⟩
    exact ⟨suite, prompt, model, agent, evaluators, policy, limits, metadata.mpr same⟩

/-- What identification by hash takes for granted of some values: they are Python's
own (every key once in a dictionary, machine floats), their floats print readably, and
SHA-256 has no collision among their texts. -/
structure Identifiable (runtime : Runtime) (floats : Set ℚ) (values : Set Json) : Prop where
  distinct : ∀ value ∈ values, value.distinct = true
  machineFloats : ∀ value ∈ values, floatsIn floats value
  readable : ReadableFloats runtime.floatRepr floats
  collisionFree : Set.InjOn runtime.sha256 (Set.image (canonicalJson runtime) values)

variable {runtime : Runtime} {floats : Set ℚ} {values : Set Json}

/-- A hash is that of one normal form. -/
theorem Identifiable.contentHash_iff_sorted (identifiable : Identifiable runtime floats values)
    {v w : Json} (first : v ∈ values) (second : w ∈ values) :
    contentHash runtime v = contentHash runtime w ↔ sorted v = sorted w := by
  rw [← dumps_eq_iff_sorted identifiable.readable (identifiable.machineFloats v first)
    (identifiable.machineFloats w second)]
  exact identifiable.collisionFree.eq_iff (Set.mem_image_of_mem _ first) (Set.mem_image_of_mem _ second)

/-- The two documents that are hashed for a specification are among the values. -/
def HashedWithin (values : Set Json) (specification : EvaluationSpecificationV1) : Prop :=
  specification.configurationDump true ∈ values ∧ dumpCases true specification.cases ∈ values

end Identity

section Sample

/-- A one-case document. -/
def sampleDocument (metadata : List (String × Json)) (expected : Json) : EvaluationSpecificationV1 where
  suite := "suite"
  prompt :=
    { target := { kind := .prompt, targetId := "prompt", version := "1", contentHash := .zero }
      messages := [{ role := .user, content := "Say ok" }] }
  model :=
    { target := { kind := .model, targetId := "model", version := "1", contentHash := .zero }
      modelId := "model" }
  evaluators := [{ name := "exact", type := .exactMatch }]
  cases := [{ key := "first", inputs := [], expected, evaluators := ["exact"] }]
  policy := {}
  metadata

def sampleFirst : EvaluationSpecificationV1 :=
  sampleDocument [("owner", .str "qa"), ("ticket", .int 7)] (.str "ok")

/-- The same configuration under another order of keys, with another expected answer. -/
def sampleSecond : EvaluationSpecificationV1 :=
  sampleDocument [("ticket", .int 7), ("owner", .str "qa")] (.str "no")

def sampleValues : List Json :=
  [sampleFirst.configurationDump true, sampleSecond.configurationDump true,
    dumpCases true sampleFirst.cases, dumpCases true sampleSecond.cases]

/-- The floats in the samples. -/
def sampleFloats : Set ℚ := {value | value ∈ [0, 1, 60]}

instance : DecidablePred (· ∈ sampleFloats) :=
  fun value => inferInstanceAs (Decidable (value ∈ [0, 1, 60]))

/-- `float.__repr__` of those floats. -/
def sampleRepr (value : ℚ) : String :=
  if value = 0 then "0.0" else if value = 1 then "1.0" else "60.0"

/-- A digest function given by the digests of some texts. -/
def digests (table : List (String × HexDigest)) (text : String) : HexDigest :=
  match table.find? (fun entry => decide (entry.1 = text)) with
  | some entry => entry.2
  | none => .zero

theorem digests_head (text : String) (digest : HexDigest) (rest : List (String × HexDigest)) :
    digests ((text, digest) :: rest) text = digest := by
  simp [digests]

theorem digests_tail {first text : String} (apart : first ≠ text) (digest : HexDigest)
    (rest : List (String × HexDigest)) : digests ((first, digest) :: rest) text = digests rest text := by
  simp [digests, apart]

theorem digests_injOn {table : List (String × HexDigest)} (distinct : (table.map Prod.snd).Nodup) :
    Set.InjOn (digests table) {text | text ∈ table.map Prod.fst} := by
  have found {text : String} (listed : text ∈ table.map Prod.fst) : ∃ entry ∈ table,
      entry.1 = text ∧ digests table text = entry.2 := by
    obtain ⟨entry, member, named⟩ := List.mem_map.mp listed
    cases search : table.find? (fun entry => decide (entry.1 = text)) with
    | none => exact absurd named (by simpa using List.find?_eq_none.mp search entry member)
    | some first =>
      refine ⟨first, List.mem_of_find?_eq_some search, by simpa using List.find?_some search, ?_⟩
      simp [digests, search]
  intro first one second two same
  obtain ⟨entry, member, named, digest⟩ := found one
  obtain ⟨other, listed, called, value⟩ := found two
  have alone := List.inj_on_of_nodup_map distinct member listed
    (digest.symm.trans (same.trans value))
  rw [← named, ← called, alone]

/-- The SHA-256 digests of the samples' canonical texts. -/
def sampleDigests : List (String × HexDigest) :=
  [(dumps sampleRepr (sampleFirst.configurationDump true),
      { text := "d708b31c40a6987521e5a48b8df4a8d441bef72ebb88617eea6122a7803a0f57"
        sized := by decide +kernel
        lowerHex := by decide +kernel }),
    (dumps sampleRepr (dumpCases true sampleFirst.cases),
      { text := "076ee81d6916541e0baa35dc99fb2387dfaecf4436c127e9104de17085469e8b"
        sized := by decide +kernel
        lowerHex := by decide +kernel }),
    (dumps sampleRepr (dumpCases true sampleSecond.cases),
      { text := "acea1216dabdc940b62b2d67e787718262878ed13b41ad669cec850e4ccf4e41"
        sized := by decide +kernel
        lowerHex := by decide +kernel })]

theorem sampleRepr_short (value : ℚ) : (sampleRepr value).length ≤ 24 := by
  unfold sampleRepr
  repeat' split
  all_goals decide

def sampleRuntime : Runtime :=
  { Runtime.ascii with
    floatRepr := sampleRepr
    floatRepr_short := sampleRepr_short
    sha256 := digests sampleDigests }

theorem sampleRepr_readable : ReadableFloats sampleRepr sampleFloats where
  injective := by
    have apart : ∀ a ∈ [(0 : ℚ), 1, 60], ∀ b ∈ [(0 : ℚ), 1, 60],
        sampleRepr a = sampleRepr b → a = b := by decide +kernel
    exact fun a first b second => apart a first b second
  numeric := by
    have each : [(0 : ℚ), 1, 60].all (fun value => (sampleRepr value).toList.all isNumeric) = true := by
      decide +kernel
    exact fun value listed => List.all_eq_true.mp (List.all_eq_true.mp each value listed)
  fractional := by
    have each : [(0 : ℚ), 1, 60].all (fun value => (sampleRepr value).toList.any isFractional) = true := by
      decide +kernel
    exact fun value listed => List.any_eq_true.mp (List.all_eq_true.mp each value listed)

theorem samples_machineFloats : ∀ value ∈ sampleValues, floatsIn sampleFloats value := by
  decide +kernel

theorem sample_configurations :
    sorted (sampleSecond.configurationDump true) = sorted (sampleFirst.configurationDump true) := by
  decide +kernel

theorem samples_identifiable :
    Identifiable sampleRuntime sampleFloats {value | value ∈ sampleValues} where
  distinct := by
    show ∀ value ∈ sampleValues, value.distinct = true
    decide +kernel
  machineFloats := samples_machineFloats
  readable := sampleRepr_readable
  collisionFree := by
    refine (digests_injOn (by decide +kernel)).mono ?_
    rintro _ ⟨value, listed, rfl⟩
    have text := dumps_eq_of_sorted sampleRepr sample_configurations
    simp only [sampleValues, Set.mem_ofPred_eq, List.mem_cons, List.not_mem_nil, or_false] at listed
    rcases listed with rfl | rfl | rfl | rfl <;>
      simp [canonicalJson, sampleRuntime, sampleDigests, text]

theorem sampleFirst_valid : sampleFirst.Valid := by decide +kernel

theorem sampleSecond_valid : sampleSecond.Valid := by decide +kernel

theorem sampleFirst_within : HashedWithin {value | value ∈ sampleValues} sampleFirst := by
  simp [HashedWithin, sampleValues]

theorem sampleSecond_within : HashedWithin {value | value ∈ sampleValues} sampleSecond := by
  simp [HashedWithin, sampleValues]

end Sample

end RegressionDetection.Specification
