import RegressionDetection.Reporting.HtmlReport

/-! Untrusted text cannot shape the HTML report: reports of one shape give documents with
the same characters that open, close or alter a tag. -/

namespace RegressionDetection.Reporting

open Foundation Foundation.Json Specification Providers Evaluators Policy

section Shapes

/-- An optional text that is present and not empty. -/
def filled (text : Option String) : Bool := text.any (fun text => text ≠ "")

structure SameEvaluation (first second : ReportEvaluation) : Prop where
  evaluatorType : first.evaluatorType = second.evaluatorType
  status : first.status = second.status
  errorCode : filled first.errorCode = filled second.errorCode

structure SameCase (first second : ReportCase) : Prop where
  critical : first.critical = second.critical
  outcome : first.outcome = second.outcome
  providerStatus : first.providerStatus = second.providerStatus
  resolvedModel : filled first.resolvedModel = filled second.resolvedModel
  outputExcerpt : filled first.outputExcerpt = filled second.outputExcerpt
  providerError : first.providerError.isSome = second.providerError.isSome
  evaluations : List.Forall₂ SameEvaluation first.evaluations second.evaluations

structure SameRule (first second : RuleDecision) : Prop where
  status : first.status = second.status
  unit : first.unit = second.unit
  observed : first.observed = .null ↔ second.observed = .null
  threshold : first.threshold = .null ↔ second.threshold = .null

/-- Two reports of one shape: the same flags and enumerations, as many rules, cases and
evaluations, the same optional fields. Texts and numbers are free. -/
structure SameReport (first second : JsonReport) : Prop where
  gateOutcome : first.gateOutcome = second.gateOutcome
  agent : first.provenance.agent.isSome = second.provenance.agent.isSome
  rules : List.Forall₂ SameRule first.rules second.rules
  cases : List.Forall₂ SameCase first.cases second.cases

structure SameBaseline (first second : BaselineComparison) : Prop where
  configurationMatch : first.configurationMatch = second.configurationMatch
  datasetMatch : first.datasetMatch = second.datasetMatch
  missingInCandidate : first.missingInCandidate.length = second.missingInCandidate.length
  missingInBaseline : first.missingInBaseline.length = second.missingInBaseline.length
  passRateBaseline : first.passRateBaseline.isSome = second.passRateBaseline.isSome
  passRateCandidate : first.passRateCandidate.isSome = second.passRateCandidate.isSome
  passRateDrop : first.passRateDrop.isSome = second.passRateDrop.isSome
  costIncreasePct : first.costIncreasePct.isSome = second.costIncreasePct.isSome

end Shapes

section Fragments

@[simp] theorem marks_lines (texts : List String) : marks (lines texts) = texts.flatMap marks :=
  marks_intercalate (by decide) texts

@[simp] theorem marks_h (text : String) : marks (h text) = [] := marks_htmlEscape text

@[simp] theorem marks_dash : marks "—" = [] := by decide

@[simp] theorem marks_percentSign : marks "%" = [] := by decide

@[simp] theorem marks_orDash (text : Option String) : marks (orDash text) = [] := by
  unfold orDash
  split
  · exact marks_dash
  · split
    · exact marks_dash
    · exact marks_h _

@[simp] theorem marks_formatDelta (value : Option ℚ) (unit : String) :
    marks (formatDelta value unit) = [] := by
  unfold formatDelta
  split
  · exact marks_dash
  · split
    · simp
    · split <;> simp

end Fragments

section Sections

theorem marks_provenanceSection {first second : JsonReport}
    (agent : first.provenance.agent.isSome = second.provenance.agent.isSome) :
    marks (provenanceSection first) = marks (provenanceSection second) := by
  cases ours : first.provenance.agent <;> cases theirs : second.provenance.agent
  · simp [provenanceSection, ours, theirs]
  · simp [ours, theirs] at agent
  · simp [ours, theirs] at agent
  · simp [provenanceSection, ours, theirs]

theorem marks_metricsSection (first second : JsonReport) :
    marks (metricsSection first) = marks (metricsSection second) := by
  simp [metricsSection]

/-- A rule's number shows nothing but a number, a flag or a dash. -/
theorem marks_ruleFieldText {runtime : Runtime}
    (numeric : ∀ value, ∀ c ∈ (runtime.floatRepr value).toList, isNumeric c = true)
    (unit : RuleUnit) (field : Json) : marks (ruleFieldText runtime unit field) = [] := by
  have shown : marks (ruleValueText runtime field) = [] := by
    cases field with
    | bool flag => exact marks_flagText flag
    | int n => exact marks_int n
    | float value => exact marks_of_alphabet (fun _ => not_isMark_of_isNumeric) (numeric value)
    | null | str _ | arr _ | obj _ => rfl
  unfold ruleFieldText
  split
  · exact marks_dash
  · cases unit <;> simp [shown]

variable {runtime : Runtime}

theorem marks_ruleRow
    (numeric : ∀ value, ∀ c ∈ (runtime.floatRepr value).toList, isNumeric c = true)
    {first second : RuleDecision} (same : SameRule first second) :
    marks (ruleRow runtime first) = marks (ruleRow runtime second) := by
  unfold ruleRow observedStr thresholdStr
  rw [same.status]
  simp only [marks_append, marks_h, marks_ruleFieldText numeric]

theorem marks_rulesSection
    (numeric : ∀ value, ∀ c ∈ (runtime.floatRepr value).toList, isNumeric c = true)
    {first second : List RuleDecision} (same : List.Forall₂ SameRule first second) :
    marks (rulesSection runtime first) = marks (rulesSection runtime second) := by
  have rows := marks_intercalate_map marks_empty same fun _ _ => marks_ruleRow numeric
  simp only [rulesSection, marks_lines, List.flatMap_cons, rows]

/-- Missing keys show as escaped texts in one cell. -/
theorem marks_missingRow (label : String) {first second : List String}
    (same : first.length = second.length) :
    (missingRow label first).flatMap marks = (missingRow label second).flatMap marks := by
  have joined (keys : List String) : marks (", ".intercalate (keys.map h)) = [] := by
    rw [marks_intercalate (by decide)]
    simp
  cases first with
  | nil => rw [List.eq_nil_of_length_eq_zero same.symm]
  | cons key keys =>
    cases second with
    | nil => simp at same
    | cons other others => simp only [missingRow, List.flatMap_cons, marks_append, joined]

theorem marks_baselineRows {first second : BaselineComparison} (same : SameBaseline first second) :
    (baselineRows first).flatMap marks = (baselineRows second).flatMap marks := by
  have candidate := marks_missingRow "Missing in candidate" same.missingInCandidate
  have reference := marks_missingRow "Missing in baseline" same.missingInBaseline
  have cost := same.costIncreasePct
  cases ours : first.costIncreasePct <;> cases theirs : second.costIncreasePct
  · simp [baselineRows, candidate, reference, same.configurationMatch, same.datasetMatch, ours, theirs]
  · simp [ours, theirs] at cost
  · simp [ours, theirs] at cost
  · simp [baselineRows, candidate, reference, same.configurationMatch, same.datasetMatch, ours, theirs]

theorem marks_baselineSection {first second : Option BaselineComparison}
    (same : Option.Rel SameBaseline first second) :
    marks (baselineSection first) = marks (baselineSection second) := by
  cases same with
  | none => rfl
  | some same =>
    have rows := marks_baselineRows same
    simp only [baselineSection, marks_lines, List.flatMap_cons, marks_intercalate marks_empty, rows]

theorem marks_caseEvalRow {first second : ReportEvaluation} (same : SameEvaluation first second) :
    marks (caseEvalRow first) = marks (caseEvalRow second) := by
  unfold caseEvalRow
  rw [same.status]
  simp only [marks_append, marks_h]

theorem marks_errorInfo {first second : Option ProviderError} (same : first.isSome = second.isSome) :
    marks (errorInfo first) = marks (errorInfo second) := by
  cases first with
  | none =>
    cases second with
    | none => rfl
    | some error => simp at same
  | some error =>
    cases second with
    | none => simp at same
    | some other =>
      unfold errorInfo
      simp only [marks_append, marks_h]

theorem marks_caseSection {first second : ReportCase} (same : SameCase first second) :
    marks (caseSection first) = marks (caseSection second) := by
  have rows : marks (lines (first.evaluations.map caseEvalRow)) =
      marks (lines (second.evaluations.map caseEvalRow)) :=
    marks_intercalate_map (by decide) same.evaluations fun _ _ => marks_caseEvalRow
  have failure := marks_errorInfo same.providerError
  simp only [caseSection, marks_lines (_ :: _), List.flatMap_cons, marks_append, rows, failure, same.critical,
    same.outcome, same.providerStatus, marks_h, marks_orDash, marks_nat, marks_fixedText]

end Sections

section Report

/-- Untrusted text cannot open, close or alter a tag or an attribute: reports of one shape
give documents with the same characters of markup. -/
theorem buildHtmlReport_marks {runtime : Runtime}
    (numeric : ∀ value, ∀ c ∈ (runtime.floatRepr value).toList, isNumeric c = true)
    (version : String) {first second : JsonReport} (same : SameReport first second)
    {ours theirs : Option BaselineComparison} (compared : Option.Rel SameBaseline ours theirs) :
    marks (buildHtmlReport runtime version first ours) =
      marks (buildHtmlReport runtime version second theirs) := by
  have provenance := marks_provenanceSection same.agent
  have metrics := marks_metricsSection first second
  have rules := marks_rulesSection numeric same.rules
  have baseline := marks_baselineSection compared
  have cases : marks (lines (first.cases.map caseSection)) =
      marks (lines (second.cases.map caseSection)) :=
    marks_intercalate_map (by decide) same.cases fun _ _ => marks_caseSection
  unfold buildHtmlReport
  rw [same.gateOutcome]
  simp only [marks_lines (_ :: _), List.flatMap_cons, marks_append, marks_h, provenance, metrics, rules,
    baseline, cases]

/-- A target whose texts are the given one. -/
def sampleTarget (kind : TargetKind) (text : String) : VersionedTargetRef where
  kind := kind
  targetId := text
  version := text
  contentHash := .zero

def sampleCase (text : String) (bounded : LengthWithin 1 100 text) : ReportCase where
  caseKey := text
  ordinal := 0
  critical := true
  outcome := .failed
  providerStatus := .error
  resolvedModel := some text
  latencyMs := 1
  outputExcerpt := some text
  providerError := some {
    category := .unknown
    code := text
    message := text
    retryable := false
    codeBounded := bounded
    messageBounded := ⟨bounded.1, bounded.2.trans (by decide)⟩ }
  evaluations := [{
    evaluatorName := text
    evaluatorType := .contains
    status := .failed
    explanation := text
    errorCode := none }]
  latencyBounded := by decide +kernel

def sampleMetrics : RunMetrics where
  totalCases := 1
  passedCases := 0
  failedCases := 1
  errorCases := 0
  passRate := 0
  errorRate := 0
  criticalFailedCases := []
  criticalErrorCases := []
  totalLatencyMs := 1
  inputTokens := 0
  outputTokens := 0
  totalTokens := 0
  casesWithUnknownUsage := 1
  nonempty := by decide
  passRatio := by decide +kernel
  errorRatio := by decide +kernel
  latencyBounded := by decide +kernel
  counts := by decide
  tokens := by decide

/-- A report of one case whose every text is the given one. -/
def sampleReport (text : String) (bounded : LengthWithin 1 100 text) : JsonReport where
  generatorVersion := text
  gateOutcome := .fail
  provenance := {
    suite := text
    configurationHash := .zero
    datasetHash := .zero
    prompt := sampleTarget .prompt text
    model := sampleTarget .model text
    agent := some (sampleTarget .agent text) }
  metrics := sampleMetrics
  rules := [{
    ruleId := text
    status := .violated
    observed := .float 0
    threshold := .float 1
    unit := .ratio
    explanation := text }]
  cases := [sampleCase text bounded]
  metadata := []

theorem sampleDrop_isRatio : ∀ drop ∈ some (1 : ℚ), IsRatio drop := by decide +kernel

theorem sampleIncrease_bounded : ∀ increase ∈ some (0 : ℚ), 0 ≤ increase := by decide +kernel

def sampleComparison (text : String) : BaselineComparison where
  configurationMatch := true
  datasetMatch := false
  totalCasesCandidate := 1
  totalCasesBaseline := 1
  matchingCaseKeys := []
  missingInCandidate := [text]
  missingInBaseline := [text]
  passRateBaseline := some 1
  passRateCandidate := some 0
  passRateDrop := some 1
  latencyMsBaseline := 1
  latencyMsCandidate := 1
  latencyIncreasePct := 0
  costBaseline := none
  costCandidate := none
  costIncreasePct := some 0
  dropRatio := sampleDrop_isRatio
  latencyBounded := sampleIncrease_bounded 0 rfl
  costBounded := sampleIncrease_bounded

theorem sampleReport_same {first second : String} (bounded : LengthWithin 1 100 first)
    (within : LengthWithin 1 100 second) :
    SameReport (sampleReport first bounded) (sampleReport second within) where
  gateOutcome := rfl
  agent := rfl
  rules := .cons ⟨rfl, rfl, by simp, by simp⟩ .nil
  cases := by
    have present {text : String} (bounded : LengthWithin 1 100 text) : filled (some text) = true := by
      have nonempty : text ≠ "" := by
        rintro rfl
        exact absurd bounded (by decide)
      simpa [filled] using nonempty
    have same : filled (some first) = filled (some second) :=
      (present bounded).trans (present within).symm
    exact .cons ⟨rfl, rfl, rfl, same, same, rfl, .cons ⟨rfl, rfl, rfl⟩ .nil⟩ .nil

theorem sampleReports_marks :
    marks (buildHtmlReport .ascii "0.1.0" (sampleReport "faq" (by decide)) (some (sampleComparison "faq"))) =
      marks (buildHtmlReport .ascii "0.1.0" (sampleReport "</td><script>alert(\"x\")</script>" (by decide))
        (some (sampleComparison "<img src='x'>"))) := by
  refine buildHtmlReport_marks ?_ "0.1.0" (sampleReport_same _ _) (.some ?_)
  · intro value
    simp only [Runtime.ascii]
    split <;> exact List.all_eq_true.mp (by decide)
  · exact ⟨rfl, rfl, rfl, rfl, rfl, rfl, rfl, rfl⟩

end Report

end RegressionDetection.Reporting
