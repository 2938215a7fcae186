import RegressionDetection.Execution.Report
import RegressionDetection.Policy.Verdict

/-! What an execution leaves as evidence: its results name the cases of the
specification in order, and a report is made of any nonempty run. -/

namespace RegressionDetection.Execution

open Foundation Specification Providers Evaluators Policy

section Results

variable {σ : Type} {environment : Environment} {provider : Provider σ}
  {specification : EvaluationSpecification}

/-- The result belongs to the specification: its case and its evaluators are declared. -/
structure Belongs (specification : EvaluationSpecification) (result : CaseExecutionResult) : Prop where
  case : result.caseKey ∈ specification.val.cases.map GoldenCase.key
  evaluators : ∀ evaluation ∈ result.evaluations,
    evaluation.evaluatorName ∈ specification.val.evaluators.map EvaluatorDefinition.name

/-- An answer leaves the results alone. -/
theorem answer_results {request : InferenceRequest} {loop later : LoopState σ}
    {result : InferenceResult}
    (answered : answer environment provider specification request loop = .ok (result, later)) :
    later.results = loop.results := by
  obtain ⟨other, after, same, kept⟩ :=
    answer_returns provider environment specification request loop
  cases answered.symm.trans same
  exact kept

/-- The result's evaluators are declared. -/
def EvaluatedBy (specification : EvaluationSpecification) (result : CaseExecutionResult) : Prop :=
  ∀ evaluation ∈ result.evaluations,
    evaluation.evaluatorName ∈ specification.val.evaluators.map EvaluatorDefinition.name

/-- A case that does not raise appends its one result. -/
theorem executeCase_ok {case : GoldenCase} {ordinal : Nat} {loop next : LoopState σ}
    (executed : executeCase environment provider specification ordinal case loop = .ok next) :
    ∃ result, next.results = loop.results ++ [result] ∧ result.caseKey = case.key ∧
      result.ordinal = ordinal ∧ EvaluatedBy specification result := by
  unfold executeCase at executed
  split at executed
  · split at executed
    · obtain ⟨refused, _, rest⟩ := bind_eq_ok.mp executed
      obtain ⟨evaluations, evaluated, made⟩ := bind_eq_ok.mp rest
      cases made
      exact ⟨_, rfl, rfl, rfl, evaluateCase_names evaluated⟩
    · cases executed
  · obtain ⟨⟨result, later⟩, answered, rest⟩ := bind_eq_ok.mp executed
    obtain ⟨evaluations, evaluated, made⟩ := bind_eq_ok.mp rest
    cases made
    rw [appendResult, answer_results answered]
    exact ⟨_, rfl, rfl, rfl, evaluateCase_names evaluated⟩

/-- The evaluators of each case return on the output it is answered with from here on. -/
def EvaluatorsReturnOn (environment : Environment) (provider : Provider σ)
    (specification : EvaluationSpecification) : List GoldenCase → LoopState σ → Prop
  | [], _ => True
  | case :: rest, loop => ∀ request result later,
      buildRequest environment specification.val case = .ok request →
      answer environment provider specification request loop = .ok (result, later) →
      (∃ evaluations, evaluateCase environment.libraries case result.output
        (evaluatorDefinitions specification.val) = .ok evaluations) ∧
      EvaluatorsReturnOn environment provider specification rest later

/-- The answers do not depend on the results already recorded. -/
theorem answer_appendResult (request : InferenceRequest) (loop : LoopState σ)
    (recorded : CaseExecutionResult) :
    answer environment provider specification request (appendResult loop recorded) =
      (answer environment provider specification request loop).map fun (result, later) =>
        (result, appendResult later recorded) := by
  unfold answer
  have same : reachedCap specification (appendResult loop recorded).accumulatedCost =
      reachedCap specification loop.accumulatedCost := rfl
  rw [same]
  cases reachedCap specification loop.accumulatedCost with
  | none => rfl
  | some cap =>
    dsimp only
    cases ProviderError.new .budgetExceeded "max_total_cost_exceeded"
      ("Run cost cap " ++ environment.runtime.floatRepr cap ++ " reached before this case") false <;> rfl

theorem evaluatorsReturnOn_cons {case : GoldenCase} {rest : List GoldenCase}
    {loop later : LoopState σ} {request : InferenceRequest} {result : InferenceResult}
    (built : buildRequest environment specification.val case = .ok request)
    (answered : answer environment provider specification request loop = .ok (result, later)) :
    EvaluatorsReturnOn environment provider specification (case :: rest) loop ↔
      (∃ evaluations, evaluateCase environment.libraries case result.output
        (evaluatorDefinitions specification.val) = .ok evaluations) ∧
      EvaluatorsReturnOn environment provider specification rest later := by
  constructor
  · intro returning
    exact returning request result later built answered
  · intro both other reply after rendered replied
    cases built.symm.trans rendered
    cases answered.symm.trans replied
    exact both

theorem evaluatorsReturnOn_appendResult (cases : List GoldenCase) (loop : LoopState σ)
    (recorded : CaseExecutionResult) :
    EvaluatorsReturnOn environment provider specification cases (appendResult loop recorded) ↔
      EvaluatorsReturnOn environment provider specification cases loop := by
  induction cases generalizing loop with
  | nil => rfl
  | cons case rest ih =>
    cases built : buildRequest environment specification.val case with
    | error error => simp [EvaluatorsReturnOn, built]
    | ok request =>
      obtain ⟨result, later, answered, _⟩ :=
        answer_returns provider environment specification request loop
      have again : answer environment provider specification request (appendResult loop recorded) =
          .ok (result, appendResult later recorded) := by
        rw [answer_appendResult, answered]
        rfl
      rw [evaluatorsReturnOn_cons built answered, evaluatorsReturnOn_cons built again, ih]

/-- Evaluators that return on every output return on the answers. -/
theorem evaluatorsReturnOn_of_return (evaluators : EvaluatorsReturn environment.libraries specification)
    {cases : List GoldenCase} (members : ∀ case ∈ cases, case ∈ specification.val.cases)
    (loop : LoopState σ) :
    EvaluatorsReturnOn environment provider specification cases loop := by
  induction cases generalizing loop with
  | nil => trivial
  | cons case rest ih =>
    intro request result later _ _
    exact ⟨evaluateCase_returns evaluators (members case List.mem_cons_self) result.output,
      ih (fun other member => members other (List.mem_cons_of_mem _ member)) later⟩

/-- An uncancelled loop over cases that render returns exactly when the evaluators
return on every answer. -/
theorem executeCases_returns_iff {cases : List GoldenCase}
    (renders : ∀ case ∈ cases, ∃ request, buildRequest environment specification.val case = .ok request)
    (ordinal : Nat) (loop : LoopState σ) :
    (∃ final, executeCases environment provider specification neverCancelled ordinal cases loop =
      .ok final) ↔ EvaluatorsReturnOn environment provider specification cases loop := by
  induction cases generalizing ordinal loop with
  | nil => simp [executeCases, EvaluatorsReturnOn]
  | cons case rest ih =>
    obtain ⟨request, built⟩ := renders case List.mem_cons_self
    obtain ⟨result, later, answered, _⟩ :=
      answer_returns provider environment specification request loop
    have others := ih fun other member => renders other (List.mem_cons_of_mem _ member)
    rw [evaluatorsReturnOn_cons built answered]
    simp only [executeCases, neverCancelled, Bool.false_eq_true, ↓reduceIte, executeCase, built]
    constructor
    · rintro ⟨final, returned⟩
      obtain ⟨next, executed, finished⟩ := bind_eq_ok.mp returned
      obtain ⟨reply, replied, rest⟩ := bind_eq_ok.mp executed
      cases answered.symm.trans replied
      obtain ⟨evaluations, evaluated, made⟩ := bind_eq_ok.mp rest
      cases made
      exact ⟨⟨evaluations, evaluated⟩,
        (evaluatorsReturnOn_appendResult _ _ _).mp ((others _ _).mp ⟨final, finished⟩)⟩
    · rintro ⟨⟨evaluations, evaluated⟩, returning⟩
      let recorded : CaseExecutionResult :=
        { caseKey := case.key, ordinal, requestHash := requestHash environment request
          providerResult := result, evaluations }
      obtain ⟨final, finished⟩ := (others (ordinal + 1) (appendResult later recorded)).mpr
        ((evaluatorsReturnOn_appendResult _ _ _).mpr returning)
      exact ⟨final, bind_eq_ok.mpr ⟨_, bind_eq_ok.mpr ⟨_, answered,
        bind_eq_ok.mpr ⟨evaluations, evaluated, rfl⟩⟩, finished⟩⟩

/-- The results are those of the cases, in order, with ordinals from the given one on. -/
structure Evidences (specification : EvaluationSpecification) (ordinal : Nat)
    (cases : List GoldenCase) (results : List CaseExecutionResult) : Prop where
  keys : results.map CaseExecutionResult.caseKey = cases.map GoldenCase.key
  ordinals : results.map CaseExecutionResult.ordinal = List.range' ordinal cases.length
  evaluated : ∀ result ∈ results, EvaluatedBy specification result

theorem Evidences.cons {case : GoldenCase} {rest : List GoldenCase} {result : CaseExecutionResult}
    {results : List CaseExecutionResult} {ordinal : Nat} (key : result.caseKey = case.key)
    (placed : result.ordinal = ordinal) (known : EvaluatedBy specification result)
    (others : Evidences specification (ordinal + 1) rest results) :
    Evidences specification ordinal (case :: rest) (result :: results) where
  keys := by simp [key, others.keys]
  ordinals := by simp [placed, others.ordinals, List.range'_succ]
  evaluated := List.forall_mem_cons.mpr ⟨known, others.evaluated⟩

/-- What a loop appends: the results of the cases before the boundary at which it
found the token set, or else of every case. -/
theorem executeCases_ok {cancelled : Nat → Bool} {cases : List GoldenCase} {ordinal : Nat}
    {loop : LoopState σ} {final : LoopState σ × Bool}
    (returned : executeCases environment provider specification cancelled ordinal cases loop =
      .ok final) :
    ∃ results done rest, final.1.results = loop.results ++ results ∧ cases = done ++ rest ∧
      Evidences specification ordinal done results ∧
      (final.2 = true ∧ cancelled (ordinal + done.length) = true ∨ final.2 = false ∧ rest = []) := by
  induction cases generalizing ordinal loop with
  | nil =>
    cases returned
    exact ⟨[], [], [], by simp, rfl, ⟨rfl, rfl, by simp⟩, .inr ⟨rfl, rfl⟩⟩
  | cons case rest ih =>
    unfold executeCases at returned
    split at returned
    · rename_i set
      cases returned
      exact ⟨[], [], case :: rest, by simp, rfl, ⟨rfl, rfl, by simp⟩, .inl ⟨rfl, set⟩⟩
    · obtain ⟨next, executed, finished⟩ := bind_eq_ok.mp returned
      obtain ⟨result, grown, key, placed, known⟩ := executeCase_ok executed
      obtain ⟨results, done, left, all, split, evidence, ended⟩ := ih finished
      refine ⟨result :: results, case :: done, left, by rw [all, grown]; simp, by rw [split]; rfl,
        evidence.cons key placed known, ?_⟩
      rwa [List.length_cons, show ordinal + (done.length + 1) = ordinal + 1 + done.length by omega]

end Results

section Reports

variable {environment : Environment} {specification : EvaluationSpecification}

/-- A result of the specification has a summary. -/
theorem caseSummary_returns {result : CaseExecutionResult} (belongs : Belongs specification result) :
    ∃ summary, caseSummary specification.val result = .ok summary := by
  obtain ⟨required, flagged⟩ :
      ∃ required, requiredStatuses specification.val result.evaluations = .ok required := by
    have known : ∀ evaluation ∈ result.evaluations, ∃ flagged,
        (do
          let required ← getItem (evaluatorRequired specification.val) evaluation.evaluatorName
          return (required, evaluation.status) : Except PyError (Bool × EvaluationStatus)) =
            .ok flagged := by
      intro evaluation listed
      have name : evaluation.evaluatorName ∈ (evaluatorRequired specification.val).map Prod.fst := by
        simpa [evaluatorRequired, Function.comp_def] using belongs.evaluators evaluation listed
      obtain ⟨required, found⟩ := getItem_returns name
      exact ⟨_, bind_eq_ok.mpr ⟨required, found, rfl⟩⟩
    obtain ⟨statuses, mapped⟩ := mapM_returns known
    exact ⟨_, bind_eq_ok.mpr ⟨statuses, mapped, rfl⟩⟩
  have known : result.caseKey ∈ (caseDefinitions specification.val).map Prod.fst := by
    simpa [caseDefinitions, Function.comp_def] using belongs.case
  obtain ⟨definition, found⟩ := getItem_returns known
  exact ⟨_, bind_eq_ok.mpr ⟨required, flagged, bind_eq_ok.mpr ⟨definition, found, rfl⟩⟩⟩

theorem caseSummaries_returns {run : LocalRunResult}
    (belongs : ∀ result ∈ run.cases, Belongs specification result) :
    ∃ summaries, caseSummaries specification.val run = .ok summaries :=
  mapM_returns fun result member => caseSummary_returns (belongs result member)

/-- A nonempty run of the specification gets a report. -/
theorem reportOf_returns {run : LocalRunResult} (nonempty : run.cases ≠ [])
    (belongs : ∀ result ∈ run.cases, Belongs specification result) :
    ∃ report, reportOf environment specification run = .ok report := by
  obtain ⟨summaries, summarised⟩ := caseSummaries_returns belongs
  obtain ⟨gate, decided, _⟩ := aggregateAndDecide_returns environment.runtime nonempty summarised
  exact ⟨_, bind_eq_ok.mpr ⟨gate, decided, rfl⟩⟩

/-- Without a result the aggregation divides by zero. -/
theorem aggregateAndDecide_empty (runtime : Runtime) (specification : EvaluationSpecificationV1)
    {run : LocalRunResult} (empty : run.cases = []) :
    aggregateAndDecide runtime specification run = .error .zeroDivision := by
  have none : caseSummaries specification run = .ok [] := by
    rw [caseSummaries, empty]
    rfl
  exact bind_eq_error.mpr (.inr ⟨[], none, bind_eq_error.mpr (.inl rfl)⟩)

/-- A report keeps its run, and its gate has one summary for each result. -/
theorem reportOf_ok {run : LocalRunResult} {report : LocalEvaluationReport}
    (made : reportOf environment specification run = .ok report) :
    report.run = run ∧
      report.gate.cases.map CaseSummary.caseKey = run.cases.map CaseExecutionResult.caseKey := by
  obtain ⟨gate, decided, same⟩ := bind_eq_ok.mp made
  cases same
  obtain ⟨summaries, summarised, rest⟩ := bind_eq_ok.mp decided
  obtain ⟨values, _, built⟩ := bind_eq_ok.mp rest
  cases built
  exact ⟨rfl, (caseSummaries_aligned summarised).1⟩

/-- The counts of a report's metrics are those of its summaries. -/
theorem reportOf_counts {run : LocalRunResult} {report : LocalEvaluationReport}
    (made : reportOf environment specification run = .ok report) :
    report.gate.metrics.passedCases = countOutcome .passed report.gate.cases ∧
      report.gate.metrics.failedCases = countOutcome .failed report.gate.cases ∧
      report.gate.metrics.errorCases = countOutcome .error report.gate.cases := by
  obtain ⟨gate, decided, same⟩ := bind_eq_ok.mp made
  cases same
  obtain ⟨summaries, _, rest⟩ := bind_eq_ok.mp decided
  obtain ⟨values, aggregated, built⟩ := bind_eq_ok.mp rest
  cases built
  exact metrics_counts aggregated

variable {σ : Type} {provider : Provider σ}

/-- The results of an execution are those of the cases before the token was found set. -/
theorem executeLocal_evidence {cancelled : Nat → Bool} {start later : σ} {run : LocalRunResult}
    (returned : executeLocal environment provider specification cancelled start = .ok (run, later)) :
    ∃ done rest, specification.val.cases = done ++ rest ∧ run.totalCases = run.cases.length ∧
      Evidences specification 0 done run.cases ∧
      (run.status = .cancelled ∧ cancelled done.length = true ∨
        run.status = .completed ∧ rest = []) := by
  obtain ⟨_, _, looped⟩ := bind_eq_ok.mp returned
  obtain ⟨⟨loop, stopped⟩, executed, made⟩ := bind_eq_ok.mp looped
  cases made
  obtain ⟨results, done, rest, all, split, evidence, ended⟩ := executeCases_ok executed
  have same : (runResult environment specification stopped loop.results).cases = results := by
    simpa [runResult, initialLoop] using all
  refine ⟨done, rest, split, rfl, same.symm ▸ evidence, ?_⟩
  rw [Nat.zero_add] at ended
  rcases ended with ⟨rfl, set⟩ | ⟨rfl, none⟩
  · exact .inl ⟨rfl, set⟩
  · exact .inr ⟨rfl, none⟩

/-- The results of a prefix of the cases belong to the specification. -/
theorem Evidences.belongs {done rest : List GoldenCase} {results : List CaseExecutionResult}
    {ordinal : Nat} (evidence : Evidences specification ordinal done results)
    (split : specification.val.cases = done ++ rest) :
    ∀ result ∈ results, Belongs specification result := by
  intro result member
  refine ⟨?_, evidence.evaluated result member⟩
  have key : result.caseKey ∈ done.map GoldenCase.key :=
    evidence.keys ▸ List.mem_map.mpr ⟨result, member, rfl⟩
  rw [split, List.map_append]
  exact List.mem_append_left _ key

/-- The results of an uncancelled execution are those of every case of the specification. -/
theorem executeLocal_ok {start later : σ} {run : LocalRunResult}
    (returned : executeLocal environment provider specification neverCancelled start =
      .ok (run, later)) :
    run.status = .completed ∧
      run.cases.map CaseExecutionResult.caseKey = specification.val.cases.map GoldenCase.key ∧
      ∀ result ∈ run.cases, Belongs specification result := by
  obtain ⟨done, rest, split, _, evidence, ⟨_, impossible⟩ | ⟨completed, none⟩⟩ :=
    executeLocal_evidence returned
  · cases impossible
  · refine ⟨completed, ?_, evidence.belongs split⟩
    rw [evidence.keys, split, none, List.append_nil]

/-- An uncancelled evaluation of a specification that renders returns exactly when it is
within the preflight limits and its evaluators return on every answer. -/
theorem executeLocalEvaluation_returns_iff (start : σ)
    (renders : ∀ case ∈ specification.val.cases,
      ∃ request, buildRequest environment specification.val case = .ok request) :
    (∃ outcome, executeLocalEvaluation environment provider specification neverCancelled start =
      .ok outcome) ↔
      WithinLimits specification.val ∧
        EvaluatorsReturnOn environment provider specification specification.val.cases
          (initialLoop start) := by
  rw [← preflightCheck_ok, ← executeCases_returns_iff renders 0]
  constructor
  · rintro ⟨outcome, returned⟩
    obtain ⟨_, executed, _⟩ := bind_eq_ok.mp returned
    obtain ⟨_, passed, looped⟩ := bind_eq_ok.mp executed
    obtain ⟨final, finished, _⟩ := bind_eq_ok.mp looped
    exact ⟨passed, final, finished⟩
  · rintro ⟨passed, ⟨loop, stopped⟩, finished⟩
    have executed : executeLocal environment provider specification neverCancelled start =
        .ok (runResult environment specification stopped loop.results, loop.provider) :=
      bind_eq_ok.mpr ⟨(), passed, bind_eq_ok.mpr ⟨_, finished, rfl⟩⟩
    obtain ⟨_, keys, belongs⟩ := executeLocal_ok executed
    have nonempty : (runResult environment specification stopped loop.results).cases ≠ [] := by
      intro empty
      rw [empty, List.map_nil] at keys
      exact specification.property.cases_ne_nil (List.map_eq_nil_iff.mp keys.symm)
    obtain ⟨report, made⟩ := reportOf_returns nonempty belongs
    exact ⟨_, bind_eq_ok.mpr ⟨_, executed, bind_eq_ok.mpr ⟨report, made, rfl⟩⟩⟩

/-- The report comes from some execution of the specification. -/
def ReportFor (specification : EvaluationSpecification) (report : LocalEvaluationReport) : Prop :=
  ∃ (σ : Type) (environment : Environment) (provider : Provider σ) (cancelled : Nat → Bool)
    (start later : σ), executeLocalEvaluation environment provider specification cancelled start =
      .ok (report, later)

/-- The report has results, those of the first cases of the specification. -/
structure ReportsPrefix (specification : EvaluationSpecification) (report : LocalEvaluationReport) :
    Prop where
  nonempty : report.run.cases ≠ []
  keys : report.run.cases.map CaseExecutionResult.caseKey <+:
    specification.val.cases.map GoldenCase.key

/-- The report's parts agree: its results, its counts and its gate. -/
structure Reconciles (report : LocalEvaluationReport) : Prop where
  total : report.run.totalCases = report.run.cases.length
  ordinals : report.run.cases.map CaseExecutionResult.ordinal = List.range report.run.cases.length
  summaries : report.gate.cases.map CaseSummary.caseKey =
    report.run.cases.map CaseExecutionResult.caseKey
  passed : report.gate.metrics.passedCases = countOutcome .passed report.gate.cases
  failed : report.gate.metrics.failedCases = countOutcome .failed report.gate.cases
  errors : report.gate.metrics.errorCases = countOutcome .error report.gate.cases

/-- What an execution reports reconciles, and is about a first part of the cases. -/
theorem ReportFor.reconciles {report : LocalEvaluationReport} (own : ReportFor specification report) :
    ReportsPrefix specification report ∧ Reconciles report := by
  obtain ⟨σ, environment, provider, cancelled, start, later, evaluated⟩ := own
  obtain ⟨⟨run, final⟩, executed, rest⟩ := bind_eq_ok.mp evaluated
  obtain ⟨made, decided, same⟩ := bind_eq_ok.mp rest
  cases same
  obtain ⟨done, left, split, total, evidence, _⟩ := executeLocal_evidence executed
  obtain ⟨rfl, summaries⟩ := reportOf_ok decided
  obtain ⟨passed, failed, errors⟩ := reportOf_counts decided
  have length : report.run.cases.length = done.length := by
    simpa using congrArg List.length evidence.keys
  refine ⟨⟨?_, ?_⟩, total, ?_, summaries, passed, failed, errors⟩
  · intro empty
    obtain ⟨gate, aggregated, _⟩ := bind_eq_ok.mp decided
    cases (aggregateAndDecide_empty environment.runtime specification.val empty).symm.trans aggregated
  · rw [evidence.keys, split, List.map_append]
    exact List.prefix_append _ _
  · rw [evidence.ordinals, length, List.range_eq_range']

/-- Such a report has a result of the specification's first case. -/
theorem ReportsPrefix.first {report : LocalEvaluationReport}
    (covers : ReportsPrefix specification report) :
    ∃ case ∈ report.run.cases, some case.caseKey =
      (specification.val.cases.map GoldenCase.key).head? := by
  obtain ⟨rest, split⟩ := covers.keys
  obtain ⟨first, others, cases⟩ := List.exists_cons_of_ne_nil covers.nonempty
  refine ⟨first, by simp [cases], ?_⟩
  rw [← split, cases]
  rfl

end Reports

theorem greeting_evaluated : (executeLocalEvaluation Environment.plain Provider.ok
    ⟨plainDocument "Say ok" ["first"] {}, greeting_valid⟩ neverCancelled ()).toOption.isSome = true := by
  decide

/-- The report of the one-case greeting specification. -/
def greetingReport : LocalEvaluationReport :=
  ((executeLocalEvaluation Environment.plain Provider.ok
    ⟨plainDocument "Say ok" ["first"] {}, greeting_valid⟩ neverCancelled ()).toOption.get
      greeting_evaluated).1

theorem greetingReport_for :
    ReportFor ⟨plainDocument "Say ok" ["first"] {}, greeting_valid⟩ greetingReport :=
  ⟨Unit, Environment.plain, Provider.ok, neverCancelled, (), (), rfl⟩

end RegressionDetection.Execution
