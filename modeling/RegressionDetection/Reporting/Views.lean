import RegressionDetection.Persistence.Repository
import RegressionDetection.Policy.CaseSets
import RegressionDetection.Reporting.JsonReport

/-! Four views of one run: its results, the summaries of its gate, the entries of its
JSON report and its stored case rows. They are about the same cases in the same
order, and every dictionary they are built from has the keys it is asked for. -/

namespace RegressionDetection.Reporting

open Foundation Specification Providers Evaluators Policy Execution Persistence

/-- A report whose gate summarises this run, whatever else the gate decides on. -/
structure ReportOn (specification : EvaluationSpecification) (run : LocalRunResult)
    (report : LocalEvaluationReport) : Prop where
  ofRun : report.run = run
  summarised : caseSummaries specification.val run = .ok report.gate.cases

/-- The result at an index with what the three other views have there. -/
structure AgreesAt (specification : EvaluationSpecification) (run : LocalRunResult) (index : Nat)
    (result : CaseExecutionResult) (summary : CaseSummary) (entry : ReportCase) (row : CaseRow) :
    Prop where
  summaryKey : summary.caseKey = result.caseKey
  entryKey : entry.caseKey = result.caseKey
  rowKey : row.caseKey = result.caseKey
  ordinal : result.ordinal = index
  entryOrdinal : entry.ordinal = index
  rowOrdinal : row.ordinal = index
  outcome : caseOutcome run result.caseKey specification.val = .ok (some summary.outcome)
  entryOutcome : entry.outcome = summary.outcome
  rowOutcome : row.outcome = summary.outcome
  critical : ∃ case ∈ specification.val.cases, case.key = result.caseKey ∧
    summary.critical = case.critical ∧ entry.critical = case.critical

/-- The report and the rows stored for it show the run case by case. -/
structure ViewsAgree (specification : EvaluationSpecification) (run : LocalRunResult)
    (summaries : List CaseSummary) (json : JsonReport) (rows : List CaseRow) : Prop where
  summaryCount : summaries.length = run.cases.length
  entryCount : json.cases.length = run.cases.length
  rowCount : rows.length = run.cases.length
  same : ∀ index result summary entry row, run.cases[index]? = some result →
    summaries[index]? = some summary → json.cases[index]? = some entry →
    rows[index]? = some row → AgreesAt specification run index result summary entry row

section Lookups

variable {report : LocalEvaluationReport} {runId key : String} {now : Time} {store : Store}

theorem insertRows_noKeyError {Key Row : Type} {rowKey : Row → Key} [DecidableEq Key]
    (table : Table rowKey) (rows : List Row) : insertRows table rows ≠ .error (.keyError key) := by
  unfold insertRows
  split <;> simp

theorem findRun_noKeyError : findRun store runId ≠ .error (.keyError key) := by
  unfold findRun
  split <;> simp

/-- Storing rows that were built raises no KeyError. -/
theorem storeRows_noKeyError {rows : Except PyError (List CaseRow)}
    (returns : ∃ built, rows = .ok built) (finish : Table CaseRow.key → Bool × Store) :
    (do
      let built ← rows
      let cases ← insertRows store.cases built
      return finish cases) ≠ .error (.keyError key) := by
  obtain ⟨built, same⟩ := returns
  intro raised
  rcases bind_eq_error.mp raised with unbuilt | ⟨_, _, rest⟩
  · cases same.symm.trans unbuilt
  · rcases bind_eq_error.mp rest with refused | ⟨_, _, impossible⟩
    · exact insertRows_noKeyError _ _ refused
    · cases impossible

/-- With a summary for every result, `complete_run` finds every key it asks for. -/
theorem completeRun_noKeyError (summarised : Summarised report) (workerId : Option String) :
    completeRun now runId store report workerId ≠ .error (.keyError key) := by
  intro raised
  rcases bind_eq_error.mp raised with missing | ⟨run, _, rest⟩
  · exact findRun_noKeyError missing
  · split at rest
    · exact storeRows_noKeyError (caseRows_returns.mpr summarised) _ rest
    · cases rest

theorem acknowledgeCancellation_noKeyError (summarised : Summarised report) (workerId : String) :
    acknowledgeCancellation now runId workerId store (some report) ≠ .error (.keyError key) := by
  intro raised
  rcases bind_eq_error.mp raised with missing | ⟨run, _, rest⟩
  · exact findRun_noKeyError missing
  · split at rest
    · exact storeRows_noKeyError (caseRows_returns.mpr summarised) _ rest
    · cases rest

end Lookups

section Agreement

variable {specification : EvaluationSpecification} {run : LocalRunResult}
  {report : LocalEvaluationReport}

theorem ReportOn.keys (made : ReportOn specification run report) :
    report.gate.cases.map CaseSummary.caseKey =
      report.run.cases.map CaseExecutionResult.caseKey := by
  rw [made.ofRun]
  exact (caseSummaries_aligned made.summarised).1

theorem ReportOn.all_summarised (made : ReportOn specification run report) : Summarised report := by
  intro result member
  rw [made.keys]
  exact List.mem_map.mpr ⟨result, member, rfl⟩

/-- Under distinct keys the summary found under a result's key is the result's own. -/
theorem ReportOn.found (made : ReportOn specification run report)
    (distinct : (run.cases.map CaseExecutionResult.caseKey).Nodup) {summary : CaseSummary}
    (member : summary ∈ report.gate.cases) :
    getItem (summariesByKey report) summary.caseKey = .ok summary := by
  refine getItem_of_mem ?_ (List.mem_map.mpr ⟨summary, member, rfl⟩)
  rw [← made.ofRun, ← made.keys] at distinct
  simpa [summariesByKey, Function.comp_def] using distinct

/-- A summary takes criticality from the case of its key. -/
theorem caseSummary_critical {result : CaseExecutionResult} {summary : CaseSummary}
    (summarised : caseSummary specification.val result = .ok summary) :
    summary.caseKey = result.caseKey ∧ ∃ case ∈ specification.val.cases,
      case.key = result.caseKey ∧ summary.critical = case.critical := by
  obtain ⟨_, _, rest⟩ := bind_eq_ok.mp summarised
  obtain ⟨definition, found, made⟩ := bind_eq_ok.mp rest
  cases made
  obtain ⟨case, member, same⟩ := List.mem_map.mp (mem_of_lookup (getItem_eq_ok.mp found))
  obtain ⟨key, rfl⟩ := Prod.mk.inj same
  exact ⟨rfl, case, member, key, rfl⟩

/-- The elements at one index of two related lists are related. -/
theorem related_at {α β : Type} {related : α → β → Prop} {first : List α} {second : List β}
    (pairs : List.Forall₂ related first second) {index : Nat} {a : α} {b : β}
    (left : first[index]? = some a) (right : second[index]? = some b) : related a b := by
  induction pairs generalizing index with
  | nil => cases left
  | cons head _ ih =>
    cases index with
    | zero =>
      cases left
      cases right
      exact head
    | succ index => exact ih left right

/-- A report on a run with distinct keys shows it case by case. -/
theorem ReportOn.viewsAgree (made : ReportOn specification run report)
    (distinct : (run.cases.map CaseExecutionResult.caseKey).Nodup)
    (ordinals : run.cases.map CaseExecutionResult.ordinal = List.range run.cases.length)
    {version runId : String} {json : JsonReport} {rows : List CaseRow}
    (reported : buildJsonReport version specification.val report = .ok json)
    (stored : caseRows runId report = .ok rows) :
    ViewsAgree specification run report.gate.cases json rows := by
  have summaryPairs := mapM_eq_ok.mp made.summarised
  have entryPairs := buildJsonReport_cases reported
  have rowPairs := mapM_eq_ok.mp stored
  have outcomePairs := caseOutcomes_agree distinct made.summarised
  rw [made.ofRun] at entryPairs rowPairs
  refine ⟨summaryPairs.length_eq.symm, entryPairs.length_eq.symm, rowPairs.length_eq.symm, ?_⟩
  intro index result summary entry row atResult atSummary atEntry atRow
  have summarised := related_at summaryPairs atResult atSummary
  obtain ⟨key, case, member, named, critical⟩ := caseSummary_critical summarised
  have own := made.found distinct (List.mem_of_getElem? atSummary)
  rw [key] at own
  obtain ⟨found, read, entryMade⟩ := bind_eq_ok.mp (related_at entryPairs atResult atEntry)
  cases own.symm.trans read
  obtain ⟨again, readAgain, rowMade⟩ := bind_eq_ok.mp (related_at rowPairs atResult atRow)
  cases own.symm.trans readAgain
  cases entryMade
  cases rowMade
  have placed : result.ordinal = index := by
    have listed : (run.cases.map CaseExecutionResult.ordinal)[index]? = some result.ordinal := by
      rw [List.getElem?_map, atResult, Option.map_some]
    rw [ordinals] at listed
    obtain ⟨_, same⟩ := List.getElem?_eq_some_iff.mp listed
    rw [List.getElem_range] at same
    exact same.symm
  exact ⟨key, rfl, rfl, placed, placed, placed, related_at outcomePairs atResult atSummary, rfl, rfl,
    case, member, named, critical, critical⟩

/-- The gate decided on a run, alone or against a baseline, summarises it. -/
theorem reportOn_of_decided {runtime : Runtime} {gate : GateDecision}
    (decided : aggregateAndDecide runtime specification.val run = .ok gate ∨
      ∃ baseline, compareAndDecide runtime specification.val run baseline = .ok gate) :
    ReportOn specification run { run, gate } := by
  rcases decided with alone | ⟨baseline, compared⟩
  · obtain ⟨summaries, summarised, rest⟩ := bind_eq_ok.mp alone
    obtain ⟨values, _, built⟩ := bind_eq_ok.mp rest
    cases built
    exact ⟨rfl, summarised⟩
  · obtain ⟨_, _, rest⟩ := bind_eq_ok.mp compared
    obtain ⟨summaries, summarised, rest⟩ := bind_eq_ok.mp rest
    obtain ⟨values, _, built⟩ := bind_eq_ok.mp rest
    cases built
    exact ⟨rfl, summarised⟩

end Agreement

/-- Every dictionary access made for the run finds its key. -/
structure LookupsDefined (specification : EvaluationSpecification) (run : LocalRunResult) : Prop where
  evaluateCase : ∀ case ∈ specification.val.cases, ∀ name ∈ case.evaluators,
    ∃ evaluator, getItem (evaluatorDefinitions specification.val) name = .ok evaluator
  caseSummaries : ∃ summaries, caseSummaries specification.val run = .ok summaries
  caseOutcome : ∀ result ∈ run.cases,
    ∃ outcome, caseOutcome run result.caseKey specification.val = .ok (some outcome)
  buildJsonReport : ∀ report, ReportOn specification run report →
    ∀ version, ∃ json, buildJsonReport version specification.val report = .ok json
  completeRun : ∀ report, ReportOn specification run report → ∀ now runId store workerId key,
    completeRun now runId store report workerId ≠ .error (.keyError key)
  acknowledgeCancellation : ∀ report, ReportOn specification run report →
    ∀ now runId workerId store key,
      acknowledgeCancellation now runId workerId store (some report) ≠ .error (.keyError key)

/-- The report and the case rows of a run: one row for each key, and the same case at
every index of every view. -/
def ShowsOneRun (specification : EvaluationSpecification) (run : LocalRunResult)
    (report : LocalEvaluationReport) (version runId : String) : Prop :=
  ∃ json rows, buildJsonReport version specification.val report = .ok json ∧
    caseRows runId report = .ok rows ∧ (rows.map CaseRow.key).Nodup ∧
    ViewsAgree specification run report.gate.cases json rows

section Assembly

variable {specification : EvaluationSpecification} {run : LocalRunResult}

/-- On results that belong to the specification no lookup misses. -/
theorem lookupsDefined (belongs : ∀ result ∈ run.cases, Belongs specification result) :
    LookupsDefined specification run where
  evaluateCase := by
    intro case member name named
    obtain ⟨evaluator, _, _, found⟩ := evaluator_found specification.property member named
    exact ⟨evaluator, found⟩
  caseSummaries := caseSummaries_returns belongs
  caseOutcome result member :=
    searchOutcome_returns belongs (List.mem_map.mpr ⟨result, member, rfl⟩)
  buildJsonReport _ made _ := buildJsonReport_returns.mpr made.all_summarised
  completeRun _ made _ _ _ workerId _ := completeRun_noKeyError made.all_summarised workerId
  acknowledgeCancellation _ made _ _ workerId _ _ :=
    acknowledgeCancellation_noKeyError made.all_summarised workerId

theorem ReportOn.showsOneRun {report : LocalEvaluationReport}
    (made : ReportOn specification run report)
    (distinct : (run.cases.map CaseExecutionResult.caseKey).Nodup)
    (ordinals : run.cases.map CaseExecutionResult.ordinal = List.range run.cases.length)
    (version runId : String) : ShowsOneRun specification run report version runId := by
  obtain ⟨json, reported⟩ := buildJsonReport_returns.mpr made.all_summarised
  obtain ⟨rows, stored⟩ := caseRows_returns.mpr made.all_summarised
  refine ⟨json, rows, reported, stored, ?_, made.viewsAgree distinct ordinals reported stored⟩
  rw [caseRows_keys stored, made.ofRun]
  have keyed := distinct.map fun first second (same : (runId, first) = (runId, second)) =>
    congrArg Prod.snd same
  rwa [List.map_map] at keyed

end Assembly

/-- What a validated specification guarantees of every run that is executed for it. -/
theorem executeLocal_views {σ : Type} (environment : Environment) (provider : Provider σ)
    (specification : EvaluationSpecification) (cancelled : Nat → Bool) (start : σ)
    {run : LocalRunResult} {later : σ}
    (returned : executeLocal environment provider specification cancelled start = .ok (run, later)) :
    LookupsDefined specification run ∧
      (∀ gate, (aggregateAndDecide environment.runtime specification.val run = .ok gate ∨
          ∃ baseline, compareAndDecide environment.runtime specification.val run baseline = .ok gate) →
        ReportOn specification run { run, gate }) ∧
      ∀ report version runId, ReportOn specification run report →
        ShowsOneRun specification run report version runId := by
  have produced : ProducedBy environment specification run :=
    ⟨σ, provider, cancelled, start, later, returned⟩
  obtain ⟨done, rest, split, _, evidence, _⟩ := executeLocal_evidence returned
  have belongs := evidence.belongs split
  have length : run.cases.length = done.length := by
    simpa using congrArg List.length evidence.keys
  have ordinals : run.cases.map CaseExecutionResult.ordinal = List.range run.cases.length := by
    rw [evidence.ordinals, length, List.range_eq_range']
  exact ⟨lookupsDefined belongs, fun gate => reportOn_of_decided,
    fun report version runId made => made.showsOneRun produced.distinct ordinals version runId⟩

theorem executeLocal_views_greetings :
    LookupsDefined ⟨_, twoGreetings_valid⟩ bothGreetings.1 ∧
      ∃ gate, aggregateAndDecide Runtime.ascii (plainDocument "Say ok" ["first", "second"] {})
          bothGreetings.1 = .ok gate ∧
        ShowsOneRun ⟨_, twoGreetings_valid⟩ bothGreetings.1 { run := bothGreetings.1, gate }
          "0.1.0" "run" := by
  have returned : executeLocal Environment.plain Provider.ok ⟨_, twoGreetings_valid⟩ neverCancelled
      () = .ok (bothGreetings.1, ()) := rfl
  obtain ⟨lookups, gated, shown⟩ := executeLocal_views Environment.plain Provider.ok
    ⟨_, twoGreetings_valid⟩ neverCancelled () returned
  have decides : (aggregateAndDecide Runtime.ascii (plainDocument "Say ok" ["first", "second"] {})
      bothGreetings.1).isOk = true := by decide +kernel
  refine ⟨lookups, ?_⟩
  cases decided : aggregateAndDecide Runtime.ascii
      (plainDocument "Say ok" ["first", "second"] {}) bothGreetings.1 with
  | error error =>
    rw [decided] at decides
    cases decides
  | ok gate => exact ⟨gate, rfl, shown _ "0.1.0" "run" (gated gate (.inl decided))⟩

end RegressionDetection.Reporting
