import RegressionDetection.Foundation.NumberText
import RegressionDetection.Reporting.Models

/-! The self-contained HTML report: one function for each section of the document. -/

namespace RegressionDetection.Reporting

open Foundation Foundation.Json Specification Providers Evaluators Policy

/-- The lines of a template. -/
def lines (texts : List String) : String := "\n".intercalate texts

section Document

variable (runtime : Runtime)

def css : String := lines [
  "*\x7bbox-sizing:border-box;margin:0;padding:0\x7d",
  "body\x7bfont-family:-apple-system,BlinkMacSystemFont,'Segoe UI',Roboto,sans-serif;" ++
    "font-size:14px;line-height:1.5;color:#1a1a2e;background:#f5f6fa;padding:20px\x7d",
  ".container\x7bmax-width:960px;margin:0 auto\x7d",
  ".card\x7bbackground:#fff;border-radius:8px;box-shadow:0 1px 3px rgba(0,0,0,.1);" ++
    "padding:20px;margin-bottom:16px\x7d",
  "h1\x7bfont-size:20px;margin-bottom:4px\x7d",
  "h2\x7bfont-size:16px;margin-bottom:12px;padding-bottom:6px;border-bottom:1px solid #e0e0e0\x7d",
  ".badge\x7bdisplay:inline-block;padding:3px 10px;border-radius:12px;" ++
    "font-size:12px;font-weight:600;text-transform:uppercase\x7d",
  ".badge-pass\x7bbackground:#d4edda;color:#155724\x7d",
  ".badge-fail\x7bbackground:#f8d7da;color:#721c24\x7d",
  ".badge-error\x7bbackground:#fff3cd;color:#856404\x7d",
  ".badge-ok\x7bbackground:#d4edda;color:#155724\x7d",
  ".badge-violated\x7bbackground:#f8d7da;color:#721c24\x7d",
  ".badge-ie\x7bbackground:#fff3cd;color:#856404\x7d",
  ".badge-na\x7bbackground:#e2e3e5;color:#383d41\x7d",
  "table\x7bwidth:100%;border-collapse:collapse;font-size:13px\x7d",
  "th,td\x7btext-align:left;padding:8px 10px;border-bottom:1px solid #eee\x7d",
  "th\x7bfont-weight:600;color:#555;font-size:12px;text-transform:uppercase\x7d",
  "code\x7bfont-family:'SFMono-Regular',Consolas,'Liberation Mono',Menlo,monospace;" ++
    "font-size:12px;background:#f0f0f0;padding:1px 4px;border-radius:3px\x7d",
  "pre\x7bfont-family:'SFMono-Regular',Consolas,'Liberation Mono',Menlo,monospace;" ++
    "font-size:12px;background:#1a1a2e;color:#f8f8f2;padding:12px;border-radius:6px;" ++
    "overflow-x:auto;white-space:pre-wrap;word-break:break-all;max-height:400px\x7d",
  ".delta-up\x7bcolor:#155724\x7d",
  ".delta-down\x7bcolor:#721c24\x7d",
  ".footer\x7btext-align:center;color:#888;font-size:12px;padding:16px\x7d",
  ".eval-passed\x7bcolor:#155724\x7d",
  ".eval-failed\x7bcolor:#721c24\x7d",
  ".eval-errored\x7bcolor:#856404\x7d",
  ".eval-na\x7bcolor:#888\x7d",
  ""]

/-- `cls.get(outcome, "badge-na")`. -/
def outcomeClass (outcome : String) : String :=
  if outcome = "pass" then "badge-pass"
  else if outcome = "fail" then "badge-fail"
  else if outcome = "error" then "badge-error"
  else "badge-na"

def outcomeBadge (outcome : String) : String :=
  "<span class=\"badge " ++ outcomeClass outcome ++ "\">" ++ htmlEscape outcome ++ "</span>"

def statusClass : RuleStatus → String
  | .passed => "badge-ok"
  | .violated => "badge-violated"
  | .insufficientEvidence => "badge-ie"
  | .notApplicable => "badge-na"

def statusBadge (status : RuleStatus) : String :=
  "<span class=\"badge " ++ statusClass status ++ "\">" ++ htmlEscape (status.value) ++
    "</span>"

/-- `_h`. -/
def h (text : String) : String := htmlEscape text

def provenanceSection (report : JsonReport) : String :=
  let p := report.provenance
  lines ([
    "<div class='card'>",
    "<h2>Provenance</h2>",
    "<table>",
    "<tr><th>Suite</th><td>" ++ h p.suite ++ "</td></tr>",
    "<tr><th>Configuration</th><td><code>" ++ h p.configurationHash.text ++ "</code></td></tr>",
    "<tr><th>Dataset</th><td><code>" ++ h p.datasetHash.text ++ "</code></td></tr>",
    "<tr><th>Prompt</th><td>" ++ h p.prompt.targetId ++ " v" ++ h p.prompt.version ++ "</td></tr>",
    "<tr><th>Model</th><td>" ++ h p.model.targetId ++ " v" ++ h p.model.version ++ "</td></tr>"] ++
    (match p.agent with
      | some agent =>
        ["<tr><th>Agent</th><td>" ++ h agent.targetId ++ " v" ++ h agent.version ++ "</td></tr>"]
      | none => []) ++
    ["</table></div>"])

def metricsSection (report : JsonReport) : String :=
  let m := report.metrics
  lines [
    "<div class='card'>",
    "<h2>Metrics</h2>",
    "<table>",
    "<tr><th>Total cases</th><td>" ++ toString m.totalCases ++ "</td></tr>",
    "<tr><th>Passed</th><td>" ++ toString m.passedCases ++ " (" ++
      fixedText false 1 (m.passRate * 100) ++ "%)</td></tr>",
    "<tr><th>Failed</th><td>" ++ toString m.failedCases ++ "</td></tr>",
    "<tr><th>Errors</th><td>" ++ toString m.errorCases ++ " (" ++
      fixedText false 1 (m.errorRate * 100) ++ "%)</td></tr>",
    "<tr><th>Total latency</th><td>" ++ fixedText false 1 m.totalLatencyMs ++ " ms</td></tr>",
    "<tr><th>Total tokens</th><td>" ++ grouped m.totalTokens ++ " (" ++ grouped m.inputTokens ++
      " in / " ++ grouped m.outputTokens ++ " out)</td></tr>",
    "</table>",
    "</div>"]

/-- `str(value)` of a rule's number or flag; its type admits nothing else. -/
def ruleValueText : Json → String
  | .bool flag => flagText flag
  | .int n => toString n
  | .float value => runtime.floatRepr value
  | _ => ""

/-- The number that a format specification sees; a flag counts as 0 or 1. -/
def ruleNumber : Json → ℚ
  | .bool flag => if flag then 1 else 0
  | .int n => n
  | .float value => value
  | _ => 0

/-- What `_observed_str` and `_threshold_str` make of their field. -/
def ruleFieldText (unit : RuleUnit) : Json → String
  | .null => "—"
  | value =>
    match unit with
    | .count | .boolean => ruleValueText runtime value
    | .ratio => percentText false 2 (ruleNumber value)
    | .percent => fixedText false 1 (ruleNumber value) ++ "%"

def observedStr (rule : RuleDecision) : String := ruleFieldText runtime rule.unit rule.observed

def thresholdStr (rule : RuleDecision) : String := ruleFieldText runtime rule.unit rule.threshold

/-- The row of one rule. -/
def ruleRow (rule : RuleDecision) : String :=
  "<tr><td>" ++ h rule.ruleId ++ "</td>" ++
    "<td>" ++ statusBadge rule.status ++ "</td>" ++
    "<td>" ++ observedStr runtime rule ++ "</td>" ++
    "<td>" ++ thresholdStr runtime rule ++ "</td>" ++
    "<td>" ++ h rule.explanation ++ "</td></tr>"

def rulesSection (rules : List RuleDecision) : String :=
  lines [
    "<div class='card'>",
    "<h2>Rules</h2>",
    "<table>",
    "<thead><tr><th>Rule</th><th>Status</th><th>Observed</th><th>Threshold</th>" ++
      "<th>Explanation</th></tr></thead>",
    "<tbody>",
    "".intercalate (rules.map (ruleRow runtime)),
    "</tbody>",
    "</table>",
    "</div>"]

def formatDelta (value : Option ℚ) (unit : String) : String :=
  match value with
  | none => "—"
  | some value =>
    if unit = "%" then fixedText true 1 value ++ "%"
    else if unit = "ratio" then percentText true 2 value
    else generalText true value

/-- A row of missing case keys, when there are any. -/
def missingRow (label : String) (keys : List String) : List String :=
  match keys with
  | [] => []
  | _ => ["<tr><td>" ++ label ++ "</td><td>" ++ ", ".intercalate (keys.map h) ++ "</td></tr>"]

def baselineRows (baseline : BaselineComparison) : List String :=
  let configOk := baseline.configurationMatch && baseline.datasetMatch
  let matchIcon := if configOk then "&#x2705;" else "&#x26A0;"
  ["<tr><td>Configuration match</td><td>" ++ matchIcon ++ " " ++ h (flagText configOk) ++ "</td></tr>",
    "<tr><td>Matching cases</td><td>" ++ toString baseline.matchingCaseKeys.length ++
      " / " ++ toString baseline.totalCasesBaseline ++ "</td></tr>"] ++
  missingRow "Missing in candidate" baseline.missingInCandidate ++
  missingRow "Missing in baseline" baseline.missingInBaseline ++
  ["<tr><td>Pass rate baseline</td><td>" ++ formatDelta baseline.passRateBaseline "ratio" ++
      "</td></tr>",
    "<tr><td>Pass rate candidate</td><td>" ++ formatDelta baseline.passRateCandidate "ratio" ++
      "</td></tr>",
    "<tr><td>Pass rate drop</td><td>" ++ formatDelta baseline.passRateDrop "ratio" ++ "</td></tr>",
    "<tr><td>Latency baseline</td><td>" ++ fixedText false 1 baseline.latencyMsBaseline ++
      " ms</td></tr>",
    "<tr><td>Latency candidate</td><td>" ++ fixedText false 1 baseline.latencyMsCandidate ++
      " ms</td></tr>",
    "<tr><td>Latency increase</td><td>" ++ formatDelta (some baseline.latencyIncreasePct) "%" ++
      "</td></tr>"] ++
  (match baseline.costIncreasePct with
    | some increase =>
      ["<tr><td>Cost increase</td><td>" ++ formatDelta (some increase) "%" ++ "</td></tr>"]
    | none => [])

def baselineSection : Option BaselineComparison → String
  | none => ""
  | some baseline => lines [
      "<div class='card'>",
      "<h2>Baseline comparison</h2>",
      "<table>",
      "".intercalate (baselineRows baseline),
      "</table>",
      "</div>"]

/-- `cls.get(eval.status.value, "eval-na")`. -/
def evaluationClass : EvaluationStatus → String
  | .passed => "eval-passed"
  | .failed => "eval-failed"
  | .errored => "eval-errored"
  | .notApplicable => "eval-na"

def caseEvalRow (evaluation : ReportEvaluation) : String :=
  "<tr class='" ++ evaluationClass evaluation.status ++ "'><td>" ++ h evaluation.evaluatorName ++
      "</td>" ++
    "<td>" ++ h (evaluation.status.value) ++ "</td>" ++
    "<td>" ++ h evaluation.explanation ++ "</td></tr>"

/-- A text, or a dash when it is missing or empty. -/
def orDash (text : Option String) : String :=
  match text with
  | none => "—"
  | some text => if text = "" then "—" else h text

def errorInfo (error : Option ProviderError) : String :=
  match error with
  | some error => "<tr><td>Provider error</td><td colspan='2'>" ++ h error.code ++ ": " ++
      h error.message ++ "</td></tr>"
  | none => ""

def caseSection (case : ReportCase) : String :=
  lines [
    "<div class='card'>",
    "<h2>Case: " ++ h case.caseKey ++ " " ++ outcomeBadge (case.outcome.value) ++ "</h2>",
    "<table>",
    "<tr><td>Ordinal</td><td>" ++ toString case.ordinal ++ "</td></tr>",
    "<tr><td>Critical</td><td>" ++ flagText case.critical ++ "</td></tr>",
    "<tr><td>Provider status</td><td>" ++ case.providerStatus.value ++ "</td></tr>",
    "<tr><td>Resolved model</td><td>" ++ orDash case.resolvedModel ++ "</td></tr>",
    "<tr><td>Latency</td><td>" ++ fixedText false 1 case.latencyMs ++ " ms</td></tr>",
    "<tr><td>Output excerpt</td><td><pre>" ++ orDash case.outputExcerpt ++ "</pre></td></tr>",
    errorInfo case.providerError,
    "</table>",
    "<h3>Evaluations</h3>",
    "<table>",
    "<thead><tr><th>Evaluator</th><th>Status</th><th>Explanation</th></tr></thead>",
    "<tbody>",
    lines (case.evaluations.map caseEvalRow),
    "</tbody>",
    "</table>",
    "</div>"]

/-- `build_html_report`; `version` is the package's `__version__`. -/
def buildHtmlReport (version : String) (report : JsonReport) (baseline : Option BaselineComparison) :
    String :=
  lines [
    "<!DOCTYPE html>",
    "<html lang=\"en\">",
    "<head>",
    "<meta charset=\"utf-8\">",
    "<meta http-equiv=\"Content-Security-Policy\" content=\"default-src 'self'; " ++
      "style-src 'unsafe-inline'; script-src 'none'; img-src 'self' data:;\">",
    "<title>Evaluation Report — " ++ h report.provenance.suite ++ "</title>",
    "<style>" ++ css ++ "</style>",
    "</head>",
    "<body>",
    "<div class=\"container\">",
    "<div class=\"card\">",
    "<h1>Evaluation Report: " ++ h report.provenance.suite ++ "</h1>",
    "<p>Gate outcome: " ++ outcomeBadge (report.gateOutcome.value) ++
      " &nbsp; Generated by " ++ h version ++ "</p>",
    "</div>",
    provenanceSection report,
    metricsSection report,
    rulesSection runtime report.rules,
    baselineSection baseline,
    lines (report.cases.map caseSection),
    "<div class=\"footer\">",
    "<p>Schema version " ++ reportSchemaVersion ++ " &middot; Generator " ++ h version ++ "</p>",
    "</div>",
    "</div>",
    "</body>",
    "</html>"]

end Document

end RegressionDetection.Reporting
