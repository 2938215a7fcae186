import RegressionDetection.Execution.Evidence
import RegressionDetection.Foundation.NumberText
import RegressionDetection.Foundation.Trimming
import RegressionDetection.Reporting.JsonReport

/-! The Slack notification of a report: its blocks, their truncation to the length Slack
accepts, and the attempts to post them. -/

namespace RegressionDetection.Notifications

open Foundation Specification Policy Execution Persistence Reporting

def maxRetries : Nat := 3

def retryBaseDelay : ℚ := 1

def maxMessageLength : Int := 3800

def httpTimeout : ℚ := 10

/-- A block: a dictionary with a text under `type`. -/
structure Block where
  fields : List (String × Json)
  typed : ∃ kind, lookup fields "type" = some (.str kind)

/-- `block["type"] in {"section", "context", "divider"}`. -/
def Block.removable (block : Block) : Bool :=
  decide (lookup block.fields "type" ∈
    [some (.str "section"), some (.str "context"), some (.str "divider")])

structure Payload where
  text : String
  blocks : List Block

/-- `{"type": kind, key: content}`. -/
def Block.ofContent (kind key : String) (content : Json) (other : key ≠ "type") : Block where
  fields := [("type", .str kind), (key, content)]
  typed := ⟨kind, by simp [lookup, other]⟩

section Message

def outcomeEmoji : GateOutcome → String
  | .pass => "✅"
  | .fail => "❌"
  | .error => "⚠\ufe0f"

/-- A text object of Slack. -/
def textObject (kind text : String) : Json := .obj [("type", .str kind), ("text", .str text)]

def sectionBlock (text : String) : Block :=
  .ofContent "section" "text" (textObject "mrkdwn" text) (by decide)

def dividerBlock : Block where
  fields := [("type", .str "divider")]
  typed := ⟨"divider", by simp [lookup]⟩

def headerText (report : JsonReport) : String :=
  outcomeEmoji report.gateOutcome ++ " MRDS Evaluation: " ++ report.provenance.suite

def headerBlock (report : JsonReport) : Block :=
  .ofContent "header" "text" (textObject "plain_text" (headerText report)) (by decide)

/-- `hash[:12]`. -/
def shortHash (digest : HexDigest) : String := String.ofList (digest.text.toList.take 12)

def summaryText (report : JsonReport) : String :=
  "*Gate outcome:* " ++ report.gateOutcome.value ++ "\n" ++
  "*Suite:* " ++ report.provenance.suite ++ "\n" ++
  "*Configuration:* `" ++ shortHash report.provenance.configurationHash ++ "…`\n" ++
  "*Dataset:* `" ++ shortHash report.provenance.datasetHash ++ "…`"

def metricsText (m : RunMetrics) : String :=
  "*Metrics*\n" ++
  "• Pass rate: " ++ fixedText false 1 (m.passRate * 100) ++ "% (" ++ toString m.passedCases ++ "/" ++
    toString m.totalCases ++ ")\n" ++
  "• Error rate: " ++ fixedText false 1 (m.errorRate * 100) ++ "% (" ++ toString m.errorCases ++ "/" ++
    toString m.totalCases ++ ")\n" ++
  "• Total latency: " ++ fixedText false 1 m.totalLatencyMs ++ " ms\n" ++
  "• Total tokens: " ++ grouped m.totalTokens

/-- The section of the violated rules, when there are any. -/
def violatedBlocks (report : JsonReport) : List Block :=
  match report.rules.filter (fun rule => rule.status.value = "violated") with
  | [] => []
  | violated => [sectionBlock ("\n".intercalate ("*Violated rules*" ::
      violated.map (fun rule => "• *" ++ rule.ruleId ++ "* — " ++ rule.explanation)))]

/-- The section of the report's URL; an empty one counts as none. -/
def reportUrlBlocks (reportUrl : Option String) : List Block :=
  match reportUrl with
  | none => []
  | some url => if url = "" then [] else [sectionBlock ("*Report:* " ++ url)]

def contextBlock (report : JsonReport) : Block :=
  .ofContent "context" "elements" (.arr [textObject "mrkdwn"
    ("MRDS v" ++ report.generatorVersion ++ " | Schema " ++ reportSchemaVersion)]) (by decide)

/-- The blocks of `_build_message`, in order. -/
def messageBlocks (report : JsonReport) (reportUrl : Option String) : List Block :=
  [headerBlock report, sectionBlock (summaryText report), dividerBlock,
    sectionBlock (metricsText report.metrics)] ++
  violatedBlocks report ++ reportUrlBlocks reportUrl ++ [contextBlock report]

def buildMessage (report : JsonReport) (reportUrl : Option String) : Payload where
  text := "MRDS Evaluation: " ++ report.provenance.suite
  blocks := messageBlocks report reportUrl

end Message

section Truncation

variable (runtime : Runtime)

/-- `_message_length`. -/
def messageLength (blocks : List Block) : Nat :=
  ((Json.arr (blocks.map fun block => .obj block.fields)).dumpsAscii runtime.floatRepr).length

/-- The scan of the indices below `idx`, from the last one down: the blocks without the
first removable one it meets. -/
def popBelow (blocks : List Block) : Nat → Option (List Block)
  | 0 => none
  | idx + 1 =>
    match blocks[idx]? with
    | some block => if block.removable then some (blocks.eraseIdx idx) else popBelow blocks idx
    | none => popBelow blocks idx

theorem popBelow_eq {blocks : List Block} {idx : Nat} (within : idx ≤ blocks.length) :
    popBelow blocks idx =
      (removeLast Block.removable (blocks.take idx)).map (· ++ blocks.drop idx) := by
  induction idx with
  | zero => rfl
  | succ idx ih =>
    have inside : idx < blocks.length := within
    rw [popBelow, ih (Nat.le_of_lt inside), List.take_succ_eq_append_getElem inside,
      removeLast_concat, List.getElem?_eq_getElem inside]
    cases may : blocks[idx].removable with
    | false =>
      rw [List.drop_eq_getElem_cons inside]
      cases removeLast Block.removable (blocks.take idx) <;> simp [may]
    | true => simp [may, List.eraseIdx_eq_take_drop_succ]

/-- The scan of all indices removes the last removable block. -/
theorem popBelow_length (blocks : List Block) :
    popBelow blocks blocks.length = removeLast Block.removable blocks := by
  rw [popBelow_eq (Nat.le_refl _), List.take_length, List.drop_length]
  cases removeLast Block.removable blocks <;> simp

/-- `_truncate_blocks`. -/
def truncateBlocks (maxLen : Int) (blocks : List Block) : List Block :=
  if blocks ≠ [] ∧ maxLen < messageLength runtime blocks then
    match _popped : popBelow blocks blocks.length with
    | some shorter => truncateBlocks maxLen shorter
    | none => blocks
  else blocks
termination_by blocks.length
decreasing_by exact removeLast_shorter (popBelow_length blocks ▸ _popped)

/-- The blocks serialise to at most `maxLen` characters. -/
def Fits (maxLen : Int) (blocks : List Block) : Prop := messageLength runtime blocks ≤ maxLen

/-- The loop keeps removing the last removable block while the blocks do not fit. -/
theorem truncateBlocks_trimmed (maxLen : Int) (blocks : List Block) :
    Trimmed Block.removable (Fits runtime maxLen) blocks (truncateBlocks runtime maxLen blocks) := by
  induction blocks using truncateBlocks.induct runtime maxLen with
  | case1 blocks continues shorter popped ih =>
    have tooLong : ¬ Fits runtime maxLen blocks := Int.not_le.mpr continues.2
    have stepped : truncateBlocks runtime maxLen blocks = truncateBlocks runtime maxLen shorter := by
      rw [truncateBlocks, if_pos continues]
      split
      · rename_i other again
        exact congrArg _ (Option.some.inj (again.symm.trans popped))
      · rename_i stuck
        cases stuck.symm.trans popped
    rw [stepped]
    exact .step tooLong (popBelow_length blocks ▸ popped) ih
  | case2 blocks continues stuck =>
    have stopped : truncateBlocks runtime maxLen blocks = blocks := by
      rw [truncateBlocks, if_pos continues]
      split
      · rename_i shorter popped
        cases stuck.symm.trans popped
      · rfl
    rw [stopped]
    exact .refl (.inr (popBelow_length blocks ▸ stuck))
  | case3 blocks done =>
    rw [truncateBlocks, if_neg done]
    refine .refl ?_
    by_cases empty : blocks = []
    · exact .inr (by simp [empty, removeLast])
    · exact .inl (Int.not_lt.mp fun tooLong => done ⟨empty, tooLong⟩)

end Truncation

section Sending

/-- What one `httpx.post` does; `raised` is any exception but the two that are caught. -/
inductive PostAnswer where
  | response (isSuccess : Bool) (statusCode : Nat)
  | timeout
  | transportError
  | raised (error : PyError)

/-- What the notification does to the outside, in order. -/
inductive SlackCall where
  | post (url : String) (payload : Payload) (timeout : ℚ)
  | sleep (seconds : ℚ)

variable (runtime : Runtime) (answer : Nat → PostAnswer) (webhookUrl : String) (payload : Payload)

/-- `time.sleep` between two attempts. -/
def pause (attempt : Nat) : List SlackCall :=
  if attempt < maxRetries - 1 then [.sleep (retryBaseDelay * 2 ^ attempt)] else []

/-- The loop of `send_slack_notification` over the attempts that are left. -/
def attemptPosts : List Nat → List SlackCall × Except PyError Bool
  | [] => ([], .ok false)
  | attempt :: rest =>
    let post := SlackCall.post webhookUrl payload httpTimeout
    let again := (post :: pause attempt ++ (attemptPosts rest).1, (attemptPosts rest).2)
    match answer attempt with
    | .response true _ => ([post], .ok true)
    | .response false statusCode =>
      if 500 ≤ statusCode ∧ statusCode < 600 then again else ([post], .ok false)
    | .timeout | .transportError => again
    | .raised error => ([post], .error error)

/-- The message with its blocks truncated. -/
def boundedPayload (report : JsonReport) (reportUrl : Option String) : Payload :=
  let payload := buildMessage report reportUrl
  { payload with blocks := truncateBlocks runtime maxMessageLength payload.blocks }

/-- `send_slack_notification`, with the answer to each attempt. -/
def sendSlackNotification (report : JsonReport) (reportUrl : Option String) :
    List SlackCall × Except PyError Bool :=
  attemptPosts answer webhookUrl (boundedPayload runtime report reportUrl) (List.range maxRetries)

/-- An attempt posts the payload, and is the last one or comes before the others. -/
theorem attemptPosts_cons (attempt : Nat) (rest : List Nat) :
    (attemptPosts answer webhookUrl payload (attempt :: rest)).1 =
        [.post webhookUrl payload httpTimeout] ∨
      (attemptPosts answer webhookUrl payload (attempt :: rest)).1 =
        .post webhookUrl payload httpTimeout :: pause attempt ++
          (attemptPosts answer webhookUrl payload rest).1 := by
  simp only [attemptPosts]
  split
  · exact .inl rfl
  · split
    · exact .inr rfl
    · exact .inl rfl
  · exact .inr rfl
  · exact .inr rfl
  · exact .inl rfl

variable {answer : Nat → PostAnswer} {webhookUrl : String} {payload : Payload}

/-- Every attempt posts the same payload. -/
theorem attemptPosts_payload {attempts : List Nat} {url : String} {posted : Payload} {timeout : ℚ}
    (called : .post url posted timeout ∈ (attemptPosts answer webhookUrl payload attempts).1) :
    posted = payload := by
  induction attempts with
  | nil => cases called
  | cons attempt rest ih =>
    have paused : SlackCall.post url posted timeout ∉ pause attempt := by
      unfold pause
      split <;> simp
    rcases attemptPosts_cons answer webhookUrl payload attempt rest with last | again
    · rw [last] at called
      cases List.mem_singleton.mp called
      rfl
    · rw [again, List.cons_append, List.mem_cons, List.mem_append] at called
      rcases called with own | sleeping | later
      · cases own
        rfl
      · exact absurd sleeping paused
      · exact ih later

end Sending

section Bounds

theorem removable_ofContent {kind key : String} {content : Json} {other : key ≠ "type"} :
    (Block.ofContent kind key content other).removable =
      decide (kind ∈ ["section", "context", "divider"]) := by
  simp [Block.removable, Block.ofContent, lookup, other]

/-- Every block of a message but its header may be removed. -/
theorem messageBlocks_essential (report : JsonReport) (reportUrl : Option String) :
    (messageBlocks report reportUrl).filter (fun block => !block.removable) =
      [headerBlock report] := by
  have header : (headerBlock report).removable = false := by
    rw [headerBlock, removable_ofContent]
    decide
  have sections (text : String) : (sectionBlock text).removable = true := by
    rw [sectionBlock, removable_ofContent]
    decide
  have divider : dividerBlock.removable = true := by
    simp [Block.removable, dividerBlock, lookup]
  have context : (contextBlock report).removable = true := by
    rw [contextBlock, removable_ofContent]
    decide
  have violated : (violatedBlocks report).filter (fun block => !block.removable) = [] := by
    unfold violatedBlocks
    split <;> simp [sections]
  have linked : (reportUrlBlocks reportUrl).filter (fun block => !block.removable) = [] := by
    unfold reportUrlBlocks
    split
    · rfl
    · split <;> simp [sections]
  simp only [messageBlocks, List.filter_append, violated, linked, List.filter_cons, List.filter_nil,
    header, sections, divider, context, Bool.not_false, Bool.not_true, Bool.false_eq_true, if_true,
    if_false, List.append_nil]

theorem length_headerText (report : JsonReport) :
    (headerText report).length ≤ report.provenance.suite.length + 20 := by
  have emoji : (outcomeEmoji report.gateOutcome).length ≤ 2 := by
    cases report.gateOutcome <;> decide
  have label : " MRDS Evaluation: ".length = 18 := by decide
  simp only [headerText, String.length_append, label]
  omega

variable (runtime : Runtime)

/-- The header alone serialises to its text and a frame of fixed length. -/
theorem messageLength_header (report : JsonReport) :
    messageLength runtime [headerBlock report] ≤ 12 * (headerText report).length + 70 := by
  have text := Json.length_quotedAscii (headerText report)
  have frame : "[".length = 1 ∧ "]".length = 1 ∧ "\x7b".length = 1 ∧ "\x7d".length = 1 ∧
      ": ".length = 2 ∧ ", ".length = 2 := by decide
  have names : (Json.quotedAscii "type").length = 6 ∧ (Json.quotedAscii "header").length = 8 ∧
      (Json.quotedAscii "text").length = 6 ∧ (Json.quotedAscii "plain_text").length = 12 := by decide
  simp only [messageLength, headerBlock, Block.ofContent, textObject, Json.dumpsAscii,
    Json.dumpsAsciiItems, Json.dumpsAsciiFields, List.map_cons, List.map_nil,
    String.intercalate_cons_cons, String.intercalate_singleton, String.length_append]
  omega

/-- A message that is cut to at least the length of its header keeps it and fits. -/
theorem truncated_message (report : JsonReport) (reportUrl : Option String) {maxLen : Int}
    (headerFits : Fits runtime maxLen [headerBlock report]) :
    Fits runtime maxLen (truncateBlocks runtime maxLen (buildMessage report reportUrl).blocks) ∧
      headerBlock report ∈ truncateBlocks runtime maxLen (buildMessage report reportUrl).blocks := by
  have trimmed := truncateBlocks_trimmed runtime maxLen (buildMessage report reportUrl).blocks
  have essential := trimmed.essential.trans (messageBlocks_essential report reportUrl)
  constructor
  · by_contra tooLong
    have exhausted := trimmed.exhausted tooLong
    rw [List.filter_eq_self.mpr fun block member => by simp [exhausted block member]] at essential
    rw [essential] at tooLong
    exact tooLong headerFits
  · have kept : headerBlock report ∈ [headerBlock report] := List.mem_singleton_self _
    rw [← essential] at kept
    exact List.mem_of_mem_filter kept

theorem headerBlock_fits {report : JsonReport} (bounded : report.provenance.suite.length ≤ 128) :
    Fits runtime maxMessageLength [headerBlock report] := by
  have serialised := messageLength_header runtime report
  have text := length_headerText report
  have whole : messageLength runtime [headerBlock report] ≤ 3800 := by omega
  exact Int.ofNat_le.mpr whole

/-- The reports built from a valid specification have a short suite. -/
theorem suite_bounded {version : String} {specification : EvaluationSpecificationV1}
    (valid : specification.Valid) {evaluation : LocalEvaluationReport} {report : JsonReport}
    (built : buildJsonReport version specification evaluation = .ok report) :
    report.provenance.suite.length ≤ 128 := by
  obtain ⟨cases, _, made⟩ := bind_eq_ok.mp built
  cases made
  exact valid.1.lengthWithin.2

end Bounds

/-- Truncation removes blocks only from the end, only as long as they do not fit, and
never an essential one. So a notification of a report with a short suite, which every report of a
valid specification has, posts the header and fits, whatever its URL and its rules. -/
theorem notification_fits (runtime : Runtime) :
    (∀ maxLen blocks,
      Trimmed Block.removable (Fits runtime maxLen) blocks (truncateBlocks runtime maxLen blocks) ∧
      (truncateBlocks runtime maxLen blocks).Sublist blocks ∧
      (truncateBlocks runtime maxLen blocks).filter (fun block => !block.removable) =
        blocks.filter (fun block => !block.removable)) ∧
    (∀ version specification evaluation report, specification.Valid →
      buildJsonReport version specification evaluation = .ok report →
      report.provenance.suite.length ≤ 128) ∧
    ∀ report : JsonReport, report.provenance.suite.length ≤ 128 →
      ∀ answer webhookUrl reportUrl url payload timeout,
        .post url payload timeout ∈
          (sendSlackNotification runtime answer webhookUrl report reportUrl).1 →
        messageLength runtime payload.blocks ≤ 3800 ∧ headerBlock report ∈ payload.blocks := by
  refine ⟨?_, fun _ _ _ _ valid built => suite_bounded valid built, ?_⟩
  · intro maxLen blocks
    have trimmed := truncateBlocks_trimmed runtime maxLen blocks
    exact ⟨trimmed, trimmed.sublist, trimmed.essential⟩
  · intro report bounded answer webhookUrl reportUrl url payload timeout called
    obtain rfl := attemptPosts_payload called
    obtain ⟨fits, kept⟩ := truncated_message runtime report reportUrl
      (headerBlock_fits runtime bounded)
    exact ⟨Int.ofNat_le.mp fits, kept⟩

theorem notification_fits_greeting : ∃ report,
    buildJsonReport "0.1.0" (plainDocument "Say ok" ["first"] {}) greetingReport = .ok report ∧
    .post "hook" (boundedPayload Runtime.ascii report (some "url")) 10 ∈
      (sendSlackNotification Runtime.ascii (fun _ => .timeout) "hook" report (some "url")).1 ∧
    messageLength Runtime.ascii (boundedPayload Runtime.ascii report (some "url")).blocks ≤ 3800 ∧
    headerBlock report ∈ (boundedPayload Runtime.ascii report (some "url")).blocks := by
  have summarised : Summarised greetingReport := by decide
  obtain ⟨report, built⟩ := buildJsonReport_returns.mpr summarised
  obtain ⟨_, shortSuite, bounded⟩ := notification_fits Runtime.ascii
  have short := shortSuite "0.1.0" _ greetingReport report greeting_valid built
  have posted : .post "hook" (boundedPayload Runtime.ascii report (some "url")) 10 ∈
      (sendSlackNotification Runtime.ascii (fun _ => .timeout) "hook" report (some "url")).1 :=
    List.mem_cons_self
  exact ⟨report, built, posted,
    bounded report short (fun _ => .timeout) "hook" (some "url") "hook" _ 10 posted⟩

end RegressionDetection.Notifications
