import RegressionDetection.Api.Runs

/-! The commands that report on a persisted run: the exit code each makes of what the API
answers. What they print is left out. -/

namespace RegressionDetection.Cli

open Foundation Policy Api
open Persistence (Store RunRow CaseRow)

def exitPass : Nat := 0
def exitRegression : Nat := 1
def exitError : Nat := 2
def exitTimeout : Nat := 3

/-- `_gate_exit_code`. -/
def gateExitCode (gateOutcome : Option String) : Nat :=
  if gateOutcome = some "pass" then exitPass
  else if gateOutcome = some "fail" then exitRegression
  else exitError

/-- The outcome of an HTTP request: a payload, or what `httpx` raises. -/
inductive Answer (Payload : Type) where
  | payload (body : Payload)
  | httpStatus (code : Nat)
  | timeout
  | failure

/-- `payload.get("gate_outcome")`. -/
def payloadGate (body : RunStatusResponse) : Option String := body.gateOutcome.map GateOutcome.value

/-- `status`, with or without `--json`. -/
def status : Answer RunStatusResponse → Nat
  | .payload body => gateExitCode (payloadGate body)
  | .httpStatus _ => exitError
  | .timeout => exitTimeout
  | .failure => exitError

/-- One poll of `wait`: an exit code, or none to poll again. -/
def waitPoll : Answer RunStatusResponse → Option Nat
  | .payload body =>
    if body.state = .completed ∨ body.state = .failed ∨ body.state = .cancelled then
      some (gateExitCode (some ((payloadGate body).getD "error")))
    else none
  | .httpStatus _ => some exitError
  | .timeout => none
  | .failure => some exitError

/-- The loop of `wait` over its polls; the flag says that the deadline has passed. -/
def wait : List (Bool × Answer RunStatusResponse) → Option Nat
  | [] => none
  | (expired, answer) :: rest =>
    if expired then some exitTimeout else (waitPoll answer).or (wait rest)

/-- `download`. -/
def download : Answer RunReportResponse → Nat
  | .payload body => gateExitCode (payloadGate body.toRunStatusResponse)
  | .httpStatus _ => exitError
  | .timeout => exitTimeout
  | .failure => exitError

/-- What a GET route answers about a store; an exception no route handles is a 500. -/
def request (route : Route α) (store : Store) : Answer α :=
  match (route.execute store).1 with
  | .ok body => .payload body
  | .error (.http code _) => .httpStatus code
  | .error (.raised _) => .httpStatus 500

/-- A command exits with code 0 on what the API answers about the run now: `wait` after
any polls on which it goes on. -/
inductive Green (authProjectId : Option String) (runId : String) (store : Store) : Prop where
  | status (exits : status (request (getRun authProjectId runId) store) = exitPass)
  | wait (earlier : List (Bool × Answer RunStatusResponse)) (goesOn : wait earlier = none)
      (exits : wait (earlier ++ [(false, request (getRun authProjectId runId) store)]) = some exitPass)
  | download (exits : download (request (getRunReport authProjectId runId) store) = exitPass)

section Exits

variable {authProjectId : Option String} {runId : String} {store : Store}

theorem gateExitCode_eq_pass {gateOutcome : Option String} :
    gateExitCode gateOutcome = exitPass ↔ gateOutcome = some "pass" := by
  unfold gateExitCode
  split
  · simp_all
  · split <;> simp_all [exitPass, exitRegression, exitError]

theorem payloadGate_eq_pass {body : RunStatusResponse} :
    payloadGate body = some "pass" ↔ body.gateOutcome = some .pass := by
  unfold payloadGate
  cases body.gateOutcome with
  | none => simp
  | some outcome => cases outcome <;> simp [GateOutcome.value]

theorem wait_append (earlier later : List (Bool × Answer RunStatusResponse)) :
    wait (earlier ++ later) = (wait earlier).or (wait later) := by
  induction earlier with
  | nil => rfl
  | cons poll rest ih =>
    obtain ⟨expired, answer⟩ := poll
    cases expired
    · simp [wait, ih, Option.or_assoc]
    · simp [wait]

theorem waitPoll_pass {body : RunStatusResponse} (exits : waitPoll (.payload body) = some exitPass) :
    body.gateOutcome = some .pass := by
  simp only [waitPoll] at exits
  split at exits
  · have passed := gateExitCode_eq_pass.mp (Option.some.inj exits)
    refine payloadGate_eq_pass.mp ?_
    cases gate : payloadGate body with
    | none => simp [gate] at passed
    | some text => simpa [gate] using passed
  · cases exits

/-- A run route answers with what it makes of the stored row. -/
theorem request_scopedRun {Payload : Type} (respond : RunRow × List CaseRow → Payload) {body : Payload}
    (answered : request (do return respond (← scopedRun authProjectId runId)) store = .payload body) :
    ∃ row cases, store.runs.find? runId = some row ∧ body = respond (row, cases) := by
  unfold request Transaction.execute at answered
  rw [Transaction.bind_apply, scopedRun_eq] at answered
  cases found : (store.runs.find? runId).filter fun run =>
      authProjectId.all fun projectId => decide (run.projectId = projectId) with
  | none =>
    simp only [Session.start, found] at answered
    cases answered
  | some row =>
    simp only [Session.start, found] at answered
    cases answered
    exact ⟨row, _, (Option.filter_eq_some_iff.mp found).1, rfl⟩

theorem request_getRun {body : RunStatusResponse}
    (answered : request (getRun authProjectId runId) store = .payload body) :
    ∃ row, store.runs.find? runId = some row ∧ body = statusResponse row := by
  obtain ⟨row, cases, found, rfl⟩ := request_scopedRun (fun loaded => statusResponse loaded.1) answered
  exact ⟨row, found, rfl⟩

theorem request_getRunReport {body : RunReportResponse}
    (answered : request (getRunReport authProjectId runId) store = .payload body) :
    ∃ row, store.runs.find? runId = some row ∧ body.toRunStatusResponse = statusResponse row := by
  obtain ⟨row, cases, found, rfl⟩ := request_scopedRun
    (fun loaded => ({ statusResponse loaded.1 with
      metrics := loaded.1.metrics, cases := loaded.2.map caseResponse } : RunReportResponse)) answered
  exact ⟨row, found, rfl⟩

/-- The commands are green on a stored run whose gate passed only. -/
theorem Green.gate (green : Green authProjectId runId store) :
    ∃ row, store.runs.find? runId = some row ∧ row.gateOutcome = some .pass := by
  cases green with
  | status exits =>
    cases answer : request (getRun authProjectId runId) store with
    | payload body =>
      obtain ⟨row, found, rfl⟩ := request_getRun answer
      rw [answer] at exits
      exact ⟨row, found, payloadGate_eq_pass.mp (gateExitCode_eq_pass.mp exits)⟩
    | httpStatus code | timeout | failure =>
      rw [answer] at exits
      cases exits
  | wait earlier goesOn exits =>
    rw [wait_append, goesOn, Option.none_or] at exits
    cases answer : request (getRun authProjectId runId) store with
    | payload body =>
      obtain ⟨row, found, rfl⟩ := request_getRun answer
      have polled : waitPoll (.payload (statusResponse row)) = some exitPass := by
        simpa [Cli.wait, answer] using exits
      exact ⟨row, found, waitPoll_pass polled⟩
    | httpStatus code | timeout | failure =>
      rw [answer] at exits
      cases exits
  | download exits =>
    cases answer : request (getRunReport authProjectId runId) store with
    | payload body =>
      obtain ⟨row, found, same⟩ := request_getRunReport answer
      rw [answer] at exits
      have passed := payloadGate_eq_pass.mp (gateExitCode_eq_pass.mp exits)
      exact ⟨row, found, by simpa [same, statusResponse] using passed⟩
    | httpStatus code | timeout | failure =>
      rw [answer] at exits
      cases exits

end Exits

end RegressionDetection.Cli
