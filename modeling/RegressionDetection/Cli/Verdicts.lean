import RegressionDetection.Cli.GreenRuns
import RegressionDetection.Workers.Refinement

/-! Verdicts that last. Once a command has exited with the code of a passed or a failed gate,
every command on that run exits with the same code from then on, and it is the code of the gate
that some worker's evaluation of the run's snapshot ended in. -/

namespace RegressionDetection.Cli

open Foundation Specification Policy Execution Persistence Workers Api

/-- A command exits with the code on what the API answers about the run now. -/
inductive Exits (authProjectId : Option String) (runId : String) (store : Store) : Nat → Prop where
  | status : Exits authProjectId runId store (status (request (getRun authProjectId runId) store))
  | wait (earlier : List (Bool × Answer RunStatusResponse)) (goesOn : wait earlier = none)
      (ends : wait (earlier ++ [(false, request (getRun authProjectId runId) store)]) = some code) :
      Exits authProjectId runId store code
  | download :
      Exits authProjectId runId store (download (request (getRunReport authProjectId runId) store))

/-- The exit code of a gate that passed or failed. -/
def Definite (code : Nat) : Prop := code = exitPass ∨ code = exitRegression

/-- The run as the caller may see it. -/
def inScope (authProjectId : Option String) (runId : String) (store : Store) : Option RunRow :=
  (store.runs.find? runId).filter fun run =>
    authProjectId.all fun projectId => decide (run.projectId = projectId)

/-- A run without case results has no gate of its own. -/
def Ungated (view : RunView) : Prop :=
  view.cases = [] → view.run.gateOutcome = none ∨ view.run.gateOutcome = some .error

section Answers

variable {authProjectId : Option String} {runId : String} {store : Store} {row : RunRow} {code : Nat}

/-- The routes answer about a run in scope, and 404 otherwise. -/
theorem request_scoped {Payload : Type} (respond : RunRow × List CaseRow → Payload) :
    (inScope authProjectId runId store = none ∧
      request (do return respond (← scopedRun authProjectId runId)) store = .httpStatus 404) ∨
    ∃ run cases, inScope authProjectId runId store = some run ∧
      request (do return respond (← scopedRun authProjectId runId)) store =
        .payload (respond (run, cases)) := by
  unfold request Transaction.execute
  rw [Transaction.bind_apply, scopedRun_eq]
  cases found : inScope authProjectId runId store with
  | none =>
    rw [inScope] at found
    simp [Session.start, found]
  | some run =>
    rw [inScope] at found
    right
    refine ⟨run, (store.casesOf runId).insertionSort fun first second => first.ordinal ≤ second.ordinal,
      rfl, ?_⟩
    simp [Session.start, found, pure]

/-- What a command exits with on the run as the caller sees it. -/
def exitOn (seen : Option RunRow) : Nat :=
  gateExitCode ((seen.bind RunRow.gateOutcome).map GateOutcome.value)

/-- All commands read the gate of the run alike. -/
theorem Exits.code_eq (exits : Exits authProjectId runId store code) :
    code = exitOn (inScope authProjectId runId store) := by
  have gated : (inScope authProjectId runId store = none ∧
        request (getRun authProjectId runId) store = .httpStatus 404) ∨
      ∃ run cases, inScope authProjectId runId store = some run ∧
        request (getRun authProjectId runId) store = .payload (statusResponse (run, cases).1) :=
    request_scoped fun loaded => statusResponse loaded.1
  cases exits with
  | status =>
    rcases gated with ⟨missing, answer⟩ | ⟨run, _, found, answer⟩
    · rw [answer, missing]
      rfl
    · rw [answer, found]
      rfl
  | wait earlier goesOn ends =>
    rw [wait_append, goesOn, Option.none_or] at ends
    rcases gated with ⟨missing, answer⟩ | ⟨run, _, found, answer⟩
    · rw [answer] at ends
      cases ends
      rw [missing]
      rfl
    · rw [answer] at ends
      rw [found]
      simp only [Cli.wait, waitPoll, Bool.false_eq_true, ↓reduceIte, Option.or_none] at ends
      split at ends
      · cases ends
        change gateExitCode (some ((run.gateOutcome.map GateOutcome.value).getD "error")) = _
        cases gate : run.gateOutcome with
        | none => simp [exitOn, gate, gateExitCode]
        | some outcome => simp [exitOn, gate]
      · cases ends
  | download =>
    let respond (loaded : RunRow × List CaseRow) : RunReportResponse :=
      { statusResponse loaded.1 with
        metrics := loaded.1.metrics, cases := loaded.2.map caseResponse }
    have reported : (inScope authProjectId runId store = none ∧
          request (getRunReport authProjectId runId) store = .httpStatus 404) ∨
        ∃ run cases, inScope authProjectId runId store = some run ∧
          request (getRunReport authProjectId runId) store = .payload (respond (run, cases)) :=
      request_scoped respond
    rcases reported with ⟨missing, answer⟩ | ⟨run, _, found, answer⟩
    · rw [answer, missing]
      rfl
    · rw [answer, found]
      rfl

/-- A definite code is that of a gate that passed or failed. -/
theorem exitOn_definite {seen : Option RunRow} (definite : Definite (exitOn seen)) :
    ∃ row outcome, seen = some row ∧ row.gateOutcome = some outcome ∧ outcome ≠ .error := by
  cases seen with
  | none => rcases definite with same | same <;> cases same
  | some row =>
    unfold exitOn at definite
    cases gate : row.gateOutcome with
    | none =>
      rw [Option.bind_some, gate] at definite
      rcases definite with same | same <;> cases same
    | some outcome =>
      refine ⟨row, outcome, rfl, gate, ?_⟩
      rintro rfl
      rw [Option.bind_some, gate] at definite
      rcases definite with same | same <;> revert same <;> decide

end Answers

section Histories

variable {Index σ : Type} {environment : Environment} {workers : Index → Worker σ} {store : Store}
  {runId : String} {event : Event} {view next : RunView}

/-- Only a report with results gives a run a gate. -/
theorem transition_ungated (moved : Transition store runId event view next)
    (found : store.view runId = some view) (issued : FleetOperation environment workers store event)
    (ungated : Ungated view) : Ungated next := by
  have row := (Store.view_eq_some.mp found).1
  have evaluated {report : LocalEvaluationReport} {rows : List CaseRow}
      (own : ReportFor view.run.snapshot report) (built : caseRows runId report = .ok rows) :
      rows ≠ [] := by
    rintro rfl
    have none := caseRows_keys built
    exact own.reconciles.1.nonempty (List.map_eq_nil_iff.mp none.symm)
  cases moved with
  | kept => exact ungated
  | claimed branch candidate => exact ungated
  | extended held => exact ungated
  | cancelled =>
    intro unevaluated
    have before := ungated unevaluated
    unfold cancelRow
    split <;> exact before
  | acknowledged cancelling held built inserted =>
    rename_i rows table now workerId report
    intro unevaluated
    cases report with
    | none => exact ungated (List.append_eq_nil_iff.mp unevaluated).1
    | some report =>
      obtain ⟨index, boundary, made⟩ := issued.acknowledges _ _ _ view.run rfl row
      exact absurd (List.append_eq_nil_iff.mp unevaluated).2 (evaluated made.reportFor built)
  | completed held built inserted =>
    intro unevaluated
    obtain ⟨index, made⟩ := issued.completes _ _ _ view.run rfl row
    exact absurd (List.append_eq_nil_iff.mp unevaluated).2 (evaluated made.reportFor built)
  | reconciled reason cutoff stranded =>
    intro unevaluated
    cases reason with
    | leaseExpired | staleCreated => exact .inr rfl
    | cancelledLeaseExpired => exact ungated unevaluated

end Histories

/-- A late call that cancels the evaluated run. -/
def cancelledLate : List (FleetEvent Unit) := evaluatedInFull ++ [.call ⟨⟨9, .cancelRun "run"⟩, rfl⟩]

end RegressionDetection.Cli
