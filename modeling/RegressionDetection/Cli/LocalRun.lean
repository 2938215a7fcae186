import RegressionDetection.Cli.Commands
import RegressionDetection.Execution.OrderedPrefix
import RegressionDetection.Execution.Simulation
import RegressionDetection.Providers.Fake
import RegressionDetection.Workers.Refinement

/-! `mrds run-local`, against the durable path: workers that run the same scripted provider store
what the local run reports. -/

namespace RegressionDetection.Cli

open Foundation Specification Providers Execution Persistence Workers

/-- How `run_local` ends: in one of its two handlers, with an exception that it lets through, or
with the report, which it writes out whatever the gate says. -/
inductive LocalRun where
  | inputFailed
  | limitExceeded (code message : String)
  | raised
  | completed (report : LocalEvaluationReport)

/-- `run_local` on what loading the specification and the fixture gives. -/
def runLocal (environment : Environment) (specification : Except PyError EvaluationSpecification)
    (document : Except PyError (List (String × FakeResponseDocument))) : LocalRun :=
  match specification, document.bind loadFakeResponses with
  | .ok specification, .ok responses =>
    match executeLocalEvaluation environment (FakeProvider.provider ⟨responses⟩ environment.runtime)
        specification neverCancelled ((), false) with
    | .ok (report, (_, raised)) => if raised then .raised else .completed report
    | .error (.limitExceeded code message) => .limitExceeded code message
    | .error _ => .raised
  | _, _ => .inputFailed

/-- Every success that the fixture scripts for a case of the specification fits into a result. -/
def Serves (fake : FakeProvider) (specification : EvaluationSpecification) : Prop :=
  ∀ case ∈ specification.val.cases, ∀ response, lookup fake.responses case.key = some response →
    FakeProvider.FakeResponse.Fits response specification.val.model.modelId

/-- The provider answers the requests of the specification as `FakeProvider` does. -/
def Plays {σ : Type} (environment : Environment) (fake : FakeProvider)
    (specification : EvaluationSpecification) (provider : Provider σ) : Prop :=
  ∀ state request, BuiltFor environment specification request →
    fake.generate environment.runtime request = .ok (provider.generate state request).1

section Agreement

variable {σ : Type} {environment : Environment} {fake : FakeProvider}
  {specification : EvaluationSpecification} {provider : Provider σ}

theorem request_modelId {requestId modelId : String} {messages : List InferenceMessage}
    {temperature timeoutSeconds : ℚ} {maxOutputTokens : Nat} {request : InferenceRequest}
    (built : InferenceRequest.new requestId modelId messages temperature maxOutputTokens
      timeoutSeconds = .ok request) : request.modelId = modelId := by
  unfold InferenceRequest.new at built
  split_ifs at built
  cases built
  rfl

/-- On a fixture that serves the specification `FakeProvider` returns, whatever is asked. -/
theorem plays_provider (serves : Serves fake specification) :
    Plays environment fake specification (fake.provider environment.runtime) := by
  rintro state request ⟨case, listed, built⟩
  have key : request.requestId = case.key := (buildRequest_fields built).1
  have returns : ∃ result, fake.generate environment.runtime request = .ok result := by
    cases found : lookup fake.responses request.requestId with
    | none =>
      have identifier : IsIdentifier request.requestId := by
        obtain ⟨_, _, _, _, _, _, _, cases, _⟩ := specification.property
        rw [key]
        exact (cases case listed).1
      obtain ⟨error, missing, _⟩ := FakeProvider.generate_missing identifier found
      exact ⟨_, missing⟩
    | some response =>
      have fits := serves case listed response (key ▸ found)
      obtain ⟨messages, _, made⟩ := bind_eq_ok.mp built
      rw [← request_modelId made] at fits
      obtain ⟨result, scripted⟩ := FakeProvider.scripted_returns_iff.mpr fits
      refine ⟨result, ?_⟩
      unfold FakeProvider.generate
      rw [found]
      exact scripted
  obtain ⟨result, generated⟩ := returns
  simp only [FakeProvider.provider, Provider.raising, generated]

/-- Retrying a provider that always answers the request alike changes nothing. -/
theorem retry_constant {inner : Provider σ} {request : InferenceRequest} {result : InferenceResult}
    (always : ∀ state, (inner.generate state request).1 = result) (retries : Nat) (state : σ) :
    (retry inner request retries state).1 = result := by
  induction retries generalizing state with
  | zero => exact always state
  | succ retries ih =>
    unfold retry
    dsimp only
    split
    · exact always state
    · exact ih _

/-- `generate` has not raised in the local run. -/
def Unraised (_ : σ) (state : Unit × Bool) : Prop := state = ((), false)

theorem Unraised.initial (start : σ) : Unraised start ((), false) := rfl

/-- A worker over a provider that plays the fixture executes as the local run does. -/
theorem retrying_simulates {worker : Worker σ}
    (plays : Plays environment fake specification worker.provider) :
    Simulates Unraised (BuiltFor environment specification) worker.retrying
      (fake.provider environment.runtime) where
  results := by
    intro state played request _ built
    have constant (other : σ) : (worker.provider.generate other request).1 =
        ((fake.provider environment.runtime).generate played request).1 := by
      simp only [FakeProvider.provider, Provider.raising, plays other request built]
    exact retry_constant constant worker.maxRetries state
  states := by
    intro state played request unraised built
    show ((fake.provider environment.runtime).generate played request).2 = ((), false)
    simp only [FakeProvider.provider, Provider.raising, plays state request built]
    exact unraised

end Agreement

/-- The local run and the durable path agree. When the providers of all workers play a fixture, a
run that the fleet has completed, whatever interrupted it before and however often its calls were
retried, stores the evidence and the gate that `run_local` reports for its snapshot. -/
theorem localRun_agrees {Index σ : Type} [DecidableEq Index] (environment : Environment)
    (workers : Index → Worker σ) {fleet : Fleet Index σ} (events : List (FleetEvent Index))
    (empty : NoRuns fleet.store) (idle : fleet.AllIdle) {runId : String} {view : RunView}
    (found : (run (fleetStep environment workers) fleet events).store.view runId = some view)
    (completed : view.run.state = .completed) (document : List (String × FakeResponseDocument))
    (responses : List (String × FakeResponse)) (loaded : loadFakeResponses document = .ok responses)
    (plays : ∀ index, Plays environment ⟨responses⟩ view.run.snapshot (workers index).provider) :
    ∃ report, runLocal environment (.ok view.run.snapshot) (.ok document) = .completed report ∧
      StoredFrom report view := by
  have evidenced := (fleet_keeps environment workers events empty idle).1.stored runId view found
  rcases evidenced with ⟨_, uncompleted⟩ | ⟨_, index, boundary, report, evaluates, stored, full⟩
  · exact absurd completed uncompleted
  · obtain rfl := full completed
    obtain ⟨start, later, returned⟩ := evaluates
    have agrees := executeLocalEvaluation_simulates (retrying_simulates (plays index)) (setFrom none)
      (Unraised.initial start)
    obtain ⟨⟨reported, raised⟩, locally, same, unraised⟩ := agrees.returned returned
    dsimp only at same unraised
    subst same unraised
    have uncancelled : setFrom none = neverCancelled := rfl
    rw [uncancelled] at locally
    refine ⟨report, ?_, stored⟩
    simp only [runLocal, Except.bind, loaded, locally]
    rfl

/-- The fixture of one case. -/
def sampleFixture : List (String × FakeResponseDocument) :=
  [("first", { output := some "ok", inputTokens := 3, outputTokens := 1, latencyMs := 12,
               cost := some (1 / 2), outcome := rfl, latencyBounded := by decide })]

def sampleResponses : List (String × FakeResponse) :=
  [("first", { output := some "ok", inputTokens := 3, outputTokens := 1, latencyMs := 12,
               cost := some (1 / 2), outcome := rfl, latencyBounded := by decide,
               costBounded := by simp })]

def scriptedWorker : Worker Unit :=
  { sampleWorker with
    provider.generate := fun state request =>
      (((FakeProvider.provider ⟨sampleResponses⟩ Environment.plain.runtime).generate ((), false) request).1,
        state) }

theorem loadFakeResponses_sample : loadFakeResponses sampleFixture = .ok sampleResponses := by
  simp [loadFakeResponses, FakeResponseDocument.response, sampleFixture, sampleResponses]

theorem promotedRun_locally : ∃ view report,
    (run (fleetStep Environment.plain fun _ => scriptedWorker) soloFleet promotedRun).store.view "run" =
        some view ∧
      runLocal Environment.plain (.ok view.run.snapshot) (.ok sampleFixture) = .completed report ∧
      StoredFrom report view := by
  have stored : ((run (fleetStep Environment.plain fun _ => scriptedWorker) soloFleet
      promotedRun).store.view "run").any (fun view => decide (view.run.state = .completed) &&
        decide (view.run.snapshot.val.model.modelId.length ≤ 295)) = true := by decide +kernel
  obtain ⟨view, found, both⟩ := (Option.any_eq_true _ _).mp stored
  simp only [Bool.and_eq_true, decide_eq_true_eq] at both
  have serves : Serves ⟨sampleResponses⟩ view.run.snapshot := by
    intro case listed response scripted _
    obtain ⟨_, rfl⟩ : _ ∧ response = _ := by simpa [sampleResponses] using mem_of_lookup scripted
    exact ⟨by decide, both.2⟩
  obtain ⟨report, reported, own⟩ := localRun_agrees Environment.plain (fun _ => scriptedWorker)
    promotedRun ⟨rfl, rfl, rfl⟩ (fun _ => ⟨false, rfl⟩) found both.1 sampleFixture sampleResponses
    loadFakeResponses_sample (fun _ _ request built => plays_provider serves ((), false) request built)
  exact ⟨view, report, found, reported, own⟩

end RegressionDetection.Cli
