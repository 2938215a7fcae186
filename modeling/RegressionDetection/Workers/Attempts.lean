import RegressionDetection.Execution.Cancellation
import RegressionDetection.Execution.Recording
import RegressionDetection.Execution.Simulation
import RegressionDetection.Workers.Retry

/-! The provider calls of an execution with retries. They are grouped by case, and each group is
one request asked until an answer is decisive or the budget is spent. -/

namespace RegressionDetection.Workers

open Foundation Specification Providers Execution

/-- The calls that were made upstream for one answered call. -/
structure Attempts (maxRetries : Nat) (call : Exchange) (attempts : List Exchange) : Prop where
  asked : ∀ attempt ∈ attempts, attempt.request = call.request
  transient : ∀ attempt ∈ attempts.dropLast, IsRetryable attempt.result
  returned : attempts.getLast?.map Exchange.result = some call.result
  within : attempts.length ≤ maxRetries + 1
  settled : IsDecisive call.result ∨ attempts.length = maxRetries + 1

section Groups

variable {σ : Type} {inner : Provider σ} {request : InferenceRequest}

theorem Attempts.ne_nil {maxRetries : Nat} {call : Exchange} {attempts : List Exchange}
    (group : Attempts maxRetries call attempts) : attempts ≠ [] := by
  rintro rfl
  cases group.returned

/-- An attempt that settles the call. -/
theorem Attempts.once {maxRetries : Nat} {result : InferenceResult}
    (settles : IsDecisive result ∨ maxRetries = 0) :
    Attempts maxRetries ⟨request, result⟩ [⟨request, result⟩] where
  asked := by simp
  transient := by simp
  returned := rfl
  within := Nat.le_add_left 1 maxRetries
  settled := settles.imp_right fun none => congrArg (· + 1) none.symm

/-- A failed attempt before the others. -/
theorem Attempts.after {maxRetries : Nat} {result failed : InferenceResult}
    {attempts : List Exchange} (again : IsRetryable failed)
    (group : Attempts maxRetries ⟨request, result⟩ attempts) :
    Attempts (maxRetries + 1) ⟨request, result⟩ (⟨request, failed⟩ :: attempts) where
  asked := List.forall_mem_cons.mpr ⟨rfl, group.asked⟩
  transient := by
    rw [List.dropLast_cons_of_ne_nil group.ne_nil]
    exact List.forall_mem_cons.mpr ⟨again, group.transient⟩
  returned := by
    rw [List.getLast?_cons_of_ne_nil group.ne_nil]
    exact group.returned
  within := Nat.succ_le_succ group.within
  settled := group.settled.imp_right fun all => congrArg (· + 1) all

/-- A call with retries logs its attempts, and is not changed by the log. -/
theorem retry_recording (retries : Nat) (state : σ) (log : List Exchange) :
    ∃ attempts, retry inner.recording request retries (state, log) =
        ((retry inner request retries state).1,
          ((retry inner request retries state).2, log ++ attempts)) ∧
      Attempts retries ⟨request, (retry inner request retries state).1⟩ attempts := by
  induction retries generalizing state log with
  | zero => exact ⟨_, rfl, .once (.inr rfl)⟩
  | succ retries ih =>
    unfold retry Provider.recording
    dsimp only
    have decisive : isDecisive (inner.generate state request).1 = true ↔
        ((inner.generate state request).1.status ≠ .error ∨
          (inner.generate state request).1.error.all (fun error => !error.retryable) = true) := by
      simp [isDecisive]
    split
    · rename_i settles
      exact ⟨_, rfl, .once (.inl ((isDecisive_iff _).mp (decisive.mpr settles)))⟩
    · rename_i unsettled
      obtain ⟨attempts, logged, group⟩ := ih (inner.generate state request).2
        (log ++ [⟨request, (inner.generate state request).1⟩])
      have again : IsRetryable (inner.generate state request).1 :=
        (isRetryable_iff _).mpr (Bool.eq_false_iff.mpr (mt decisive.mp unsettled))
      refine ⟨_, ?_, group.after again⟩
      rw [← List.append_cons] at logged
      exact logged

/-- The log of the calls, and the log of the attempts, from the same state. -/
def SameCalls (maxRetries : Nat) (outer inner : σ × List Exchange) : Prop :=
  outer.1 = inner.1 ∧ ∃ groups, inner.2 = groups.flatten ∧
    List.Forall₂ (Attempts maxRetries) outer.2 groups

theorem retryProvider_simulates (inner : Provider σ) (maxRetries : Nat)
    (asked : InferenceRequest → Prop) :
    Simulates (SameCalls maxRetries) asked (retryProvider inner maxRetries).recording
      (retryProvider inner.recording maxRetries) := by
  constructor
  all_goals
    rintro ⟨state, calls⟩ ⟨_, log⟩ request ⟨rfl, groups, rfl, grouped⟩ _
    obtain ⟨attempts, logged, group⟩ := @retry_recording σ inner request maxRetries state groups.flatten
  · exact (congrArg Prod.fst logged).symm
  · refine ⟨(congrArg (fun ended => ended.2.1) logged).symm, groups ++ [attempts], ?_, ?_⟩
    · refine (congrArg (fun ended => ended.2.2) logged).trans ?_
      rw [List.flatten_append, List.flatten_singleton]
    · exact List.rel_append grouped (.cons group .nil)

theorem calls_le {environment : Environment} {specification : EvaluationSpecification}
    {ordinal : Nat} {spent : ℚ} {cases : List GoldenCase} {results : List CaseExecutionResult}
    {calls : List Exchange}
    (serves : Serves environment specification ordinal spent cases results calls) :
    calls.length ≤ cases.length := by
  induction serves with
  | nil => exact le_refl _
  | cons record served others ih =>
    rw [List.length_append, List.length_cons]
    cases served with
    | unrendered => simpa using Nat.le_succ_of_le ih
    | skipped => simpa using Nat.le_succ_of_le ih
    | called =>
      rw [List.length_singleton]
      omega

theorem attempts_le {maxRetries : Nat} {calls : List Exchange} {groups : List (List Exchange)}
    (grouped : List.Forall₂ (Attempts maxRetries) calls groups) :
    groups.flatten.length ≤ (maxRetries + 1) * calls.length := by
  induction grouped with
  | nil => exact Nat.zero_le _
  | cons group _ ih =>
    have head := group.within
    rw [List.flatten_cons, List.length_append, List.length_cons, Nat.mul_succ]
    omega

end Groups

/-- The worker over a provider that logs its calls. -/
def Worker.recorded {σ : Type} (worker : Worker σ) : Worker (σ × List Exchange) where
  workerId := worker.workerId
  leaseSeconds := worker.leaseSeconds
  maxRetries := worker.maxRetries
  provider := worker.provider.recording

/-- What a worker's execution asks of the provider itself. Each case that gets to a call makes at
most one, in the order of the cases; upstream the call is one group of attempts with its request, of
which only the last one answers it, and only its cost is counted. The whole execution asks at most
one more than the retries for each case it records. -/
theorem upstream_attempts {σ : Type} (environment : Environment) (worker : Worker σ)
    (specification : EvaluationSpecification) (cancelled : Nat → Bool) (start later : σ)
    (run : LocalRunResult)
    (returned : executeLocal environment worker.retrying specification cancelled start =
      .ok (run, later)) :
    ∃ calls groups done rest,
      executeLocal environment worker.recorded.retrying specification cancelled (start, []) =
        .ok (run, (later, groups.flatten)) ∧
      List.Forall₂ (Attempts worker.maxRetries) calls groups ∧
      specification.val.cases = done ++ rest ∧
      Serves environment specification 0 0 done run.cases calls ∧
      groups.flatten.length ≤ (worker.maxRetries + 1) * done.length := by
  obtain ⟨calls, done, rest, recorded, split, serves, _⟩ := executeLocal_serves returned
  have begun : SameCalls worker.maxRetries (start, []) ((start, []) : σ × List Exchange) :=
    ⟨rfl, [], rfl, .nil⟩
  have simulated := executeLocal_simulates
    (retryProvider_simulates worker.provider worker.maxRetries (BuiltFor environment specification))
    cancelled begun
  obtain ⟨⟨_, state, log⟩, same, rfl, rfl, groups, flat, grouped⟩ := simulated.returned recorded
  dsimp only at flat
  subst flat
  refine ⟨calls, groups, done, rest, same, grouped, split, serves, ?_⟩
  exact (attempts_le grouped).trans (Nat.mul_le_mul_left _ (calls_le serves))

/-- A worker whose provider is over its rate limit at the first call. -/
def flakyWorker : Worker Nat where
  workerId := "worker"
  leaseSeconds := 60
  maxRetries := 3
  provider :=
    { generate := fun made _ =>
        (if made = 0 then (busyProvider.generate () helloRequest).1 else InferenceResult.ok, made + 1) }

theorem flakyRun_returns : (executeLocal Environment.plain flakyWorker.retrying
    ⟨_, twoGreetings_valid⟩ neverCancelled 0).toOption.isSome = true := by decide

def flakyRun : LocalRunResult × Nat :=
  (executeLocal Environment.plain flakyWorker.retrying ⟨_, twoGreetings_valid⟩ neverCancelled 0).toOption.get
    flakyRun_returns

/-- Two cases take three of at most eight calls. -/
theorem flakyRun_attempts : flakyRun.2 = 3 ∧ ∃ groups : List (List Exchange),
    executeLocal Environment.plain flakyWorker.recorded.retrying ⟨_, twoGreetings_valid⟩ neverCancelled
        (0, []) = .ok (flakyRun.1, (flakyRun.2, groups.flatten)) ∧ groups.flatten.length ≤ 8 := by
  refine ⟨by decide, ?_⟩
  obtain ⟨calls, groups, done, rest, recorded, grouped, split, serves, within⟩ :=
    upstream_attempts Environment.plain flakyWorker ⟨_, twoGreetings_valid⟩ neverCancelled 0
      flakyRun.2 flakyRun.1 rfl
  have sized : done.length ≤ 2 := by
    have total := congrArg List.length split
    rw [List.length_append] at total
    exact (Nat.le_add_right _ _).trans total.symm.le
  exact ⟨groups, recorded, within.trans (Nat.mul_le_mul_left 4 sized)⟩

end RegressionDetection.Workers
