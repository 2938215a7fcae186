import Mathlib.Algebra.Order.Ring.Rat
import RegressionDetection.Workers.Worker

/-! The retries of a provider call: how often the inner provider is asked, what is
returned and how long is slept between the attempts. -/

namespace RegressionDetection.Workers

open Foundation Providers

/-- `RetryProvider` as constructed; the delays are seconds. -/
structure RetryProvider (σ : Type) where
  inner : Provider σ
  maxRetries : Nat
  baseDelay : ℚ
  maxDelay : ℚ

/-- A call of `generate`: how it ends, what the inner provider answered, how long
each sleep was, and the state the inner provider is left in. -/
structure RetryRun (σ : Type) where
  outcome : Except PyError InferenceResult
  results : List InferenceResult
  delays : List ℚ
  state : σ

/-- An attempt that is not the last one, before the rest of the run. -/
def RetryRun.after (result : InferenceResult) (delay : ℚ) (rest : RetryRun σ) : RetryRun σ :=
  { rest with results := result :: rest.results, delays := delay :: rest.delays }

/-- `result.status != "error" or err is None or not err.retryable`. -/
def isDecisive (result : InferenceResult) : Bool :=
  decide (result.status ≠ .error) || result.error.all (fun error => !error.retryable)

namespace RetryProvider

section Code

variable (provider : RetryProvider σ) (request : InferenceRequest)

/-- `min(self._base_delay * (2**attempt), self._max_delay)`. The power is an `int` that
the product turns into a `float`, and floats end at the exponent 1023. -/
def delay (attempt : Nat) : Except PyError ℚ :=
  if attempt ≤ 1023 then .ok (min (provider.baseDelay * 2 ^ attempt) provider.maxDelay)
  else .error (.external "OverflowError")

/-- The loop of `generate` from an attempt on, with the attempts left after it. The
last attempt returns whatever it gets. -/
def generateFrom : Nat → Nat → σ → RetryRun σ
  | _, 0, state =>
    let (result, later) := provider.inner.generate state request
    ⟨.ok result, [result], [], later⟩
  | attempt, remaining + 1, state =>
    let (result, later) := provider.inner.generate state request
    if isDecisive result then ⟨.ok result, [result], [], later⟩
    else
      match provider.delay attempt with
      | .error error => ⟨.error error, [result], [], later⟩
      | .ok delay => (generateFrom (attempt + 1) remaining later).after result delay

def generate (state : σ) : RetryRun σ := provider.generateFrom request 0 provider.maxRetries state

end Code

end RetryProvider

/-- The first answers of a provider, and the state after them. -/
def answers (inner : Provider σ) (request : InferenceRequest) :
    Nat → σ → List InferenceResult × σ
  | 0, state => ([], state)
  | count + 1, state =>
    let (result, later) := inner.generate state request
    let (rest, final) := answers inner request count later
    (result :: rest, final)

/-- An error the provider says may go away. -/
def IsRetryable (result : InferenceResult) : Prop :=
  result.status = .error ∧ ∃ error, result.error = some error ∧ error.retryable = true

/-- A success, or an error that will not go away. -/
def IsDecisive (result : InferenceResult) : Prop :=
  result.status = .success ∨ ∃ error, result.error = some error ∧ error.retryable = false

/-- What a run of the loop from an attempt on has to do. -/
structure RetriesFrom (provider : RetryProvider σ) (request : InferenceRequest)
    (attempt remaining : Nat) (state : σ) (run : RetryRun σ) : Prop where
  asked : answers provider.inner request run.results.length state = (run.results, run.state)
  atLeastOnce : 1 ≤ run.results.length
  withinBudget : run.results.length ≤ remaining + 1
  transient : ∀ result ∈ run.results.dropLast, IsRetryable result
  returned : ∃ last, run.results.getLast? = some last ∧ run.outcome = .ok last ∧
    (IsDecisive last ∨ run.results.length = remaining + 1)
  slept : run.delays = (List.range (run.results.length - 1)).map
    (fun index => min (provider.baseDelay * 2 ^ (attempt + index)) provider.maxDelay)

/-- What `generate` promises: the first decisive result within the budget, with capped
exponential delays before each retry. -/
structure RetriesProperly (provider : RetryProvider σ) (request : InferenceRequest) (state : σ)
    (run : RetryRun σ) : Prop where
  loop : RetriesFrom provider request 0 provider.maxRetries state run
  increasing : run.delays.Pairwise (· ≤ ·)
  capped : ∀ delay ∈ run.delays, delay ≤ provider.maxDelay

theorem isDecisive_iff (result : InferenceResult) :
    isDecisive result = true ↔ IsDecisive result := by
  have shape := result.shape
  unfold isDecisive IsDecisive
  cases status : result.status with
  | success => simp
  | error =>
    rw [status] at shape
    obtain ⟨error, present⟩ := Option.isSome_iff_exists.mp shape.1
    simp [present]

theorem isRetryable_iff (result : InferenceResult) :
    IsRetryable result ↔ isDecisive result = false := by
  have shape := result.shape
  unfold isDecisive IsRetryable
  cases status : result.status with
  | success => simp
  | error =>
    rw [status] at shape
    obtain ⟨error, present⟩ := Option.isSome_iff_exists.mp shape.1
    simp [present]

section Loop

variable (provider : RetryProvider σ) (request : InferenceRequest)

/-- A run whose first attempt settles it. -/
theorem RetriesFrom.once {attempt remaining : Nat} {state : σ}
    (settles : isDecisive (provider.inner.generate state request).1 = true ∨ remaining = 0) :
    RetriesFrom provider request attempt remaining state
      ⟨.ok (provider.inner.generate state request).1, [(provider.inner.generate state request).1], [],
        (provider.inner.generate state request).2⟩ where
  asked := rfl
  atLeastOnce := by simp
  withinBudget := by simp
  transient := by simp
  returned := by
    refine ⟨_, rfl, rfl, ?_⟩
    rcases settles with decisive | last
    · exact .inl ((isDecisive_iff _).mp decisive)
    · exact .inr (by simp [last])
  slept := rfl

/-- A retryable first attempt, its sleep and a proper run after it. -/
theorem RetriesFrom.after {attempt remaining : Nat} {state : σ} {rest : RetryRun σ}
    (again : IsRetryable (provider.inner.generate state request).1)
    (proper : RetriesFrom provider request (attempt + 1) remaining
      (provider.inner.generate state request).2 rest) :
    RetriesFrom provider request attempt (remaining + 1) state
      (rest.after (provider.inner.generate state request).1
        (min (provider.baseDelay * 2 ^ attempt) provider.maxDelay)) := by
  obtain ⟨last, ends, outcome, final⟩ := proper.returned
  have some_left : rest.results ≠ [] := List.ne_nil_of_length_pos proper.atLeastOnce
  refine ⟨?_, ?_, ?_, ?_, ⟨last, ?_, outcome, ?_⟩, ?_⟩
  · simp [RetryRun.after, answers, proper.asked]
  · simp [RetryRun.after]
  · simpa [RetryRun.after] using proper.withinBudget
  · intro result member
    rw [RetryRun.after, List.dropLast_cons_of_ne_nil some_left] at member
    rcases List.mem_cons.mp member with first | later
    · exact first ▸ again
    · exact proper.transient result later
  · rw [RetryRun.after, List.getLast?_cons, ends]
    rfl
  · rcases final with decisive | all
    · exact .inl decisive
    · exact .inr (by simp [RetryRun.after, all])
  · have length : (rest.after (provider.inner.generate state request).1
        (min (provider.baseDelay * 2 ^ attempt) provider.maxDelay)).results.length - 1 =
        rest.results.length - 1 + 1 := by
      have := proper.atLeastOnce
      simp only [RetryRun.after, List.length_cons]
      omega
    rw [length, List.range_succ_eq_map, List.map_cons, List.map_map]
    simp only [RetryRun.after, proper.slept, Nat.add_zero]
    congr 2
    funext index
    simp only [Function.comp_apply, Nat.succ_eq_add_one]
    congr 3
    omega

/-- A run that returns is proper. -/
theorem generateFrom_proper (attempt remaining : Nat) (state : σ) {result : InferenceResult}
    (returns : (provider.generateFrom request attempt remaining state).outcome = .ok result) :
    RetriesFrom provider request attempt remaining state
      (provider.generateFrom request attempt remaining state) := by
  induction remaining generalizing attempt state with
  | zero => exact RetriesFrom.once provider request (.inr rfl)
  | succ remaining ih =>
    unfold RetryProvider.generateFrom at returns ⊢
    dsimp only at returns ⊢
    split at returns
    · rw [if_pos ‹_›]
      exact RetriesFrom.once provider request (.inl ‹_›)
    · rw [if_neg ‹_›]
      have again : IsRetryable (provider.inner.generate state request).1 :=
        (isRetryable_iff _).mpr (Bool.eq_false_iff.mpr ‹_›)
      unfold RetryProvider.delay at returns ⊢
      by_cases small : attempt ≤ 1023
      · simp only [small, if_true] at returns ⊢
        exact RetriesFrom.after provider request again (ih _ _ returns)
      · simp only [small, if_false] at returns
        cases returns

/-- The loop raises exactly when it has to compute the delay of attempt 1024. -/
theorem generateFrom_raises_iff (attempt remaining : Nat) (early : attempt ≤ 1024) (state : σ) :
    (∃ error, (provider.generateFrom request attempt remaining state).outcome = .error error) ↔
      1024 < attempt + remaining ∧
        ∀ result ∈ (answers provider.inner request (1025 - attempt) state).1, IsRetryable result := by
  induction remaining generalizing attempt state with
  | zero =>
    constructor
    · rintro ⟨error, raised⟩
      cases raised
    · rintro ⟨beyond, _⟩
      omega
  | succ remaining ih =>
    have first : 1025 - attempt = (1024 - attempt) + 1 := by omega
    rw [first, answers]
    dsimp only
    rw [List.forall_mem_cons, isRetryable_iff]
    unfold RetryProvider.generateFrom
    dsimp only
    split
    · simp [‹isDecisive _ = true›]
    · have again : isDecisive (provider.inner.generate state request).1 = false :=
        Bool.eq_false_iff.mpr ‹_›
      unfold RetryProvider.delay
      by_cases small : attempt ≤ 1023
      · have next := ih (attempt + 1) (by omega) (provider.inner.generate state request).2
        have count : 1025 - (attempt + 1) = 1024 - attempt := by omega
        have total : attempt + 1 + remaining = attempt + (remaining + 1) := by omega
        rw [count, total] at next
        simpa [small, again, RetryRun.after] using next
      · obtain rfl : attempt = 1024 := by omega
        simp [again, answers]

/-- Where it returns, `generate` gives what the loop without its sleeps gives. -/
theorem generateFrom_eq_retry (attempt remaining : Nat) (state : σ) {result : InferenceResult}
    (returns : (provider.generateFrom request attempt remaining state).outcome = .ok result) :
    retry provider.inner request remaining state =
      (result, (provider.generateFrom request attempt remaining state).state) := by
  induction remaining generalizing attempt state with
  | zero =>
    cases returns
    rfl
  | succ remaining ih =>
    unfold RetryProvider.generateFrom at returns ⊢
    unfold retry
    dsimp only at returns ⊢
    have same : isDecisive (provider.inner.generate state request).1 = true ↔
        ((provider.inner.generate state request).1.status ≠ .error ∨
          (provider.inner.generate state request).1.error.all
            (fun error => !error.retryable) = true) := by
      simp [isDecisive]
    split at returns
    · rw [if_pos (same.mp ‹_›), if_pos ‹_›]
      cases returns
      rfl
    · rw [if_neg (fun decisive => ‹¬_› (same.mpr decisive)), if_neg ‹_›]
      unfold RetryProvider.delay at returns ⊢
      by_cases small : attempt ≤ 1023
      · simp only [small, if_true] at returns ⊢
        exact ih _ _ returns
      · simp only [small, if_false] at returns
        cases returns

/-- What every answer of the provider satisfies, each of its first answers does. -/
theorem forall_answers {inner : Provider σ} {holds : InferenceResult → Prop}
    (always : ∀ state, holds (inner.generate state request).1) (count : Nat) (state : σ) :
    ∀ result ∈ (answers inner request count state).1, holds result := by
  induction count generalizing state with
  | zero => simp [answers]
  | succ count ih =>
    rw [answers, List.forall_mem_cons]
    exact ⟨always state, ih _⟩

theorem delays_increasing (nonneg : 0 ≤ provider.baseDelay) (count : Nat) :
    ((List.range count).map
      (fun index => min (provider.baseDelay * 2 ^ (0 + index)) provider.maxDelay)).Pairwise (· ≤ ·) := by
  refine List.Pairwise.map _ ?_ List.pairwise_lt_range
  intro first second before
  have powers : (2 : ℚ) ^ (0 + first) ≤ 2 ^ (0 + second) :=
    pow_le_pow_right₀ one_le_two (by omega)
  exact min_le_min_right _ (mul_le_mul_of_nonneg_left powers nonneg)

theorem RetriesFrom.properly {state : σ} {run : RetryRun σ} (nonneg : 0 ≤ provider.baseDelay)
    (loop : RetriesFrom provider request 0 provider.maxRetries state run) :
    RetriesProperly provider request state run where
  loop := loop
  increasing := loop.slept ▸ delays_increasing provider nonneg _
  capped := by
    intro delay member
    rw [loop.slept] at member
    obtain ⟨index, _, same⟩ := List.mem_map.mp member
    exact same ▸ min_le_right _ _

/-- `generate` breaks its promise exactly when it raises. -/
theorem properly_iff_returns (nonneg : 0 ≤ provider.baseDelay) (state : σ) :
    RetriesProperly provider request state (provider.generate request state) ↔
      ¬ ∃ error, (provider.generate request state).outcome = .error error := by
  constructor
  · rintro proper ⟨error, raised⟩
    obtain ⟨last, _, outcome, _⟩ := proper.loop.returned
    cases raised.symm.trans outcome
  · intro returns
    cases outcome : (provider.generate request state).outcome with
    | error error => exact absurd ⟨error, outcome⟩ returns
    | ok result => exact (generateFrom_proper provider request 0 _ state outcome).properly _ _ nonneg

end Loop

/-- The retries are as promised exactly if the budget never reaches the attempt whose
power of two no float holds, or an answer before that attempt is decisive. -/
theorem retriesProperly_iff (provider : RetryProvider σ) (request : InferenceRequest) (state : σ)
    (nonneg : 0 ≤ provider.baseDelay) :
    RetriesProperly provider request state (provider.generate request state) ↔
      provider.maxRetries ≤ 1024 ∨
        ∃ result ∈ (answers provider.inner request 1025 state).1, IsDecisive result := by
  have raises := generateFrom_raises_iff provider request 0 provider.maxRetries (by omega) state
  rw [properly_iff_returns provider request nonneg, RetryProvider.generate, raises, not_and_or,
    Nat.zero_add, Nat.not_lt]
  simp only [Nat.sub_zero, isRetryable_iff, ← isDecisive_iff, not_forall, Bool.not_eq_false,
    exists_prop]

/-- A provider that is over its rate limit forever. -/
def busyProvider : Provider Unit where
  generate _ _ := (InferenceResult.failure ⟨.rateLimited, "rate_limited", "Provider rate limit exceeded",
    true, by decide, by decide⟩, ())

def helloRequest : InferenceRequest where
  requestId := "test"
  modelId := "m"
  messages := [⟨.user, "hello", by decide⟩]
  temperature := 0
  maxOutputTokens := 100
  timeoutSeconds := 5
  requestIdBounded := by decide
  modelIdBounded := by decide
  messagesBounded := by decide
  temperatureBounded := by decide +kernel
  tokensBounded := by decide
  timeoutBounded := by decide +kernel

theorem retriesProperly_default :
    RetriesProperly ⟨busyProvider, 3, 1, 30⟩ helloRequest ()
      (RetryProvider.generate ⟨busyProvider, 3, 1, 30⟩ helloRequest ()) :=
  (retriesProperly_iff ⟨busyProvider, 3, 1, 30⟩ helloRequest () (by decide)).mpr (.inl (by decide))

/-- The delay of the 1025th attempt is never computed: the power of two overflows before
the cap applies. -/
theorem retries_overflow :
    ¬ RetriesProperly ⟨busyProvider, 1025, 1, 30⟩ helloRequest ()
      (RetryProvider.generate ⟨busyProvider, 1025, 1, 30⟩ helloRequest ()) := by
  rw [properly_iff_returns _ _ (by decide), not_not, RetryProvider.generate,
    generateFrom_raises_iff _ _ _ _ (by omega)]
  refine ⟨by decide, forall_answers _ ?_ _ _⟩
  intro state
  exact ⟨rfl, _, rfl, rfl⟩

end RegressionDetection.Workers
