import RegressionDetection.Foundation.Aligned
import RegressionDetection.Policy.CaseSets
import RegressionDetection.Providers.Transport
import RegressionDetection.Workers.Attempts

/-! Executions over the OpenRouter adapter: what they post, and what they can know of its costs. -/

namespace RegressionDetection.Workers

open Foundation Specification Providers Execution Policy

section Retries

variable {σ τ : Type} {related : σ → τ → Prop} {asked : InferenceRequest → Prop}
  {first : Provider σ} {second : Provider τ}

/-- Providers that answer alike are retried alike. -/
theorem retryProvider_related (simulates : Simulates related asked first second) (maxRetries : Nat) :
    Simulates related asked (retryProvider first maxRetries) (retryProvider second maxRetries) := by
  have both (retries : Nat) (s : σ) (t : τ) (request : InferenceRequest) (same : related s t)
      (built : asked request) :
      (retry first request retries s).1 = (retry second request retries t).1 ∧
        related (retry first request retries s).2 (retry second request retries t).2 := by
    induction retries generalizing s t with
    | zero => exact ⟨simulates.results s t request same built, simulates.states s t request same built⟩
    | succ retries ih =>
      have result := simulates.results s t request same built
      have states := simulates.states s t request same built
      unfold retry
      dsimp only
      rw [result]
      split
      · exact ⟨rfl, states⟩
      · exact ih _ _ states
  exact ⟨fun s t request same built => (both maxRetries s t request same built).1,
    fun s t request same built => (both maxRetries s t request same built).2⟩

/-- What holds of the state of a provider through each of its calls. -/
def Keeps (holds : σ → Prop) (provider : Provider σ) : Prop :=
  ∀ state request, holds state → holds (provider.generate state request).2

theorem Keeps.retried {holds : σ → Prop} (keeps : Keeps holds first) (maxRetries : Nat) :
    Keeps holds (retryProvider first maxRetries) := by
  have itself : Simulates (fun s t => s = t ∧ holds t) (fun _ => True) first first := by
    constructor
    · rintro s _ request ⟨rfl, _⟩ _
      rfl
    · rintro s _ request ⟨rfl, held⟩ _
      exact ⟨rfl, keeps s request held⟩
  exact fun state request held =>
    ((retryProvider_related itself maxRetries).states state state request ⟨rfl, held⟩ trivial).2

/-- An execution keeps what each call of its provider keeps. -/
theorem Keeps.executed {holds : σ → Prop} (keeps : Keeps holds first) {environment : Environment}
    {specification : EvaluationSpecification} {cancelled : Nat → Bool} {start later : σ}
    {run : LocalRunResult} (held : holds start)
    (returned : executeLocal environment first specification cancelled start = .ok (run, later)) :
    holds later := by
  have itself : Simulates (fun s t => s = t ∧ holds t) (BuiltFor environment specification) first
      first := by
    constructor
    · rintro s _ request ⟨rfl, _⟩ _
      rfl
    · rintro s _ request ⟨rfl, kept⟩ _
      exact ⟨rfl, keeps s request kept⟩
  have begun : (fun s t => s = t ∧ holds t) start start := ⟨rfl, held⟩
  obtain ⟨⟨_, final⟩, same, _, _, kept⟩ :=
    (executeLocal_simulates itself cancelled begun).returned returned
  cases returned.symm.trans same
  exact kept

end Retries

section Posts

variable {σ : Type} {adapter : OpenRouterProvider σ} {sent : Sent} {result : InferenceResult}

/-- Only an end that may pass is retried. -/
theorem retryable_transient (returned : sent.normalize = .ok result) (again : IsRetryable result) :
    sent.delivery.Transient := by
  obtain ⟨failed, error, found, flag⟩ := again
  unfold Sent.normalize at returned
  cases delivered : sent.delivery with
  | answered response =>
    rw [delivered] at returned
    dsimp only at returned
    by_cases carries : ∃ body choice content, TextResponse response body choice content
    · obtain ⟨body, choice, content, text⟩ := carries
      rw [normalize_text text] at returned
      obtain ⟨usage, _, built⟩ := bind_eq_ok.mp returned
      rw [(InferenceResult.new_fields built).1] at failed
      cases failed
    · have decodes : response.statusCode = 200 → response.contentLength ≤ maxResponseBytes →
          ∀ error, response.json = .error error → error.isValueError = true := by
        intro status sized error undecoded
        unfold Providers.normalize at returned
        rw [if_neg (not_not.mpr status), if_neg (Nat.not_lt.mpr sized), undecoded] at returned
        dsimp only at returned
        split at returned
        · rename_i caught
          exact caught
        · cases returned
      obtain ⟨other, same, _, flags⟩ := normalize_error sent.latencyBounded decodes carries
      cases returned.symm.trans same
      exact (flags error found).mp flag
  | timedOut => trivial
  | failed name => trivial
  | raised error =>
    rw [delivered] at returned
    cases returned

/-- A call of the adapter and its POST. -/
structure Posted (call : Exchange) (sending : Sending) : Prop where
  body : sending.post.body = call.request.payload
  transient : IsRetryable call.result → sending.delivery.Transient

/-- The POSTs for one call with retries: the same body each time, and only the last one can have got
a completion. -/
structure Postings (maxRetries : Nat) (call : Exchange) (sendings : List Sending) : Prop where
  body : ∀ sending ∈ sendings, sending.post.body = call.request.payload
  transient : ∀ sending ∈ sendings.dropLast, sending.delivery.Transient
  nonempty : sendings ≠ []
  within : sendings.length ≤ maxRetries + 1

theorem Postings.of_attempts {maxRetries : Nat} {call : Exchange} {attempts : List Exchange}
    {sendings : List Sending} (group : Attempts maxRetries call attempts)
    (posted : List.Forall₂ Posted attempts sendings) : Postings maxRetries call sendings where
  body := by
    intro sending member
    obtain ⟨attempt, listed, own⟩ := aligned_of_mem posted member
    rw [own.body, group.asked attempt listed]
  transient := by
    intro sending member
    obtain ⟨attempt, listed, own⟩ := aligned_of_mem (aligned_dropLast posted) member
    exact own.transient (group.transient attempt listed)
  nonempty := by
    rintro rfl
    exact group.ne_nil (List.forall₂_nil_right_iff.mp posted)
  within := posted.length_eq ▸ group.within

theorem Postings.completed {maxRetries : Nat} {call : Exchange} {sendings : List Sending}
    (postings : Postings maxRetries call sendings) :
    sendings.countP (fun sending => sending.delivery.completed) ≤ 1 := by
  have earlier : sendings.dropLast.countP (fun sending => sending.delivery.completed) = 0 := by
    rw [List.countP_eq_zero]
    intro sending member
    rw [(postings.transient sending member).incomplete]
    exact Bool.false_ne_true
  rw [← List.dropLast_append_getLast postings.nonempty, List.countP_append, earlier, Nat.zero_add]
  exact List.countP_le_length

theorem postings_completed {maxRetries : Nat} {calls : List Exchange} {groups : List (List Sending)}
    (grouped : List.Forall₂ (Postings maxRetries) calls groups) :
    groups.flatten.countP (fun sending => sending.delivery.completed) ≤ calls.length := by
  induction grouped with
  | nil => exact le_refl _
  | cons postings _ ih =>
    have head := postings.completed
    rw [List.flatten_cons, List.countP_append, List.length_cons]
    omega

/-- A call makes one POST, and its result is what that becomes unless it raises. -/
theorem generate_posts (adapter : OpenRouterProvider σ) (state : σ × List Sending) (raised : Bool)
    (request : InferenceRequest) :
    ∃ (sent : Sent) (later : σ) (result : InferenceResult) (flag : Bool),
      adapter.recording.provider.generate (state, raised) request =
        (result, ((later, state.2 ++ [⟨adapter.post state.1 request, sent.delivery⟩]), flag)) ∧
      (sent.normalize = .ok result ∨ result = .ok) := by
  let sent := (adapter.client state.1 (adapter.post state.1 request)).1
  have generated : adapter.recording.generate state request = (sent.normalize,
      ((adapter.client state.1 (adapter.post state.1 request)).2,
        state.2 ++ [⟨adapter.post state.1 request, sent.delivery⟩])) := rfl
  simp only [OpenRouterProvider.provider, Provider.raising, generated]
  cases normalized : sent.normalize with
  | ok result => exact ⟨sent, _, result, raised, rfl, .inl normalized⟩
  | error error => exact ⟨sent, _, .ok, true, rfl, .inr rfl⟩

/-- The calls in the log and the POSTs in the adapter's own. -/
def Tallied (state : ((σ × List Sending) × Bool) × List Exchange) : Prop :=
  List.Forall₂ Posted state.2 state.1.1.2

theorem tallied_keeps (adapter : OpenRouterProvider σ) :
    Keeps Tallied adapter.recording.provider.recording := by
  rintro ⟨⟨state, raised⟩, calls⟩ request tallied
  obtain ⟨sent, later, result, flag, generated, outcome⟩ := generate_posts adapter state raised request
  have own : Posted ⟨request, result⟩ ⟨adapter.post state.1 request, sent.delivery⟩ := by
    refine ⟨rfl, fun again => ?_⟩
    rcases outcome with returned | rfl
    · exact retryable_transient returned again
    · cases again.1
  unfold Tallied Provider.recording
  simp only [generated]
  exact List.rel_append tallied (.cons own .nil)

end Posts

/-- An upstream whose first answer is late. -/
def lateAdapter : OpenRouterProvider Nat where
  apiKeyProvider _ := "key"
  client made _ :=
    ({ delivery := if made = 0 then .timedOut else .answered (stoppedResponse "stop")
       latencyMs := 20, latencyBounded := by decide }, made + 1)

def lateExecution : Except PyError (LocalRunResult × ((Nat × List Sending) × Bool)) :=
  executeLocal Environment.plain (retryProvider lateAdapter.recording.provider 3)
    ⟨_, twoGreetings_valid⟩ neverCancelled ((0, []), false)

section Costs

variable {σ τ : Type} {environment : Environment} {specification : EvaluationSpecification}

theorem generate_adapted (adapter : OpenRouterProvider σ) (state : σ × Bool)
    (request : InferenceRequest) : Adapted (adapter.provider.generate state request).1 := by
  unfold OpenRouterProvider.provider Provider.raising
  dsimp only
  split
  · rename_i generated
    exact Sent.normalize_adapted (congrArg Prod.fst generated)
  · exact ⟨rfl, by simp [InferenceResult.ok, InferenceResult.successful]⟩

theorem retry_adapted {inner : Provider τ}
    (always : ∀ state request, Adapted (inner.generate state request).1) (retries : Nat) (state : τ)
    (request : InferenceRequest) : Adapted (retry inner request retries state).1 := by
  induction retries generalizing state with
  | zero => exact always state request
  | succ retries ih =>
    unfold retry
    dsimp only
    split
    · exact always state request
    · exact ih _

theorem calls_adapted {provider : Provider τ}
    (always : ∀ state request, Adapted (provider.generate state request).1) :
    Keeps (fun state : τ × List Exchange => ∀ call ∈ state.2, Adapted call.result) provider.recording := by
  intro state request earlier call member
  rcases List.mem_append.mp member with old | new
  · exact earlier call old
  · obtain rfl := List.mem_singleton.mp new
    exact always state.1 request

theorem failure_injective {first second : ProviderError}
    (same : InferenceResult.failure first = .failure second) : first = second :=
  Option.some.inj (congrArg (fun result => result.error) same)

/-- Without a known cost nothing is spent, so only a cap of zero is ever reached. -/
theorem serves_unpriced {ordinal : Nat} {spent : ℚ} {cases : List GoldenCase}
    {results : List CaseExecutionResult} {calls : List Exchange}
    (serves : Serves environment specification ordinal spent cases results calls) (nothing : spent = 0)
    (adapted : ∀ call ∈ calls, Adapted call.result) :
    ∀ result ∈ results, result.providerResult.cost = none ∧
      (BudgetExceeded result.providerResult → specification.val.limits.maxTotalCost = some 0) := by
  induction serves with
  | nil => exact fun _ none => by cases none
  | @cons ordinal spent case rest result results made later _ served _ ih =>
    have still : spent + (reportedCosts made).sum = 0 := by
      rw [nothing, zero_add]
      refine List.sum_eq_zero fun cost reported => ?_
      obtain ⟨call, member, rfl⟩ := List.mem_map.mp reported
      rw [(adapted call (List.mem_append_left _ member)).unpriced]
      rfl
    refine List.forall_mem_cons.mpr
      ⟨?_, ih still fun call member => adapted call (List.mem_append_right _ member)⟩
    cases served with
    | unrendered error _ _ failed =>
      obtain ⟨refused, same, category, _⟩ := failed
      refine ⟨congrArg (fun result => result.cost) same, ?_⟩
      rintro ⟨other, equal, exceeded, _⟩
      obtain rfl := failure_injective (same.symm.trans equal)
      cases category.symm.trans exceeded
    | skipped request cap _ _ capped reached exceeded =>
      obtain ⟨refused, same, _⟩ := exceeded
      obtain ⟨_, _, _, _, _, _, _, _, _, ⟨_, _, _, _, bounded, _⟩, _⟩ := specification.property
      refine ⟨congrArg (fun result => result.cost) same, fun _ => ?_⟩
      rw [capped, le_antisymm (nothing ▸ reached) (bounded cap capped)]
    | called request _ _ _ =>
      have own := adapted _ (List.mem_append_left _ (List.mem_singleton.mpr rfl))
      refine ⟨own.unpriced, ?_⟩
      rintro ⟨refused, same, exceeded, _⟩
      have found : result.providerResult.error = some refused := congrArg (fun result => result.error) same
      exact absurd exceeded (own.upstream refused found)

theorem unpricedComparison_outcome {policy : RegressionPolicy} {runtime : Runtime}
    {values : RunMetrics} {cases : List CaseSummary} {comparison : BaselineComparison}
    (limited : policy.maximumCostIncreasePercent ≠ none) (unknown : comparison.costIncreasePct = none) :
    decideOutcome (rules policy runtime values cases (some comparison)) = .error := by
  obtain ⟨limit, set⟩ := Option.ne_none_iff_exists'.mp limited
  rw [rules_eq]
  apply decideOutcome_append_missing
  by_cases compatible : comparison.configurationMatch = true ∧ comparison.datasetMatch = true
  · rw [baselineDropRules_compatible policy runtime compatible.1 compatible.2, unknown, set]
    simp [limitStatus]
  · have apart : (!comparison.configurationMatch || !comparison.datasetMatch) = true := by
      simpa [Bool.and_eq_true, imp_iff_not_or] using compatible
    simp [baselineDropRules, apart, unevaluatedRule]

end Costs

/-- A limit on the cost increase, which no run over the adapter meets, not even against itself. -/
def flatCost : RegressionPolicy := { maximumCostIncreasePercent := some 0 }

theorem flatCost_valid : (policyDocument flatCost).Valid := by decide +kernel

end RegressionDetection.Workers
