import RegressionDetection.Execution.Report

/-! The loop of the runner, taken up again at a case boundary. What was executed before the
boundary and what follows it make up one execution. -/

namespace RegressionDetection.Execution

open Foundation Specification Providers

/-- The answers of a token that is found set from the given boundary on, or never. -/
def setFrom (boundary : Option Nat) : Nat → Bool :=
  fun ordinal => boundary.any fun first => decide (first ≤ ordinal)

section Loop

variable {σ : Type} {environment : Environment} {provider : Provider σ}
  {specification : EvaluationSpecification}

/-- A loop over two parts is the loop over the second one from where the first one ended. -/
theorem executeCases_append {cancelled : Nat → Bool} {done rest : List GoldenCase} {ordinal : Nat}
    {loop reached : LoopState σ}
    (executed : executeCases environment provider specification cancelled ordinal done loop =
      .ok (reached, false)) :
    executeCases environment provider specification cancelled ordinal (done ++ rest) loop =
      executeCases environment provider specification cancelled (ordinal + done.length) rest reached := by
  induction done generalizing ordinal loop with
  | nil =>
    cases executed
    rfl
  | cons case others ih =>
    unfold executeCases at executed
    split at executed
    · cases executed
    · rename_i unset
      obtain ⟨next, first, later⟩ := bind_eq_ok.mp executed
      rw [List.cons_append, executeCases, if_neg unset, first]
      refine (ih later).trans ?_
      rw [List.length_cons, show ordinal + 1 + others.length = ordinal + (others.length + 1) by omega]

/-- Only the answers at the boundaries of these cases matter. -/
theorem executeCases_congr {cancelled other : Nat → Bool} {cases : List GoldenCase} {ordinal : Nat}
    {loop : LoopState σ}
    (same : ∀ boundary, ordinal ≤ boundary → boundary < ordinal + cases.length →
      cancelled boundary = other boundary) :
    executeCases environment provider specification cancelled ordinal cases loop =
      executeCases environment provider specification other ordinal cases loop := by
  induction cases generalizing ordinal loop with
  | nil => rfl
  | cons case rest ih =>
    have here : cancelled ordinal = other ordinal := same ordinal le_rfl (by simp)
    have later : ∀ next : LoopState σ,
        executeCases environment provider specification cancelled (ordinal + 1) rest next =
          executeCases environment provider specification other (ordinal + 1) rest next :=
      fun next => ih fun boundary after before =>
        same boundary (by omega) (by rw [List.length_cons]; omega)
    unfold executeCases
    rw [here]
    split
    · rfl
    · simp only [later]

variable {done rest : List GoldenCase} {loop reached : LoopState σ}

/-- One more case before the boundary. -/
theorem executeCases_snoc {case : GoldenCase} {next : LoopState σ}
    (executed : executeCases environment provider specification neverCancelled 0 done loop =
      .ok (reached, false))
    (step : executeCase environment provider specification done.length case reached = .ok next) :
    executeCases environment provider specification neverCancelled 0 (done ++ [case]) loop =
      .ok (next, false) := by
  rw [executeCases_append executed, Nat.zero_add, executeCases, step]
  rfl

/-- Up to the boundary from which the token is set, the loop goes on; there it stops. -/
theorem executeCases_stopped
    (executed : executeCases environment provider specification neverCancelled 0 done loop =
      .ok (reached, false)) (ahead : rest ≠ []) :
    executeCases environment provider specification (setFrom (some done.length)) 0 (done ++ rest) loop =
      .ok (reached, true) := by
  obtain ⟨case, others, rfl⟩ := List.exists_cons_of_ne_nil ahead
  have unset : executeCases environment provider specification (setFrom (some done.length)) 0 done loop =
      executeCases environment provider specification neverCancelled 0 done loop := by
    refine executeCases_congr fun boundary _ before => ?_
    have earlier : ¬ done.length ≤ boundary := by omega
    simp [setFrom, neverCancelled, earlier]
  rw [executeCases_append (unset.trans executed), executeCases, if_pos (by simp [setFrom])]

end Loop

/-- An evaluation is its preflight, its loop and the report of what the loop recorded. -/
theorem executeLocalEvaluation_eq_ok {σ : Type} {environment : Environment} {provider : Provider σ}
    {specification : EvaluationSpecification} {cancelled : Nat → Bool} {start later : σ}
    {report : LocalEvaluationReport} :
    executeLocalEvaluation environment provider specification cancelled start = .ok (report, later) ↔
      preflightCheck environment.runtime specification.val = .ok () ∧
      ∃ loop stopped, executeCases environment provider specification cancelled 0
          specification.val.cases (initialLoop start) = .ok (loop, stopped) ∧
        reportOf environment specification
          (runResult environment specification stopped loop.results) = .ok report ∧
        loop.provider = later := by
  constructor
  · intro returned
    obtain ⟨⟨run, after⟩, executed, made⟩ := bind_eq_ok.mp returned
    obtain ⟨other, reported, same⟩ := bind_eq_ok.mp made
    cases same
    obtain ⟨_, passed, looped⟩ := bind_eq_ok.mp executed
    obtain ⟨⟨loop, stopped⟩, finished, same⟩ := bind_eq_ok.mp looped
    cases same
    exact ⟨passed, loop, stopped, finished, reported, rfl⟩
  · rintro ⟨passed, loop, stopped, finished, reported, rfl⟩
    have executed : executeLocal environment provider specification cancelled start =
        .ok (runResult environment specification stopped loop.results, loop.provider) :=
      bind_eq_ok.mpr ⟨(), passed, bind_eq_ok.mpr ⟨_, finished, rfl⟩⟩
    exact bind_eq_ok.mpr ⟨_, executed, bind_eq_ok.mpr ⟨report, reported, rfl⟩⟩

end RegressionDetection.Execution
