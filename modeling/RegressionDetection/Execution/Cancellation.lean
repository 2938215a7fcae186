import RegressionDetection.Execution.Evidence

/-! Cancellation at a case boundary and the gate: a run with at least one result
is always decided, one that was cancelled before the first case never is. -/

namespace RegressionDetection.Execution

open Foundation Specification Providers Evaluators Policy

section Boundaries

variable {σ : Type} {environment : Environment} {provider : Provider σ}
  {specification : EvaluationSpecification} {cancelled : Nat → Bool} {start later : σ}

/-- A run has a result exactly when its token was not set before the first case. -/
theorem executeLocal_nonempty_iff {run : LocalRunResult}
    (returned : executeLocal environment provider specification cancelled start = .ok (run, later)) :
    run.cases ≠ [] ↔ cancelled 0 = false := by
  have declared := specification.property.cases_ne_nil
  constructor
  · intro evaluated
    by_contra set
    obtain ⟨_, _, looped⟩ := bind_eq_ok.mp returned
    obtain ⟨⟨loop, stopped⟩, executed, made⟩ := bind_eq_ok.mp looped
    cases made
    obtain ⟨first, rest, cases⟩ := List.exists_cons_of_ne_nil declared
    rw [cases, executeCases, if_pos (by simpa using set)] at executed
    cases executed
    exact evaluated rfl
  · intro unset empty
    obtain ⟨done, rest, split, _, evidence, ended⟩ := executeLocal_evidence returned
    have none : done = [] := by simpa [empty] using evidence.keys.symm
    subst none
    rcases ended with ⟨_, set⟩ | ⟨_, none⟩
    · cases set.symm.trans unset
    · exact declared (by simpa [none] using split)

/-- Set before the first case, the token ends the execution with a run all the same. -/
theorem executeLocal_cancelled_first
    (within : preflightCheck environment.runtime specification.val = .ok ())
    (set : cancelled 0 = true) :
    executeLocal environment provider specification cancelled start =
      .ok (runResult environment specification true [], start) := by
  obtain ⟨first, rest, cases⟩ := List.exists_cons_of_ne_nil specification.property.cases_ne_nil
  have stopped : executeCases environment provider specification cancelled 0 specification.val.cases
      (initialLoop start) = .ok (initialLoop start, true) := by
    rw [cases, executeCases, if_pos set]
  exact bind_eq_ok.mpr ⟨(), within, bind_eq_ok.mpr ⟨_, stopped, rfl⟩⟩

end Boundaries

/-- Whenever an execution returns a run, the evaluation returns it with a valid gate
decision, exactly when the token was not set before the first case. -/
theorem executeLocalEvaluation_decides_iff {σ : Type} (environment : Environment)
    (provider : Provider σ) (specification : EvaluationSpecification) (cancelled : Nat → Bool)
    (start : σ) (within : preflightCheck environment.runtime specification.val = .ok ()) :
    (∀ run later,
      executeLocal environment provider specification cancelled start = .ok (run, later) →
      ∃ gate, aggregateAndDecide environment.runtime specification.val run = .ok gate ∧
        executeLocalEvaluation environment provider specification cancelled start =
          .ok (⟨run, gate⟩, later)) ↔ cancelled 0 = false := by
  constructor
  · intro decided
    by_contra set
    have empty : executeLocal environment provider specification cancelled start =
        .ok (runResult environment specification true [], start) :=
      executeLocal_cancelled_first within (by simpa using set)
    obtain ⟨gate, made, _⟩ := decided _ _ empty
    have raised : aggregateAndDecide environment.runtime specification.val
        (runResult environment specification true []) = .error .zeroDivision :=
      aggregateAndDecide_empty environment.runtime specification.val rfl
    cases raised.symm.trans made
  · intro unset run later returned
    have nonempty := (executeLocal_nonempty_iff returned).mpr unset
    obtain ⟨done, rest, split, _, evidence, _⟩ := executeLocal_evidence returned
    obtain ⟨summaries, summarised⟩ := caseSummaries_returns (evidence.belongs split)
    obtain ⟨gate, decided, _⟩ :=
      aggregateAndDecide_returns environment.runtime nonempty summarised
    exact ⟨gate, decided, bind_eq_ok.mpr ⟨_, returned,
      bind_eq_ok.mpr ⟨_, bind_eq_ok.mpr ⟨gate, decided, rfl⟩, rfl⟩⟩⟩

theorem twoGreetings_valid : (plainDocument "Say ok" ["first", "second"] {}).Valid := by
  decide +kernel

/-- A token set before the first case: a run is returned, and no report. -/
theorem cancelledFirst_raises :
    (∀ case ∈ (plainDocument "Say ok" ["first", "second"] {}).cases,
      (buildRequest Environment.plain (plainDocument "Say ok" ["first", "second"] {}) case).isOk) ∧
    (executeLocal Environment.plain Provider.ok ⟨_, twoGreetings_valid⟩ (fun _ => true) ()).isOk ∧
    executeLocalEvaluation Environment.plain Provider.ok ⟨_, twoGreetings_valid⟩ (fun _ => true) () =
      .error .zeroDivision := by decide

/-- A token set during the first of two cases: the partial run is decided. -/
theorem cancelledSecond_decides :
    (executeLocal Environment.plain Provider.ok ⟨_, twoGreetings_valid⟩ (fun ordinal => ordinal = 1)
      ()).isOk ∧
    ∀ run later,
      executeLocal Environment.plain Provider.ok ⟨_, twoGreetings_valid⟩ (fun ordinal => ordinal = 1)
        () = .ok (run, later) →
      ∃ gate, aggregateAndDecide Runtime.ascii (plainDocument "Say ok" ["first", "second"] {}) run =
          .ok gate ∧
        executeLocalEvaluation Environment.plain Provider.ok ⟨_, twoGreetings_valid⟩
          (fun ordinal => ordinal = 1) () = .ok (⟨run, gate⟩, later) := by
  refine ⟨by decide, ?_⟩
  exact (executeLocalEvaluation_decides_iff Environment.plain Provider.ok ⟨_, twoGreetings_valid⟩
    (fun ordinal => ordinal = 1) () (by decide)).mpr (by decide)

end RegressionDetection.Execution
