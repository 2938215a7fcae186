import Mathlib.Data.List.Basic

/-! Runs of a deterministic step function over a list of events, and the rules
that lift a one-step fact to every state of a run. -/

namespace RegressionDetection.Foundation

universe u v

variable {State : Type u} {Event : Type v}

/-- The state after the events, in order. -/
def run (step : State → Event → State) (state : State) (events : List Event) : State :=
  events.foldl step state

/-- Every event meets the guard in the state it is applied to. -/
def Guarded (step : State → Event → State) (guard : State → Event → Prop) :
    State → List Event → Prop
  | _, [] => True
  | state, event :: rest => guard state event ∧ Guarded step guard (step state event) rest

section Rules

variable {step : State → Event → State} {guard : State → Event → Prop}

@[simp] theorem run_nil (state : State) : run step state [] = state := rfl

@[simp] theorem run_cons (state : State) (event : Event) (rest : List Event) :
    run step state (event :: rest) = run step (step state event) rest := rfl

theorem run_append (state : State) (first second : List Event) :
    run step state (first ++ second) = run step (run step state first) second := by
  simp [run]

theorem Guarded.append {first second : List Event} {state : State} :
    Guarded step guard state (first ++ second) ↔
      Guarded step guard state first ∧ Guarded step guard (run step state first) second := by
  induction first generalizing state with
  | nil => simp [Guarded]
  | cons event rest ih => simp [Guarded, ih, and_assoc]

theorem Guarded.mono {wider : State → Event → Prop} (wide : ∀ s e, guard s e → wider s e)
    {state : State} {events : List Event} (met : Guarded step guard state events) :
    Guarded step wider state events := by
  induction events generalizing state with
  | nil => trivial
  | cons event rest ih => exact ⟨wide _ _ met.1, ih met.2⟩

/-- A fact that every guarded step keeps holds at the end of a guarded run. -/
theorem run_invariant (invariant : State → Prop)
    (keeps : ∀ s e, guard s e → invariant s → invariant (step s e))
    {state : State} {events : List Event} (met : Guarded step guard state events)
    (start : invariant state) : invariant (run step state events) := by
  induction events generalizing state with
  | nil => exact start
  | cons event rest ih => exact ih met.2 (keeps _ _ met.1 start)

/-- The same where the steps need no guard. -/
theorem run_invariant_free (invariant : State → Prop)
    (keeps : ∀ s e, invariant s → invariant (step s e)) {state : State} (events : List Event)
    (start : invariant state) : invariant (run step state events) := by
  induction events generalizing state with
  | nil => exact start
  | cons event rest ih => exact ih (keeps _ _ start)

/-- Two guards that agree wherever an invariant holds cut out the same runs. -/
theorem Guarded.congr {other : State → Event → Prop} {invariant : State → Prop}
    (keeps : ∀ s e, invariant s → invariant (step s e))
    (agree : ∀ s e, invariant s → (guard s e ↔ other s e))
    {state : State} {events : List Event} (start : invariant state) :
    Guarded step guard state events ↔ Guarded step other state events := by
  induction events generalizing state with
  | nil => exact Iff.rfl
  | cons event rest ih => exact and_congr (agree _ _ start) (ih (keeps _ _ start))

/-- A guard that an invariant gives is met by every run from it. -/
theorem Guarded.of_invariant {invariant : State → Prop}
    (keeps : ∀ s e, invariant s → invariant (step s e)) (gives : ∀ s e, invariant s → guard s e)
    {state : State} (events : List Event) (start : invariant state) :
    Guarded step guard state events := by
  induction events generalizing state with
  | nil => trivial
  | cons event rest ih => exact ⟨gives _ _ start, ih (keeps _ _ start)⟩

/-- Along a guarded run a second guard holds wherever an invariant gives it. -/
theorem Guarded.strengthen {other : State → Event → Prop} {invariant : State → Prop}
    {state : State} {events : List Event} (met : Guarded step guard state events)
    (keeps : ∀ s e, guard s e → invariant s → invariant (step s e))
    (gives : ∀ s e, guard s e → invariant s → other s e) (start : invariant state) :
    Guarded step other state events := by
  induction events generalizing state with
  | nil => trivial
  | cons event rest ih =>
    exact ⟨gives _ _ met.1 start, ih met.2 (keeps _ _ met.1 start)⟩

end Rules

end RegressionDetection.Foundation
