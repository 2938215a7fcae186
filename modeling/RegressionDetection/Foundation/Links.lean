import Mathlib.Data.List.Basic
import RegressionDetection.Foundation.Run

/-! Observed values along a run. When every step keeps the observed value or
reports one change of it, from the value before to the value after, the reported
changes form one chain and account for all values the run ever shows. -/

namespace RegressionDetection.Foundation

universe u v w x

variable {State : Type u} {Event : Type v} {Value : Type w} {Link : Type x}

/-- The links lead from the first value to the last, each to a new value. -/
def Linked (source target : Link → Value) : Value → List Link → Value → Prop
  | first, [], last => first = last
  | first, link :: rest, last =>
    source link = first ∧ target link ≠ first ∧ Linked source target (target link) rest last

section Runs

variable (step : State → Event → State) (observe : State → Value)
  (change : State → Event → Option Link) (source target : Link → Value)

/-- The changes that the steps report, in order. -/
def changes : State → List Event → List Link
  | _, [] => []
  | state, event :: rest => (change state event).toList ++ changes (step state event) rest

/-- The values the run shows, without repetition of one that stands. -/
def shown [DecidableEq Value] : State → List Event → List Value
  | state, [] => [observe state]
  | state, event :: rest =>
    if observe (step state event) = observe state then shown (step state event) rest
    else observe state :: shown (step state event) rest

/-- The step keeps the value, or reports the one change it makes. -/
def Accounted (state : State) (event : Event) : Prop :=
  match change state event with
  | none => observe (step state event) = observe state
  | some link => source link = observe state ∧ target link = observe (step state event) ∧
      target link ≠ observe state

variable {step observe change source target}

/-- The reported changes lead from the first value of the run to its last. -/
theorem changes_linked {state : State} {events : List Event}
    (accounted : Guarded step (Accounted step observe change source target) state events) :
    Linked source target (observe state) (changes step change state events)
      (observe (run step state events)) := by
  induction events generalizing state with
  | nil => rfl
  | cons event rest ih =>
    obtain ⟨first, others⟩ := accounted
    have later := ih others
    unfold Accounted at first
    unfold changes
    cases reported : change state event with
    | none =>
      rw [reported] at first
      rw [first] at later
      exact later
    | some link =>
      rw [reported] at first
      obtain ⟨before, after, new⟩ := first
      rw [← after] at later
      exact ⟨before, new, later⟩

/-- The values shown are the first one and the targets of the reported changes. -/
theorem shown_eq [DecidableEq Value] {state : State} {events : List Event}
    (accounted : Guarded step (Accounted step observe change source target) state events) :
    shown step observe state events =
      observe state :: (changes step change state events).map target := by
  induction events generalizing state with
  | nil => rfl
  | cons event rest ih =>
    obtain ⟨first, others⟩ := accounted
    unfold Accounted at first
    unfold shown changes
    rw [ih others]
    cases reported : change state event with
    | none =>
      rw [reported] at first
      rw [if_pos first, first]
      rfl
    | some link =>
      rw [reported] at first
      obtain ⟨_, after, new⟩ := first
      rw [if_neg (after ▸ new), ← after]
      rfl

end Runs

end RegressionDetection.Foundation
