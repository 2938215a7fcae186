import Mathlib.Data.List.Basic
import Mathlib.Logic.Function.Basic
import RegressionDetection.Foundation.Run

/-! Interleaved calls on a shared state. Each call advances by atomic steps; when
every call takes effect in one of its steps, as the whole call would there, the
interleaving is a serial order of the calls. -/

namespace RegressionDetection.Foundation

universe u

variable {Index Call State Phase Reply : Type u}

/-- Calls that advance step by step, and the same calls as one transaction each.
`committed` is the reply of a call that has taken effect. -/
structure StepwiseCalls (Call State Phase Reply : Type u) where
  start : Call → Phase
  advance : State → Phase → Phase × State
  committed : Phase → Option Reply
  perform : Call → State → Reply × State
  start_uncommitted : ∀ call, committed (start call) = none

/-- The shared state and where every call stands. -/
structure Interleaved (Index State Phase : Type u) where
  state : State
  phases : Index → Phase

/-- The calls one after the other, with their replies. -/
def serial (perform : Call → State → Reply × State) : State → List Call → List Reply × State
  | state, [] => ([], state)
  | state, call :: rest =>
    let (reply, next) := perform call state
    let (replies, last) := serial perform next rest
    (reply :: replies, last)

theorem serial_append (perform : Call → State → Reply × State) (state : State)
    (first second : List Call) :
    serial perform state (first ++ second) =
      ((serial perform state first).1 ++ (serial perform (serial perform state first).2 second).1,
        (serial perform (serial perform state first).2 second).2) := by
  induction first generalizing state with
  | nil => rfl
  | cons call rest ih => simp [serial, ih]

namespace StepwiseCalls

variable (steps : StepwiseCalls Call State Phase Reply) (calls : Index → Call)

def initial (state : State) : Interleaved Index State Phase :=
  { state, phases := fun index => steps.start (calls index) }

/-- One call takes its next step. -/
def interleave [DecidableEq Index] (config : Interleaved Index State Phase) (index : Index) :
    Interleaved Index State Phase :=
  { state := (steps.advance config.state (config.phases index)).2
    phases := Function.update config.phases index
      (steps.advance config.state (config.phases index)).1 }

/-- The reply that a step gives its call. -/
def answered [DecidableEq Index] (config : Interleaved Index State Phase) (index : Index) :
    Option Reply :=
  match steps.committed (config.phases index) with
  | some _ => none
  | none => steps.committed (steps.advance config.state (config.phases index)).1

/-- The step changes nothing, or is the one in which the call takes effect, with
the effect and the reply of the whole call on the state as it is. -/
def LinearStep (config : Interleaved Index State Phase) (index : Index) : Prop :=
  let stepped := steps.advance config.state (config.phases index)
  match steps.committed (config.phases index) with
  | none =>
    (steps.committed stepped.1 = none ∧ stepped.2 = config.state) ∨
      (steps.committed stepped.1 = some (steps.perform (calls index) config.state).1 ∧
        stepped.2 = (steps.perform (calls index) config.state).2)
  | some reply => steps.committed stepped.1 = some reply ∧ stepped.2 = config.state

/-- The calls that have taken effect, in an order that explains the state and the replies. -/
def Explained (start : State) (config : Interleaved Index State Phase) (order : List Index) : Prop :=
  order.Nodup ∧ (∀ index, index ∈ order ↔ steps.committed (config.phases index) ≠ none) ∧
    (serial steps.perform start (order.map calls)).2 = config.state ∧
    (serial steps.perform start (order.map calls)).1.map some =
      order.map (fun index => steps.committed (config.phases index))

variable {steps calls}

/-- The state a linear step leaves: the old one, or that of the whole call. -/
theorem LinearStep.state {config : Interleaved Index State Phase} {index : Index}
    (linear : steps.LinearStep calls config index) :
    (steps.advance config.state (config.phases index)).2 = config.state ∨
      (steps.advance config.state (config.phases index)).2 =
        (steps.perform (calls index) config.state).2 := by
  unfold LinearStep at linear
  cases before : steps.committed (config.phases index) with
  | none =>
    rw [before] at linear
    exact linear.imp And.right And.right
  | some reply =>
    rw [before] at linear
    exact .inl linear.2

variable [DecidableEq Index]

theorem explained_step {start : State} {config : Interleaved Index State Phase} {index : Index}
    {order : List Index} (linear : steps.LinearStep calls config index)
    (explained : steps.Explained calls start config order) :
    ∃ order, steps.Explained calls start (steps.interleave config index) order := by
  obtain ⟨nodup, members, state, replies⟩ := explained
  unfold LinearStep at linear
  -- A step that changes neither the state nor what has been committed keeps the order.
  have silent (same : steps.committed (steps.advance config.state (config.phases index)).1 =
      steps.committed (config.phases index))
      (still : (steps.advance config.state (config.phases index)).2 = config.state) :
      ∃ order, steps.Explained calls start (steps.interleave config index) order := by
    have phases : ∀ other, steps.committed ((steps.interleave config index).phases other) =
        steps.committed (config.phases other) := by
      intro other
      by_cases own : other = index
      · subst own
        simpa [interleave] using same
      · simp [interleave, own]
    refine ⟨order, nodup, fun other => ?_, state.trans still.symm, ?_⟩
    · rw [phases]
      exact members other
    · simp only [phases]
      exact replies
  cases before : steps.committed (config.phases index) with
  | some reply =>
    rw [before] at linear silent
    exact silent linear.1 linear.2
  | none =>
    rw [before] at linear silent
    rcases linear with ⟨uncommitted, still⟩ | ⟨committed, effect⟩
    · exact silent uncommitted still
    · have fresh : index ∉ order := fun member => (members index).mp member before
      have own : steps.committed ((steps.interleave config index).phases index) =
          some (steps.perform (calls index) config.state).1 := by
        simpa [interleave] using committed
      have others : ∀ other, other ≠ index →
          (steps.interleave config index).phases other = config.phases other := by
        intro other apart
        simp [interleave, apart]
      refine ⟨order ++ [index], ?_, ?_, ?_, ?_⟩
      · exact List.nodup_append.mpr ⟨nodup, by simp, fun first one second two same =>
          fresh (List.mem_singleton.mp two ▸ same ▸ one)⟩
      · intro other
        by_cases same : other = index
        · subst same
          simp [own]
        · simp [others other same, members other, same]
      · rw [List.map_append, serial_append, state]
        exact effect.symm
      · rw [List.map_append, serial_append, List.map_append, List.map_append, state, replies]
        congr 1
        · apply List.map_congr_left
          intro other member
          rw [others other (fun same => fresh (same ▸ member))]
        · simp [serial, own]

/-- An interleaving of linear steps is explained by a serial order of the calls
that have taken effect. -/
theorem explained_of_linear {start : State} {schedule : List Index}
    (linear : Guarded steps.interleave (steps.LinearStep calls) (steps.initial calls start) schedule) :
    ∃ order, steps.Explained calls start (run steps.interleave (steps.initial calls start) schedule)
      order := by
  refine run_invariant (fun config => ∃ order, steps.Explained calls start config order) ?_ linear ?_
  · rintro config index step ⟨order, explained⟩
    exact explained_step step explained
  · refine ⟨[], List.nodup_nil, fun index => ?_, rfl, rfl⟩
    simp [initial, steps.start_uncommitted]

/-- A call that has not been scheduled is where it started. -/
theorem phases_of_not_mem {start : Interleaved Index State Phase} {schedule : List Index} {index : Index}
    (absent : index ∉ schedule) :
    (run steps.interleave start schedule).phases index = start.phases index := by
  induction schedule generalizing start with
  | nil => rfl
  | cons first rest ih =>
    simp only [List.mem_cons, not_or] at absent
    rw [run_cons, ih absent.2]
    simp [interleave, absent.1]

end StepwiseCalls

end RegressionDetection.Foundation
