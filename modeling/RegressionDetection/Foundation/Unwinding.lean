import RegressionDetection.Foundation.Run

/-! Noninterference over whole histories. Two histories that agree on the events of one party give
it the same answers, when every single event of the party answers alike in states that look the
same to it, and no other event changes how a state looks. -/

namespace RegressionDetection.Foundation

universe u v w

variable {State : Type u} {Event : Type v} {Answer : Type w}

/-- The state after an event that is answered. -/
def nextState (step : State → Event → Answer × State) (state : State) (event : Event) : State :=
  (step state event).2

/-- What the party is answered in a history, event by event. -/
def answersTo (step : State → Event → Answer × State) (mine : Event → Bool) :
    State → List Event → List Answer
  | _, [] => []
  | state, event :: rest =>
    let later := answersTo step mine (nextState step state event) rest
    if mine event then (step state event).1 :: later else later

/-- The conditions on single events, for events that are allowed where they happen. -/
structure Unwinds (step : State → Event → Answer × State) (mine : Event → Bool)
    (allowed : State → Event → Prop) (alike : State → State → Prop) : Prop where
  own : ∀ first second event, alike first second → mine event = true → allowed first event →
    allowed second event → (step first event).1 = (step second event).1 ∧
      alike (nextState step first event) (nextState step second event)
  others : ∀ first second event, alike first second → mine event = false → allowed first event →
    alike (nextState step first event) second
  symmetric : ∀ first second, alike first second → alike second first

section Rules

variable {step : State → Event → Answer × State} {mine : Event → Bool}
  {allowed : State → Event → Prop} {alike : State → State → Prop} {first second : State}

/-- An event of others in the second history. -/
theorem Unwinds.behind (unwinds : Unwinds step mine allowed alike) {event : Event}
    (related : alike first second) (own : mine event = false) (met : allowed second event) :
    alike first (nextState step second event) :=
  unwinds.symmetric _ _ (unwinds.others _ _ _ (unwinds.symmetric _ _ related) own met)

/-- The party's next event in a history comes after events of others, which leave no trace. -/
theorem Unwinds.skip (unwinds : Unwinds step mine allowed alike) {event : Event} {rest : List Event}
    {events : List Event} (next : events.filter mine = event :: rest) (related : alike first second)
    (met : Guarded (nextState step) allowed second events) :
    ∃ reached later, later.filter mine = rest ∧ alike first reached ∧ allowed reached event ∧
      Guarded (nextState step) allowed (nextState step reached event) later ∧
      answersTo step mine second events =
        (step reached event).1 :: answersTo step mine (nextState step reached event) later ∧
      run (nextState step) second events = run (nextState step) (nextState step reached event) later := by
  induction events generalizing second with
  | nil => cases next
  | cons head tail ih =>
    cases own : mine head with
    | true =>
      rw [List.filter_cons_of_pos own] at next
      cases next
      exact ⟨second, tail, rfl, related, met.1, met.2, by rw [answersTo, if_pos own], rfl⟩
    | false =>
      rw [List.filter_cons_of_neg (by simp [own])] at next
      have kept := unwinds.behind related own met.1
      obtain ⟨reached, later, same, arrived, may, onward, answered, ended⟩ := ih next kept met.2
      exact ⟨reached, later, same, arrived, may, onward,
        by rw [answersTo, if_neg (by simp [own]), answered], by rw [run_cons, ended]⟩

/-- A history without events of the party leaves no trace. -/
theorem Unwinds.silent (unwinds : Unwinds step mine allowed alike) {events : List Event}
    (none : events.filter mine = []) (related : alike first second)
    (met : Guarded (nextState step) allowed second events) :
    alike first (run (nextState step) second events) ∧ answersTo step mine second events = [] := by
  induction events generalizing second with
  | nil => exact ⟨related, rfl⟩
  | cons head tail ih =>
    have own : mine head = false := by
      cases own : mine head with
      | true => cases (List.filter_cons_of_pos own).symm.trans none
      | false => rfl
    rw [List.filter_cons_of_neg (by simp [own])] at none
    have kept := unwinds.behind related own met.1
    obtain ⟨arrived, quiet⟩ := ih none kept met.2
    exact ⟨arrived, by rw [answersTo, if_neg (by simp [own]), quiet]⟩

/-- The unwinding theorem. -/
theorem Unwinds.noninterference (unwinds : Unwinds step mine allowed alike)
    {one two : List Event} (same : one.filter mine = two.filter mine) (related : alike first second)
    (met : Guarded (nextState step) allowed first one)
    (otherMet : Guarded (nextState step) allowed second two) :
    answersTo step mine first one = answersTo step mine second two ∧
      alike (run (nextState step) first one) (run (nextState step) second two) := by
  induction one generalizing first second two with
  | nil =>
    obtain ⟨arrived, quiet⟩ := unwinds.silent same.symm related otherMet
    exact ⟨quiet.symm, arrived⟩
  | cons event rest ih =>
    cases own : mine event with
    | true =>
      rw [List.filter_cons_of_pos own] at same
      obtain ⟨reached, later, remaining, arrived, may, onward, answered, ended⟩ :=
        unwinds.skip same.symm related otherMet
      obtain ⟨reply, next⟩ := unwinds.own _ _ _ arrived own met.1 may
      obtain ⟨replies, final⟩ := ih remaining.symm next met.2 onward
      rw [answersTo, if_pos own, answered, reply, replies, run_cons, ended]
      exact ⟨rfl, final⟩
    | false =>
      rw [List.filter_cons_of_neg (by simp [own])] at same
      have kept := unwinds.others _ _ _ related own met.1
      rw [answersTo, if_neg (by simp [own])]
      exact ih same kept met.2 otherMet

end Rules

end RegressionDetection.Foundation
