import Mathlib.Algebra.BigOperators.Group.List.Basic
import Mathlib.Algebra.Order.Group.Defs

/-! Spending under a cap that is checked before each expense and not after it. -/

namespace RegressionDetection.Foundation

universe u

variable {Amount : Type u} [AddCommMonoid Amount] [LinearOrder Amount]

/-- Before each expense, what was spent so far is below the cap. -/
def SpentBelow (cap spent : Amount) (costs : List Amount) : Prop :=
  ∀ before cost after, costs = before ++ cost :: after → spent + before.sum < cap

namespace SpentBelow

variable {cap spent cost : Amount} {costs : List Amount}

theorem nil : SpentBelow cap spent [] := by
  intro before cost after split
  simp at split

theorem cons (below : spent < cap) (rest : SpentBelow cap (spent + cost) costs) :
    SpentBelow cap spent (cost :: costs) := by
  intro before next after split
  cases before with
  | nil => simpa using below
  | cons first others =>
    obtain ⟨rfl, same⟩ := List.cons.inj split
    have later := rest others next after same
    rwa [List.sum_cons, ← add_assoc]

/-- Once the cap is reached there is no further expense. -/
theorem eq_nil (hard : SpentBelow cap spent costs) (reached : cap ≤ spent) : costs = [] := by
  cases costs with
  | nil => rfl
  | cons first rest =>
    have below := hard [] first rest rfl
    rw [List.sum_nil, add_zero] at below
    exact absurd below (not_lt.mpr reached)

/-- Only the last expense can lead over the cap. -/
theorem total [AddRightStrictMono Amount] {before : List Amount}
    (hard : SpentBelow cap spent (before ++ [cost])) :
    spent + (before ++ [cost]).sum < cap + cost := by
  have below := hard before cost [] rfl
  rw [List.sum_append, List.sum_singleton, ← add_assoc]
  exact add_lt_add_left below cost

end SpentBelow

end RegressionDetection.Foundation
