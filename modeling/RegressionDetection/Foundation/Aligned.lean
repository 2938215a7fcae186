import Mathlib.Data.List.Forall2

/-! Lists that are related element by element. -/

namespace RegressionDetection.Foundation

variable {α β γ : Type} {related : α → β → Prop}

theorem aligned_of_mem {xs : List α} {ys : List β} (aligned : List.Forall₂ related xs ys) {y : β}
    (member : y ∈ ys) : ∃ x ∈ xs, related x y := by
  induction aligned with
  | nil => cases member
  | @cons x _ xs _ own _ ih =>
    rcases List.mem_cons.mp member with rfl | later
    · exact ⟨x, List.mem_cons_self, own⟩
    · obtain ⟨other, listed, same⟩ := ih later
      exact ⟨other, List.mem_cons_of_mem x listed, same⟩

theorem aligned_dropLast {xs : List α} {ys : List β} (aligned : List.Forall₂ related xs ys) :
    List.Forall₂ related xs.dropLast ys.dropLast := by
  rw [List.dropLast_eq_take, List.dropLast_eq_take, aligned.length_eq]
  exact List.forall₂_take _ aligned

theorem aligned_trans {further : β → γ → Prop} {composed : α → γ → Prop} {xs : List α} {ys : List β}
    {zs : List γ} (compose : ∀ x y z, related x y → further y z → composed x z)
    (aligned : List.Forall₂ related xs ys) (others : List.Forall₂ further ys zs) :
    List.Forall₂ composed xs zs := by
  induction aligned generalizing zs with
  | nil =>
    obtain rfl := List.forall₂_nil_left_iff.mp others
    exact .nil
  | cons own _ ih =>
    obtain ⟨_, _, next, rest, rfl⟩ := List.forall₂_cons_left_iff.mp others
    exact .cons (compose _ _ _ own next) (ih rest)

/-- What is aligned with a list of groups falls into groups itself. -/
theorem aligned_flatten {groups : List (List α)} {ys : List β}
    (aligned : List.Forall₂ related groups.flatten ys) :
    ∃ others, ys = others.flatten ∧ List.Forall₂ (List.Forall₂ related) groups others := by
  induction groups generalizing ys with
  | nil =>
    obtain rfl := List.forall₂_nil_left_iff.mp aligned
    exact ⟨[], rfl, .nil⟩
  | cons group rest ih =>
    rw [List.flatten_cons] at aligned
    have head := List.forall₂_take_append _ _ _ aligned.flip
    have tail := List.forall₂_drop_append _ _ _ aligned.flip
    obtain ⟨others, left, grouped⟩ := ih tail.flip
    refine ⟨ys.take group.length :: others, ?_, .cons head.flip grouped⟩
    rw [List.flatten_cons, ← left, List.take_append_drop]

end RegressionDetection.Foundation
