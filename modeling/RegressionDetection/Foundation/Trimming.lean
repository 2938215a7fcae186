import Mathlib.Data.List.Basic

/-! Shrinking a list from its end until it fits: of the items that may be removed the
first ones stay, and every other item does. -/

namespace RegressionDetection.Foundation

universe u

variable {α : Type u} {removable : α → Bool}

/-- The items that may not be removed and the first `kept` of those that may. -/
def keepFirst (removable : α → Bool) : Nat → List α → List α
  | _, [] => []
  | kept, item :: rest =>
    if removable item then
      match kept with
      | 0 => keepFirst removable 0 rest
      | kept + 1 => item :: keepFirst removable kept rest
    else item :: keepFirst removable kept rest

/-- The list without the last item that may be removed. -/
def removeLast (removable : α → Bool) : List α → Option (List α)
  | [] => none
  | item :: rest =>
    match removeLast removable rest with
    | some shorter => some (item :: shorter)
    | none => if removable item then some rest else none

/-- What trimming leaves: one removable item more would not have fit, and if the result
does not fit either, nothing is left to remove. -/
structure Trimmed (removable : α → Bool) (fits : List α → Prop) (items result : List α) :
    Prop where
  fromEnd : result = keepFirst removable (result.countP removable) items
  needed : ∀ more, result.countP removable < more → more ≤ items.countP removable →
    ¬ fits (keepFirst removable more items)
  exhausted : ¬ fits result → ∀ item ∈ result, removable item = false

section Keeping

variable {item : α} {rest : List α}

theorem keepFirst_essential_cons (stays : removable item = false) (kept : Nat) :
    keepFirst removable kept (item :: rest) = item :: keepFirst removable kept rest := by
  simp [keepFirst, stays]

theorem keepFirst_zero_cons (may : removable item = true) :
    keepFirst removable 0 (item :: rest) = keepFirst removable 0 rest := by
  simp [keepFirst, may]

theorem keepFirst_succ_cons (may : removable item = true) (kept : Nat) :
    keepFirst removable (kept + 1) (item :: rest) = item :: keepFirst removable kept rest := by
  simp [keepFirst, may]

theorem keepFirst_sublist (kept : Nat) (items : List α) :
    (keepFirst removable kept items).Sublist items := by
  induction items generalizing kept with
  | nil => exact .slnil
  | cons item rest ih =>
    cases may : removable item with
    | false =>
      rw [keepFirst_essential_cons may]
      exact (ih kept).cons_cons item
    | true =>
      cases kept with
      | zero =>
        rw [keepFirst_zero_cons may]
        exact (ih 0).cons item
      | succ kept =>
        rw [keepFirst_succ_cons may]
        exact (ih kept).cons_cons item

/-- What may not be removed stays. -/
theorem keepFirst_essential (kept : Nat) (items : List α) :
    (keepFirst removable kept items).filter (fun item => !removable item) =
      items.filter (fun item => !removable item) := by
  induction items generalizing kept with
  | nil => rfl
  | cons item rest ih =>
    cases may : removable item with
    | false => simp [keepFirst_essential_cons may, may, ih kept]
    | true =>
      cases kept with
      | zero => simp [keepFirst_zero_cons may, may, ih 0]
      | succ kept => simp [keepFirst_succ_cons may, may, ih kept]

/-- Of what may be removed, the first ones stay. -/
theorem keepFirst_removable (kept : Nat) (items : List α) :
    (keepFirst removable kept items).filter removable = (items.filter removable).take kept := by
  induction items generalizing kept with
  | nil => simp [keepFirst]
  | cons item rest ih =>
    cases may : removable item with
    | false => simp [keepFirst_essential_cons may, may, ih kept]
    | true =>
      cases kept with
      | zero => simp [keepFirst_zero_cons may, ih 0]
      | succ kept => simp [keepFirst_succ_cons may, may, ih kept]

theorem countP_keepFirst (kept : Nat) (items : List α) :
    (keepFirst removable kept items).countP removable = min kept (items.countP removable) := by
  rw [List.countP_eq_length_filter, keepFirst_removable, List.length_take,
    List.countP_eq_length_filter]

theorem keepFirst_all {kept : Nat} {items : List α} (enough : items.countP removable ≤ kept) :
    keepFirst removable kept items = items := by
  induction items generalizing kept with
  | nil => rfl
  | cons item rest ih =>
    cases may : removable item with
    | false =>
      rw [List.countP_cons_of_neg (by simp [may])] at enough
      rw [keepFirst_essential_cons may, ih enough]
    | true =>
      rw [List.countP_cons_of_pos may] at enough
      cases kept with
      | zero => omega
      | succ kept => rw [keepFirst_succ_cons may, ih (Nat.le_of_succ_le_succ enough)]

theorem keepFirst_keepFirst {more kept : Nat} (fewer : more ≤ kept) (items : List α) :
    keepFirst removable more (keepFirst removable kept items) = keepFirst removable more items := by
  induction items generalizing more kept with
  | nil => rfl
  | cons item rest ih =>
    cases may : removable item with
    | false => simp only [keepFirst_essential_cons may, ih fewer]
    | true =>
      cases kept with
      | zero =>
        obtain rfl := Nat.le_zero.mp fewer
        rw [keepFirst_zero_cons may, ih fewer]
      | succ kept =>
        rw [keepFirst_succ_cons may]
        cases more with
        | zero => rw [keepFirst_zero_cons may, keepFirst_zero_cons may, ih (Nat.zero_le kept)]
        | succ more =>
          rw [keepFirst_succ_cons may, keepFirst_succ_cons may, ih (Nat.le_of_succ_le_succ fewer)]

end Keeping

section Removing

theorem removeLast_eq_none {items : List α} :
    removeLast removable items = none ↔ ∀ item ∈ items, removable item = false := by
  induction items with
  | nil => simp [removeLast]
  | cons item rest ih =>
    unfold removeLast
    cases later : removeLast removable rest with
    | some shorter => simp [← ih, later]
    | none =>
      have none_may := ih.mp later
      cases may : removable item with
      | false => simpa [may] using none_may
      | true => simp [may]

/-- Removing the last one keeps all removable items but one. -/
theorem removeLast_eq_some {items shorter : List α}
    (removed : removeLast removable items = some shorter) :
    items.countP removable = shorter.countP removable + 1 ∧
      shorter = keepFirst removable (shorter.countP removable) items := by
  induction items generalizing shorter with
  | nil => cases removed
  | cons item rest ih =>
    unfold removeLast at removed
    cases later : removeLast removable rest with
    | some other =>
      obtain rfl : item :: other = shorter := by simpa [later] using removed
      obtain ⟨count, first⟩ := ih later
      cases may : removable item with
      | false =>
        rw [List.countP_cons_of_neg (by simp [may]), List.countP_cons_of_neg (by simp [may])]
        exact ⟨count, by rw [keepFirst_essential_cons may, ← first]⟩
      | true =>
        rw [List.countP_cons_of_pos may, List.countP_cons_of_pos may]
        exact ⟨congrArg Nat.succ count, by rw [keepFirst_succ_cons may, ← first]⟩
    | none =>
      have none_may := removeLast_eq_none.mp later
      have count : rest.countP removable = 0 := List.countP_eq_zero.mpr fun other member => by
        simp [none_may other member]
      cases may : removable item with
      | false => simp [later, may] at removed
      | true =>
        obtain rfl : rest = shorter := by simpa [later, may] using removed
        rw [List.countP_cons_of_pos may, count]
        exact ⟨rfl, by rw [keepFirst_zero_cons may, keepFirst_all (Nat.le_of_eq count)]⟩

theorem removeLast_shorter {items shorter : List α}
    (removed : removeLast removable items = some shorter) : shorter.length < items.length := by
  obtain ⟨count, first⟩ := removeLast_eq_some removed
  have remains : shorter.Sublist items := by
    rw [first]
    exact keepFirst_sublist _ items
  refine Nat.lt_of_le_of_ne remains.length_le fun same => ?_
  rw [remains.eq_of_length same] at count
  omega

theorem removeLast_concat (items : List α) (last : α) :
    removeLast removable (items ++ [last]) =
      if removable last then some items else (removeLast removable items).map (· ++ [last]) := by
  induction items with
  | nil => cases may : removable last <;> simp [removeLast, may]
  | cons item rest ih =>
    simp only [List.cons_append, removeLast, ih]
    cases removable last <;> cases removeLast removable rest <;> cases removable item <;> rfl

end Removing

section Trimming

variable {fits : List α → Prop}

theorem Trimmed.refl {items : List α}
    (done : fits items ∨ removeLast removable items = none) : Trimmed removable fits items items where
  fromEnd := (keepFirst_all (Nat.le_refl _)).symm
  needed _ above within := absurd above (Nat.not_lt_of_le within)
  exhausted tooLong := removeLast_eq_none.mp (done.resolve_left tooLong)

/-- Trimming on after the last removable item was taken from a list that did not fit. -/
theorem Trimmed.step {items shorter result : List α} (tooLong : ¬ fits items)
    (removed : removeLast removable items = some shorter)
    (trimmed : Trimmed removable fits shorter result) : Trimmed removable fits items result := by
  obtain ⟨count, first⟩ := removeLast_eq_some removed
  have fewer : result.countP removable ≤ shorter.countP removable := by
    rw [trimmed.fromEnd, countP_keepFirst]
    exact Nat.min_le_right _ _
  have same {more : Nat} (below : more ≤ shorter.countP removable) :
      keepFirst removable more shorter = keepFirst removable more items := by
    conv_lhs => rw [first]
    exact keepFirst_keepFirst below items
  refine ⟨trimmed.fromEnd.trans (same fewer), ?_, trimmed.exhausted⟩
  intro more above within
  rcases Nat.lt_or_ge (shorter.countP removable) more with last | below
  · rw [keepFirst_all (by omega)]
    exact tooLong
  · rw [← same below]
    exact trimmed.needed more above below

theorem Trimmed.sublist {items result : List α} (trimmed : Trimmed removable fits items result) :
    result.Sublist items := by
  rw [trimmed.fromEnd]
  exact keepFirst_sublist _ items

theorem Trimmed.essential {items result : List α} (trimmed : Trimmed removable fits items result) :
    result.filter (fun item => !removable item) = items.filter (fun item => !removable item) := by
  rw [trimmed.fromEnd]
  exact keepFirst_essential _ items

end Trimming

end RegressionDetection.Foundation
