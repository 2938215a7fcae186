import Mathlib.Data.List.Forall2

/-! Rules for computations that may raise: sequencing, and mapping over a list
with the first error ending the map. -/

namespace RegressionDetection.Foundation

universe u v

variable {ε α β : Type u}

theorem bind_eq_ok {first : Except ε α} {next : α → Except ε β} {result : β} :
    (first >>= next) = .ok result ↔ ∃ value, first = .ok value ∧ next value = .ok result := by
  cases first <;> simp [bind, Except.bind]

theorem toOption_eq_some {result : Except ε α} {value : α} :
    result.toOption = some value ↔ result = .ok value := by
  cases result with
  | error error => exact ⟨fun none => (by cases none), fun raised => (by cases raised)⟩
  | ok returned => exact ⟨fun same => congrArg _ (Option.some.inj same), fun same => congrArg _ same⟩

theorem bind_eq_error {first : Except ε α} {next : α → Except ε β} {error : ε} :
    (first >>= next) = .error error ↔
      first = .error error ∨ ∃ value, first = .ok value ∧ next value = .error error := by
  cases first <;> simp [bind, Except.bind]

/-- A map returns exactly when every application does, and returns those values. -/
theorem mapM_eq_ok {f : α → Except ε β} {items : List α} {results : List β} :
    items.mapM f = .ok results ↔ List.Forall₂ (fun item result => f item = .ok result) items results := by
  induction items generalizing results with
  | nil =>
    simp only [List.mapM_nil, List.forall₂_nil_left_iff]
    exact ⟨fun same => (Except.ok.inj same).symm, fun same => congrArg Except.ok same.symm⟩
  | cons item rest ih =>
    rw [List.mapM_cons, bind_eq_ok]
    constructor
    · rintro ⟨head, first, others⟩
      obtain ⟨tail, mapped, same⟩ := bind_eq_ok.mp others
      cases same
      exact .cons first (ih.mp mapped)
    · intro pairs
      cases pairs with
      | cons first others => exact ⟨_, first, bind_eq_ok.mpr ⟨_, ih.mpr others, rfl⟩⟩

/-- What every application keeps of its item, the results keep of the items, in order. -/
theorem map_eq_of_mapM {γ : Type v} {f : α → Except ε β} {items : List α} {results : List β}
    {after : β → γ} {before : α → γ} (mapped : items.mapM f = .ok results)
    (keeps : ∀ item result, f item = .ok result → after result = before item) :
    results.map after = items.map before := by
  have pairs := mapM_eq_ok.mp mapped
  clear mapped
  induction pairs with
  | nil => rfl
  | cons returned _ ih => rw [List.map_cons, List.map_cons, keeps _ _ returned, ih]

/-- Every result of a map is the value of some item. -/
theorem exists_of_mem_mapM {f : α → Except ε β} {items : List α} {results : List β}
    (mapped : items.mapM f = .ok results) {result : β} (member : result ∈ results) :
    ∃ item ∈ items, f item = .ok result := by
  have pairs := mapM_eq_ok.mp mapped
  clear mapped
  induction pairs with
  | nil => cases member
  | @cons item head rest tail returned _ ih =>
    rcases List.mem_cons.mp member with rfl | later
    · exact ⟨item, List.mem_cons_self, returned⟩
    · obtain ⟨found, listed, value⟩ := ih later
      exact ⟨found, List.mem_cons_of_mem _ listed, value⟩

/-- The value of every item is among the results. -/
theorem image_of_mem_mapM {f : α → Except ε β} {items : List α} {results : List β}
    (mapped : items.mapM f = .ok results) {item : α} (member : item ∈ items) :
    ∃ result, f item = .ok result ∧ result ∈ results := by
  have pairs := mapM_eq_ok.mp mapped
  clear mapped
  induction pairs with
  | nil => cases member
  | cons returned _ ih =>
    rcases List.mem_cons.mp member with rfl | later
    · exact ⟨_, returned, List.mem_cons_self⟩
    · obtain ⟨result, value, listed⟩ := ih later
      exact ⟨result, value, List.mem_cons_of_mem _ listed⟩

/-- A map that returns has a value for every item. -/
theorem returns_of_mem_mapM {f : α → Except ε β} {items : List α} {results : List β}
    (mapped : items.mapM f = .ok results) {item : α} (member : item ∈ items) :
    ∃ result, f item = .ok result :=
  let ⟨result, value, _⟩ := image_of_mem_mapM mapped member
  ⟨result, value⟩

/-- When every application returns, the map does, with values of the same form. -/
theorem mapM_returns_map {γ : Type v} (g : γ → β) {f : α → Except ε β} {items : List α}
    (each : ∀ item ∈ items, ∃ value, f item = .ok (g value)) :
    ∃ values : List γ, items.mapM f = .ok (values.map g) := by
  induction items with
  | nil => exact ⟨[], rfl⟩
  | cons item rest ih =>
    obtain ⟨head, first⟩ := each item List.mem_cons_self
    obtain ⟨tail, mapped⟩ := ih fun other member => each other (List.mem_cons_of_mem _ member)
    exact ⟨head :: tail, mapM_eq_ok.mpr (.cons first (mapM_eq_ok.mp mapped))⟩

theorem mapM_returns {f : α → Except ε β} {items : List α}
    (each : ∀ item ∈ items, ∃ result, f item = .ok result) : ∃ results, items.mapM f = .ok results :=
  let ⟨_, mapped⟩ := mapM_returns_map id each
  ⟨_, mapped⟩

/-- A map returns with results related to their items exactly when each application does. -/
theorem mapM_related_iff {f : α → Except ε β} {related : α → β → Prop} {items : List α} :
    (∃ results, items.mapM f = .ok results ∧ List.Forall₂ related items results) ↔
      ∀ item ∈ items, ∃ result, f item = .ok result ∧ related item result := by
  induction items with
  | nil => exact ⟨fun _ item member => absurd member List.not_mem_nil, fun _ => ⟨[], rfl, .nil⟩⟩
  | cons item rest ih =>
    rw [List.forall_mem_cons, ← ih]
    constructor
    · rintro ⟨results, mapped, pairs⟩
      cases mapM_eq_ok.mp mapped with
      | cons first others =>
        cases pairs with
        | cons head tail => exact ⟨⟨_, first, head⟩, _, mapM_eq_ok.mpr others, tail⟩
    · rintro ⟨⟨result, first, head⟩, results, mapped, tail⟩
      exact ⟨result :: results, mapM_eq_ok.mpr (.cons first (mapM_eq_ok.mp mapped)), .cons head tail⟩

/-- The first application to raise decides the error of the whole map. -/
theorem mapM_eq_error {f : α → Except ε β} {items : List α} {error : ε} :
    items.mapM f = .error error ↔ ∃ before item after results,
      items = before ++ item :: after ∧ before.mapM f = .ok results ∧ f item = .error error := by
  induction items with
  | nil =>
    constructor
    · intro raised
      cases raised
    · rintro ⟨before, item, after, _, same, _⟩
      simp at same
  | cons head rest ih =>
    rw [List.mapM_cons, bind_eq_error]
    constructor
    · rintro (raised | ⟨value, returned, later⟩)
      · exact ⟨[], head, rest, [], rfl, rfl, raised⟩
      · rcases bind_eq_error.mp later with raised | ⟨_, _, impossible⟩
        · obtain ⟨before, item, after, results, same, mapped, failed⟩ := ih.mp raised
          refine ⟨head :: before, item, after, value :: results, by rw [same]; rfl, ?_, failed⟩
          exact mapM_eq_ok.mpr (.cons returned (mapM_eq_ok.mp mapped))
        · cases impossible
    · rintro ⟨before, item, after, results, same, mapped, failed⟩
      cases before with
      | nil =>
        obtain ⟨rfl, rfl⟩ := List.cons.inj same
        exact .inl failed
      | cons first before =>
        obtain ⟨rfl, rfl⟩ := List.cons.inj same
        cases mapM_eq_ok.mp mapped with
        | cons returned others =>
          refine .inr ⟨_, returned, bind_eq_error.mpr (.inl (ih.mpr ?_))⟩
          exact ⟨before, item, after, _, rfl, mapM_eq_ok.mpr others, failed⟩

/-- The same exception, or values that are related. -/
inductive Outcomes {ε α β : Type} (related : α → β → Prop) : Except ε α → Except ε β → Prop where
  | ok {first : α} {second : β} (values : related first second) :
      Outcomes related (.ok first) (.ok second)
  | error (raised : ε) : Outcomes related (.error raised) (.error raised)

section Outcomes

variable {ε α β γ δ : Type} {related : α → β → Prop}

theorem Outcomes.refl (outcome : Except ε α) : Outcomes (· = ·) outcome outcome := by
  cases outcome with
  | ok value => exact .ok rfl
  | error raised => exact .error raised

theorem Outcomes.bind {first : Except ε α} {second : Except ε β} (outcomes : Outcomes related first second)
    {later : γ → δ → Prop} {next : α → Except ε γ} {following : β → Except ε δ}
    (onwards : ∀ a b, related a b → Outcomes later (next a) (following b)) :
    Outcomes later (first >>= next) (second >>= following) := by
  cases outcomes with
  | ok values => exact onwards _ _ values
  | error raised => exact .error raised

/-- What the first returns, the second returns up to the relation. -/
theorem Outcomes.returned {first : Except ε α} {second : Except ε β} (outcomes : Outcomes related first second)
    {value : α} (returned : first = .ok value) : ∃ other, second = .ok other ∧ related value other := by
  subst returned
  cases outcomes with
  | ok values => exact ⟨_, rfl, values⟩

end Outcomes

end RegressionDetection.Foundation
