import RegressionDetection.Foundation.Dict
import RegressionDetection.Foundation.Json

/-! JSON values up to the order of object keys: equality as Python compares
dictionaries, and the normal form with sorted keys that decides it. -/

namespace RegressionDetection.Foundation.Json

mutual

/-- Equality up to the order of object keys at every depth; the order of arrays counts,
and booleans, integers and floats are kept apart. -/
def alike : Json → Json → Bool
  | .null, .null => true
  | .bool a, .bool b => a == b
  | .int a, .int b => a == b
  | .float a, .float b => decide (a = b)
  | .str a, .str b => a == b
  | .arr a, .arr b => alikeItems a b
  | .obj a, .obj b => decide (a.length = b.length) && alikeFields a b
  | _, _ => false

def alikeItems : List Json → List Json → Bool
  | [], [] => true
  | a :: as, b :: bs => alike a b && alikeItems as bs
  | _, _ => false

/-- Every field of the first object has an alike value in the second. -/
def alikeFields : List (String × Json) → List (String × Json) → Bool
  | [], _ => true
  | (key, value) :: rest, others =>
    (match lookup others key with
      | some other => alike value other
      | none => false) && alikeFields rest others

end

mutual

/-- No object has a key twice, at any depth. -/
def distinct : Json → Bool
  | .arr items => distinctItems items
  | .obj fields => decide (fields.map Prod.fst).Nodup && distinctFields fields
  | _ => true

def distinctItems : List Json → Bool
  | [] => true
  | item :: rest => distinct item && distinctItems rest

def distinctFields : List (String × Json) → Bool
  | [] => true
  | (_, value) :: rest => distinct value && distinctFields rest

end

mutual

/-- The same value with the keys of every object in order. -/
def sorted : Json → Json
  | .arr items => .arr (sortedItems items)
  | .obj fields => .obj ((sortedFields fields).insertionSort (fun a b => a.1 ≤ b.1))
  | value => value

def sortedItems : List Json → List Json
  | [] => []
  | item :: rest => sorted item :: sortedItems rest

def sortedFields : List (String × Json) → List (String × Json)
  | [] => []
  | (key, value) :: rest => (key, sorted value) :: sortedFields rest

end

example : alike (.obj [("a", .int 1), ("b", .obj [("c", .null), ("d", .bool true)])])
    (.obj [("b", .obj [("d", .bool true), ("c", .null)]), ("a", .int 1)]) = true := by decide +kernel

section Fields

variable {fields others : List (String × Json)}

theorem sortedFields_eq (fields : List (String × Json)) :
    sortedFields fields = fields.map (fun field => (field.1, sorted field.2)) := by
  induction fields with
  | nil => rfl
  | cons field rest ih => simp [sortedFields, ih]

theorem sortedFields_keys (fields : List (String × Json)) :
    (sortedFields fields).map Prod.fst = fields.map Prod.fst := by
  simp [sortedFields_eq, Function.comp_def]

theorem distinctFields_iff :
    distinctFields fields = true ↔ ∀ field ∈ fields, distinct field.2 = true := by
  induction fields with
  | nil => simp [distinctFields]
  | cons field rest ih => simp [distinctFields, ih]

theorem distinctItems_iff {items : List Json} :
    distinctItems items = true ↔ ∀ item ∈ items, distinct item = true := by
  induction items with
  | nil => simp [distinctItems]
  | cons item rest ih => simp [distinctItems, ih]

/-- Fields under one list of names are equal when each of the first is in the second. -/
theorem fields_eq_of_subset (names : fields.map Prod.fst = others.map Prod.fst)
    (distinct : (fields.map Prod.fst).Nodup) (inside : fields ⊆ others) : fields = others := by
  induction fields generalizing others with
  | nil => simpa using names
  | cons field rest ih =>
    cases others with
    | nil => simp at names
    | cons other tail =>
      obtain ⟨_, tailNames⟩ := List.cons.inj names
      obtain ⟨fresh, distinct⟩ := List.nodup_cons.mp distinct
      have same : field = other := by
        rcases List.mem_cons.mp (inside List.mem_cons_self) with same | later
        · exact same
        · exact absurd (tailNames ▸ List.mem_map_of_mem later) fresh
      subst same
      have kept : rest ⊆ tail := by
        intro entry member
        rcases List.mem_cons.mp (inside (List.mem_cons_of_mem _ member)) with rfl | later
        · exact absurd (List.mem_map_of_mem member) fresh
        · exact later
      rw [ih tailNames distinct kept]

/-- Fields sorted by key agree exactly when they are the same fields. -/
theorem insertionSort_fields_iff (distinct : (fields.map Prod.fst).Nodup) :
    fields.insertionSort (fun a b => a.1 ≤ b.1) = others.insertionSort (fun a b => a.1 ≤ b.1) ↔
      fields.Perm others := by
  have permFields := List.perm_insertionSort (fun a b : String × Json => a.1 ≤ b.1) fields
  have permOthers := List.perm_insertionSort (fun a b : String × Json => a.1 ≤ b.1) others
  constructor
  · intro same
    exact permFields.symm.trans (same ▸ permOthers)
  · intro perm
    refine List.Perm.eq_of_pairwise ?_ (List.pairwise_insertionSort _ fields)
      (List.pairwise_insertionSort _ others) (permFields.trans (perm.trans permOthers.symm))
    intro first second one two before after
    have listed : second ∈ fields := perm.symm.subset (permOthers.subset two)
    exact List.inj_on_of_nodup_map distinct (permFields.subset one) listed (le_antisymm before after)

end Fields

section Alike

/-- Objects of one size whose every field has its counterpart have the same fields. -/
theorem sortedFields_perm_iff {fields others : List (String × Json)}
    (distinct : (fields.map Prod.fst).Nodup) (distinctOthers : (others.map Prod.fst).Nodup) :
    (sortedFields fields).Perm (sortedFields others) ↔
      fields.length = others.length ∧ ∀ field ∈ fields, ∃ other,
        lookup others field.1 = some other ∧ sorted field.2 = sorted other := by
  have nodup : (sortedFields fields).Nodup := by
    rw [← sortedFields_keys] at distinct
    exact distinct.of_map
  rw [sortedFields_eq, sortedFields_eq] at *
  constructor
  · intro perm
    refine ⟨by simpa using perm.length_eq, fun field member => ?_⟩
    obtain ⟨other, listed, same⟩ :=
      List.mem_map.mp (perm.subset (List.mem_map.mpr ⟨field, member, rfl⟩))
    obtain ⟨key, value⟩ := Prod.mk.inj same
    exact ⟨other.2, lookup_of_mem distinctOthers (key ▸ listed), value.symm⟩
  · rintro ⟨length, counterparts⟩
    have inside : fields.map (fun field => (field.1, sorted field.2)) ⊆
        others.map (fun field => (field.1, sorted field.2)) := by
      intro image member
      obtain ⟨field, listed, rfl⟩ := List.mem_map.mp member
      obtain ⟨other, found, same⟩ := counterparts field listed
      exact List.mem_map.mpr ⟨(field.1, other), mem_of_lookup found, by rw [same]⟩
    exact (List.subperm_of_subset nodup inside).perm_of_length_le (by simp [length])

mutual

/-- Alike values are those with the same normal form. -/
theorem alike_iff_sorted : ∀ {a b : Json}, a.distinct = true → b.distinct = true →
    (alike a b = true ↔ sorted a = sorted b)
  | .null, b, _, _ => by cases b <;> simp [alike, sorted]
  | .bool _, b, _, _ => by cases b <;> simp [alike, sorted]
  | .int _, b, _, _ => by cases b <;> simp [alike, sorted]
  | .float _, b, _, _ => by cases b <;> simp [alike, sorted]
  | .str _, b, _, _ => by cases b <;> simp [alike, sorted]
  | .arr items, b, own, other => by
    cases b with
    | arr others =>
      simpa [alike, sorted] using alikeItems_iff_sorted (by simpa [distinct] using own)
        (by simpa [distinct] using other)
    | _ => simp [alike, sorted]
  | .obj fields, b, own, other => by
    cases b with
    | obj others =>
      simp only [distinct, Bool.and_eq_true, decide_eq_true_eq] at own other
      have keys : ((sortedFields fields).map Prod.fst).Nodup := by
        rw [sortedFields_keys]
        exact own.1
      simp only [alike, sorted, Bool.and_eq_true, decide_eq_true_eq, obj.injEq]
      rw [insertionSort_fields_iff keys, sortedFields_perm_iff own.1 other.1,
        alikeFields_iff_sorted own.2 other.2]
    | _ => simp [alike, sorted]

theorem alikeItems_iff_sorted : ∀ {a b : List Json}, distinctItems a = true →
    distinctItems b = true → (alikeItems a b = true ↔ sortedItems a = sortedItems b)
  | [], b, _, _ => by cases b <;> simp [alikeItems, sortedItems]
  | _ :: _, [], _, _ => by simp [alikeItems, sortedItems]
  | a :: as, b :: bs, own, other => by
    simp only [distinctItems, Bool.and_eq_true] at own other
    simp only [alikeItems, sortedItems, Bool.and_eq_true, List.cons.injEq]
    rw [alike_iff_sorted own.1 other.1, alikeItems_iff_sorted own.2 other.2]

theorem alikeFields_iff_sorted : ∀ {fields others : List (String × Json)},
    distinctFields fields = true → distinctFields others = true →
    (alikeFields fields others = true ↔ ∀ field ∈ fields, ∃ other,
      lookup others field.1 = some other ∧ sorted field.2 = sorted other)
  | [], _, _, _ => by simp [alikeFields]
  | (key, value) :: rest, others, own, other => by
    simp only [distinctFields, Bool.and_eq_true] at own
    simp only [alikeFields, Bool.and_eq_true, List.forall_mem_cons]
    rw [alikeFields_iff_sorted own.2 other]
    refine and_congr_left' ?_
    cases found : lookup others key with
    | none => simp
    | some counterpart =>
      have distinctCounterpart : counterpart.distinct = true :=
        distinctFields_iff.mp other _ (mem_of_lookup found)
      simp [alike_iff_sorted own.1 distinctCounterpart]

end

end Alike

end RegressionDetection.Foundation.Json
