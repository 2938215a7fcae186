import Mathlib.Data.List.Nodup

/-! Dictionaries built from a sequence of entries: the last entry under a key is
the one a lookup finds. -/

namespace RegressionDetection.Foundation

universe u v

variable {Key : Type u} {Value : Type v} [DecidableEq Key]

/-- `dict(entries).get(key)`. -/
def lookup : List (Key × Value) → Key → Option Value
  | [], _ => none
  | (key, value) :: rest, wanted =>
    match lookup rest wanted with
    | some later => some later
    | none => if key = wanted then some value else none

theorem mem_of_lookup {entries : List (Key × Value)} {wanted : Key} {value : Value}
    (found : lookup entries wanted = some value) : (wanted, value) ∈ entries := by
  induction entries with
  | nil => cases found
  | cons entry rest ih =>
    obtain ⟨key, first⟩ := entry
    unfold lookup at found
    cases later : lookup rest wanted with
    | some other =>
      rw [later] at found
      exact List.mem_cons_of_mem _ (ih (later.trans found))
    | none =>
      by_cases same : key = wanted
      · subst same
        obtain rfl : first = value := by simpa [later] using found
        exact List.mem_cons_self
      · simp [later, same] at found

theorem lookup_eq_none_iff {entries : List (Key × Value)} {wanted : Key} :
    lookup entries wanted = none ↔ wanted ∉ entries.map Prod.fst := by
  induction entries with
  | nil => simp [lookup]
  | cons entry rest ih =>
    obtain ⟨key, first⟩ := entry
    unfold lookup
    rw [List.map_cons, List.mem_cons, not_or, ← ih]
    cases later : lookup rest wanted with
    | some other => simp
    | none => simp [eq_comm]

/-- With distinct keys every entry is found. -/
theorem lookup_of_mem {entries : List (Key × Value)} {wanted : Key} {value : Value}
    (distinct : (entries.map Prod.fst).Nodup) (member : (wanted, value) ∈ entries) :
    lookup entries wanted = some value := by
  cases found : lookup entries wanted with
  | none =>
    have absent := lookup_eq_none_iff.mp found
    exact absurd (List.mem_map.mpr ⟨_, member, rfl⟩) absent
  | some other =>
    have same := List.inj_on_of_nodup_map distinct (mem_of_lookup found) member rfl
    exact congrArg some (congrArg Prod.snd same)

theorem exists_lookup {entries : List (Key × Value)} {wanted : Key}
    (present : wanted ∈ entries.map Prod.fst) : ∃ value, lookup entries wanted = some value := by
  cases found : lookup entries wanted with
  | none => exact absurd present (lookup_eq_none_iff.mp found)
  | some value => exact ⟨value, rfl⟩

theorem lookup_map {Other : Type*} {entries : List (Key × Value)} {wanted : Key}
    {convert : Value → Other} :
    lookup (entries.map fun entry => (entry.1, convert entry.2)) wanted =
      (lookup entries wanted).map convert := by
  induction entries with
  | nil => rfl
  | cons entry rest ih =>
    obtain ⟨key, value⟩ := entry
    simp only [List.map_cons, lookup, ih]
    cases lookup rest wanted with
    | some later => rfl
    | none => by_cases same : key = wanted <;> simp [same]

end RegressionDetection.Foundation
