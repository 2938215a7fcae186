import Mathlib.Data.List.Induction
import Mathlib.Order.Lattice
import Mathlib.Order.Monotone.Defs

/-! A sliding-window limiter that remembers only the admissions still in its window,
against the one that remembers all of them. Times are any linear order; `cutoff now`
is where the window that ends at `now` begins, exclusively. -/

namespace RegressionDetection.Foundation

universe u

variable {Time : Type u} [LinearOrder Time]

/-- Room for one more after the admissions of `log`, in the window that begins at `edge`. -/
def HasRoom (capacity : Nat) (edge : Time) (log : List Time) : Prop :=
  log.countP (edge < ·) < capacity

instance (capacity : Nat) (edge : Time) (log : List Time) : Decidable (HasRoom capacity edge log) :=
  inferInstanceAs (Decidable (_ < _))

/-- The verdicts on requests at these times, after the admissions of `log`. -/
def windowed (capacity : Nat) (cutoff : Time → Time) : List Time → List Time → List Bool
  | _, [] => []
  | log, now :: rest =>
    if HasRoom capacity (cutoff now) log then true :: windowed capacity cutoff (log ++ [now]) rest
    else false :: windowed capacity cutoff log rest

/-- `kept` is what `log` has after some point no later than `edge`. -/
def Retains (edge : Time) (log kept : List Time) : Prop :=
  ∃ point ≤ edge, kept = log.filter (point < ·)

namespace Retains

variable {edge later : Time} {log kept : List Time}

theorem nil (edge : Time) : Retains edge [] ([] : List Time) := ⟨edge, le_refl edge, rfl⟩

theorem mono (order : edge ≤ later) (retained : Retains edge log kept) : Retains later log kept := by
  obtain ⟨point, before, same⟩ := retained
  exact ⟨point, before.trans order, same⟩

theorem sublist (retained : Retains edge log kept) : kept.Sublist log := by
  obtain ⟨point, _, same⟩ := retained
  rw [same]
  exact List.filter_sublist

/-- Pruning at the edge leaves exactly the window. -/
theorem filter_eq (retained : Retains edge log kept) :
    kept.filter (edge < ·) = log.filter (edge < ·) := by
  obtain ⟨point, before, same⟩ := retained
  rw [same, List.filter_filter]
  apply List.filter_congr
  intro time _
  have implied : edge < time → point < time := fun inside => before.trans_lt inside
  simpa using implied

theorem prune (retained : Retains edge log kept) :
    Retains edge log (kept.filter (edge < ·)) :=
  ⟨edge, le_refl edge, retained.filter_eq⟩

theorem prune_length (retained : Retains edge log kept) :
    (kept.filter (edge < ·)).length = log.countP (edge < ·) := by
  rw [retained.filter_eq, List.countP_eq_length_filter]

/-- A request admitted inside the window is kept. -/
theorem append {now : Time} (retained : Retains edge log kept) (inside : edge < now) :
    Retains edge (log ++ [now]) (kept ++ [now]) := by
  obtain ⟨point, before, same⟩ := retained
  refine ⟨point, before, ?_⟩
  have kept : point < now := before.trans_lt inside
  rw [List.filter_append, ← same]
  simp [kept]

/-- A sorted log whose last kept entry has left the window may be forgotten. -/
theorem forget (retained : Retains edge log kept) (sorted : log.Pairwise (· ≤ ·))
    (stale : ∀ last ∈ kept.getLast?, last ≤ edge) : Retains edge log [] := by
  refine ⟨edge, le_refl edge, ?_⟩
  rw [← retained.filter_eq]
  cases shape : kept using List.reverseRecOn with
  | nil => rfl
  | append_singleton front last =>
    subst shape
    have gone : last ≤ edge := stale last (by simp)
    have before : ∀ time ∈ front, time ≤ last := by
      have ordered := sorted.sublist retained.sublist
      intro time member
      exact (List.pairwise_append.mp ordered).2.2 time member last (by simp)
    symm
    rw [List.filter_eq_nil_iff]
    intro time member
    rcases List.mem_append.mp member with early | final
    · simpa using (before time early).trans gone
    · simpa [List.mem_singleton.mp final] using gone

end Retains

/-- Every entry had room when it was admitted. -/
def Paced (capacity : Nat) (cutoff : Time → Time) (log : List Time) : Prop :=
  ∀ before now after, log = before ++ now :: after → HasRoom capacity (cutoff now) before

namespace Paced

variable {capacity : Nat} {cutoff : Time → Time} {log : List Time}

theorem nil : Paced capacity cutoff [] := by
  intro before now after shape
  simp at shape

theorem append {now : Time} (paced : Paced capacity cutoff log)
    (room : HasRoom capacity (cutoff now) log) : Paced capacity cutoff (log ++ [now]) := by
  intro before time after shape
  cases after using List.reverseRecOn with
  | nil =>
    obtain ⟨same, last⟩ := List.append_inj' shape rfl
    obtain rfl : now = time := by simpa using last
    exact same ▸ room
  | append_singleton middle last =>
    have regrouped : log ++ [now] = (before ++ time :: middle) ++ [last] := by
      simpa using shape
    exact paced before time middle (List.append_inj' regrouped rfl).1

theorem of_append {rest : List Time} (paced : Paced capacity cutoff (log ++ rest)) :
    Paced capacity cutoff log := by
  intro before now after shape
  exact paced before now (after ++ rest) (by simp [shape])

/-- A paced log has at most `capacity` entries in any set that fits in one window. -/
theorem count_le (paced : Paced capacity cutoff log) (sorted : log.Pairwise (· ≤ ·))
    (within : Time → Prop) [DecidablePred within]
    (fits : ∀ early late, within early → within late → early ≤ late → cutoff late < early) :
    log.countP (fun time => decide (within time)) ≤ capacity := by
  induction log using List.reverseRecOn with
  | nil => simp
  | append_singleton front last ih =>
    obtain ⟨ordered, _, latest⟩ := List.pairwise_append.mp sorted
    rw [List.countP_append]
    by_cases inside : within last
    · -- what lies in the set before its last member lies in that member's window
      have narrower : front.countP (fun time => decide (within time)) ≤
          front.countP (cutoff last < ·) := by
        apply List.countP_mono_left
        intro time member holds
        have early : within time := by simpa using holds
        simpa using fits time last early inside (latest time member last (by simp))
      have room : front.countP (cutoff last < ·) < capacity := paced front last [] rfl
      simp only [List.countP_singleton, inside, decide_true, if_true]
      omega
    · have rest := ih paced.of_append ordered
      simpa [inside] using rest

end Paced

end RegressionDetection.Foundation
