import Mathlib.Data.List.Perm.Basic

/-! A ledger that several tasks write to while they advance side by side. When every step of a task
adds to the ledger exactly what the task then has to its account, the ledger is at any time the
accounts of all tasks, in some order. -/

namespace RegressionDetection.Foundation

universe u v

variable {Task : Type u} {Entry : Type v}

/-- The ledger is what the tasks have to their accounts. -/
def Balanced (account : Task → List Entry) (tasks : List Task) (ledger : List Entry) : Prop :=
  ledger.Perm (tasks.flatMap account)

section Steps

variable {account : Task → List Entry} {tasks : List Task} {ledger added : List Entry}
  {task next : Task} {index : Nat}

/-- One task put in the place of another, whose account it continues. -/
theorem flatMap_set_perm (found : tasks[index]? = some task)
    (account_next : (account next).Perm (account task ++ added)) :
    ((tasks.set index next).flatMap account).Perm (tasks.flatMap account ++ added) := by
  induction tasks generalizing index with
  | nil => cases found
  | cons head rest ih =>
    cases index with
    | zero =>
      obtain rfl : head = task := Option.some.inj found
      rw [List.set_cons_zero, List.flatMap_cons, List.flatMap_cons, List.append_assoc]
      refine (account_next.append_right _).trans ?_
      rw [List.append_assoc]
      exact List.perm_append_comm.append_left _
    | succ index =>
      rw [List.set_cons_succ, List.flatMap_cons, List.flatMap_cons, List.append_assoc]
      exact (ih found).append_left _

theorem Balanced.empty (account : Task → List Entry) : Balanced account [] [] := List.Perm.refl _

/-- A task that joins with an empty account. -/
theorem Balanced.join (balanced : Balanced account tasks ledger) (fresh : account task = []) :
    Balanced account (tasks ++ [task]) ledger := by
  unfold Balanced
  rw [List.flatMap_append, List.flatMap_singleton, fresh, List.append_nil]
  exact balanced

/-- A step of one task. -/
theorem Balanced.advance (balanced : Balanced account tasks ledger)
    (found : tasks[index]? = some task)
    (account_next : (account next).Perm (account task ++ added)) :
    Balanced account (tasks.set index next) (ledger ++ added) :=
  (balanced.append_right added).trans (flatMap_set_perm found account_next).symm

end Steps

section Counters

variable [DecidableEq Entry]

/-- A counter per label that was incremented once for each entry of the ledger. -/
def Counts (counter : Entry → Nat) (ledger : List Entry) : Prop :=
  ∀ label, counter label = ledger.count label

def increment (counter : Entry → Nat) (entry : Entry) : Entry → Nat :=
  fun label => if label = entry then counter label + 1 else counter label

theorem Counts.increment {counter : Entry → Nat} {ledger : List Entry}
    (counts : Counts counter ledger) (entry : Entry) :
    Counts (increment counter entry) (ledger ++ [entry]) := by
  intro label
  unfold Foundation.increment
  rw [List.count_append, ← counts label]
  split
  · rename_i same
    rw [same, List.count_singleton_self]
  · rename_i other
    rw [List.count_singleton, if_neg (by simpa using Ne.symm other), Nat.add_zero]

theorem Counts.perm {counter : Entry → Nat} {first second : List Entry}
    (counts : Counts counter first) (same : first.Perm second) : Counts counter second :=
  fun label => (counts label).trans (List.perm_iff_count.mp same label)

end Counters

end RegressionDetection.Foundation
