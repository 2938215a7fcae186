import Mathlib.Data.List.Sort
import RegressionDetection.Foundation.Interleaving

/-! Two queues behind one call: each call takes an item of least rank from the first queue,
or from the second one once the first is empty, or finds both empty. -/

namespace RegressionDetection.Foundation

universe u v

variable {State Call Reply Item : Type u} {Rank : Type v} [LinearOrder Rank] [DecidableEq Item]

/-- One call: the item that it takes and the queues that it leaves. -/
inductive Serves (rank : Item → Rank) (first second : List Item) :
    Option Item → List Item → List Item → Prop where
  | first (member : item ∈ first) (least : ∀ other ∈ first, rank item ≤ rank other) :
      Serves rank first second (some item) (first.erase item) second
  | second (drained : first = []) (member : item ∈ second)
      (least : ∀ other ∈ second, rank item ≤ rank other) :
      Serves rank first second (some item) first (second.erase item)
  | neither (drained : first = []) (empty : second = []) : Serves rank first second none first second

/-- The items in an order of non-decreasing rank. -/
structure InOrder (rank : Item → Rank) (items order : List Item) : Prop where
  perm : order.Perm items
  sorted : order.Pairwise fun earlier later => rank earlier ≤ rank later

/-- The items one by one, then nothing, as far as there are calls. -/
def dealt (served : List Item) (calls : Nat) : List (Option Item) :=
  (served.take calls).map some ++ List.replicate (calls - served.length) none

section Orders

variable {rank : Item → Rank} {items : List Item} {item : Item}

omit [DecidableEq Item] in
theorem exists_inOrder (rank : Item → Rank) (items : List Item) : ∃ order, InOrder rank items order := by
  let atMost (earlier later : Item) : Prop := rank earlier ≤ rank later
  have : Std.Total atMost := ⟨fun a b => le_total (rank a) (rank b)⟩
  have : IsTrans Item atMost := ⟨fun _ _ _ => le_trans⟩
  exact ⟨_, List.perm_insertionSort atMost items, List.pairwise_insertionSort atMost items⟩

/-- A least item goes ahead of the others. -/
theorem InOrder.cons {order : List Item} (others : InOrder rank (items.erase item) order)
    (member : item ∈ items) (least : ∀ other ∈ items, rank item ≤ rank other) :
    InOrder rank items (item :: order) where
  perm := (others.perm.cons item).trans (List.perm_cons_erase member).symm
  sorted := by
    refine List.pairwise_cons.mpr ⟨fun other listed => ?_, others.sorted⟩
    exact least other (List.mem_of_mem_erase (others.perm.mem_iff.mp listed))

omit [DecidableEq Item] in
theorem InOrder.eq_nil {order : List Item} (empty : InOrder rank [] order) : order = [] :=
  empty.perm.eq_nil

omit [DecidableEq Item] in
theorem dealt_cons (item : Item) (served : List Item) (calls : Nat) :
    dealt (item :: served) (calls + 1) = some item :: dealt served calls := by
  simp [dealt]

omit [DecidableEq Item] in
theorem dealt_nil (calls : Nat) : dealt ([] : List Item) (calls + 1) = none :: dealt [] calls := by
  simp [dealt, List.replicate_succ]

end Orders

/-- Calls that serve the two queues take the first one's items in order, then the second
one's, and then find nothing. -/
theorem serial_dealt {rank : Item → Rank} {perform : Call → State → Reply × State}
    {first second : State → List Item} {answer : Option Item → Reply} {ready : State → List Call → Prop}
    (serves : ∀ state call rest, ready state (call :: rest) → ready (perform call state).2 rest ∧
      ∃ taken, (perform call state).1 = answer taken ∧ Serves rank (first state) (second state) taken
        (first (perform call state).2) (second (perform call state).2))
    {state : State} {calls : List Call} (start : ready state calls) :
    ∃ one two, InOrder rank (first state) one ∧ InOrder rank (second state) two ∧
      (serial perform state calls).1 = (dealt (one ++ two) calls.length).map answer := by
  induction calls generalizing state with
  | nil =>
    obtain ⟨one, firstOrder⟩ := exists_inOrder rank (first state)
    obtain ⟨two, secondOrder⟩ := exists_inOrder rank (second state)
    exact ⟨one, two, firstOrder, secondOrder, by simp [serial, dealt]⟩
  | cons call rest ih =>
    obtain ⟨later, taken, replied, served⟩ := serves state call rest start
    obtain ⟨one, two, firstOrder, secondOrder, replies⟩ := ih later
    have unfolded : (serial perform state (call :: rest)).1 =
        (perform call state).1 :: (serial perform (perform call state).2 rest).1 := rfl
    rw [unfolded, replied, replies]
    generalize first (perform call state).2 = firstNext at served firstOrder
    generalize second (perform call state).2 = secondNext at served secondOrder
    cases served with
    | first member least =>
      refine ⟨_, two, firstOrder.cons member least, secondOrder, ?_⟩
      rw [List.length_cons, List.cons_append, dealt_cons, List.map_cons]
    | second drained member least =>
      rw [drained] at firstOrder
      obtain rfl := firstOrder.eq_nil
      refine ⟨[], _, drained ▸ firstOrder, secondOrder.cons member least, ?_⟩
      rw [List.length_cons, List.nil_append, List.nil_append, dealt_cons, List.map_cons]
    | neither drained empty =>
      rw [drained] at firstOrder
      rw [empty] at secondOrder
      obtain rfl := firstOrder.eq_nil
      obtain rfl := secondOrder.eq_nil
      refine ⟨[], [], drained ▸ firstOrder, empty ▸ secondOrder, ?_⟩
      rw [List.length_cons, List.nil_append, dealt_nil, List.map_cons]

end RegressionDetection.Foundation
