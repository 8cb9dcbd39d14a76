import Mathlib.Data.List.Basic

/-! Stable sorting by a small class number. The result is the elements of class
zero in their old order, then those of class one, and so on. -/
namespace ClassSort

variable {α : Type u} {classOf : α → ℕ}

/-- The elements class by class, each class in the order of the list. -/
def byClass (classOf : α → ℕ) (classes : ℕ) (items : List α) : List α :=
  (List.range classes).flatMap fun number => items.filter (classOf · = number)

theorem byClass_succ (classes : ℕ) (items : List α) :
    byClass classOf (classes + 1) items =
      byClass classOf classes items ++ items.filter (classOf · = classes) := by
  simp [byClass, List.range_succ]

/-- In a sorted list the elements below a class come before those of the class. -/
theorem filter_lt_succ {items : List α} (sorted : items.Pairwise (classOf · ≤ classOf ·))
    (number : ℕ) :
    items.filter (classOf · < number + 1) =
      items.filter (classOf · < number) ++ items.filter (classOf · = number) := by
  induction items with
  | nil => rfl
  | cons item rest ih =>
    obtain ⟨least, sortedRest⟩ := List.pairwise_cons.mp sorted
    have others := ih sortedRest
    by_cases below : classOf item < number
    · have under : classOf item < number + 1 := by omega
      have other : classOf item ≠ number := by omega
      simp only [List.filter_cons, decide_eq_true_eq, under, below, other, if_true, if_false,
        List.cons_append, others]
    · have nothing : rest.filter (classOf · < number) = [] := by
        apply List.filter_eq_nil_iff.mpr
        intro later member
        have bound := least later member
        simp only [decide_eq_true_eq]
        omega
      rw [nothing, List.nil_append] at others
      by_cases same : classOf item = number
      · have under : classOf item < number + 1 := by omega
        subst same
        simp only [List.filter_cons, decide_eq_true_eq, under, below, if_true, if_false, nothing,
          List.nil_append, others]
      · have under : ¬ classOf item < number + 1 := by omega
        simp only [List.filter_cons, decide_eq_true_eq, under, below, same, if_false,
          nothing, List.nil_append, others]

theorem filter_lt_eq_byClass {items : List α} (sorted : items.Pairwise (classOf · ≤ classOf ·))
    (classes : ℕ) : items.filter (classOf · < classes) = byClass classOf classes items := by
  induction classes with
  | zero => simp [byClass]
  | succ classes ih => rw [filter_lt_succ sorted, ih, byClass_succ]

private theorem classOrder_trans (a b c : α) (first : decide (classOf a ≤ classOf b) = true)
    (second : decide (classOf b ≤ classOf c) = true) : decide (classOf a ≤ classOf c) = true :=
  decide_eq_true (Nat.le_trans (of_decide_eq_true first) (of_decide_eq_true second))

private theorem classOrder_total (a b : α) :
    (decide (classOf a ≤ classOf b) || decide (classOf b ≤ classOf a)) = true := by
  simpa using Nat.le_total (classOf a) (classOf b)

/-- A stable sort keeps the order within a class. -/
theorem filter_mergeSort (items : List α) (number : ℕ) :
    (items.mergeSort fun a b => classOf a ≤ classOf b).filter (classOf · = number) =
      items.filter (classOf · = number) := by
  have order := List.mergeSort_perm items fun a b => decide (classOf a ≤ classOf b)
  have level : (items.filter (classOf · = number)).Pairwise
      fun a b => decide (classOf a ≤ classOf b) = true := by
    apply List.pairwise_of_forall_mem_list
    intro a inA b inB
    have classA := of_decide_eq_true (List.mem_filter.mp inA).2
    have classB := of_decide_eq_true (List.mem_filter.mp inB).2
    simp [classA, classB]
  have kept := List.sublist_mergeSort classOrder_trans classOrder_total level List.filter_sublist
  have inside := kept.filter (classOf · = number)
  rw [List.filter_filter] at inside
  simp only [Bool.and_self] at inside
  have sizes := (order.filter fun item => decide (classOf item = number)).length_eq
  exact (inside.eq_of_length sizes.symm).symm

/-- Sorting stably by class arranges the list class by class. -/
theorem mergeSort_eq_byClass {items : List α} {classes : ℕ}
    (small : ∀ item ∈ items, classOf item < classes) :
    (items.mergeSort fun a b => classOf a ≤ classOf b) = byClass classOf classes items := by
  have sorted : (items.mergeSort fun a b => classOf a ≤ classOf b).Pairwise
      (classOf · ≤ classOf ·) := by
    have pairs : (items.mergeSort fun a b => classOf a ≤ classOf b).Pairwise
        fun a b => decide (classOf a ≤ classOf b) = true :=
      List.pairwise_mergeSort classOrder_trans classOrder_total items
    exact pairs.imp fun ordered => of_decide_eq_true ordered
  have whole : (items.mergeSort fun a b => classOf a ≤ classOf b).filter (classOf · < classes) =
      items.mergeSort fun a b => classOf a ≤ classOf b := by
    apply List.filter_eq_self.mpr
    intro item member
    exact decide_eq_true (small item (List.mem_mergeSort.mp member))
  rw [← whole, filter_lt_eq_byClass sorted]
  unfold byClass
  congr 1
  funext number
  exact filter_mergeSort items number

end ClassSort
