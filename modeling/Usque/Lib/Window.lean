import Mathlib.Data.List.Basic

/-! A window of numbered slots. Producers fill the slot behind the window, consumers empty
the one at its front, and whatever happens to the slots outside does not matter. -/
namespace Window

variable {α : Type u} {slot other : ℕ → Option α} {low high : ℕ} {item : α} {items : List α}

/-- The slots `low..high` hold these items, in order. -/
structure Holds (slot : ℕ → Option α) (low high : ℕ) (items : List α) : Prop where
  size : low + items.length = high
  slots : ∀ index < items.length, slot (low + index) = items[index]?

theorem holds_nothing_iff : Holds slot low low items ↔ items = [] := by
  constructor
  · intro holds
    have size := holds.size
    exact List.eq_nil_of_length_eq_zero (by omega)
  · rintro rfl
    exact ⟨rfl, fun index inside => absurd inside (Nat.not_lt_zero index)⟩

/-- Slots outside the window are of no account. -/
theorem Holds.congr (holds : Holds slot low high items)
    (same : ∀ index, low ≤ index → index < high → other index = slot index) :
    Holds other low high items := by
  have size := holds.size
  refine ⟨size, fun index inside => ?_⟩
  rw [same (low + index) (by omega) (by omega), holds.slots index inside]

/-- An item put into the slot behind the window joins its end. -/
theorem Holds.push (holds : Holds slot low high items)
    (same : ∀ index, index ≠ high → other index = slot index) (put : other high = some item) :
    Holds other low (high + 1) (items ++ [item]) := by
  have size := holds.size
  refine ⟨by simp only [List.length_append, List.length_singleton]; omega, ?_⟩
  intro index inside
  rw [List.length_append, List.length_singleton] at inside
  by_cases last : index = items.length
  · subst last
    rw [size, put, List.getElem?_concat_length]
  · rw [same (low + index) (by omega), holds.slots index (by omega),
      List.getElem?_append_left (by omega)]

/-- The front of a window that is not empty is its first item, and the rest stays. -/
theorem Holds.front (holds : Holds slot low high items) (some' : low < high) :
    ∃ item rest, items = item :: rest ∧ slot low = some item ∧ Holds slot (low + 1) high rest := by
  have size := holds.size
  cases items with
  | nil =>
    rw [List.length_nil] at size
    omega
  | cons item rest =>
    rw [List.length_cons] at size
    refine ⟨item, rest, rfl, ?_, by omega, fun index inside => ?_⟩
    · rw [← Nat.add_zero low, holds.slots 0 (Nat.zero_lt_succ _), List.getElem?_cons_zero]
    · rw [Nat.add_assoc, Nat.add_comm 1 index,
        holds.slots (index + 1) (Nat.succ_lt_succ inside), List.getElem?_cons_succ]

end Window
