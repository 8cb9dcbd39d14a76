import Mathlib.Logic.Basic

/-! Fallible computations taken apart: what it says that a bind has succeeded, or an
error that was given a context. -/
namespace Fallible

variable {ε : Type u} {ε' : Type u} {α : Type v} {β : Type v} {first : Except ε α}
  {second : α → Except ε β} {g : ε → ε'} {value : α} {result : β}

/-- A bind succeeds exactly where both parts do. -/
theorem bind_eq_ok_iff :
    first >>= second = .ok result ↔ ∃ value, first = .ok value ∧ second value = .ok result := by
  constructor
  · intro succeeded
    cases first with
    | error e => cases succeeded
    | ok value => exact ⟨value, rfl, succeeded⟩
  · rintro ⟨value, rfl, succeeded⟩
    exact succeeded

/-- A bind does not fail in a way in which none of its parts does. -/
theorem bind_ne_error {failure : ε} (here : first ≠ .error failure)
    (later : ∀ value, second value ≠ .error failure) : first >>= second ≠ .error failure := by
  cases first with
  | error e =>
    intro failed
    cases failed
    exact here rfl
  | ok value => exact later value

/-- Two continuations that agree on every value the first part may come to. -/
theorem bind_congr_ok {other : α → Except ε β} (same : ∀ value, first = .ok value → second value = other value) :
    first >>= second = first >>= other := by
  cases came : first with
  | error failure => rfl
  | ok value => exact same value came

theorem mapError_eq_ok_iff : first.mapError g = .ok value ↔ first = .ok value := by
  constructor
  · intro succeeded
    cases first with
    | error e => cases succeeded
    | ok other =>
      cases succeeded
      rfl
  · rintro rfl
    rfl

end Fallible
