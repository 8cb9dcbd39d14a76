import Mathlib.Data.List.Basic

/-! Programs that may stop between any two of their effects. A program is the list of
its effects in order, and what a stop leaves behind is what the effects before it made. -/
namespace Interrupted

variable {State : Type u} {Effect : Type v} {apply : State → Effect → State} {s : State}
  {first second : List Effect} {stop : ℕ}

/-- The state left by `effects` when only the first `stop` of them take place. -/
def after (apply : State → Effect → State) (s : State) (effects : List Effect) (stop : ℕ) : State :=
  (effects.take stop).foldl apply s

@[simp] theorem after_zero {effects : List Effect} : after apply s effects 0 = s := rfl

@[simp] theorem after_nil : after apply s [] stop = s := by
  simp [after]

@[simp] theorem after_cons_succ {effect : Effect} {rest : List Effect} :
    after apply s (effect :: rest) (stop + 1) = after apply (apply s effect) rest stop := rfl

theorem after_eq_foldl {effects : List Effect} (whole : effects.length ≤ stop) :
    after apply s effects stop = effects.foldl apply s := by
  rw [after, List.take_of_length_le whole]

/-- A stop in a sequence of two programs falls into the first or into the second. -/
theorem after_append :
    after apply s (first ++ second) stop =
      after apply (after apply s first stop) second (stop - first.length) := by
  unfold after
  rw [List.take_append, List.foldl_append]

/-- What every effect of a program preserves is preserved wherever the program stops. -/
theorem after_preserves {effects : List Effect} (inv : State → Prop)
    (preserved : ∀ s, ∀ effect ∈ effects, inv s → inv (apply s effect)) (start : inv s) :
    inv (after apply s effects stop) := by
  induction effects generalizing s stop with
  | nil => simpa using start
  | cons effect rest ih =>
    cases stop with
    | zero => exact start
    | succ stop =>
      exact ih (fun s other member => preserved s other (List.mem_cons_of_mem _ member))
        (preserved s effect (List.mem_cons_self ..) start)

end Interrupted
