import Mathlib.Data.List.Basic

/-! Histories that only grow at their end. A justification says of every event
what must have come before it; it is checked once, when the event is added. -/
namespace Trace

variable {Event : Type u} {justified : List Event → Event → Prop} {trace more : List Event}

/-- Every event is justified by the history before it. -/
def Justified (justified : List Event → Event → Prop) (trace : List Event) : Prop :=
  ∀ before event after, trace = before ++ event :: after → justified before event

theorem justified_nil : Justified justified ([] : List Event) := by
  intro before event after split
  simp at split

/-- Adding events asks for the justification of the new ones only. -/
theorem justified_append_iff :
    Justified justified (trace ++ more) ↔
      Justified justified trace ∧ Justified (fun before => justified (trace ++ before)) more := by
  constructor
  · intro whole
    constructor
    · intro before event after split
      exact whole before event (after ++ more) (by simp [split])
    · intro before event after split
      exact whole (trace ++ before) event after (by simp [split])
  · rintro ⟨old, new⟩ before event after split
    rcases List.append_eq_append_iff.mp split with ⟨rest, whole, tail⟩ | ⟨rest, whole, tail⟩
    · -- the split falls behind the old history
      rw [whole]
      exact new rest event after tail
    · cases rest with
      | nil =>
        have here := new [] event after (by simpa using tail.symm)
        simpa [whole] using here
      | cons head rest =>
        obtain ⟨rfl, -⟩ := List.cons.inj tail
        exact old before event rest whole

theorem justified_concat_iff {event : Event} :
    Justified justified (trace ++ [event]) ↔
      Justified justified trace ∧ justified trace event := by
  rw [justified_append_iff]
  constructor
  · rintro ⟨old, new⟩
    exact ⟨old, by simpa using new [] event [] rfl⟩
  · rintro ⟨old, here⟩
    refine ⟨old, fun before other after split => ?_⟩
    obtain ⟨rfl, rfl, -⟩ : before = [] ∧ event = other ∧ after = [] := by
      cases before with
      | nil => simpa using split
      | cons head rest => simp at split
    simpa using here

end Trace
