import Mathlib.Logic.Basic

/-! A sequence of fallible calls on one state, together with every moment an
observer could look at it. A failing call ends the sequence, so an invariant of
the moments has to survive each prefix of the calls. -/

/-- How a procedure left the state, what could be observed on the way, and
whether it got to its end. -/
structure Procedure (State : Type u) (Moment : Type v) (Error : Type w) where
  state : State
  moments : List Moment
  result : Except Error Unit

namespace Procedure

variable {State : Type u} {Moment : Type v} {Error : Type w}

/-- Nothing happens and nothing can fail. -/
def done (state : State) : Procedure State Moment Error := ⟨state, [], .ok ()⟩

/-- A call that fails before it changes anything. -/
def fail (state : State) (error : Error) : Procedure State Moment Error := ⟨state, [], .error error⟩

/-- The second call starts only after the first has succeeded. -/
def andThen (first : Procedure State Moment Error) (second : State → Procedure State Moment Error) :
    Procedure State Moment Error :=
  match first.result with
  | .error _ => first
  | .ok () =>
    let rest := second first.state
    { rest with moments := first.moments ++ rest.moments }

/-- A contract: the invariant survives every ending, every moment has its
property, and a procedure that got to its end has established `post`. -/
structure Upholds (inv post : State → Prop) (seen : Moment → Prop)
    (outcome : Procedure State Moment Error) : Prop where
  state : inv outcome.state
  moments : ∀ moment ∈ outcome.moments, seen moment
  ended : outcome.result = .ok () → post outcome.state

variable {inv post middle : State → Prop} {seen : Moment → Prop} {state : State}
  {first : Procedure State Moment Error} {second : State → Procedure State Moment Error}

theorem done_upholds (kept : inv state) (reached : post state) :
    Upholds inv post seen (done state : Procedure State Moment Error) :=
  ⟨kept, fun _ member => (List.not_mem_nil member).elim, fun _ => reached⟩

theorem fail_upholds {error : Error} (kept : inv state) :
    Upholds inv post seen (fail state error : Procedure State Moment Error) :=
  ⟨kept, fun _ member => (List.not_mem_nil member).elim, fun finished => nomatch finished⟩

/-- The consequence rule. -/
theorem Upholds.weaken {outcome : Procedure State Moment Error}
    (strong : Upholds inv middle seen outcome) (implied : ∀ state, middle state → post state) : Upholds inv post seen outcome :=
  ⟨strong.state, strong.moments, fun finished => implied _ (strong.ended finished)⟩

/-- The sequencing rule: the second call may rely on what the first established. -/
theorem andThen_upholds (middle : State → Prop) (before : Upholds inv middle seen first)
    (after : ∀ state, inv state → middle state → Upholds inv post seen (second state)) :
    Upholds inv post seen (first.andThen second) := by
  unfold andThen
  split
  · rename_i error failed
    refine ⟨before.state, before.moments, fun finished => ?_⟩
    rw [failed] at finished
    cases finished
  · rename_i succeeded
    have rest := after first.state before.state (before.ended succeeded)
    refine ⟨rest.state, fun moment member => ?_, rest.ended⟩
    rcases List.mem_append.mp member with early | late
    · exact before.moments moment early
    · exact rest.moments moment late

end Procedure
