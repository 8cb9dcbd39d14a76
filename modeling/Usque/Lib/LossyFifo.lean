import Usque.Lib.Transition
import Mathlib.Data.List.Sublists

/-! A queue that may lose any item on its way but never reorders, repeats or
invents one. This is the abstract meaning of a best-effort packet path: its
invariant is that what was delivered and what is still in flight are, in this
order, a subsequence of what arrived, and that nothing leaves uncounted. -/

/-- The history of a lossy queue. -/
structure LossyFifo (α : Type u) where
  arrived : List α := []
  inFlight : List α := []
  delivered : List α := []
  lost : ℕ := 0

namespace LossyFifo

variable {α : Type u} {queue next : LossyFifo α}

/-- What can happen to a lossy queue. -/
inductive Action (α : Type u) where
  | arrive (item : α)
  | deliver
  | lose (position : ℕ)

/-- Items arrive at the back and are delivered from the front; any position
may be lost. -/
def step (queue : LossyFifo α) : Action α → Option (LossyFifo α)
  | .arrive item => some { queue with
      arrived := queue.arrived ++ [item]
      inFlight := queue.inFlight ++ [item] }
  | .deliver =>
    match queue.inFlight with
    | [] => none
    | first :: rest => some { queue with
        inFlight := rest
        delivered := queue.delivered ++ [first] }
  | .lose position =>
    if position < queue.inFlight.length then some { queue with
      inFlight := queue.inFlight.eraseIdx position
      lost := queue.lost + 1 }
    else none

/-- Delivered and travelling items are a subsequence of the arrivals, and
every arrival is delivered, lost or still travelling. -/
structure Faithful (queue : LossyFifo α) : Prop where
  order : (queue.delivered ++ queue.inFlight).Sublist queue.arrived
  count : queue.arrived.length = queue.delivered.length + queue.lost + queue.inFlight.length

theorem faithful_empty : Faithful ({} : LossyFifo α) := ⟨List.Sublist.refl _, rfl⟩

theorem step_faithful (action : Action α) (faithful : Faithful queue)
    (stepped : step queue action = some next) : Faithful next := by
  obtain ⟨order, count⟩ := faithful
  cases action with
  | arrive item =>
    cases stepped
    refine ⟨?_, by simp only [List.length_append, List.length_singleton]; omega⟩
    simpa only [← List.append_assoc] using order.append (List.Sublist.refl [item])
  | deliver =>
    simp only [step] at stepped
    split at stepped
    · cases stepped
    · rename_i first rest travelling
      cases stepped
      rw [travelling] at order count
      refine ⟨by simpa using order, ?_⟩
      simp only [List.length_append, List.length_cons, List.length_nil] at count ⊢
      omega
  | lose position =>
    simp only [step] at stepped
    split at stepped
    · rename_i within
      cases stepped
      refine ⟨((List.Sublist.refl _).append (List.eraseIdx_sublist ..)).trans order, ?_⟩
      simp only [List.length_eraseIdx_of_lt within]
      omega
    · cases stepped

/-- Every run from the empty queue is faithful. -/
theorem reachable_faithful (reached : Transition.Reachable step ({} : LossyFifo α) queue) :
    Faithful queue :=
  reached.invariant Faithful (fun _ action _ faithful stepped => step_faithful action faithful stepped)
    faithful_empty

end LossyFifo
