import Mathlib.Data.List.Basic
import Mathlib.Data.List.Forall2

/-! A cell of which a reader sees the latest value only. The values it has had are its history;
a reader that reports what it sees from time to time may leave values out and tell one of them
twice, but never goes back to an earlier one. -/
namespace Watch

variable {α : Type u} {β : Type v} {tells : β → α → Prop} {history : List α} {reports : List β}
  {positions : List ℕ} {report : β} {value : α} {position : ℕ}

/-- The reports tell the values at these positions of the history, from left to right. -/
structure Follows (tells : β → α → Prop) (history : List α) (reports : List β)
    (positions : List ℕ) : Prop where
  forward : positions.Pairwise (· ≤ ·)
  told : List.Forall₂ (fun report position => ∃ value, history[position]? = some value ∧
    tells report value) reports positions

theorem Follows.nil : Follows tells history [] [] := ⟨.nil, .nil⟩

/-- What has been told stays told when the cell is written. -/
theorem Follows.written (follows : Follows tells history reports positions) (more : List α) :
    Follows tells (history ++ more) reports positions := by
  refine ⟨follows.forward, follows.told.imp ?_⟩
  rintro report position ⟨value, found, tell⟩
  refine ⟨value, ?_, tell⟩
  rw [List.getElem?_append_left (List.getElem?_eq_some_iff.mp found).1]
  exact found

theorem Follows.reported (follows : Follows tells history reports positions)
    (later : ∀ earlier ∈ positions, earlier ≤ position) (found : history[position]? = some value)
    (tell : tells report value) :
    Follows tells history (reports ++ [report]) (positions ++ [position]) := by
  refine ⟨List.pairwise_append.mpr ⟨follows.forward, List.pairwise_singleton _ _, ?_⟩, ?_⟩
  · intro earlier member last same
    rw [List.mem_singleton.mp same]
    exact later earlier member
  · exact List.rel_append follows.told (.cons ⟨value, found, tell⟩ .nil)

/-- No position is behind the history. -/
theorem Follows.known (follows : Follows tells history reports positions) :
    ∀ position ∈ positions, position < history.length := by
  have all := follows.told
  generalize reports = told at all
  clear follows
  induction all with
  | nil => exact fun _ absent => absurd absent List.not_mem_nil
  | cons here _ ih =>
    obtain ⟨value, found, -⟩ := here
    exact List.forall_mem_cons.mpr ⟨(List.getElem?_eq_some_iff.mp found).1, ih⟩

/-- Where the last position is the end of the history, the last report tells its last value. -/
theorem Follows.last (follows : Follows tells history reports positions)
    (current : history.getLast? = some value)
    (reached : positions.getLast? = some (history.length - 1)) :
    ∃ report, reports.getLast? = some report ∧ tells report value := by
  have backward := List.rel_reverse follows.told
  rw [← List.head?_reverse] at reached ⊢
  cases shape : positions.reverse with
  | nil =>
    rw [shape] at reached
    cases reached
  | cons last front =>
    rw [shape] at backward reached
    cases reached
    cases told : reports.reverse with
    | nil =>
      rw [told] at backward
      cases backward
    | cons report others =>
      rw [told] at backward
      obtain ⟨⟨other, found, tell⟩, -⟩ := List.forall₂_cons.mp backward
      rw [← List.getLast?_eq_getElem?, current] at found
      cases found
      exact ⟨report, rfl, tell⟩

end Watch
