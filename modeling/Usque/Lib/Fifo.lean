import Mathlib.Data.List.Basic

/-! A bounded first-in first-out channel. The capacity is part of the type and
its bound a field, so an overfull channel cannot be built; sending is refused
instead. -/

/-- A channel that never holds more than `capacity` items. -/
structure Fifo (α : Type u) (capacity : ℕ) where
  items : List α
  within : items.length ≤ capacity
  deriving DecidableEq

namespace Fifo

variable {α : Type u} {capacity : ℕ} {channel next : Fifo α capacity} {item : α}

/-- The channel right after it is created. -/
def empty : Fifo α capacity := ⟨[], Nat.zero_le _⟩

/-- Appends an item when there is room and refuses it otherwise. -/
def trySend (channel : Fifo α capacity) (item : α) : Option (Fifo α capacity) :=
  if room : channel.items.length < capacity then
    some ⟨channel.items ++ [item], by rw [List.length_append]; exact room⟩
  else none

/-- Takes the oldest item, when there is one. -/
def receive (channel : Fifo α capacity) : Option (α × Fifo α capacity) :=
  match held : channel.items with
  | [] => none
  | first :: rest => some (first, ⟨rest, by
      have bound := channel.within
      rw [held, List.length_cons] at bound
      omega⟩)

/-- Sends the items one after the other, as long as each finds room. -/
def fill (channel : Fifo α capacity) : List α → Option (Fifo α capacity)
  | [] => some channel
  | item :: rest => (channel.trySend item).bind fun next => fill next rest

@[simp] theorem empty_items : (empty : Fifo α capacity).items = [] := rfl

theorem ext_items (same : channel.items = next.items) : channel = next := by
  cases channel
  cases next
  cases same
  rfl

/-- A send succeeds exactly when there is room, and then only appends. -/
theorem trySend_eq_some_iff :
    channel.trySend item = some next ↔
      channel.items.length < capacity ∧ next.items = channel.items ++ [item] := by
  unfold trySend
  split
  · rename_i room
    constructor
    · rintro sent
      cases sent
      exact ⟨room, rfl⟩
    · rintro ⟨-, same⟩
      exact congrArg some (ext_items same.symm)
  · rename_i full
    exact ⟨fun refused => (nomatch refused), fun sent => absurd sent.1 full⟩

theorem trySend_eq_none_iff : channel.trySend item = none ↔ capacity ≤ channel.items.length := by
  unfold trySend
  split <;> simp_all

/-- Receiving splits off exactly the oldest item. -/
theorem receive_eq_some_iff :
    channel.receive = some (item, next) ↔ channel.items = item :: next.items := by
  obtain ⟨items, within⟩ := channel
  cases items with
  | nil => exact ⟨fun received => (nomatch received), fun shape => (nomatch shape)⟩
  | cons first rest =>
    constructor
    · intro received
      cases received
      rfl
    · intro shape
      cases shape
      exact congrArg some (Prod.ext rfl (ext_items rfl))

theorem receive_eq_none_iff : channel.receive = none ↔ channel.items = [] := by
  obtain ⟨items, within⟩ := channel
  cases items with
  | nil => exact ⟨fun _ => rfl, fun _ => rfl⟩
  | cons first rest => exact ⟨fun received => (nomatch received), fun shape => (nomatch shape)⟩

/-- As many items as there is room for are all accepted, in order. -/
theorem fill_eq_some (channel : Fifo α capacity) (items : List α)
    (room : channel.items.length + items.length ≤ capacity) :
    ∃ full, channel.fill items = some full ∧ full.items = channel.items ++ items := by
  induction items generalizing channel with
  | nil => exact ⟨channel, rfl, by simp⟩
  | cons item rest ih =>
    rw [List.length_cons] at room
    cases sent : channel.trySend item with
    | none => exact absurd (trySend_eq_none_iff.mp sent) (by omega)
    | some next =>
      obtain ⟨-, appended⟩ := trySend_eq_some_iff.mp sent
      obtain ⟨full, filled, shape⟩ := ih next (by simp [appended]; omega)
      exact ⟨full, by simp [fill, sent, filled], by simp [shape, appended]⟩

end Fifo
