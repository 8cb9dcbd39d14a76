import Mathlib.Data.List.Basic

/-! Overwriting a range of a list in place, the meaning of a slice copy into a
larger buffer. Reading back the written range gives what was written and every
position outside it keeps its contents. -/
namespace Splice

variable {α : Type u} {buffer source : List α} {offset size index : ℕ}

/-- Replaces the range of `buffer` that starts at `offset` and is as long as
`source`. -/
def overwrite (buffer : List α) (offset : ℕ) (source : List α) : List α :=
  buffer.take offset ++ source ++ buffer.drop (offset + source.length)

/-- The range `start..stop` of a buffer. -/
def range (buffer : List α) (start stop : ℕ) : List α :=
  (buffer.drop start).take (stop - start)

@[simp] theorem overwrite_length (fits : offset + source.length ≤ buffer.length) :
    (overwrite buffer offset source).length = buffer.length := by
  simp only [overwrite, List.length_append, List.length_take, List.length_drop]
  omega

/-- Every position of the result comes from the source inside the written
range and from the old buffer outside it. -/
theorem getElem?_overwrite (fits : offset + source.length ≤ buffer.length) :
    (overwrite buffer offset source)[index]? =
      if offset ≤ index ∧ index < offset + source.length then source[index - offset]?
      else buffer[index]? := by
  have front : (buffer.take offset).length = offset := List.length_take_of_le (by omega)
  rcases Nat.lt_or_ge index offset with before | after
  · rw [overwrite, List.append_assoc, List.getElem?_append_left (by omega),
      List.getElem?_take_of_lt before, if_neg (by omega)]
  · rw [overwrite, List.append_assoc, List.getElem?_append_right (by omega), front]
    rcases Nat.lt_or_ge index (offset + source.length) with inside | beyond
    · rw [List.getElem?_append_left (by omega), if_pos ⟨after, inside⟩]
    · rw [List.getElem?_append_right (by omega), List.getElem?_drop, if_neg (by omega)]
      congr 1
      omega

/-- What was written is read back exactly. -/
theorem range_overwrite (fits : offset + source.length ≤ buffer.length) :
    range (overwrite buffer offset source) offset (offset + source.length) = source := by
  have front : (buffer.take offset).length = offset := List.length_take_of_le (by omega)
  simp [range, overwrite, List.append_assoc, front]

/-- Everything before the written range keeps its contents. -/
theorem take_overwrite (fits : offset + source.length ≤ buffer.length) (before : size ≤ offset) :
    (overwrite buffer offset source).take size = buffer.take size := by
  have front : (buffer.take offset).length = offset := List.length_take_of_le (by omega)
  rw [overwrite, List.append_assoc, List.take_append_of_le_length (by omega), List.take_take,
    Nat.min_eq_left before]

/-- The buffer up to the end of the written range is its front, then the source. -/
theorem take_overwrite_end (fits : offset + source.length ≤ buffer.length) :
    (overwrite buffer offset source).take (offset + source.length) =
      buffer.take offset ++ source := by
  have front : (buffer.take offset ++ source).length = offset + source.length := by
    rw [List.length_append, List.length_take_of_le (by omega)]
  rw [overwrite, ← front, List.take_left']
  rfl

/-- A write that lies within a front of the buffer is a write to that front. -/
theorem overwrite_take (inside : offset + source.length ≤ size) (whole : size ≤ buffer.length) :
    (overwrite buffer offset source).take size = overwrite (buffer.take size) offset source := by
  have front : (buffer.take size).length = size := List.length_take_of_le whole
  apply List.ext_getElem?
  intro index
  rw [getElem?_overwrite (by omega), List.getElem?_take, List.getElem?_take,
    getElem?_overwrite (by omega)]
  by_cases held : index < size
  · rw [if_pos held, if_pos held]
  · rw [if_neg held, if_neg held, if_neg (by omega)]

/-- A write behind a front of the buffer is a write to what is behind that front. -/
theorem overwrite_drop (behind : size ≤ offset) (fits : offset + source.length ≤ buffer.length) :
    (overwrite buffer offset source).drop size =
      overwrite (buffer.drop size) (offset - size) source := by
  have back : (buffer.drop size).length = buffer.length - size := List.length_drop
  apply List.ext_getElem?
  intro index
  rw [getElem?_overwrite (by omega), List.getElem?_drop, List.getElem?_drop,
    getElem?_overwrite fits]
  by_cases written : offset - size ≤ index ∧ index < offset - size + source.length
  · rw [if_pos written, if_pos (by omega)]
    congr 1
    omega
  · rw [if_neg written, if_neg (by omega)]

theorem append_overwrite (front : List α) :
    front ++ overwrite buffer offset source =
      overwrite (front ++ buffer) (front.length + offset) source := by
  simp [overwrite, List.append_assoc, List.take_append, List.drop_append, Nat.add_assoc,
    List.take_of_length_le, List.drop_eq_nil_of_le]

theorem range_length (fits : offset + size ≤ buffer.length) :
    (range buffer offset (offset + size)).length = size := by
  simp only [range, List.length_take, List.length_drop]
  omega

theorem getElem?_range (buffer : List α) (start stop index : ℕ) :
    (range buffer start stop)[index]? =
      if index < stop - start then buffer[start + index]? else none := by
  rw [range, List.getElem?_take, List.getElem?_drop]

/-- A range reads the same after a write outside it. -/
theorem range_overwrite_outside {start stop : ℕ} (fits : offset + source.length ≤ buffer.length)
    (outside : stop ≤ offset ∨ offset + source.length ≤ start) :
    range (overwrite buffer offset source) start stop = range buffer start stop := by
  apply List.ext_getElem?
  intro index
  rw [getElem?_range, getElem?_range]
  by_cases held : index < stop - start
  · rw [if_pos held, if_pos held, getElem?_overwrite fits, if_neg (by omega)]
  · rw [if_neg held, if_neg held]

/-! ## Several writes in a row -/

/-- Writes every pair of an offset and its source, in order. -/
def patched (buffer : List α) (patches : List (ℕ × List α)) : List α :=
  patches.foldl (fun out patch => overwrite out patch.1 patch.2) buffer

/-- Every write of the list lies inside a buffer of this size. -/
def Fit (size : ℕ) (patches : List (ℕ × List α)) : Prop :=
  ∀ patch ∈ patches, patch.1 + patch.2.length ≤ size

/-- What the writes leave at a position: the last one that covers it decides. -/
def patchedAt (index : ℕ) (old : Option α) (patches : List (ℕ × List α)) : Option α :=
  patches.foldl (fun seen patch =>
    if patch.1 ≤ index ∧ index < patch.1 + patch.2.length then patch.2[index - patch.1]?
    else seen) old

private theorem fit_tail {patch : ℕ × List α} {patches : List (ℕ × List α)}
    (fit : Fit buffer.length (patch :: patches)) :
    Fit (overwrite buffer patch.1 patch.2).length patches := by
  rw [overwrite_length (fit patch List.mem_cons_self)]
  exact fun later member => fit later (List.mem_cons_of_mem _ member)

theorem patched_length {patches : List (ℕ × List α)} (fit : Fit buffer.length patches) :
    (patched buffer patches).length = buffer.length := by
  induction patches generalizing buffer with
  | nil => rfl
  | cons patch rest ih =>
    exact (ih (fit_tail fit)).trans (overwrite_length (fit patch List.mem_cons_self))

theorem getElem?_patched {patches : List (ℕ × List α)} (fit : Fit buffer.length patches)
    (index : ℕ) :
    (patched buffer patches)[index]? = patchedAt index buffer[index]? patches := by
  induction patches generalizing buffer with
  | nil => rfl
  | cons patch rest ih =>
    have written := ih (fit_tail fit)
    rw [getElem?_overwrite (fit patch List.mem_cons_self)] at written
    exact written

/-- Every write lies behind the writes before it. -/
def Ascending (patches : List (ℕ × List α)) : Prop :=
  patches.Pairwise fun earlier later => earlier.1 + earlier.2.length ≤ later.1

/-- A range outside every write keeps its contents. -/
theorem range_patched_outside {patches : List (ℕ × List α)} {start stop : ℕ}
    (fit : Fit buffer.length patches)
    (outside : ∀ patch ∈ patches, stop ≤ patch.1 ∨ patch.1 + patch.2.length ≤ start) :
    range (patched buffer patches) start stop = range buffer start stop := by
  induction patches generalizing buffer with
  | nil => rfl
  | cons patch rest ih =>
    have here := outside patch List.mem_cons_self
    have others := ih (fit_tail fit) fun later member => outside later (List.mem_cons_of_mem _ member)
    exact others.trans (range_overwrite_outside (fit patch List.mem_cons_self) here)

/-- Writes that do not overlap are all read back. -/
theorem range_patched {patches : List (ℕ × List α)} (fit : Fit buffer.length patches)
    (ascending : Ascending patches) (member : (offset, source) ∈ patches) :
    range (patched buffer patches) offset (offset + source.length) = source := by
  induction patches generalizing buffer with
  | nil => cases member
  | cons patch rest ih =>
    obtain ⟨before, ascendingRest⟩ := List.pairwise_cons.mp ascending
    rcases List.mem_cons.mp member with rfl | later
    · have kept : range (patched (overwrite buffer offset source) rest) offset
          (offset + source.length) =
          range (overwrite buffer offset source) offset (offset + source.length) :=
        range_patched_outside (fit_tail fit) fun patch member => .inl (before patch member)
      exact kept.trans (range_overwrite (fit _ List.mem_cons_self))
    · exact ih (fit_tail fit) ascendingRest later

end Splice
