import Mathlib.Data.List.Basic

/-! Text with references. Between an opening and a closing symbol stands a name; reading
puts what it names in its place and copies everything else. A symbol that no name holds
cannot be inside a reference, so reading splits behind it and never loses it. -/
namespace References

variable {α : Type u} [DecidableEq α]

section Expand

variable (resolve : List α → Option (List α)) (opening closing : α)

/-- Replaces every reference; none where one is unknown or is not closed. The first
argument is the name read so far, inside a reference. -/
def expand : Option (List α) → List α → Option (List α)
  | none, [] => some []
  | some _, [] => none
  | none, symbol :: rest =>
    if symbol = opening then expand (some []) rest else (expand none rest).map (symbol :: ·)
  | some name, symbol :: rest =>
    if symbol = closing then
      (resolve name).bind fun text => (expand none rest).map (text ++ ·)
    else if symbol = opening then none
    else expand (some (name ++ [symbol])) rest

end Expand

/-- No name that stands for something holds this symbol, and no reference begins or ends
with it. -/
structure Foreign (resolve : List α → Option (List α)) (opening closing symbol : α) : Prop where
  unnamed : ∀ name text, resolve name = some text → symbol ∉ name
  notOpening : symbol ≠ opening
  notClosing : symbol ≠ closing

variable {resolve : List α → Option (List α)} {opening closing symbol : α}
  {front rest name text out : List α} {state : Option (List α)}

theorem expand_outside (first : α) (rest : List α) :
    expand resolve opening closing none (first :: rest) =
      if first = opening then expand resolve opening closing (some []) rest
      else (expand resolve opening closing none rest).map (first :: ·) := by
  rw [expand]

theorem expand_inside (name : List α) (first : α) (rest : List α) :
    expand resolve opening closing (some name) (first :: rest) =
      if first = closing then
        (resolve name).bind fun text => (expand resolve opening closing none rest).map (text ++ ·)
      else if first = opening then none
      else expand resolve opening closing (some (name ++ [first])) rest := by
  rw [expand]

/-- Text without references is copied. -/
theorem expand_plain (plain : opening ∉ front) (rest : List α) :
    expand resolve opening closing none (front ++ rest) =
      (expand resolve opening closing none rest).map (front ++ ·) := by
  induction front with
  | nil => simp
  | cons first more ih =>
    have apart : first ≠ opening := (List.ne_of_not_mem_cons plain).symm
    rw [List.cons_append, expand_outside, if_neg apart, ih (List.not_mem_of_not_mem_cons plain),
      Option.map_map]
    rfl

private theorem expand_named (unopened : opening ∉ name) (unclosed : closing ∉ name)
    (before rest : List α) :
    expand resolve opening closing (some before) (name ++ closing :: rest) =
      (resolve (before ++ name)).bind fun text =>
        (expand resolve opening closing none rest).map (text ++ ·) := by
  induction name generalizing before with
  | nil => rw [List.nil_append, expand_inside, if_pos rfl, List.append_nil]
  | cons first more ih =>
    have notOpening : first ≠ opening := (List.ne_of_not_mem_cons unopened).symm
    have notClosing : first ≠ closing := (List.ne_of_not_mem_cons unclosed).symm
    rw [List.cons_append, expand_inside, if_neg notClosing, if_neg notOpening,
      ih (List.not_mem_of_not_mem_cons unopened) (List.not_mem_of_not_mem_cons unclosed),
      List.append_assoc, List.singleton_append]

/-- A reference is replaced by what it names. -/
theorem expand_reference (unopened : opening ∉ name) (unclosed : closing ∉ name)
    (rest : List α) :
    expand resolve opening closing none (opening :: name ++ closing :: rest) =
      (resolve name).bind fun text =>
        (expand resolve opening closing none rest).map (text ++ ·) := by
  rw [List.cons_append, expand_outside, if_pos rfl, expand_named unopened unclosed, List.nil_append]

/-- A name that has gone wrong is never closed. -/
private theorem expand_stuck (foreign : Foreign resolve opening closing symbol)
    (holds : symbol ∈ name) (rest : List α) :
    expand resolve opening closing (some name) rest = none := by
  induction rest generalizing name with
  | nil => rfl
  | cons first more ih =>
    rw [expand_inside]
    split
    · cases known : resolve name with
      | none => rfl
      | some text => exact absurd holds (foreign.unnamed name text known)
    · split
      · rfl
      · exact ih (List.mem_append_left _ holds)

/-- What ends in a foreign symbol is read on its own. -/
theorem expand_split (foreign : Foreign resolve opening closing symbol)
    (ends : front.getLast? = some symbol)
    (read : expand resolve opening closing state (front ++ rest) = some out) :
    ∃ text more, expand resolve opening closing state front = some text ∧
      expand resolve opening closing none rest = some more ∧ out = text ++ more := by
  induction front generalizing state out with
  | nil => cases ends
  | cons first others ih =>
    -- the foreign symbol is the last one or lies behind the first
    have behind (apart : first ≠ symbol) : others.getLast? = some symbol := by
      cases others with
      | nil => exact absurd (Option.some.inj ends) apart
      | cons second more => rwa [List.getLast?_cons_cons] at ends
    rw [List.cons_append] at read
    cases state with
    | none =>
      rw [expand_outside] at read ⊢
      by_cases opens : first = opening
      · rw [if_pos opens] at read ⊢
        exact ih (behind fun same => foreign.notOpening (same.symm.trans opens)) read
      · rw [if_neg opens] at read ⊢
        obtain ⟨tail, readTail, rfl⟩ := Option.map_eq_some_iff.mp read
        cases others with
        | nil => exact ⟨[first], tail, rfl, readTail, rfl⟩
        | cons second more =>
          rw [List.getLast?_cons_cons] at ends
          obtain ⟨text, left, head, last, rfl⟩ := ih ends readTail
          exact ⟨first :: text, left, by rw [head]; rfl, last, rfl⟩
    | some name =>
      rw [expand_inside] at read ⊢
      by_cases closes : first = closing
      · rw [if_pos closes] at read ⊢
        obtain ⟨known, resolved, put⟩ := Option.bind_eq_some_iff.mp read
        obtain ⟨tail, readTail, rfl⟩ := Option.map_eq_some_iff.mp put
        have onward := behind fun same => foreign.notClosing (same.symm.trans closes)
        obtain ⟨text, left, head, last, rfl⟩ := ih onward readTail
        exact ⟨known ++ text, left, by rw [resolved, head]; rfl, last, by rw [List.append_assoc]⟩
      · rw [if_neg closes] at read ⊢
        by_cases opens : first = opening
        · rw [if_pos opens] at read
          cases read
        · rw [if_neg opens] at read ⊢
          by_cases same : first = symbol
          · subst same
            rw [expand_stuck foreign (List.mem_append_right _ List.mem_cons_self)] at read
            cases read
          · exact ih (behind same) read

/-- A foreign symbol is never lost. -/
theorem count_le_expand (foreign : Foreign resolve opening closing symbol)
    (read : expand resolve opening closing state front = some out) :
    front.count symbol ≤ out.count symbol := by
  induction front generalizing state out with
  | nil => exact Nat.zero_le _
  | cons first others ih =>
    cases state with
    | none =>
      rw [expand_outside] at read
      by_cases opens : first = opening
      · rw [if_pos opens] at read
        rw [List.count_cons_of_ne fun same => foreign.notOpening (same.symm.trans opens)]
        exact ih read
      · rw [if_neg opens] at read
        obtain ⟨tail, readTail, rfl⟩ := Option.map_eq_some_iff.mp read
        rw [List.count_cons, List.count_cons]
        exact Nat.add_le_add_right (ih readTail) _
    | some name =>
      rw [expand_inside] at read
      by_cases closes : first = closing
      · rw [if_pos closes] at read
        obtain ⟨text, resolved, put⟩ := Option.bind_eq_some_iff.mp read
        obtain ⟨tail, readTail, rfl⟩ := Option.map_eq_some_iff.mp put
        rw [List.count_cons_of_ne fun same => foreign.notClosing (same.symm.trans closes),
          List.count_append]
        exact Nat.le_add_left_of_le (ih readTail)
      · rw [if_neg closes] at read
        by_cases opens : first = opening
        · rw [if_pos opens] at read
          cases read
        · rw [if_neg opens] at read
          by_cases same : first = symbol
          · subst same
            rw [expand_stuck foreign (List.mem_append_right _ List.mem_cons_self)] at read
            cases read
          · rw [List.count_cons_of_ne same]
            exact ih read

end References
