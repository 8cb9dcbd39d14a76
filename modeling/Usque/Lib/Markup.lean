import Mathlib.Data.List.Basic

/-! Nested markup as a flat list of tokens. A forest closes every name it opens, in
order; reading to the end of an element splits the list behind the token that closes
it. The two agree. -/
namespace Markup

/-- How a token takes part in the nesting. -/
inductive Shape (Name : Type u) where
  | opens (name : Name)
  | closes (name : Name)
  | leaf
  /-- The token cannot be read. -/
  | broken

variable {Token : Type v} {Name : Type u} (shape : Token → Shape Name)

/-- Tokens in which every name that is opened is closed again, innermost first. -/
inductive Forest : List Token → Prop where
  | nil : Forest []
  | leaf {token : Token} {rest : List Token} (alone : shape token = .leaf) (after : Forest rest) :
      Forest (token :: rest)
  | node {opening closing : Token} {inner rest : List Token} {name : Name}
      (opened : shape opening = .opens name) (inside : Forest inner)
      (closed : shape closing = .closes name) (after : Forest rest) :
      Forest (opening :: inner ++ closing :: rest)

/-- One forest for each open name, each behind the closing token of the one inside. -/
inductive Closes (shape : Token → Shape Name) : Name → List Name → List Token → Token → Prop where
  | last {name : Name} {inner : List Token} {closing : Token} (inside : Forest shape inner)
      (closed : shape closing = .closes name) : Closes shape name [] inner closing
  | next {name next : Name} {outer : List Name} {front inner : List Token} {token closing : Token}
      (inside : Forest shape front) (closed : shape token = .closes name)
      (onward : Closes shape next outer inner closing) :
      Closes shape name (next :: outer) (front ++ token :: inner) closing

section Closes

variable {shape} {name : Name} {outer : List Name} {inner : List Token} {closing : Token}

/-- A forest in front of what closes the innermost name belongs to that name. -/
theorem Closes.leaf {token : Token} (alone : shape token = .leaf)
    (closes : Closes shape name outer inner closing) :
    Closes shape name outer (token :: inner) closing := by
  cases closes with
  | last inside closed => exact .last (.leaf alone inside) closed
  | next inside closed onward => exact .next (.leaf alone inside) closed onward

theorem Closes.node {opening : Token} {child : Name} (opened : shape opening = .opens child)
    (closes : Closes shape child (name :: outer) inner closing) :
    Closes shape name outer (opening :: inner) closing := by
  cases closes with
  | next inside closed onward =>
    cases onward with
    | last behind ends => exact .last (.node opened inside closed behind) ends
    | next behind ends onward =>
      have forest := Forest.node opened inside closed behind
      simpa using Closes.next forest ends onward

end Closes

/-- Adds tokens in front of what was split off. -/
def prepend (front : List Token) (found : List Token × Token × List Token) :
    List Token × Token × List Token := (front ++ found.1, found.2)

@[simp] theorem prepend_nil : prepend ([] : List Token) = id := rfl

@[simp] theorem prepend_comp (front more : List Token) :
    prepend front ∘ prepend more = prepend (front ++ more) := by
  funext found
  simp [prepend]

variable [DecidableEq Name]

/-- Splits behind the token that closes the outermost open name; `name` is the
innermost one and `outer` holds the others. -/
def close (name : Name) (outer : List Name) : List Token → Option (List Token × Token × List Token)
  | [] => none
  | token :: rest =>
    match shape token with
    | .broken => none
    | .leaf => (close name outer rest).map (prepend [token])
    | .opens inner => (close inner (name :: outer) rest).map (prepend [token])
    | .closes other =>
      if other = name then
        match outer with
        | [] => some ([], token, rest)
        | next :: outer => (close next outer rest).map (prepend [token])
      else none

variable {shape} {name : Name} {outer : List Name} {tokens inner rest front : List Token}
  {closing : Token}

theorem close_leaf {token : Token} (alone : shape token = .leaf) :
    close shape name outer (token :: rest) =
      (close shape name outer rest).map (prepend [token]) := by
  simp only [close, alone]

theorem close_opens {token : Token} {child : Name} (opened : shape token = .opens child) :
    close shape name outer (token :: rest) =
      (close shape child (name :: outer) rest).map (prepend [token]) := by
  simp only [close, opened]

theorem close_last (closed : shape closing = .closes name) :
    close shape name [] (closing :: rest) = some ([], closing, rest) := by
  simp only [close, closed, if_true]

theorem close_next {next : Name} (closed : shape closing = .closes name) :
    close shape name (next :: outer) (closing :: rest) =
      (close shape next outer rest).map (prepend [closing]) := by
  simp only [close, closed, if_true]

theorem close_sound (found : close shape name outer tokens = some (inner, closing, rest)) :
    tokens = inner ++ closing :: rest ∧ Closes shape name outer inner closing := by
  induction tokens generalizing name outer inner with
  | nil => cases found
  | cons token tail ih =>
    unfold close at found
    split at found
    · cases found
    · rename_i alone
      obtain ⟨⟨within, _⟩, tailFound, shaped⟩ := Option.map_eq_some_iff.mp found
      cases shaped
      obtain ⟨same, closes⟩ := ih tailFound
      exact ⟨congrArg (token :: ·) same, closes.leaf alone⟩
    · rename_i child opened
      obtain ⟨⟨within, _⟩, tailFound, shaped⟩ := Option.map_eq_some_iff.mp found
      cases shaped
      obtain ⟨same, closes⟩ := ih tailFound
      exact ⟨congrArg (token :: ·) same, closes.node opened⟩
    · rename_i other closed
      split at found
      · rename_i same
        subst same
        split at found
        · cases found
          exact ⟨rfl, .last .nil closed⟩
        · obtain ⟨⟨within, _⟩, tailFound, shaped⟩ := Option.map_eq_some_iff.mp found
          cases shaped
          obtain ⟨split, closes⟩ := ih tailFound
          exact ⟨congrArg (token :: ·) split, .next .nil closed closes⟩
      · cases found

/-- A forest is passed through, whatever is open around it. -/
theorem close_append (forest : Forest shape front) (name : Name) (outer : List Name)
    (tail : List Token) :
    close shape name outer (front ++ tail) =
      (close shape name outer tail).map (prepend front) := by
  induction forest generalizing name outer tail with
  | nil => simp
  | leaf alone after ih =>
    rw [List.cons_append, close_leaf alone, ih, Option.map_map, prepend_comp]
    rfl
  | node opened inside closed after ihInner ihRest =>
    rw [List.append_assoc, List.cons_append, close_opens opened, ihInner, List.cons_append,
      close_next closed, ihRest]
    simp [Option.map_map]

/-- Reading to the end of an element takes the forest inside it and its closing token. -/
theorem close_eq_some_iff :
    close shape name [] tokens = some (inner, closing, rest) ↔
      tokens = inner ++ closing :: rest ∧ Forest shape inner ∧ shape closing = .closes name := by
  constructor
  · intro found
    obtain ⟨split, closes⟩ := close_sound found
    cases closes with
    | last inside closed => exact ⟨split, inside, closed⟩
  · rintro ⟨rfl, inside, closed⟩
    rw [close_append inside, close_last closed]
    simp [prepend]

end Markup
