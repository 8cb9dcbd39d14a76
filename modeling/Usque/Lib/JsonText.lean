import Usque.Lib.Json
import Usque.Lib.Numeral

/-! JSON as text. The printer sets every item and every member on a line of its own, two blanks
deeper than what holds it. A parser gives what it has read and the text behind it; nesting is
limited, and the limit is what the recursion is on. A printed value is read back, and nothing
that stops in front of the last character of a printed object is a document. -/
namespace Json

def quote : Char := Char.ofNat 0x22

def backslash : Char := Char.ofNat 0x5c

/-! ## Printing -/

/-- What stands behind a backslash, and for which character. -/
def escapes : List (Char × Char) :=
  [(quote, quote), (backslash, backslash), ('b', Char.ofNat 0x08), ('f', Char.ofNat 0x0c),
    ('n', '\n'), ('r', '\r'), ('t', '\t')]

def printChar (c : Char) : List Char :=
  match escapes.find? fun pair => pair.2 == c with
  | some (letter, _) => [backslash, letter]
  | none =>
    if c.toNat < 0x20 then
      [backslash, 'u', '0', '0', (c.toNat / 16).digitChar, (c.toNat % 16).digitChar]
    else [c]

def printString (text : String) : List Char := quote :: (text.toList.flatMap printChar ++ [quote])

def newline (indent : ℕ) : List Char := '\n' :: List.replicate (2 * indent) ' '

/-- What follows the first of several parts. -/
def further (indent : ℕ) (parts : List (List Char)) : List Char :=
  parts.flatMap fun part => ',' :: (newline (indent + 1) ++ part)

def enclosed (first last : Char) (indent : ℕ) : List (List Char) → List Char
  | [] => [first, last]
  | part :: rest =>
    first :: (newline (indent + 1) ++ part ++ further indent rest ++ newline indent ++ [last])

mutual

def Value.print (indent : ℕ) : Value → List Char
  | .null => ['n', 'u', 'l', 'l']
  | .bool true => ['t', 'r', 'u', 'e']
  | .bool false => ['f', 'a', 'l', 's', 'e']
  | .number digits => digits.toList
  | .string text => printString text
  | .array items => enclosed '[' ']' indent (printItems (indent + 1) items)
  | .object members => enclosed '{' '}' indent (printMembers (indent + 1) members)

def printItems (indent : ℕ) : List Value → List (List Char)
  | [] => []
  | item :: rest => item.print indent :: printItems indent rest

def printMembers (indent : ℕ) : List (String × Value) → List (List Char)
  | [] => []
  | (name, value) :: rest =>
    (printString name ++ ':' :: ' ' :: value.print indent) :: printMembers indent rest

end

/-! ## Parsing -/

abbrev Parser (α : Type u) := List Char → Option (α × List Char)

namespace Parser

variable {α : Type u} {β : Type v}

def succeed (value : α) : Parser α := fun text => some (value, text)

def fail : Parser α := fun _ => none

def andThen (first : Parser α) (second : α → Parser β) : Parser β := fun text =>
  (first text).bind fun (read, rest) => second read rest

def map (f : α → β) (first : Parser α) : Parser β := first.andThen fun read => succeed (f read)

/-- The first character decides. -/
def next (parser : Char → Parser α) : Parser α
  | [] => none
  | c :: rest => parser c rest

end Parser

open Json.Parser

def isSpace (c : Char) : Bool := c == ' ' || c == '\n' || c == '\t' || c == '\r'

def skipSpace (text : List Char) : List Char := text.dropWhile isSpace

/-- The first character that is no space decides. -/
def front (parser : Char → Parser α) : Parser α := fun text => next parser (skipSpace text)

def hexValue (c : Char) : Option ℕ :=
  if '0' ≤ c ∧ c ≤ '9' then some (c.toNat - '0'.toNat)
  else if 'a' ≤ c ∧ c ≤ 'f' then some (c.toNat - 'a'.toNat + 10)
  else if 'A' ≤ c ∧ c ≤ 'F' then some (c.toNat - 'A'.toNat + 10)
  else none

def hexDigit : Parser ℕ := next fun c =>
  match hexValue c with
  | some digit => succeed digit
  | none => fail

def codeUnit : Parser ℕ :=
  hexDigit.andThen fun first => hexDigit.andThen fun second => hexDigit.andThen fun third =>
    hexDigit.map fun fourth => ((first * 16 + second) * 16 + third) * 16 + fourth

/-- What follows the first code unit of a surrogate pair. -/
def surrogate (high : ℕ) : Parser Char :=
  next fun first => next fun second =>
    if first = backslash ∧ second = 'u' then
      codeUnit.andThen fun low =>
        if 0xdc00 ≤ low ∧ low < 0xe000 then
          succeed (Char.ofNat (0x10000 + (high - 0xd800) * 0x400 + (low - 0xdc00)))
        else fail
    else fail

def unicode : Parser Char := codeUnit.andThen fun unit =>
  if 0xd800 ≤ unit ∧ unit < 0xdc00 then surrogate unit
  else if 0xdc00 ≤ unit ∧ unit < 0xe000 then fail
  else succeed (Char.ofNat unit)

def escape : Parser Char := next fun c =>
  if c = 'u' then unicode
  else if c = '/' then succeed '/'
  else match escapes.lookup c with
    | some escaped => succeed escaped
    | none => fail

def character (c : Char) : Parser Char :=
  if c = backslash then escape else if c.toNat < 0x20 then fail else succeed c

def characters : ℕ → Parser (List Char)
  | 0 => fail
  | fuel + 1 => next fun c =>
    if c = quote then succeed []
    else (character c).andThen fun first => (characters fuel).map fun others => first :: others

/-- A string behind its opening quote; every turn takes a character. -/
def string : Parser String := fun text => (characters text.length).map String.ofList text

/-- Digits as far as they go. -/
def moreDigits : Parser (List Char) := fun text =>
  some (text.takeWhile Char.isDigit, text.dropWhile Char.isDigit)

def digits (c : Char) : Parser (List Char) :=
  if c.isDigit then moreDigits.map fun more => c :: more else fail

def integer (c : Char) : Parser (List Char) := if c = '0' then succeed ['0'] else digits c

def signed (signs : List Char) (unsigned : Char → Parser (List Char)) (c : Char) :
    Parser (List Char) :=
  if c ∈ signs then (next unsigned).map fun read => c :: read else unsigned c

def optional (starts : List Char) (behind : Char → Parser (List Char)) : Parser (List Char)
  | [] => some ([], [])
  | c :: rest =>
    if c ∈ starts then (next behind).map (fun read => c :: read) rest else some ([], c :: rest)

def number (c : Char) : Parser (List Char) :=
  (signed ['-'] integer c).andThen fun whole =>
    (optional ['.'] digits).andThen fun fraction =>
      (optional ['e', 'E'] (signed ['+', '-'] digits)).map fun exponent => whole ++ fraction ++ exponent

def literal (word : List Char) (value : Value) : Parser Value := fun text =>
  if word.isPrefixOf text then some (value, text.drop word.length) else none

def scalar (c : Char) : Parser Value :=
  if c = quote then string.map .string
  else if c = 'n' then literal ['u', 'l', 'l'] .null
  else if c = 't' then literal ['r', 'u', 'e'] (.bool true)
  else if c = 'f' then literal ['a', 'l', 's', 'e'] (.bool false)
  else (number c).map fun digits => .number (String.ofList digits)

/-- Parts with commas between them, up to `last`. -/
def sequence (part : Parser α) (last : Char) : ℕ → Parser (List α)
  | 0 => fail
  | fuel + 1 => part.andThen fun first => front fun c =>
    if c = last then succeed [first]
    else if c = ',' then (sequence part last fuel).map fun others => first :: others
    else fail

/-- What stands behind an opening bracket; every turn takes a character. -/
def parts (part : Parser α) (last : Char) : Parser (List α) := fun text =>
  match skipSpace text with
  | [] => none
  | c :: rest => if c = last then some ([], rest) else sequence part last text.length text

def member (value : Parser Value) : Parser (String × Value) := front fun c =>
  if c = quote then
    string.andThen fun name => front fun c =>
      if c = ':' then value.map fun value => (name, value) else fail
  else fail

def compound (value : Parser Value) (c : Char) : Parser Value :=
  if c = '[' then (parts value ']').map .array
  else if c = '{' then (parts (member value) '}').map .object
  else scalar c

/-- A value of at most so many brackets within each other. -/
def value : ℕ → Parser Value
  | 0 => front scalar
  | depth + 1 => front (compound (value depth))

/-- A text that is one value. -/
def document (depth : ℕ) (text : List Char) : Option Value :=
  (value depth text).bind fun (read, rest) => if skipSpace rest = [] then some read else none

/-! ## Texts that go on -/

/-- What is read of a text is read of it with more text behind it. Where `ended` does not hold
that is so only if something is left of the text. -/
structure Extends (ended : Prop) (parser : Parser α) : Prop where
  nothing : ∀ read rest, parser [] = some (read, rest) → rest = []
  goes_on : ∀ text read rest more, parser text = some (read, rest) → ended ∨ rest ≠ [] →
    parser (text ++ more) = some (read, rest ++ more)

section Extension

variable {α : Type u} {β : Type v} {ended : Prop} {first : Parser α} {second : α → Parser β}
  {parser : Char → Parser α}

theorem Extends.weaken (closed : Extends True first) : Extends ended first where
  nothing := closed.nothing
  goes_on text read rest more parsed _ := closed.goes_on text read rest more parsed (.inl trivial)

theorem succeed_extends (value : α) : Extends ended (succeed value) where
  nothing read rest parsed := by
    cases parsed
    rfl
  goes_on text read rest more parsed _ := by
    cases parsed
    rfl

theorem fail_extends : Extends ended (fail : Parser α) where
  nothing read rest parsed := by cases parsed
  goes_on text read rest more parsed _ := by cases parsed

theorem andThen_eq_some_iff {text rest : List Char} {read : β} :
    first.andThen second text = some (read, rest) ↔
      ∃ middle behind, first text = some (middle, behind) ∧ second middle behind = some (read, rest) := by
  rw [andThen, Option.bind_eq_some_iff]
  constructor
  · rintro ⟨⟨middle, behind⟩, before, after⟩
    exact ⟨middle, behind, before, after⟩
  · rintro ⟨middle, behind, before, after⟩
    exact ⟨(middle, behind), before, after⟩

theorem Extends.andThen (before : Extends ended first) (after : ∀ read, Extends ended (second read)) :
    Extends ended (first.andThen second) where
  nothing read rest parsed := by
    obtain ⟨middle, behind, start, finish⟩ := andThen_eq_some_iff.mp parsed
    obtain rfl := before.nothing _ _ start
    exact (after middle).nothing _ _ finish
  goes_on text read rest more parsed last := by
    obtain ⟨middle, behind, start, finish⟩ := andThen_eq_some_iff.mp parsed
    refine andThen_eq_some_iff.mpr ⟨middle, behind ++ more, ?_, (after middle).goes_on _ _ _ more finish last⟩
    refine before.goes_on _ _ _ more start (last.imp_right fun left nothing => ?_)
    rw [nothing] at finish
    exact left ((after middle).nothing _ _ finish)

/-- Where the second parser needs text there is some left behind the first. -/
theorem Extends.andThen_closed (before : Extends False first)
    (after : ∀ read, Extends True (second read)) (needs : ∀ read, second read [] = none) :
    Extends True (first.andThen second) where
  nothing read rest parsed := by
    obtain ⟨middle, behind, start, finish⟩ := andThen_eq_some_iff.mp parsed
    obtain rfl := before.nothing _ _ start
    exact (after middle).nothing _ _ finish
  goes_on text read rest more parsed last := by
    obtain ⟨middle, behind, start, finish⟩ := andThen_eq_some_iff.mp parsed
    refine andThen_eq_some_iff.mpr ⟨middle, behind ++ more, ?_, (after middle).goes_on _ _ _ more finish last⟩
    refine before.goes_on _ _ _ more start (.inr fun nothing => ?_)
    rw [nothing, needs middle] at finish
    cases finish

theorem Extends.map (before : Extends ended first) (f : α → β) : Extends ended (first.map f) :=
  before.andThen fun read => succeed_extends (f read)

theorem next_extends (extending : ∀ c, Extends ended (parser c)) : Extends ended (next parser) where
  nothing read rest parsed := by cases parsed
  goes_on text read rest more parsed last := by
    cases text with
    | nil => cases parsed
    | cons c behind => exact (extending c).goes_on _ _ _ more parsed last

theorem ite_extends {cond : Prop} [Decidable cond] {yes no : Parser α}
    (met : cond → Extends ended yes) (unmet : ¬ cond → Extends ended no) :
    Extends ended (if cond then yes else no) := by
  split_ifs with holds
  · exact met holds
  · exact unmet holds

theorem skipSpace_append {text more : List Char} (some : skipSpace text ≠ []) :
    skipSpace (text ++ more) = skipSpace text ++ more := by
  rw [skipSpace, List.dropWhile_append]
  rw [skipSpace] at some
  simp [some, skipSpace]

theorem front_extends (extending : ∀ c, Extends ended (parser c)) : Extends ended (front parser) where
  nothing read rest parsed := by cases parsed
  goes_on text read rest more parsed last := by
    have some : skipSpace text ≠ [] := by
      intro nothing
      rw [front, nothing] at parsed
      cases parsed
    rw [front, skipSpace_append some]
    exact (next_extends extending).goes_on _ _ _ more parsed last

theorem hexDigit_extends : Extends True hexDigit := by
  refine next_extends fun c => ?_
  cases hexValue c with
  | none => exact fail_extends
  | some digit => exact succeed_extends digit

theorem codeUnit_extends : Extends True codeUnit :=
  hexDigit_extends.andThen fun _ => hexDigit_extends.andThen fun _ => hexDigit_extends.andThen fun _ =>
    hexDigit_extends.map _

theorem unicode_extends : Extends True unicode := by
  refine codeUnit_extends.andThen fun unit => ite_extends (fun _ => ?_) fun _ =>
    ite_extends (fun _ => fail_extends) fun _ => succeed_extends _
  refine next_extends fun first => next_extends fun second => ite_extends (fun _ => ?_) fun _ => fail_extends
  exact codeUnit_extends.andThen fun low =>
    ite_extends (fun _ => succeed_extends _) fun _ => fail_extends

theorem character_extends (c : Char) : Extends True (character c) := by
  refine ite_extends (fun _ => ?_) fun _ => ite_extends (fun _ => fail_extends) fun _ => succeed_extends c
  refine next_extends fun letter => ite_extends (fun _ => unicode_extends) fun _ =>
    ite_extends (fun _ => succeed_extends _) fun _ => ?_
  cases escapes.lookup letter with
  | none => exact fail_extends
  | some escaped => exact succeed_extends escaped

/-- A parser that is given the length of the text for its turns, if more turns do no harm. -/
theorem turns_extends (turns : ℕ → Parser α) (extending : ∀ fuel, Extends True (turns fuel))
    (more : ∀ fuel text result, turns fuel text = some result → turns (fuel + 1) text = some result) :
    Extends True fun text => turns text.length text where
  nothing read rest parsed := (extending 0).nothing _ _ parsed
  goes_on text read rest behind parsed _ := by
    have enough (count : ℕ) (text : List Char) (result : α × List Char)
        (parsed : turns text.length text = some result) :
        turns (text.length + count) text = some result := by
      induction count with
      | zero => exact parsed
      | succ count ih => exact more _ _ _ ih
    rw [List.length_append]
    have longer := (extending _).goes_on _ _ _ behind (enough behind.length _ _ parsed) (.inl trivial)
    exact longer

theorem characters_extends (fuel : ℕ) : Extends True (characters fuel) := by
  induction fuel with
  | zero => exact fail_extends
  | succ fuel ih =>
    exact next_extends fun c => ite_extends (fun _ => succeed_extends []) fun _ =>
      (character_extends c).andThen fun first => ih.map _

theorem characters_more {fuel : ℕ} {text : List Char} {result : List Char × List Char}
    (parsed : characters fuel text = some result) : characters (fuel + 1) text = some result := by
  induction fuel generalizing text result with
  | zero => cases parsed
  | succ fuel ih =>
    cases text with
    | nil => cases parsed
    | cons c rest =>
      simp only [characters, next] at parsed ⊢
      split_ifs at parsed ⊢ with closing
      · exact parsed
      · obtain ⟨read, rest⟩ := result
        obtain ⟨first, behind, taken, went⟩ := andThen_eq_some_iff.mp parsed
        obtain ⟨others, last, went, same⟩ := andThen_eq_some_iff.mp went
        exact andThen_eq_some_iff.mpr ⟨first, behind, taken,
          andThen_eq_some_iff.mpr ⟨others, last, ih went, same⟩⟩

theorem string_extends : Extends True string := by
  refine turns_extends (fun fuel => (characters fuel).map String.ofList)
    (fun fuel => (characters_extends fuel).map _) fun fuel text result parsed => ?_
  obtain ⟨read, rest⟩ := result
  obtain ⟨chars, behind, parsed, same⟩ := andThen_eq_some_iff.mp parsed
  exact andThen_eq_some_iff.mpr ⟨chars, behind, characters_more parsed, same⟩

theorem literal_extends (word : List Char) (filled : word ≠ []) (value : Value) :
    Extends True (literal word value) where
  nothing read rest parsed := by
    cases word with
    | nil => exact absurd rfl filled
    | cons c word => cases parsed
  goes_on text read rest more parsed _ := by
    rw [literal] at parsed
    split_ifs at parsed with starts
    cases parsed
    obtain ⟨behind, rfl⟩ := List.isPrefixOf_iff_prefix.mp starts
    have longer : word.isPrefixOf (word ++ (behind ++ more)) = true :=
      List.isPrefixOf_iff_prefix.mpr (List.prefix_append _ _)
    rw [literal, List.append_assoc, if_pos longer, List.drop_left, List.drop_left]

/-- Digits may go on behind the text. -/
theorem moreDigits_extends : Extends False moreDigits where
  nothing read rest parsed := by
    cases parsed
    rfl
  goes_on text read rest more parsed last := by
    cases parsed
    have stops : text.dropWhile Char.isDigit ≠ [] := last.resolve_left id
    have short : (text.takeWhile Char.isDigit).length ≠ text.length := by
      intro all
      have whole := (List.takeWhile_prefix (l := text) Char.isDigit).eq_of_length all
      have split := List.takeWhile_append_dropWhile (p := Char.isDigit) (l := text)
      rw [whole] at split
      exact stops (List.append_right_eq_self.mp split)
    rw [moreDigits, List.takeWhile_append, if_neg short, List.dropWhile_append, if_neg (by simpa using stops)]

theorem digits_extends (c : Char) : Extends False (digits c) :=
  ite_extends (fun _ => moreDigits_extends.map _) fun _ => fail_extends

theorem signed_extends (signs : List Char) {unsigned : Char → Parser (List Char)}
    (extending : ∀ c, Extends False (unsigned c)) (c : Char) : Extends False (signed signs unsigned c) :=
  ite_extends (fun _ => (next_extends extending).map _) fun _ => extending c

theorem optional_extends (starts : List Char) {behind : Char → Parser (List Char)}
    (extending : ∀ c, Extends False (behind c)) : Extends False (optional starts behind) where
  nothing read rest parsed := by
    cases parsed
    rfl
  goes_on text read rest more parsed last := by
    cases text with
    | nil =>
      cases parsed
      exact absurd rfl (last.resolve_left id)
    | cons c text =>
      rw [optional] at parsed
      rw [List.cons_append, optional]
      split_ifs at parsed ⊢ with start
      · exact ((next_extends extending).map _).goes_on _ _ _ more parsed last
      · cases parsed
        rfl

theorem number_extends (c : Char) : Extends False (number c) :=
  (signed_extends _ (fun _ => ite_extends (fun _ => succeed_extends _) fun _ => digits_extends _) c).andThen
    fun _ => (optional_extends _ digits_extends).andThen fun _ =>
      (optional_extends _ (signed_extends _ digits_extends)).map _

theorem scalar_extends (c : Char) : Extends False (scalar c) := by
  refine ite_extends (fun _ => (string_extends.map _).weaken) fun _ => ?_
  refine ite_extends (fun _ => (literal_extends _ (by simp) _).weaken) fun _ => ?_
  refine ite_extends (fun _ => (literal_extends _ (by simp) _).weaken) fun _ => ?_
  refine ite_extends (fun _ => (literal_extends _ (by simp) _).weaken) fun _ => ?_
  exact (number_extends c).map _

theorem sequence_extends (extending : Extends False first) (last : Char) (fuel : ℕ) :
    Extends True (sequence first last fuel) := by
  induction fuel with
  | zero => exact fail_extends
  | succ fuel ih =>
    refine extending.andThen_closed (fun read => front_extends fun c => ?_) fun _ => rfl
    exact ite_extends (fun _ => succeed_extends _) fun _ =>
      ite_extends (fun _ => ih.map _) fun _ => fail_extends

theorem sequence_more {last : Char} {fuel : ℕ} {text : List Char} {result : List α × List Char}
    (parsed : sequence first last fuel text = some result) :
    sequence first last (fuel + 1) text = some result := by
  induction fuel generalizing text result with
  | zero => cases parsed
  | succ fuel ih =>
    obtain ⟨read, rest⟩ := result
    obtain ⟨part, behind, taken, went⟩ := andThen_eq_some_iff.mp parsed
    refine andThen_eq_some_iff.mpr ⟨part, behind, taken, ?_⟩
    rw [front] at went ⊢
    cases starts : skipSpace behind with
    | nil =>
      rw [starts] at went
      cases went
    | cons c after =>
      rw [starts] at went
      simp only [next] at went ⊢
      split_ifs at went ⊢ with closing comma
      · exact went
      · obtain ⟨others, last, went, same⟩ := andThen_eq_some_iff.mp went
        exact andThen_eq_some_iff.mpr ⟨others, last, ih went, same⟩
      · exact went

theorem parts_extends (extending : Extends False first) (last : Char) :
    Extends True (parts first last) where
  nothing read rest parsed := by cases parsed
  goes_on text read rest more parsed _ := by
    have turns := turns_extends _ (sequence_extends extending last) fun _ _ _ => sequence_more
    rw [parts] at parsed ⊢
    cases starts : skipSpace text with
    | nil =>
      rw [starts] at parsed
      cases parsed
    | cons c behind =>
      rw [skipSpace_append (by simp [starts]), starts]
      rw [starts] at parsed
      simp only [List.cons_append] at parsed ⊢
      split_ifs at parsed ⊢ with closing
      · cases parsed
        rfl
      · exact turns.goes_on _ _ _ more parsed (.inl trivial)

theorem member_extends {value : Parser Value} (extending : Extends False value) :
    Extends False (member value) := by
  refine front_extends fun c => ite_extends (fun _ => ?_) fun _ => fail_extends
  refine string_extends.weaken.andThen fun name => front_extends fun c => ?_
  exact ite_extends (fun _ => extending.map _) fun _ => fail_extends

theorem value_extends (depth : ℕ) : Extends False (value depth) := by
  induction depth with
  | zero => exact front_extends scalar_extends
  | succ depth ih =>
    refine front_extends fun c => ite_extends (fun _ => ((parts_extends ih _).map _).weaken) fun _ => ?_
    exact ite_extends (fun _ => ((parts_extends (member_extends ih) _).map _).weaken) fun _ => scalar_extends c

/-- An object ends with its own bracket. -/
theorem object_goes_on {depth : ℕ} {text rest : List Char} {read : Value}
    (parsed : value (depth + 1) ('{' :: text) = some (read, rest)) (more : List Char) :
    value (depth + 1) ('{' :: (text ++ more)) = some (read, rest ++ more) := by
  have closed := (parts_extends (member_extends (value_extends depth)) '}').map Value.object
  exact closed.goes_on _ _ _ more parsed (.inl trivial)

end Extension

/-! ## Printed values -/

/-- A value with natural numbers only and at most so many brackets within each other. -/
inductive Value.Plain : ℕ → Value → Prop where
  | null : Plain depth .null
  | bool (value : Bool) : Plain depth (.bool value)
  | number (number : ℕ) : Plain depth (.number (String.ofList (Nat.toDigits 10 number)))
  | string (text : String) : Plain depth (.string text)
  | array (items : List Value) (inside : ∀ item ∈ items, Plain depth item) :
      Plain (depth + 1) (.array items)
  | object (members : List (String × Value)) (inside : ∀ member ∈ members, Plain depth member.2) :
      Plain (depth + 1) (.object members)

/-- Text in front of which a number is at its end. -/
def Stops (rest : List Char) : Prop :=
  ∀ c, rest.head? = some c → c.isDigit = false ∧ c ≠ '.' ∧ c ≠ 'e' ∧ c ≠ 'E'

section Printed

variable {α : Type u}

theorem skipSpace_newline (indent : ℕ) (text : List Char) :
    skipSpace (newline indent ++ text) = skipSpace text := by
  have blanks (count : ℕ) : skipSpace (List.replicate count ' ' ++ text) = skipSpace text := by
    induction count with
    | zero => rfl
    | succ count ih => exact ih
  exact blanks _

/-- The text of a character is read as that character. -/
theorem character_print (c : Char) (rest : List Char) :
    ∃ first behind, printChar c ++ rest = first :: behind ∧ first ≠ quote ∧
      character first behind = some (c, rest) := by
  rw [printChar]
  split
  · rename_i letter escaped found
    have readable : ∀ pair ∈ escapes, pair.1 ≠ 'u' ∧ pair.1 ≠ '/' ∧
        escapes.lookup pair.1 = some pair.2 := by decide
    obtain ⟨unicodeless, slashless, listed⟩ := readable _ (List.mem_of_find?_eq_some found)
    obtain rfl : escaped = c := by simpa using List.find?_some found
    refine ⟨backslash, letter :: rest, rfl, by decide, ?_⟩
    rw [character, if_pos rfl, escape, next, if_neg unicodeless, if_neg slashless, listed]
    rfl
  · rename_i absent
    rw [List.find?_eq_none] at absent
    have unquoted : c ≠ quote := by
      rintro rfl
      exact absent (quote, quote) (by decide) (by decide)
    have unescaped : c ≠ backslash := by
      rintro rfl
      exact absent (backslash, backslash) (by decide) (by decide)
    split_ifs with control
    · refine ⟨backslash, 'u' :: '0' :: '0' :: (c.toNat / 16).digitChar :: (c.toNat % 16).digitChar :: rest,
        rfl, by decide, ?_⟩
      have digit : ∀ digit < 16, hexValue digit.digitChar = some digit := by decide
      have high := digit (c.toNat / 16) (by omega)
      have low := digit (c.toNat % 16) (by omega)
      have unit : codeUnit ('0' :: '0' :: (c.toNat / 16).digitChar :: (c.toNat % 16).digitChar :: rest) =
          some (c.toNat, rest) := by
        have zero : hexValue '0' = some 0 := by decide
        have same : ((0 * 16 + 0) * 16 + c.toNat / 16) * 16 + c.toNat % 16 = c.toNat := by omega
        simp only [codeUnit, hexDigit, andThen, Parser.map, next, zero, high, low, succeed,
          Option.bind_some, same]
      rw [character, if_pos rfl, escape, next, if_pos rfl]
      refine andThen_eq_some_iff.mpr ⟨c.toNat, rest, unit, ?_⟩
      rw [if_neg (by omega), if_neg (by omega), Char.ofNat_toNat]
      rfl
    · refine ⟨c, rest, rfl, unquoted, ?_⟩
      rw [character, if_neg unescaped, if_neg control]
      rfl

theorem characters_print (text rest : List Char) (fuel : ℕ) (enough : text.length < fuel) :
    characters fuel (text.flatMap printChar ++ quote :: rest) = some (text, rest) := by
  induction text generalizing fuel with
  | nil =>
    obtain ⟨fuel, rfl⟩ := Nat.exists_eq_add_of_lt enough
    rfl
  | cons c text ih =>
    obtain ⟨fuel, rfl⟩ := Nat.exists_eq_add_of_lt enough
    obtain ⟨first, behind, starts, other, read⟩ :=
      character_print c (text.flatMap printChar ++ quote :: rest)
    rw [List.flatMap_cons, List.append_assoc, starts, characters, next, if_neg other]
    refine andThen_eq_some_iff.mpr ⟨c, _, read, ?_⟩
    refine andThen_eq_some_iff.mpr ⟨text, rest, ih _ (by simp at *; omega), rfl⟩

theorem printChar_ne_nil (c : Char) : printChar c ≠ [] := by
  rw [printChar]
  split
  · simp
  · split_ifs <;> simp

theorem string_print (text : String) (rest : List Char) :
    ∃ behind, printString text ++ rest = quote :: behind ∧ string behind = some (text, rest) := by
  have filled (chars : List Char) : chars.length ≤ (chars.flatMap printChar).length := by
    induction chars with
    | nil => exact Nat.le_refl 0
    | cons c chars ih =>
      have one := List.length_pos_iff.mpr (printChar_ne_nil c)
      rw [List.flatMap_cons, List.length_append, List.length_cons]
      omega
  refine ⟨text.toList.flatMap printChar ++ quote :: rest, by simp [printString], ?_⟩
  have read := characters_print text.toList rest
    (text.toList.flatMap printChar ++ quote :: rest).length (by
      have := filled text.toList
      rw [List.length_append, List.length_cons]
      omega)
  rw [string]
  refine andThen_eq_some_iff.mpr ⟨text.toList, rest, read, ?_⟩
  rw [String.ofList_toList, succeed]

theorem moreDigits_append {text rest : List Char} (digits : ∀ c ∈ text, c.isDigit = true)
    (stops : Stops rest) : moreDigits (text ++ rest) = some (text, rest) := by
  have behind : rest.takeWhile Char.isDigit = [] ∧ rest.dropWhile Char.isDigit = rest := by
    cases rest with
    | nil => exact ⟨rfl, rfl⟩
    | cons c rest =>
      have other := (stops c rfl).1
      exact ⟨List.takeWhile_cons_of_neg (by simp [other]), List.dropWhile_cons_of_neg (by simp [other])⟩
  rw [moreDigits, List.takeWhile_append_of_pos digits, List.dropWhile_append_of_pos digits, behind.1,
    behind.2, List.append_nil]

theorem optional_stops {starts : List Char} {behind : Char → Parser (List Char)} {rest : List Char}
    (known : starts ⊆ ['.', 'e', 'E']) (stops : Stops rest) :
    optional starts behind rest = some ([], rest) := by
  cases rest with
  | nil => rfl
  | cons c rest =>
    obtain ⟨-, point, small, large⟩ := stops c rfl
    rw [optional, if_neg]
    intro member
    have listed := known member
    simp [point, small, large] at listed

/-- A natural number is read whole; zero is the only one with a zero in front. -/
theorem number_print (count : ℕ) (rest : List Char) (stops : Stops rest) :
    ∃ c behind, Nat.toDigits 10 count ++ rest = c :: behind ∧ c.isDigit = true ∧
      number c behind = some (Nat.toDigits 10 count, rest) := by
  have digit : ∀ c ∈ Nat.toDigits 10 count, c.isDigit = true :=
    fun c member => Nat.isDigit_of_mem_toDigits (by decide) (by decide) member
  have head : count ≠ 0 → (Nat.toDigits 10 count).head? ≠ some '0' :=
    Numeral.toDigits_head (by decide) (by decide)
  cases shape : Nat.toDigits 10 count with
  | nil => exact absurd shape Nat.toDigits_ne_nil
  | cons c more =>
    rw [shape] at digit head
    have first := digit c List.mem_cons_self
    have unsigned : c ∉ ['-'] := by
      rintro (- | ⟨_, absurd⟩)
      · exact absurd first (by decide)
      · cases absurd
    have whole : integer c (more ++ rest) = some (c :: more, rest) := by
      rw [integer]
      split_ifs with zero
      · subst zero
        have none : count = 0 := by
          by_contra some
          exact head some rfl
        subst none
        obtain rfl : more = [] := (List.cons.inj shape).2.symm
        rfl
      · rw [digits, if_pos first]
        exact andThen_eq_some_iff.mpr
          ⟨more, rest, moreDigits_append (fun d member => digit d (List.mem_cons_of_mem _ member)) stops, rfl⟩
    refine ⟨c, more ++ rest, rfl, first, ?_⟩
    rw [number, signed, if_neg unsigned]
    refine andThen_eq_some_iff.mpr ⟨c :: more, rest, whole, ?_⟩
    refine andThen_eq_some_iff.mpr ⟨[], rest, optional_stops (by decide) stops, ?_⟩
    refine andThen_eq_some_iff.mpr ⟨[], rest, optional_stops (by decide) stops, ?_⟩
    simp [succeed]

theorem stops_cons {c : Char} {rest : List Char}
    (stops : c.isDigit = false ∧ c ≠ '.' ∧ c ≠ 'e' ∧ c ≠ 'E') : Stops (c :: rest) := by
  intro first same
  obtain rfl := Option.some.inj same
  exact stops

/-- Printed parts are read, if each of them is. -/
theorem sequence_print {part : Parser α} {last : Char} (plain : isSpace last = false)
    (other : last ≠ ',') (indent : ℕ) (rest : List Char) (first : α × List Char)
    (others : List (α × List Char))
    (reads : ∀ item ∈ first :: others, ∀ rest, Stops rest →
      part (newline (indent + 1) ++ (item.2 ++ rest)) = some (item.1, rest))
    (fuel : ℕ) (enough : others.length < fuel) :
    sequence part last fuel (newline (indent + 1) ++
        (first.2 ++ (further indent (others.map Prod.snd) ++ (newline indent ++ last :: rest)))) =
      some (first.1 :: others.map Prod.fst, rest) := by
  induction others generalizing first fuel with
  | nil =>
    obtain ⟨fuel, rfl⟩ := Nat.exists_eq_add_of_lt enough
    refine andThen_eq_some_iff.mpr ⟨first.1, newline indent ++ last :: rest, ?_, ?_⟩
    · exact reads first List.mem_cons_self _ (stops_cons (by decide))
    · rw [front, skipSpace_newline, skipSpace, List.dropWhile_cons_of_neg (by simp [plain]), next,
        if_pos rfl]
      rfl
  | cons second others ih =>
    obtain ⟨fuel, rfl⟩ := Nat.exists_eq_add_of_lt enough
    refine andThen_eq_some_iff.mpr ⟨first.1, _, reads first List.mem_cons_self _ ?_, ?_⟩
    · exact stops_cons (by decide)
    · have comma : isSpace ',' = false := by decide
      simp only [List.map_cons, further, List.flatMap_cons, List.cons_append, front, skipSpace]
      rw [List.dropWhile_cons_of_neg (by simp [comma]), next, if_neg other.symm, if_pos rfl]
      refine andThen_eq_some_iff.mpr ⟨second.1 :: others.map Prod.fst, rest, ?_, rfl⟩
      have went := ih second (fun item member => reads item (List.mem_cons_of_mem _ member))
        ((second :: others).length + fuel) (by simp only [List.length_cons]; omega)
      simpa only [further, List.append_assoc] using went

theorem parts_print (part : Parser α) (first last : Char) (plain : isSpace last = false)
    (other : last ≠ ',') (indent : ℕ) (rest : List Char) (items : List (α × List Char))
    (starts : ∀ item ∈ items, ∃ c behind, item.2 = c :: behind ∧ isSpace c = false ∧ c ≠ last)
    (reads : ∀ item ∈ items, ∀ rest, Stops rest →
      part (newline (indent + 1) ++ (item.2 ++ rest)) = some (item.1, rest)) :
    ∃ behind, enclosed first last indent (items.map Prod.snd) ++ rest = first :: behind ∧
      parts part last behind = some (items.map Prod.fst, rest) := by
  cases items with
  | nil =>
    refine ⟨last :: rest, rfl, ?_⟩
    rw [parts, skipSpace, List.dropWhile_cons_of_neg (by simp [plain])]
    exact if_pos rfl
  | cons item others =>
    refine ⟨newline (indent + 1) ++ (item.2 ++ (further indent (others.map Prod.snd) ++
      (newline indent ++ last :: rest))), by simp [enclosed], ?_⟩
    obtain ⟨c, behind, shape, filled, unlike⟩ := starts item List.mem_cons_self
    have opens : skipSpace (newline (indent + 1) ++ (item.2 ++ (further indent (others.map Prod.snd) ++
        (newline indent ++ last :: rest)))) =
          c :: (behind ++ (further indent (others.map Prod.snd) ++ (newline indent ++ last :: rest))) := by
      rw [skipSpace_newline, shape, List.cons_append, skipSpace,
        List.dropWhile_cons_of_neg (by simp [filled])]
    rw [parts, opens]
    refine (if_neg unlike).trans (sequence_print plain other indent rest item others reads _ ?_)
    have commas (texts : List (List Char)) : texts.length ≤ (further indent texts).length := by
      induction texts with
      | nil => exact Nat.le_refl 0
      | cons text texts ih =>
        simp only [further, List.flatMap_cons, List.length_append, List.length_cons] at ih ⊢
        omega
    have enough := commas (others.map Prod.snd)
    simp only [List.length_append, List.length_cons, List.length_map] at enough ⊢
    omega

theorem printItems_eq (indent : ℕ) (items : List Value) :
    printItems indent items = items.map (Value.print indent) := by
  induction items with
  | nil => rfl
  | cons item rest ih => rw [printItems, ih, List.map_cons]

theorem printMembers_eq (indent : ℕ) (members : List (String × Value)) :
    printMembers indent members =
      members.map fun member => printString member.1 ++ ':' :: ' ' :: member.2.print indent := by
  induction members with
  | nil => rfl
  | cons member rest ih => rw [printMembers, ih, List.map_cons]

/-- No value starts with a blank or ends an array. -/
theorem Value.Plain.starts {depth : ℕ} {read : Value} (plain : read.Plain depth) (indent : ℕ) :
    ∃ c behind, read.print indent = c :: behind ∧ isSpace c = false ∧ c ≠ ']' := by
  cases plain with
  | null => exact ⟨_, _, rfl, by decide, by decide⟩
  | bool value => cases value <;> exact ⟨_, _, rfl, by decide, by decide⟩
  | number count =>
    obtain ⟨c, behind, shape, digit, -⟩ := number_print count [] (fun _ absurd => nomatch absurd)
    rw [List.append_nil] at shape
    refine ⟨c, behind, by rw [Value.print, String.toList_ofList, shape], ?_, ?_⟩
    · by_contra space
      simp only [isSpace, Bool.not_eq_false, Bool.or_eq_true, beq_iff_eq] at space
      obtain ((rfl | rfl) | rfl) | rfl := space <;> cases digit
    · rintro rfl
      cases digit
  | string text => exact ⟨quote, _, rfl, by decide, by decide⟩
  | array items inside =>
    rw [Value.print]
    cases printItems (indent + 1) items with
    | nil => exact ⟨_, _, rfl, by decide, by decide⟩
    | cons part rest => exact ⟨_, _, rfl, by decide, by decide⟩
  | object members inside =>
    rw [Value.print]
    cases printMembers (indent + 1) members with
    | nil => exact ⟨_, _, rfl, by decide, by decide⟩
    | cons part rest => exact ⟨_, _, rfl, by decide, by decide⟩

theorem value_newline (depth indent : ℕ) (text : List Char) :
    value depth (newline indent ++ text) = value depth text := by
  cases depth with
  | zero => rw [value, front, front, skipSpace_newline]
  | succ depth => rw [value, front, front, skipSpace_newline]

theorem value_scalar {c : Char} (plain : isSpace c = false) (noArray : c ≠ '[') (noObject : c ≠ '{')
    (depth : ℕ) (rest : List Char) : value depth (c :: rest) = scalar c rest := by
  have starts : skipSpace (c :: rest) = c :: rest :=
    List.dropWhile_cons_of_neg (by simp [plain])
  cases depth with
  | zero => rw [value, front, starts, next]
  | succ depth => rw [value, front, starts, next, compound, if_neg noArray, if_neg noObject]

theorem value_array (depth : ℕ) (rest : List Char) :
    value (depth + 1) ('[' :: rest) = (parts (value depth) ']').map .array rest := rfl

theorem value_object (depth : ℕ) (rest : List Char) :
    value (depth + 1) ('{' :: rest) = (parts (member (value depth)) '}').map .object rest := rfl

/-- A printed member, where its value is read. -/
theorem member_print {depth indent : ℕ} {name : String} {read : Value} {rest : List Char}
    (inner : value depth (read.print indent ++ rest) = some (read, rest)) :
    member (value depth) (newline indent ++ ((printString name ++ ':' :: ' ' :: read.print indent) ++ rest)) =
      some ((name, read), rest) := by
  obtain ⟨behind, shape, whole⟩ := string_print name (':' :: ' ' :: (read.print indent ++ rest))
  have blank : value depth (' ' :: (read.print indent ++ rest)) = some (read, rest) := by
    cases depth with
    | zero => exact inner
    | succ depth => exact inner
  have opens : (printString name ++ ':' :: ' ' :: read.print indent) ++ rest = quote :: behind := by
    rw [← shape]
    simp
  have quoted : skipSpace (quote :: behind) = quote :: behind :=
    List.dropWhile_cons_of_neg (by decide)
  rw [opens, member, front, skipSpace_newline, quoted, next, if_pos rfl]
  refine andThen_eq_some_iff.mpr ⟨name, _, whole, ?_⟩
  rw [front, skipSpace, List.dropWhile_cons_of_neg (by decide), next, if_pos rfl]
  exact andThen_eq_some_iff.mpr ⟨read, rest, blank, rfl⟩

/-- What is printed of a value is read as that value. -/
theorem value_print {depth : ℕ} {read : Value} (plain : read.Plain depth) (indent : ℕ)
    (rest : List Char) (stops : Stops rest) :
    value depth (read.print indent ++ rest) = some (read, rest) := by
  induction plain generalizing indent rest with
  | null => exact value_scalar (by decide) (by decide) (by decide) _ _
  | bool value => cases value <;> exact value_scalar (by decide) (by decide) (by decide) _ _
  | number count =>
    obtain ⟨c, behind, shape, digit, whole⟩ := number_print count rest stops
    have unlike (other : Char) (letter : other.isDigit = false) : c ≠ other := by
      rintro rfl
      rw [digit] at letter
      cases letter
    have plain : isSpace c = false := by
      simp [isSpace, unlike ' ' (by decide), unlike '\n' (by decide), unlike '\t' (by decide),
        unlike '\r' (by decide)]
    rw [Value.print, String.toList_ofList, shape,
      value_scalar plain (unlike _ (by decide)) (unlike _ (by decide)), scalar,
      if_neg (unlike _ (by decide)), if_neg (unlike _ (by decide)), if_neg (unlike _ (by decide)),
      if_neg (unlike _ (by decide))]
    exact andThen_eq_some_iff.mpr ⟨_, _, whole, rfl⟩
  | string text =>
    obtain ⟨behind, shape, whole⟩ := string_print text rest
    rw [Value.print, shape, value_scalar (by decide) (by decide) (by decide), scalar, if_pos rfl]
    exact andThen_eq_some_iff.mpr ⟨_, _, whole, rfl⟩
  | @array depth items inside ih =>
    have printed := parts_print (value depth) '[' ']' (by decide)
      (by decide) indent rest (items.map fun item => (item, item.print (indent + 1)))
      (by
        intro item member
        obtain ⟨inner, within, rfl⟩ := List.mem_map.mp member
        exact (inside inner within).starts (indent + 1))
      (by
        intro item member rest stops
        obtain ⟨inner, within, rfl⟩ := List.mem_map.mp member
        rw [value_newline]
        exact ih inner within (indent + 1) rest stops)
    obtain ⟨behind, shape, whole⟩ := printed
    rw [List.map_map] at shape whole
    rw [Value.print, printItems_eq]
    refine (congrArg _ shape).trans ?_
    rw [value_array]
    refine andThen_eq_some_iff.mpr ⟨items, rest, ?_, rfl⟩
    exact whole.trans (by simp [Function.comp_def])
  | @object depth members inside ih =>
    have printed := parts_print (member (value depth)) '{' '}' (by decide)
      (by decide) indent rest
      (members.map fun item => (item, printString item.1 ++ ':' :: ' ' :: item.2.print (indent + 1)))
      (by
        intro item printed
        obtain ⟨inner, -, rfl⟩ := List.mem_map.mp printed
        exact ⟨quote, _, rfl, by decide, by decide⟩)
      (by
        intro item printed rest stops
        obtain ⟨inner, within, rfl⟩ := List.mem_map.mp printed
        exact member_print (ih inner within (indent + 1) rest stops))
    obtain ⟨behind, shape, whole⟩ := printed
    rw [List.map_map] at shape whole
    rw [Value.print, printMembers_eq]
    refine (congrArg _ shape).trans ?_
    rw [value_object]
    refine andThen_eq_some_iff.mpr ⟨members, rest, ?_, rfl⟩
    exact whole.trans (by simp [Function.comp_def])

/-- A printed value is a document. -/
theorem document_print {depth : ℕ} {read : Value} (plain : read.Plain depth) :
    document depth (read.print 0) = some read := by
  have whole := value_print plain 0 [] (fun _ absurd => nomatch absurd)
  rw [List.append_nil] at whole
  rw [document, whole]
  rfl

/-- No part of a printed object is a document, unless it is the whole. -/
theorem document_torn {depth : ℕ} {members : List (String × Value)}
    (plain : (Value.object members).Plain depth) {text rest : List Char}
    (torn : text ++ rest = (Value.object members).print 0) (short : rest ≠ []) :
    document depth text = none := by
  obtain ⟨depth, rfl⟩ : ∃ more, depth = more + 1 := by
    cases plain
    exact ⟨_, rfl⟩
  have whole := value_print plain 0 [] (fun _ absurd => nomatch absurd)
  rw [List.append_nil, ← torn] at whole
  rw [document, Option.bind_eq_none_iff]
  rintro ⟨read, behind⟩ parsed
  refine if_neg fun finished => ?_
  cases text with
  | nil => cases parsed
  | cons c text =>
    obtain rfl : c = '{' := by
      rw [Value.print] at torn
      cases parts : printMembers (0 + 1) members with
      | nil =>
        rw [parts] at torn
        exact (List.cons.inj torn).1
      | cons part others =>
        rw [parts] at torn
        exact (List.cons.inj torn).1
    have longer := object_goes_on parsed rest
    rw [← List.cons_append, whole] at longer
    have nothing : behind ++ rest = [] := (Prod.mk.inj (Option.some.inj longer)).2.symm
    exact short (List.append_eq_nil_iff.mp nothing).2

end Printed

end Json
