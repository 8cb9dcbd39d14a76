import Mathlib.Data.Nat.Digits.Defs
import Mathlib.Algebra.Order.Group.Nat

/-! Numbers in positional notation, as words of a fixed width and as text without leading
zeros, and what reading either back gives. -/
namespace Numeral

/-! ## Words -/

/-- The `count` lowest words of a number, the highest of them first. -/
def words (base : ℕ) : ℕ → ℕ → List ℕ
  | 0, _ => []
  | count + 1, number => words base count (number / base) ++ [number % base]

/-- The number that digits stand for. -/
def value (base : ℕ) (digits : List ℕ) : ℕ :=
  digits.foldl (fun number digit => number * base + digit) 0

variable {base count number : ℕ}

@[simp] theorem value_nil : value base [] = 0 := rfl

@[simp] theorem value_concat (digits : List ℕ) (digit : ℕ) :
    value base (digits ++ [digit]) = value base digits * base + digit := by
  simp only [value, List.foldl_append, List.foldl_cons, List.foldl_nil]

@[simp] theorem words_length : (words base count number).length = count := by
  induction count generalizing number with
  | zero => rfl
  | succ count ih => rw [words, List.length_append, ih, List.length_singleton]

theorem lt_of_mem_words (positive : 0 < base) {word : ℕ} (member : word ∈ words base count number) :
    word < base := by
  induction count generalizing number with
  | zero => exact absurd member List.not_mem_nil
  | succ count ih =>
    rcases List.mem_append.mp member with high | low
    · exact ih high
    · rw [List.mem_singleton.mp low]
      exact Nat.mod_lt _ positive

theorem value_words (base count number : ℕ) :
    value base (words base count number) = number % base ^ count := by
  induction count generalizing number with
  | zero => rw [Nat.pow_zero, Nat.mod_one, words, value_nil]
  | succ count ih => rw [words, value_concat, ih, Nat.pow_succ', Nat.mod_mul, Nat.mul_comm, Nat.add_comm]

/-- All words of a number give it back. -/
theorem value_words_of_lt (bounded : number < base ^ count) :
    value base (words base count number) = number := by
  rw [value_words, Nat.mod_eq_of_lt bounded]

/-! ## Text -/

variable (toDigit : Char → Option ℕ)

/-- The digits at the front of a text, and the text behind them. -/
def read : List Char → List ℕ × List Char
  | [] => ([], [])
  | c :: rest =>
    match toDigit c with
    | some digit => (digit :: (read rest).1, (read rest).2)
    | none => ([], c :: rest)

variable {toDigit}

/-- Digits in front of a text are read before it. -/
theorem read_append {text : List Char} {digits : List ℕ}
    (digitwise : text.map toDigit = digits.map some) (rest : List Char) :
    read toDigit (text ++ rest) = (digits ++ (read toDigit rest).1, (read toDigit rest).2) := by
  induction text generalizing digits with
  | nil =>
    obtain rfl := List.map_eq_nil_iff.mp digitwise.symm
    rfl
  | cons c text ih =>
    cases digits with
    | nil => cases digitwise
    | cons digit digits =>
      rw [List.map_cons, List.map_cons, List.cons.injEq] at digitwise
      rw [List.cons_append, read, digitwise.1]
      simp only [ih digitwise.2, List.cons_append]

/-- Where no digit follows, the number ends. -/
theorem read_stops {rest : List Char} (stops : ∀ c ∈ rest.head?, toDigit c = none) :
    read toDigit rest = ([], rest) := by
  cases rest with
  | nil => rfl
  | cons c rest =>
    rw [read, stops c rfl]

/-- The digits of a printed number. -/
theorem toDigits_digits (more : 1 < base) (reads : ∀ digit < base, toDigit digit.digitChar = some digit)
    (number : ℕ) :
    ∃ digits, (Nat.toDigits base number).map toDigit = digits.map some ∧
      value base digits = number ∧ digits.length = (Nat.toDigits base number).length := by
  induction number using Nat.strong_induction_on with
  | _ number ih =>
    by_cases small : number < base
    · refine ⟨[number], ?_, by simp [value], ?_⟩
      · rw [Nat.toDigits_of_lt_base small]
        simp [reads number small]
      · rw [Nat.toDigits_of_lt_base small]
        rfl
    · have large : base ≤ number := Nat.le_of_not_lt small
      obtain ⟨digits, digitwise, denotes, length⟩ :=
        ih (number / base) (Nat.div_lt_self (by omega) more)
      refine ⟨digits ++ [number % base], ?_, ?_, ?_⟩
      · rw [Nat.toDigits_of_base_le more large, List.map_append, List.map_append, digitwise]
        simp [reads _ (Nat.mod_lt number (by omega))]
      · rw [value_concat, denotes, Nat.mul_comm, Nat.div_add_mod]
      · rw [Nat.toDigits_of_base_le more large]
        simp [length]

/-- Only zero is printed with a zero in front. -/
theorem toDigits_head (more : 1 < base) (known : base ≤ 16) (some' : number ≠ 0) :
    (Nat.toDigits base number).head? ≠ some '0' := by
  have digitChar : ∀ digit < 16, digit ≠ 0 → digit.digitChar ≠ '0' := by decide
  induction number using Nat.strong_induction_on with
  | _ number ih =>
    by_cases small : number < base
    · rw [Nat.toDigits_of_lt_base small, List.head?_cons, ne_eq, Option.some.injEq]
      exact digitChar number (by omega) some'
    · have large : base ≤ number := Nat.le_of_not_lt small
      have positive : number / base ≠ 0 := (Nat.div_pos large (by omega)).ne'
      rw [Nat.toDigits_of_base_le more large, List.head?_append]
      obtain ⟨first, rest, shape⟩ := List.exists_cons_of_ne_nil
        (Nat.toDigits_ne_nil (n := number / base) (b := base))
      rw [shape, List.head?_cons, Option.some_or, ← List.head?_cons (a := first) (l := rest), ← shape]
      exact ih (number / base) (Nat.div_lt_self (by omega) more) positive

end Numeral
