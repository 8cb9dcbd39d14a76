import Mathlib.Data.List.Basic
import Mathlib.Data.UInt

/-! Base64 as RFC 4648 has it: three bytes become four digits of an alphabet, a last group
of one or two bytes becomes two or three digits, filled up with `=` where the variant pads.
The decoder is strict, so a text has at most one reading in a variant; and in alphabets that
give no character two meanings it has at most one reading at all. -/
namespace Base64

/-- The characters of the 64 digits, none of them the padding. -/
structure Alphabet where
  char : Fin 64 → Char
  injective : ∀ i j, char i = char j → i = j
  unpadded : ∀ i, char i ≠ '='

variable {alphabet left right : Alphabet} {padded : Bool} {bytes xs ys : List UInt8}
  {text : List Char}

/-- The digit of the low six bits of a number. -/
def Alphabet.digit (alphabet : Alphabet) (number : ℕ) : Char := alphabet.char (Fin.ofNat 64 number)

def padding (padded : Bool) (count : ℕ) : List Char := if padded then List.replicate count '=' else []

def encode (alphabet : Alphabet) (padded : Bool) : List UInt8 → List Char
  | a :: b :: c :: rest =>
    alphabet.digit (a.toNat / 4) :: alphabet.digit (a.toNat * 16 + b.toNat / 16) ::
      alphabet.digit (b.toNat * 4 + c.toNat / 64) :: alphabet.digit c.toNat ::
        encode alphabet padded rest
  | [a, b] =>
    alphabet.digit (a.toNat / 4) :: alphabet.digit (a.toNat * 16 + b.toNat / 16) ::
      alphabet.digit (b.toNat * 4) :: padding padded 1
  | [a] => alphabet.digit (a.toNat / 4) :: alphabet.digit (a.toNat * 16) :: padding padded 2
  | [] => []

theorem mem_padding {c : Char} {count : ℕ} (member : c ∈ padding padded count) : c = '=' := by
  unfold padding at member
  split at member
  · exact (List.mem_replicate.mp member).2
  · cases member

/-- An encoding has digits and padding and nothing else. -/
theorem mem_encode {c : Char} (member : c ∈ encode alphabet padded bytes) :
    c = '=' ∨ ∃ i, c = alphabet.char i := by
  induction bytes using encode.induct with
  | case1 a b d rest ih =>
    simp only [encode, List.mem_cons] at member
    rcases member with rfl | rfl | rfl | rfl | member
    · exact .inr ⟨_, rfl⟩
    · exact .inr ⟨_, rfl⟩
    · exact .inr ⟨_, rfl⟩
    · exact .inr ⟨_, rfl⟩
    · exact ih member
  | case2 a b =>
    simp only [encode, List.mem_cons] at member
    rcases member with rfl | rfl | rfl | member
    · exact .inr ⟨_, rfl⟩
    · exact .inr ⟨_, rfl⟩
    · exact .inr ⟨_, rfl⟩
    · exact .inl (mem_padding member)
  | case3 a =>
    simp only [encode, List.mem_cons] at member
    rcases member with rfl | rfl | member
    · exact .inr ⟨_, rfl⟩
    · exact .inr ⟨_, rfl⟩
    · exact .inl (mem_padding member)
  | case4 => cases member

theorem encode_eq_nil_iff : encode alphabet padded bytes = [] ↔ bytes = [] := by
  cases bytes using encode.induct with
  | case4 => simp [encode]
  | case1 a b d rest => simp [encode]
  | case2 a b => simp [encode]
  | case3 a => simp [encode]

/-! ## One reading in all alphabets -/

/-- No character stands for two digits. -/
def Compatible (left right : Alphabet) : Prop := ∀ i j, left.char i = right.char j → i = j

theorem Compatible.symm (compatible : Compatible left right) : Compatible right left :=
  fun i j same => (compatible j i same.symm).symm

theorem Compatible.digit_eq (compatible : Compatible left right) {m n : ℕ}
    (same : left.digit m = right.digit n) : m % 64 = n % 64 := by
  have digits := congrArg Fin.val (compatible _ _ same)
  simpa [Fin.ofNat] using digits

theorem digit_ne_padding (alphabet : Alphabet) (number : ℕ) : alphabet.digit number ≠ '=' :=
  alphabet.unpadded _

theorem padding_succ (padded : Bool) (count : ℕ) :
    padding padded (count + 1) = [] ∨ ∃ rest, padding padded (count + 1) = '=' :: rest := by
  cases padded with
  | false => exact .inl rfl
  | true => exact .inr ⟨_, rfl⟩

/-- What follows the digits of a last group is no digit. -/
theorem digit_cons_ne_padding (number : ℕ) (rest : List Char) (padded : Bool) (count : ℕ) :
    alphabet.digit number :: rest ≠ padding padded (count + 1) := by
  intro same
  rcases padding_succ padded count with none | ⟨tail, filled⟩
  · rw [none] at same
    cases same
  · rw [filled] at same
    exact digit_ne_padding alphabet number (List.cons.inj same).1

private theorem first_byte {a b : UInt8} (low low' : ℕ) (high : a.toNat / 4 % 64 = b.toNat / 4 % 64)
    (next : (a.toNat * 16 + low) % 64 = (b.toNat * 16 + low') % 64) (small : low < 16)
    (small' : low' < 16) : a = b ∧ low = low' := by
  have bound := a.toNat_lt
  have bound' := b.toNat_lt
  have same : a.toNat = b.toNat := by omega
  exact ⟨UInt8.toNat_inj.mp same, by omega⟩

private theorem second_byte {a b : UInt8} (low low' : ℕ) (high : a.toNat / 16 = b.toNat / 16)
    (next : (a.toNat * 4 + low) % 64 = (b.toNat * 4 + low') % 64) (small : low < 4)
    (small' : low' < 4) : a = b ∧ low = low' := by
  have bound := a.toNat_lt
  have bound' := b.toNat_lt
  have same : a.toNat = b.toNat := by omega
  exact ⟨UInt8.toNat_inj.mp same, by omega⟩

private theorem third_byte {a b : UInt8} (high : a.toNat / 64 = b.toNat / 64)
    (next : a.toNat % 64 = b.toNat % 64) : a = b :=
  UInt8.toNat_inj.mp (by omega)

/-- Encodings in compatible alphabets, padded or not, are equal for equal bytes only. -/
theorem encode_inj (compatible : Compatible left right) {leftPadded rightPadded : Bool}
    (same : encode left leftPadded xs = encode right rightPadded ys) : xs = ys := by
  induction xs using encode.induct generalizing ys with
  | case1 a b c rest ih =>
    have bound := b.toNat_lt
    have bound' := c.toNat_lt
    rcases ys with _ | ⟨a', _ | ⟨b', _ | ⟨c', rest'⟩⟩⟩
    · cases same
    · simp only [encode, List.cons.injEq] at same
      exact absurd same.2.2 (digit_cons_ne_padding _ _ _ _)
    · simp only [encode, List.cons.injEq] at same
      exact absurd same.2.2.2 (digit_cons_ne_padding _ _ _ _)
    · have boundOther := b'.toNat_lt
      have boundOther' := c'.toNat_lt
      simp only [encode, List.cons.injEq] at same
      obtain ⟨one, two, three, four, others⟩ := same
      obtain ⟨rfl, highs⟩ := first_byte _ _ (compatible.digit_eq one) (compatible.digit_eq two)
        (by omega) (by omega)
      obtain ⟨rfl, highs'⟩ := second_byte _ _ highs (compatible.digit_eq three) (by omega) (by omega)
      rw [third_byte highs' (compatible.digit_eq four), ih others]
  | case2 a b =>
    have bound := b.toNat_lt
    rcases ys with _ | ⟨a', _ | ⟨b', _ | ⟨c', rest'⟩⟩⟩
    · cases same
    · simp only [encode, List.cons.injEq] at same
      exact absurd same.2.2 (digit_cons_ne_padding _ _ _ _)
    · have boundOther := b'.toNat_lt
      simp only [encode, List.cons.injEq] at same
      obtain ⟨one, two, three, -⟩ := same
      obtain ⟨rfl, highs⟩ := first_byte _ _ (compatible.digit_eq one) (compatible.digit_eq two)
        (by omega) (by omega)
      obtain ⟨rfl, -⟩ := second_byte 0 0 highs (compatible.digit_eq three)
        (by omega) (by omega)
      rfl
    · simp only [encode, List.cons.injEq] at same
      exact absurd same.2.2.2.symm (digit_cons_ne_padding _ _ _ _)
  | case3 a =>
    rcases ys with _ | ⟨a', _ | ⟨b', _ | ⟨c', rest'⟩⟩⟩
    · cases same
    · simp only [encode, List.cons.injEq] at same
      obtain ⟨one, two, -⟩ := same
      obtain ⟨rfl, -⟩ := first_byte 0 0 (compatible.digit_eq one)
        (compatible.digit_eq two) (by omega) (by omega)
      rfl
    · simp only [encode, List.cons.injEq] at same
      exact absurd same.2.2.symm (digit_cons_ne_padding _ _ _ _)
    · simp only [encode, List.cons.injEq] at same
      exact absurd same.2.2.symm (digit_cons_ne_padding _ _ _ _)
  | case4 =>
    rcases ys with _ | ⟨a', _ | ⟨b', _ | ⟨c', rest'⟩⟩⟩
    · rfl
    · cases same
    · cases same
    · cases same

/-! ## Decoding -/

/-- The digit of a character. -/
def Alphabet.value (alphabet : Alphabet) (c : Char) : Option (Fin 64) :=
  (List.finRange 64).find? fun i => alphabet.char i == c

/-- A last group of two digits, whose low bits are zero. -/
def decodeOne (alphabet : Alphabet) (first second : Char) : Option (List UInt8) := do
  let i ← alphabet.value first
  let j ← alphabet.value second
  if j.val % 16 = 0 then some [UInt8.ofNat (i.val * 4 + j.val / 16)] else none

/-- A last group of three digits, whose low bits are zero. -/
def decodeTwo (alphabet : Alphabet) (first second third : Char) : Option (List UInt8) := do
  let i ← alphabet.value first
  let j ← alphabet.value second
  let k ← alphabet.value third
  if k.val % 4 = 0 then
    some [UInt8.ofNat (i.val * 4 + j.val / 16), UInt8.ofNat (j.val * 16 + k.val / 4)]
  else none

/-- A group of four digits. -/
def decodeThree (alphabet : Alphabet) (first second third fourth : Char) :
    Option (UInt8 × UInt8 × UInt8) := do
  let i ← alphabet.value first
  let j ← alphabet.value second
  let k ← alphabet.value third
  let l ← alphabet.value fourth
  some (UInt8.ofNat (i.val * 4 + j.val / 16), UInt8.ofNat (j.val * 16 + k.val / 4),
    UInt8.ofNat (k.val * 64 + l.val))

def decode (alphabet : Alphabet) (padded : Bool) : List Char → Option (List UInt8)
  | [] => some []
  | [_] => none
  | [first, second] => if padded then none else decodeOne alphabet first second
  | [first, second, third] => if padded then none else decodeTwo alphabet first second third
  | first :: second :: third :: fourth :: rest =>
    if padded ∧ rest = [] ∧ fourth = '=' then
      if third = '=' then decodeOne alphabet first second
      else decodeTwo alphabet first second third
    else do
      let (a, b, c) ← decodeThree alphabet first second third fourth
      let others ← decode alphabet padded rest
      some (a :: b :: c :: others)

theorem value_eq_some_iff {c : Char} {i : Fin 64} :
    alphabet.value c = some i ↔ alphabet.char i = c := by
  constructor
  · intro found
    simpa using List.find?_some found
  · rintro rfl
    cases found : alphabet.value (alphabet.char i) with
    | none =>
      have absent := List.find?_eq_none.mp found i (List.mem_finRange i)
      simp at absent
    | some j =>
      have same : alphabet.char j = alphabet.char i := by simpa using List.find?_some found
      rw [alphabet.injective j i same]

theorem value_digit (alphabet : Alphabet) (number : ℕ) :
    alphabet.value (alphabet.digit number) = some (Fin.ofNat 64 number) :=
  value_eq_some_iff.mpr rfl

theorem digit_of_value {c : Char} {i : Fin 64} (found : alphabet.value c = some i) {number : ℕ}
    (same : number % 64 = i.val) : alphabet.digit number = c := by
  rw [Alphabet.digit, ← value_eq_some_iff.mp found]
  congr 1
  exact Fin.ext same

private theorem ofNat_eq {number : ℕ} (byte : UInt8) (same : number % 256 = byte.toNat) :
    UInt8.ofNat number = byte := by
  apply UInt8.toNat_inj.mp
  rw [UInt8.toNat_ofNat', ← same]

theorem decodeOne_eq_some_iff {first second : Char} :
    decodeOne alphabet first second = some bytes ↔
      ∃ a : UInt8, bytes = [a] ∧ alphabet.digit (a.toNat / 4) = first ∧
        alphabet.digit (a.toNat * 16) = second := by
  constructor
  · intro decoded
    simp only [decodeOne, Option.bind_eq_bind, Option.bind_eq_some_iff, Option.ite_none_right_eq_some,
      Option.some.injEq] at decoded
    obtain ⟨i, foundI, j, foundJ, zero, rfl⟩ := decoded
    have smallI := i.isLt
    have smallJ := j.isLt
    refine ⟨_, rfl, digit_of_value foundI ?_, digit_of_value foundJ ?_⟩ <;>
      rw [UInt8.toNat_ofNat'] <;> omega
  · rintro ⟨a, rfl, rfl, rfl⟩
    have bound := a.toNat_lt
    simp only [decodeOne, value_digit, Option.bind_eq_bind, Option.bind_some, Fin.ofNat]
    rw [if_pos (by omega), ofNat_eq a (by omega)]

theorem decodeTwo_eq_some_iff {first second third : Char} :
    decodeTwo alphabet first second third = some bytes ↔
      ∃ a b : UInt8, bytes = [a, b] ∧ alphabet.digit (a.toNat / 4) = first ∧
        alphabet.digit (a.toNat * 16 + b.toNat / 16) = second ∧
        alphabet.digit (b.toNat * 4) = third := by
  constructor
  · intro decoded
    simp only [decodeTwo, Option.bind_eq_bind, Option.bind_eq_some_iff, Option.ite_none_right_eq_some,
      Option.some.injEq] at decoded
    obtain ⟨i, foundI, j, foundJ, k, foundK, zero, rfl⟩ := decoded
    have smallI := i.isLt
    have smallJ := j.isLt
    have smallK := k.isLt
    refine ⟨_, _, rfl, digit_of_value foundI ?_, digit_of_value foundJ ?_,
      digit_of_value foundK ?_⟩ <;> simp only [UInt8.toNat_ofNat'] <;> omega
  · rintro ⟨a, b, rfl, rfl, rfl, rfl⟩
    have bound := a.toNat_lt
    have bound' := b.toNat_lt
    simp only [decodeTwo, value_digit, Option.bind_eq_bind, Option.bind_some, Fin.ofNat]
    rw [if_pos (by omega), ofNat_eq a (by omega), ofNat_eq b (by omega)]

theorem decodeThree_eq_some_iff {first second third fourth : Char} {a b c : UInt8} :
    decodeThree alphabet first second third fourth = some (a, b, c) ↔
      alphabet.digit (a.toNat / 4) = first ∧
        alphabet.digit (a.toNat * 16 + b.toNat / 16) = second ∧
        alphabet.digit (b.toNat * 4 + c.toNat / 64) = third ∧ alphabet.digit c.toNat = fourth := by
  constructor
  · intro decoded
    simp only [decodeThree, Option.bind_eq_bind, Option.bind_eq_some_iff, Option.some.injEq,
      Prod.mk.injEq] at decoded
    obtain ⟨i, foundI, j, foundJ, k, foundK, l, foundL, rfl, rfl, rfl⟩ := decoded
    have smallI := i.isLt
    have smallJ := j.isLt
    have smallK := k.isLt
    have smallL := l.isLt
    refine ⟨digit_of_value foundI ?_, digit_of_value foundJ ?_, digit_of_value foundK ?_,
      digit_of_value foundL ?_⟩ <;> simp only [UInt8.toNat_ofNat'] <;> omega
  · rintro ⟨rfl, rfl, rfl, rfl⟩
    have bound := a.toNat_lt
    have bound' := b.toNat_lt
    have bound'' := c.toNat_lt
    simp only [decodeThree, value_digit, Option.bind_eq_bind, Option.bind_some, Fin.ofNat]
    rw [ofNat_eq a (by omega), ofNat_eq b (by omega), ofNat_eq c (by omega)]

/-- What an encoding is decoded to. -/
theorem decode_encode (alphabet : Alphabet) (padded : Bool) (bytes : List UInt8) :
    decode alphabet padded (encode alphabet padded bytes) = some bytes := by
  induction bytes using encode.induct with
  | case1 a b c rest ih =>
    have digit := digit_ne_padding alphabet c.toNat
    rw [encode, decode, if_neg (fun padding => digit padding.2.2),
      decodeThree_eq_some_iff.mpr ⟨rfl, rfl, rfl, rfl⟩]
    simp [ih]
  | case2 a b =>
    have group : decodeTwo alphabet (alphabet.digit (a.toNat / 4))
        (alphabet.digit (a.toNat * 16 + b.toNat / 16)) (alphabet.digit (b.toNat * 4)) = some [a, b] :=
      decodeTwo_eq_some_iff.mpr ⟨a, b, rfl, rfl, rfl, rfl⟩
    cases padded with
    | false => simpa [encode, padding, decode] using group
    | true =>
      have digit := digit_ne_padding alphabet (b.toNat * 4)
      simpa [encode, padding, decode, digit] using group
  | case3 a =>
    have group : decodeOne alphabet (alphabet.digit (a.toNat / 4)) (alphabet.digit (a.toNat * 16)) =
        some [a] := decodeOne_eq_some_iff.mpr ⟨a, rfl, rfl, rfl⟩
    cases padded with
    | false => simpa [encode, padding, decode] using group
    | true => simpa [encode, padding, decode] using group
  | case4 => rfl

/-- The decoder is strict: it takes the encoding of what it returns and nothing else. -/
theorem encode_of_decode (decoded : decode alphabet padded text = some bytes) :
    encode alphabet padded bytes = text := by
  induction text using decode.induct padded generalizing bytes with
  | case1 =>
    cases decoded
    rfl
  | case2 head => cases decoded
  | case3 first second pads =>
    rw [decode, if_pos pads] at decoded
    cases decoded
  | case4 first second bare =>
    rw [decode, if_neg bare] at decoded
    obtain ⟨a, rfl, rfl, rfl⟩ := decodeOne_eq_some_iff.mp decoded
    rw [encode, padding, if_neg bare]
  | case5 first second third pads =>
    rw [decode, if_pos pads] at decoded
    cases decoded
  | case6 first second third bare =>
    rw [decode, if_neg bare] at decoded
    obtain ⟨a, b, rfl, rfl, rfl, rfl⟩ := decodeTwo_eq_some_iff.mp decoded
    rw [encode, padding, if_neg bare]
  | case7 first second fourth rest ends =>
    rw [decode, if_pos ends, if_pos rfl] at decoded
    obtain ⟨pads, rfl, rfl⟩ := ends
    obtain ⟨a, rfl, rfl, rfl⟩ := decodeOne_eq_some_iff.mp decoded
    rw [encode, padding, if_pos pads]
    rfl
  | case8 first second third fourth rest ends filled =>
    rw [decode, if_pos ends, if_neg filled] at decoded
    obtain ⟨pads, rfl, rfl⟩ := ends
    obtain ⟨a, b, rfl, rfl, rfl, rfl⟩ := decodeTwo_eq_some_iff.mp decoded
    rw [encode, padding, if_pos pads]
    rfl
  | case9 first second third fourth rest goes ih =>
    rw [decode, if_neg goes] at decoded
    simp only [Option.bind_eq_bind, Option.bind_eq_some_iff, Option.some.injEq] at decoded
    obtain ⟨⟨a, b, c⟩, group, others, decodedRest, rfl⟩ := decoded
    obtain ⟨rfl, rfl, rfl, rfl⟩ := decodeThree_eq_some_iff.mp group
    rw [encode, ih decodedRest]

theorem decode_eq_some_iff :
    decode alphabet padded text = some bytes ↔ text = encode alphabet padded bytes := by
  constructor
  · exact fun decoded => (encode_of_decode decoded).symm
  · rintro rfl
    exact decode_encode alphabet padded bytes

/-! ## The alphabets -/

/-- The characters of an alphabet, which differ in the last two digits. -/
def characters (char62 char63 : Char) (i : Fin 64) : Char :=
  ['A', 'B', 'C', 'D', 'E', 'F', 'G', 'H', 'I', 'J', 'K', 'L', 'M', 'N', 'O', 'P', 'Q', 'R', 'S', 'T',
    'U', 'V', 'W', 'X', 'Y', 'Z', 'a', 'b', 'c', 'd', 'e', 'f', 'g', 'h', 'i', 'j', 'k', 'l', 'm', 'n',
    'o', 'p', 'q', 'r', 's', 't', 'u', 'v', 'w', 'x', 'y', 'z', '0', '1', '2', '3', '4', '5', '6', '7',
    '8', '9', char62, char63].getD i.val '='

/-- The digit a character is in either alphabet. -/
def number (c : Char) : ℕ :=
  if c.isUpper then c.toNat - 'A'.toNat
  else if c.isLower then c.toNat - 'a'.toNat + 26
  else if c.isDigit then c.toNat - '0'.toNat + 52
  else if c = '+' ∨ c = '-' then 62
  else 63

theorem number_standard : ∀ i, number (characters '+' '/' i) = i.val := by decide

theorem number_urlSafe : ∀ i, number (characters '-' '_' i) = i.val := by decide

/-- Characters that a common reading tells apart. -/
private theorem eq_of_number {first second : Fin 64 → Char}
    (one : ∀ i, number (first i) = i.val) (two : ∀ i, number (second i) = i.val) (i j : Fin 64)
    (same : first i = second j) : i = j := by
  apply Fin.ext
  rw [← one i, ← two j, same]

def standard : Alphabet where
  char := characters '+' '/'
  injective := eq_of_number number_standard number_standard
  unpadded := by decide

def urlSafe : Alphabet where
  char := characters '-' '_'
  injective := eq_of_number number_urlSafe number_urlSafe
  unpadded := by decide

theorem Compatible.refl (alphabet : Alphabet) : Compatible alphabet alphabet := alphabet.injective

theorem standard_urlSafe : Compatible standard urlSafe := eq_of_number number_standard number_urlSafe

end Base64
