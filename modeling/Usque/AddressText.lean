import Usque.Net
import Usque.Lib.Numeral

/-! Addresses as text. `std::net` prints an IPv6 address with its longest run of zero groups
left out and an IPv4-mapped one with its IPv4 address at the end; the parser reads every
printed address back. The configuration and the API keep all addresses in this form. -/
namespace Usque.Net

open Numeral

/-! ## `Display` -/

def Ipv4Addr.octets (address : Ipv4Addr) : List ℕ := words 256 4 address.bits.toNat

def Ipv6Addr.segments (address : Ipv6Addr) : List ℕ := words 65536 8 address.bits.toNat

/-- Parts behind each other with the separator in between; with an index, the separator also
comes before the first part unless it is the very first. -/
def joined (separator : Char) (print : ℕ → List Char) : ℕ → List ℕ → List Char
  | _, [] => []
  | index, part :: rest =>
    (if 0 < index then [separator] else []) ++ print part ++ joined separator print (index + 1) rest

def displayIpv4 (address : Ipv4Addr) : List Char :=
  joined '.' (Nat.toDigits 10) 0 (Ipv4Addr.octets address)

/-- `fmt_subslice`: lower-case hexadecimal groups. -/
def fmtSubslice (chunk : List ℕ) : List Char := joined ':' (Nat.toDigits 16) 0 chunk

/-- A run of groups. -/
structure Span where
  start : ℕ
  len : ℕ
  deriving DecidableEq

/-- The loop that finds the first of the longest runs of zero groups. -/
def zeroes : ℕ → Span → Span → List ℕ → Span
  | _, _, longest, [] => longest
  | index, current, longest, segment :: rest =>
    if segment = 0 then
      let current : Span := ⟨if current.len = 0 then index else current.start, current.len + 1⟩
      zeroes (index + 1) current (if longest.len < current.len then current else longest) rest
    else zeroes (index + 1) ⟨0, 0⟩ longest rest

/-- `to_ipv4_mapped`. -/
def toIpv4Mapped (address : Ipv6Addr) : Option Ipv4Addr :=
  match Ipv6Addr.segments address with
  | [0, 0, 0, 0, 0, 0xffff, high, low] => some ⟨BitVec.ofNat 32 (high * 65536 + low)⟩
  | _ => none

def displayIpv6 (address : Ipv6Addr) : List Char :=
  match toIpv4Mapped address with
  | some mapped => "::ffff:".toList ++ displayIpv4 mapped
  | none =>
    let segments := Ipv6Addr.segments address
    let longest := zeroes 0 ⟨0, 0⟩ ⟨0, 0⟩ segments
    if 1 < longest.len then
      fmtSubslice (segments.take longest.start) ++ "::".toList ++
        fmtSubslice (segments.drop (longest.start + longest.len))
    else fmtSubslice segments

def displayIpAddr : IpAddr → List Char
  | .v4 address => displayIpv4 address
  | .v6 address => displayIpv6 address

/-- `SocketAddr`: an IPv6 address is bracketed. -/
def displaySocketAddr (address : SocketAddr) : List Char :=
  match address.ip with
  | .v4 ip => displayIpv4 ip ++ ':' :: Nat.toDigits 10 address.port.toNat
  | .v6 ip => '[' :: displayIpv6 ip ++ ']' :: ':' :: Nat.toDigits 10 address.port.toNat

example : String.ofList (displayIpv6 ⟨0x20010db8000000000001000000000001#128⟩) = "2001:db8::1:0:0:1" := by
  decide

/-- The separator in front of a part belongs to it. -/
theorem readSeparator_joined {separator : Char} {print : ℕ → List Char} {inner : Parser α}
    (index part : ℕ) (parts : List ℕ) (rest : List Char) :
    readSeparator separator index inner (joined separator print index (part :: parts) ++ rest) =
      inner (print part ++ (joined separator print (index + 1) parts ++ rest)) := by
  rw [joined, readSeparator]
  by_cases later : 0 < index
  · rw [if_pos later, if_pos later, List.append_assoc, List.append_assoc, List.singleton_append,
      stripPrefix, if_pos rfl, Option.bind_some]
  · rw [if_neg later, if_neg later, List.nil_append, List.append_assoc]

theorem readSeparator_first (separator : Char) (inner : Parser α) (text : List Char) :
    readSeparator separator 0 inner text = inner text := rfl

theorem readSeparator_later (separator : Char) (index : ℕ) (inner : Parser α) (rest : List Char) :
    readSeparator separator (index + 1) inner (separator :: rest) = inner rest := by
  rw [readSeparator, if_pos (Nat.succ_pos index), stripPrefix, if_pos rfl, Option.bind_some]

/-! ## Numbers -/

theorem readDigits_eq (radix : ℕ) (text : List Char) :
    readDigits radix text = Numeral.read (toDigit radix) text := by
  induction text with
  | nil => rfl
  | cons c rest ih =>
    cases found : toDigit radix c with
    | none => simp only [readDigits, Numeral.read, found]
    | some digit => simp only [readDigits, Numeral.read, found, ih]

theorem toDigit_ten : ∀ digit < 10, toDigit 10 digit.digitChar = some digit := by decide

theorem toDigit_sixteen : ∀ digit < 16, toDigit 16 digit.digitChar = some digit := by decide

/-- A number in front of something that is no digit is read whole. -/
theorem readNumber_toDigits (maxDigits bound : ℕ) (allowZeroPrefix : Bool) {radix number : ℕ}
    {rest : List Char} (more : 1 < radix) (known : radix ≤ 16)
    (reads : ∀ digit < radix, toDigit radix digit.digitChar = some digit)
    (bounded : number < radix ^ maxDigits) (some' : 0 < maxDigits) (small : number < bound)
    (stops : ∀ c ∈ rest.head?, toDigit radix c = none) :
    readNumber radix maxDigits bound allowZeroPrefix (Nat.toDigits radix number ++ rest) =
      some (number, rest) := by
  obtain ⟨digits, digitwise, denotes, length⟩ := toDigits_digits more reads number
  have short : digits.length ≤ maxDigits := by
    rw [length]
    exact (Nat.length_toDigits_le_iff more some').mpr bounded
  have filled : digits ≠ [] := by
    rintro rfl
    exact Nat.toDigits_ne_nil (List.eq_nil_of_length_eq_zero length.symm)
  have found : readDigits radix (Nat.toDigits radix number ++ rest) = (digits, rest) := by
    rw [readDigits_eq, read_append digitwise, read_stops stops, List.append_nil]
  have leading : (Nat.toDigits radix number ++ rest).head? = some '0' → digits.length ≤ 1 := by
    intro zero
    by_contra long
    have nonzero : number ≠ 0 := by
      rintro rfl
      rw [length, Nat.toDigits_zero] at long
      exact long le_rfl
    refine toDigits_head more known nonzero ?_
    rw [List.head?_append] at zero
    obtain ⟨first, others, shape⟩ := List.exists_cons_of_ne_nil
      (Nat.toDigits_ne_nil (n := number) (b := radix))
    rw [shape] at zero ⊢
    exact zero
  have total : digits.foldl (fun number digit => number * radix + digit) 0 = number := denotes
  unfold readNumber
  simp only [found, total]
  rw [if_neg (by simp [filled]; omega), if_neg]
  simp only [Bool.and_eq_true, beq_iff_eq, decide_eq_true_eq, not_and]
  intro headZero
  exact Nat.not_lt.mpr (leading headZero.2)

/-! ## IPv4 -/

/-- A text without a dot is no IPv4 address. -/
theorem readIpv4Addr_of_no_dot {text : List Char} (absent : '.' ∉ text) : readIpv4Addr text = none := by
  have suffix (radix : ℕ) (text : List Char) : ∀ c ∈ (readDigits radix text).2, c ∈ text := by
    intro c member
    induction text with
    | nil => exact member
    | cons first rest ih =>
      rw [readDigits] at member
      cases found : toDigit radix first with
      | none => simpa only [found] using member
      | some digit =>
        simp only [found] at member
        exact List.mem_cons_of_mem _ (ih member)
  have stops : ∀ octet rest, readNumber 10 3 256 false text = some (octet, rest) →
      stripPrefix '.' rest = none := by
    intro octet rest number
    have behind : rest = (readDigits 10 text).2 := by
      unfold readNumber at number
      simp only at number
      split at number
      · cases number
      · split at number
        · cases number
        · exact (congrArg Prod.snd (Option.some.inj number)).symm
    cases rest with
    | nil => rfl
    | cons c rest =>
      rw [stripPrefix, if_neg]
      rintro rfl
      exact absent (suffix 10 text '.' (behind ▸ List.mem_cons_self))
  unfold readIpv4Addr
  simp only [readOctets, readSeparator]
  cases number : readNumber 10 3 256 false text with
  | none => simp
  | some found =>
    obtain ⟨octet, rest⟩ := found
    simp [stops octet rest number]

theorem readOctets_joined {octets : List ℕ} (small : ∀ octet ∈ octets, octet < 256) (index number : ℕ)
    {rest : List Char} (stops : ∀ c ∈ rest.head?, toDigit 10 c = none) :
    readOctets octets.length index number (joined '.' (Nat.toDigits 10) index octets ++ rest) =
      some (octets.foldl (fun number octet => number * 256 + octet) number, rest) := by
  induction octets generalizing index number with
  | nil => rfl
  | cons octet octets ih =>
    obtain ⟨here, others⟩ := List.forall_mem_cons.mp small
    have after : ∀ c ∈ (joined '.' (Nat.toDigits 10) (index + 1) octets ++ rest).head?,
        toDigit 10 c = none := by
      cases octets with
      | nil => exact stops
      | cons next more =>
        intro c first
        obtain rfl : '.' = c := by simpa [joined] using first
        decide
    have readHere := readNumber_toDigits 3 256 false
      (by decide) (by decide) toDigit_ten (by omega : octet < 10 ^ 3) (by decide) here after
    rw [List.length_cons]
    simp only [readOctets, readSeparator_joined, readHere, Option.bind_some, List.foldl_cons]
    exact ih others (index + 1) (number * 256 + octet)

/-- A printed IPv4 address is read up to where it ends. -/
theorem readIpv4Addr_display (address : Ipv4Addr) (rest : List Char)
    (stops : ∀ c ∈ rest.head?, toDigit 10 c = none) :
    readIpv4Addr (displayIpv4 address ++ rest) = some (address, rest) := by
  have small : ∀ octet ∈ Ipv4Addr.octets address, octet < 256 :=
    fun octet member => lt_of_mem_words (by decide) member
  have read := readOctets_joined small 0 0 stops
  have four : (Ipv4Addr.octets address).length = 4 := words_length
  have whole : value 256 (Ipv4Addr.octets address) = address.bits.toNat :=
    value_words_of_lt address.bits.isLt
  rw [value] at whole
  rw [four, whole] at read
  rw [readIpv4Addr, displayIpv4, read, Option.map_some]
  simp only [BitVec.ofNat_toNat, BitVec.setWidth_eq]

/-! ## IPv6 -/

/-- A printed number has no other characters than its digits. -/
theorem digit_of_mem_toDigits {radix number : ℕ} {c : Char} (more : 1 < radix)
    (reads : ∀ digit < radix, toDigit radix digit.digitChar = some digit)
    (member : c ∈ Nat.toDigits radix number) : ∃ digit, toDigit radix c = some digit := by
  obtain ⟨digits, digitwise, -, -⟩ := toDigits_digits more reads number
  have found : toDigit radix c ∈ digits.map some := digitwise ▸ List.mem_map_of_mem member
  obtain ⟨digit, -, same⟩ := List.mem_map.mp found
  exact ⟨digit, same.symm⟩

theorem not_mem_toDigits {c : Char} (other : toDigit 16 c = none) (number : ℕ) :
    c ∉ Nat.toDigits 16 number := by
  intro member
  obtain ⟨digit, found⟩ := digit_of_mem_toDigits (by decide) toDigit_sixteen member
  cases other.symm.trans found

theorem no_dot_joined (groups : List ℕ) (index : ℕ) :
    '.' ∉ joined ':' (Nat.toDigits 16) index groups := by
  induction groups generalizing index with
  | nil => exact List.not_mem_nil
  | cons group rest ih =>
    rw [joined, List.mem_append, List.mem_append, not_or, not_or]
    refine ⟨⟨?_, not_mem_toDigits (by decide) group⟩, ih (index + 1)⟩
    split <;> decide

theorem readNumber_of_no_digit {radix maxDigits bound : ℕ} {allowZeroPrefix : Bool} {c : Char}
    {rest : List Char} (other : toDigit radix c = none) :
    readNumber radix maxDigits bound allowZeroPrefix (c :: rest) = none := by
  simp [readNumber, readDigits, other]

theorem readIpv4Addr_of_no_digit {c : Char} {rest : List Char} (other : toDigit 10 c = none) :
    readIpv4Addr (c :: rest) = none := by
  simp [readIpv4Addr, readOctets, readSeparator, readNumber_of_no_digit other]

/-- No group follows at the end of the text or in front of two colons. -/
theorem readGroups_ends {rest : List Char} (ends : rest = [] ∨ ∃ more, rest = ':' :: ':' :: more)
    (left index : ℕ) : readGroups left index rest = ([], false, rest) := by
  cases left with
  | zero => rfl
  | succ left =>
    have nothing : readSeparator ':' index readIpv4Addr rest = none ∧
        readSeparator ':' index (readNumber 16 4 65536 true) rest = none := by
      rcases ends with rfl | ⟨more, rfl⟩
      · unfold readSeparator
        split
        · exact ⟨rfl, rfl⟩
        · refine ⟨by simp [readIpv4Addr_of_no_dot], by simp [readNumber, readDigits]⟩
      · have colon (base : ℕ) : toDigit base ':' = none := rfl
        unfold readSeparator
        split
        · simp only [stripPrefix, if_true, Option.bind_some]
          exact ⟨readIpv4Addr_of_no_digit (colon 10), readNumber_of_no_digit (colon 16)⟩
        · exact ⟨readIpv4Addr_of_no_digit (colon 10), readNumber_of_no_digit (colon 16)⟩
    simp only [readGroups, nothing, ite_self]

/-- Printed groups are read one by one. -/
theorem readGroups_joined {groups : List ℕ} (small : ∀ group ∈ groups, group < 65536) (left : ℕ)
    (room : groups.length ≤ left) (index : ℕ) (rest : List Char) (absent : '.' ∉ rest)
    (ends : rest = [] ∨ ∃ more, rest = ':' :: ':' :: more) :
    readGroups left index (joined ':' (Nat.toDigits 16) index groups ++ rest) =
      (groups, false, rest) := by
  induction groups generalizing left index with
  | nil => exact readGroups_ends ends left index
  | cons group groups ih =>
    obtain ⟨here, others⟩ := List.forall_mem_cons.mp small
    rw [List.length_cons] at room
    obtain ⟨left, rfl⟩ : ∃ fewer, left = fewer + 1 := ⟨left - 1, by omega⟩
    have after : ∀ c ∈ (joined ':' (Nat.toDigits 16) (index + 1) groups ++ rest).head?,
        toDigit 16 c = none := by
      intro c first
      have colon : c = ':' := by
        cases groups with
        | nil =>
          rcases ends with rfl | ⟨more, rfl⟩
          · cases first
          · exact (Option.some.inj first).symm
        | cons next more => simpa [joined, eq_comm] using first
      rw [colon]
      rfl
    have noIpv4 : readIpv4Addr (Nat.toDigits 16 group ++
        (joined ':' (Nat.toDigits 16) (index + 1) groups ++ rest)) = none := by
      apply readIpv4Addr_of_no_dot
      rw [List.mem_append, List.mem_append, not_or, not_or]
      exact ⟨not_mem_toDigits rfl group, no_dot_joined groups (index + 1), absent⟩
    have readHere := readNumber_toDigits 4 65536 true
      (by decide) (by decide) toDigit_sixteen (by omega : group < 16 ^ 4) (by decide) here after
    have goesOn := ih others left (by omega) (index + 1)
    rw [readGroups]
    simp only [readSeparator_joined, noIpv4, ite_self, readHere, goesOn]

/-! ## The longest run of zeros -/

/-- Every group of the run is there and zero. -/
def Span.Zero (segments : List ℕ) (span : Span) : Prop :=
  ∀ index, span.start ≤ index → index < span.start + span.len → segments[index]? = some 0

theorem zeroes_zero {segments : List ℕ} (rest : List ℕ) {index : ℕ} {current longest : Span}
    (here : segments.drop index = rest) (run : current.Zero segments)
    (ends : current.len ≠ 0 → current.start + current.len = index) (best : longest.Zero segments) :
    (zeroes index current longest rest).Zero segments := by
  induction rest generalizing index current longest with
  | nil => exact best
  | cons segment rest ih =>
    have there : segments[index]? = some segment := by
      rw [← List.head?_drop, here, List.head?_cons]
    have next : segments.drop (index + 1) = rest := by
      rw [← List.drop_drop, here, List.drop_one, List.tail_cons]
    rw [zeroes]
    split
    · next zero =>
      have grown : Span.Zero segments
          ⟨if current.len = 0 then index else current.start, current.len + 1⟩ := by
        intro position after before
        simp only at after before
        by_cases first : current.len = 0
        · rw [if_pos first] at after before
          obtain rfl : position = index := by omega
          rw [there, zero]
        · rw [if_neg first] at after before
          have adjacent := ends first
          rcases Nat.lt_or_ge position index with earlier | now
          · exact run position after (by omega)
          · obtain rfl : position = index := by omega
            rw [there, zero]
      have adjacent : current.len + 1 ≠ 0 →
          (if current.len = 0 then index else current.start) + (current.len + 1) = index + 1 := by
        intro _
        split
        · next first => omega
        · next more =>
          have := ends more
          omega
      refine ih next grown adjacent ?_
      by_cases longer : longest.len < current.len + 1
      · rw [if_pos longer]
        exact grown
      · rw [if_neg longer]
        exact best
    · exact ih next (fun position _ before => absurd before (by simp only; omega))
        (fun more => absurd rfl more) best

/-- The groups around a run of zeros, with the run between them. -/
theorem Span.Zero.split {segments : List ℕ} {span : Span} (zero : span.Zero segments)
    (some' : 0 < span.len) :
    span.start + span.len ≤ segments.length ∧
      segments = segments.take span.start ++ List.replicate span.len 0 ++
        segments.drop (span.start + span.len) := by
  have last := zero (span.start + span.len - 1) (by omega) (by omega)
  have inside : span.start + span.len ≤ segments.length := by
    have := (List.getElem?_eq_some_iff.mp last).1
    omega
  have run : (segments.drop span.start).take span.len = List.replicate span.len 0 := by
    apply List.ext_getElem?
    intro index
    rw [List.getElem?_take, List.getElem?_drop, List.getElem?_replicate]
    split
    · exact zero _ (by omega) (by omega)
    · rfl
  refine ⟨inside, ?_⟩
  rw [← run, List.append_assoc, ← List.drop_drop, List.take_append_drop, List.take_append_drop]

/-! ## The round trip -/

theorem ofGroups_segments (address : Ipv6Addr) : ofGroups (Ipv6Addr.segments address) = address := by
  have whole : value 65536 (Ipv6Addr.segments address) = address.bits.toNat :=
    value_words_of_lt address.bits.isLt
  rw [value] at whole
  rw [ofGroups, whole, BitVec.ofNat_toNat, BitVec.setWidth_eq]

theorem segments_small (address : Ipv6Addr) : ∀ group ∈ Ipv6Addr.segments address, group < 65536 :=
  fun _ member => lt_of_mem_words (by decide) member

/-- The IPv4 address at the end of a mapped one. -/
theorem readGroups_mapped (mapped : Ipv4Addr) :
    readGroups 7 0 ("ffff:".toList ++ displayIpv4 mapped) =
      ([65535, mapped.bits.toNat / 65536, mapped.bits.toNat % 65536], true, []) := by
  have prefix' : "ffff:".toList ++ displayIpv4 mapped =
      Nat.toDigits 16 65535 ++ (':' :: displayIpv4 mapped) := rfl
  have noIpv4 : readIpv4Addr ("ffff:".toList ++ displayIpv4 mapped) = none :=
    readIpv4Addr_of_no_digit (c := 'f') rfl
  have colon : ∀ c ∈ (':' :: displayIpv4 mapped).head?, toDigit 16 c = none := by
    intro c first
    rw [← Option.some.inj first]
    rfl
  have readHere := readNumber_toDigits 4 65536 true (by decide) (by decide) toDigit_sixteen
    (by decide : 65535 < 16 ^ 4) (by decide) (by decide) colon
  have ipv4 := readIpv4Addr_display mapped [] (fun c none => nomatch none)
  rw [List.append_nil] at ipv4
  rw [readGroups, readSeparator_first, readSeparator_first, noIpv4, ite_self, prefix', readHere]
  simp only
  rw [readGroups, readSeparator_later, ipv4, if_pos (by decide)]

/-- Two colons stand for the groups that are missing. -/
theorem readIpv6Addr_compressed {head tail : List ℕ} (small : ∀ group ∈ head ++ tail, group < 65536)
    (missing : head.length + tail.length < 8) :
    readIpv6Addr (fmtSubslice head ++ "::".toList ++ fmtSubslice tail) =
      some (ofGroups (head ++ List.replicate (8 - head.length - tail.length) 0 ++ tail), []) := by
  have front := readGroups_joined
    (fun group member => small group (List.mem_append_left tail member)) 8 (by omega) 0
    ("::".toList ++ fmtSubslice tail)
    (by
      rw [List.mem_append, not_or]
      exact ⟨by decide, no_dot_joined tail 0⟩) (.inr ⟨_, rfl⟩)
  have back := readGroups_joined
    (fun group member => small group (List.mem_append_right head member))
    (8 - (head.length + 1)) (by omega) 0 [] List.not_mem_nil (.inl rfl)
  rw [List.append_nil] at back
  rw [List.append_assoc, readIpv6Addr, fmtSubslice]
  simp only [front]
  rw [if_neg (by omega), if_neg (by decide)]
  have colons : "::".toList ++ fmtSubslice tail = ':' :: ':' :: joined ':' (Nat.toDigits 16) 0 tail := rfl
  simp only [colons, stripPrefix, if_true, Option.bind_eq_bind, Option.bind_some, back]

theorem readIpv6Addr_display (address : Ipv6Addr) :
    readIpv6Addr (displayIpv6 address) = some (address, []) := by
  have small := segments_small address
  have eight : (Ipv6Addr.segments address).length = 8 := words_length
  unfold displayIpv6
  cases isMapped : toIpv4Mapped address with
  | some mapped =>
    have shape : ∃ high low, Ipv6Addr.segments address = [0, 0, 0, 0, 0, 0xffff, high, low] ∧
        mapped.bits.toNat / 65536 = high ∧ mapped.bits.toNat % 65536 = low := by
      unfold toIpv4Mapped at isMapped
      split at isMapped
      · next high low segments =>
        rw [segments] at small
        have highSmall := small high (by simp)
        have lowSmall := small low (by simp)
        cases isMapped
        refine ⟨high, low, segments, ?_, ?_⟩ <;> simp only [BitVec.toNat_ofNat] <;> omega
      · cases isMapped
    obtain ⟨high, low, segments, rfl, rfl⟩ := shape
    have head : readGroups 8 0 ("::ffff:".toList ++ displayIpv4 mapped) =
        ([], false, "::ffff:".toList ++ displayIpv4 mapped) :=
      readGroups_ends (.inr ⟨_, rfl⟩) 8 0
    have tail := readGroups_mapped mapped
    rw [readIpv6Addr]
    simp only [head]
    rw [if_neg (by decide), if_neg (by decide)]
    have colons : "::ffff:".toList ++ displayIpv4 mapped =
        ':' :: ':' :: ("ffff:".toList ++ displayIpv4 mapped) := rfl
    simp only [colons, stripPrefix, if_true, Option.bind_eq_bind, Option.bind_some, List.length_nil]
    rw [tail]
    have groups := ofGroups_segments address
    rw [segments] at groups
    exact congrArg (fun address => some (address, [])) groups
  | none =>
    simp only
    split
    · next long =>
      have none' : Span.Zero (Ipv6Addr.segments address) ⟨0, 0⟩ :=
        fun _ _ before => absurd before (Nat.not_lt_zero _)
      have zero : (zeroes 0 ⟨0, 0⟩ ⟨0, 0⟩ (Ipv6Addr.segments address)).Zero
          (Ipv6Addr.segments address) :=
        zeroes_zero _ List.drop_zero none' (fun more => absurd rfl more) none'
      obtain ⟨inside, around⟩ := zero.split (by omega)
      generalize zeroes 0 ⟨0, 0⟩ ⟨0, 0⟩ (Ipv6Addr.segments address) = span at *
      rw [eight] at inside
      have headLength : ((Ipv6Addr.segments address).take span.start).length = span.start := by
        rw [List.length_take, eight]
        omega
      have tailLength : ((Ipv6Addr.segments address).drop (span.start + span.len)).length =
          8 - (span.start + span.len) := by rw [List.length_drop, eight]
      have parts : ∀ group ∈ (Ipv6Addr.segments address).take span.start ++
          (Ipv6Addr.segments address).drop (span.start + span.len), group < 65536 := by
        intro group member
        rcases List.mem_append.mp member with front | back
        · exact small group (List.mem_of_mem_take front)
        · exact small group (List.mem_of_mem_drop back)
      rw [readIpv6Addr_compressed parts (by omega), headLength, tailLength]
      have zeros : 8 - span.start - (8 - (span.start + span.len)) = span.len := by omega
      rw [zeros, ← around, ofGroups_segments]
    · have whole := readGroups_joined small 8 (by omega) 0 []
        List.not_mem_nil (.inl rfl)
      rw [List.append_nil] at whole
      rw [readIpv6Addr, fmtSubslice]
      simp only [whole]
      rw [if_pos eight, ofGroups_segments]

/-- Every printed address is read back as itself. -/
theorem parseIpAddr_display (address : IpAddr) : parseIpAddr (displayIpAddr address) = some address := by
  unfold parseIpAddr parseWith
  cases address with
  | v4 address =>
    have read := readIpv4Addr_display address [] (fun c none => nomatch none)
    rw [List.append_nil] at read
    simp only [displayIpAddr, read, Option.map_some]
    rfl
  | v6 address =>
    have read := readIpv6Addr_display address
    have noIpv4 : readIpv4Addr (displayIpv6 address) = none := by
      unfold displayIpv6
      cases toIpv4Mapped address with
      | some mapped => exact readIpv4Addr_of_no_digit (c := ':') rfl
      | none =>
        apply readIpv4Addr_of_no_dot
        simp only
        split
        · rw [List.mem_append, List.mem_append, not_or, not_or]
          exact ⟨⟨no_dot_joined _ 0, by decide⟩, no_dot_joined _ 0⟩
        · exact no_dot_joined _ 0
    simp only [displayIpAddr, read, noIpv4, Option.map_some, Option.map_none]
    rfl

/-! ## The characters of an address -/

/-- A digit or a separator. -/
def AddressChar (c : Char) : Prop := (∃ digit, toDigit 16 c = some digit) ∨ c = '.' ∨ c = ':'

theorem addressChar_joined {separator : Char} {print : ℕ → List Char}
    (separates : separator = '.' ∨ separator = ':')
    (digits : ∀ part, ∀ c ∈ print part, ∃ digit, toDigit 16 c = some digit) (parts : List ℕ)
    (index : ℕ) : ∀ c ∈ joined separator print index parts, AddressChar c := by
  induction parts generalizing index with
  | nil => exact fun c member => absurd member List.not_mem_nil
  | cons part rest ih =>
    intro c member
    rw [joined, List.mem_append, List.mem_append] at member
    rcases member with (first | inside) | later
    · split at first
      · rw [List.mem_singleton.mp first]
        exact .inr separates
      · exact absurd first List.not_mem_nil
    · exact .inl (digits part c inside)
    · exact ih (index + 1) c later

theorem digit_sixteen_of_ten {c : Char} {digit : ℕ} (found : toDigit 10 c = some digit) :
    toDigit 16 c = some digit := by
  unfold toDigit at found ⊢
  simp only [Option.filter_eq_some_iff, decide_eq_true_eq] at found ⊢
  exact ⟨found.1, by omega⟩

theorem addressChar_ipv4 (address : Ipv4Addr) : ∀ c ∈ displayIpv4 address, AddressChar c := by
  refine addressChar_joined (.inl rfl) (fun part c member => ?_) _ 0
  obtain ⟨digit, found⟩ := digit_of_mem_toDigits (by decide) toDigit_ten member
  exact ⟨digit, digit_sixteen_of_ten found⟩

theorem addressChar_ipv6 (address : Ipv6Addr) : ∀ c ∈ displayIpv6 address, AddressChar c := by
  have groups (chunk : List ℕ) : ∀ c ∈ fmtSubslice chunk, AddressChar c :=
    addressChar_joined (.inr rfl)
      (fun part c member => digit_of_mem_toDigits (by decide) toDigit_sixteen member) chunk 0
  have colons : ∀ c ∈ "::".toList, AddressChar c := by
    intro c member
    refine .inr (.inr ?_)
    simpa using member
  intro c member
  unfold displayIpv6 at member
  cases mapped : toIpv4Mapped address with
  | some ipv4 =>
    simp only [mapped, List.mem_append] at member
    rcases member with front | back
    · have known : ∀ c ∈ [':', ':', 'f', 'f', 'f', 'f', ':'], c = ':' ∨ c = 'f' := by simp
      rcases known c front with rfl | rfl
      · exact .inr (.inr rfl)
      · exact .inl ⟨15, rfl⟩
    · exact addressChar_ipv4 ipv4 c back
  | none =>
    simp only [mapped] at member
    split at member
    · rw [List.mem_append, List.mem_append] at member
      rcases member with (front | middle) | back
      · exact groups _ c front
      · exact colons c middle
      · exact groups _ c back
    · exact groups _ c member

theorem addressChar_plain {c : Char} (address : AddressChar c) :
    isWhiteSpace c = false ∧ c ≠ '[' ∧ c ≠ ']' := by
  rcases address with ⟨digit, found⟩ | rfl | rfl
  · have bound : c.toNat ≤ 0x7a ∧ 0x30 ≤ c.toNat ∧ c.toNat ≠ 0x5b ∧ c.toNat ≠ 0x5d := by
      unfold toDigit at found
      simp only [Option.filter_eq_some_iff] at found
      have some' := found.1
      split_ifs at some' <;> omega
    refine ⟨?_, ?_, ?_⟩
    · simp only [isWhiteSpace, Bool.or_eq_false_iff, Bool.and_eq_false_iff, beq_eq_false_iff_ne,
        decide_eq_false_iff_not]
      omega
    · rintro rfl
      exact bound.2.2.1 rfl
    · rintro rfl
      exact bound.2.2.2 rfl
  · decide
  · decide

end Usque.Net
