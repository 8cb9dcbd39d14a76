import Usque.Icmp
import Usque.Lib.OnesComplement

/-! The two checksum routines, `calculate_ipv4_checksum` of `api/packet.rs` and
`checksum` of `api/icmp.rs`, as one's-complement sums of 16-bit words. Writing the
computed word over a zero word, or over the word left out, makes the bytes
verify. -/
namespace Usque.Checksum

open Packet Icmp OnesComplement
open Splice (overwrite)

/-- The 16-bit words of some bytes in network order, a last odd byte padded
with zero. -/
def words : Bytes → List ℕ
  | high :: low :: rest => be16 high low :: words rest
  | [last] => [be16 last 0]
  | [] => []

/-- The one's-complement sum of the words is all ones. -/
def Verifies (bytes : Bytes) : Prop := OnesComplement.sum 65536 (words bytes) = 65535

instance (bytes : Bytes) : Decidable (Verifies bytes) :=
  inferInstanceAs (Decidable (_ = _))

theorem be16_lt (high low : UInt8) : be16 high low < 65536 := by
  have highByte := high.toNat_lt
  have lowByte := low.toNat_lt
  unfold be16
  omega

theorem words_lt (bytes : Bytes) : ∀ word ∈ words bytes, word < 65536 := by
  intro word member
  induction bytes using words.induct with
  | case1 high low rest ih =>
    rcases List.mem_cons.mp member with rfl | later
    · exact be16_lt high low
    · exact ih later
  | case2 last =>
    rw [List.mem_singleton.mp member]
    exact be16_lt last 0
  | case3 => cases member

/-- An even front keeps the words behind it aligned. -/
theorem words_append {front : Bytes} (even : front.length % 2 = 0) (back : Bytes) :
    words (front ++ back) = words front ++ words back := by
  induction front using words.induct with
  | case1 high low rest ih =>
    simp only [List.length_cons] at even
    simpa only [List.cons_append, words, List.cons.injEq, true_and] using ih (by omega)
  | case2 last => simp at even
  | case3 => rfl

theorem sumChunks_eq_sum (bytes : Bytes) : sumChunks bytes = (words bytes).sum := by
  induction bytes using words.induct with
  | case1 high low rest ih => rw [sumChunks, words, List.sum_cons, ih]
  | case2 last => simp [sumChunks, words]
  | case3 => rfl

/-- Folding the carries settles the sum. -/
theorem foldCarries_eq_settle (total turns : ℕ) (enough : total ≤ turns) :
    foldCarries turns total = settle 65536 total := by
  induction turns generalizing total with
  | zero =>
    rw [Nat.le_zero.mp enough]
    rfl
  | succ turns ih =>
    have low : total &&& 0xffff = total % 65536 := Nat.and_two_pow_sub_one_eq_mod total 16
    have high : total >>> 16 = total / 65536 := Nat.shiftRight_eq_div_pow total 16
    rw [foldCarries, low, high]
    split
    · rw [ih _ (by omega), settle_carry (by decide)]
    · exact (settle_of_lt (by omega)).symm

theorem verifies_iff (bytes : Bytes) :
    Verifies bytes ↔ settle 65536 (words bytes).sum = 65535 := by
  rw [Verifies, sum_eq_settle (by decide) (words_lt bytes)]

/-- A checksum word is the complement of the settled sum. -/
theorem toNat_complement_foldCarries (total : ℕ) :
    (~~~ (UInt16.ofNat (foldCarries total total))).toNat =
      complement 65536 (settle 65536 total) := by
  have small : settle 65536 total < 65536 := settle_lt (by decide)
  rw [foldCarries_eq_settle total total (Nat.le_refl _), UInt16.toNat_not, UInt16.toNat_ofNat',
    Nat.mod_eq_of_lt small]
  rfl

theorem toNat_checksum (bytes : Bytes) :
    (checksum bytes).toNat = complement 65536 (settle 65536 (words bytes).sum) := by
  rw [checksum, toNat_complement_foldCarries, sumChunks_eq_sum]

/-- Bytes around an aligned word of their own. -/
structure Around (bytes : Bytes) (offset : ℕ) (high low : UInt8) (front back : Bytes) : Prop where
  parts : bytes = front ++ high :: low :: back
  size : front.length = offset
  even : offset % 2 = 0

/-- Every aligned word inside some bytes has bytes around it. -/
theorem around_word (bytes : Bytes) (offset : ℕ) (even : offset % 2 = 0)
    (inside : offset + 2 ≤ bytes.length) :
    ∃ high low, bytes[offset]? = some high ∧ bytes[offset + 1]? = some low ∧
      Around bytes offset high low (bytes.take offset) (bytes.drop (offset + 2)) := by
  refine ⟨bytes[offset], bytes[offset + 1], List.getElem?_eq_getElem _,
    List.getElem?_eq_getElem _, ?_, List.length_take_of_le (by omega), even⟩
  calc
    bytes = bytes.take offset ++ bytes.drop offset := (List.take_append_drop offset bytes).symm
    _ = _ := by rw [List.drop_eq_getElem_cons (by omega), List.drop_eq_getElem_cons (by omega)]

theorem Around.words_sum {bytes front back : Bytes} {offset : ℕ} {high low : UInt8}
    (around : Around bytes offset high low front back) :
    (words bytes).sum = (words front).sum + (words back).sum + be16 high low := by
  obtain ⟨parts, size, even⟩ := around
  rw [parts, words_append (by rw [size]; exact even), words, List.sum_append, List.sum_cons]
  omega

/-- Writing a word over another leaves the bytes around it alone. -/
theorem Around.overwrite {bytes front back : Bytes} {offset : ℕ} {high low : UInt8}
    (around : Around bytes offset high low front back) (value : UInt16) :
    Around (overwrite bytes offset (toBeBytes value)) offset (value >>> 8).toUInt8
      value.toUInt8 front back := by
  obtain ⟨rfl, rfl, even⟩ := around
  refine ⟨?_, rfl, even⟩
  simp [Splice.overwrite, toBeBytes, List.drop_append]

/-- Writing the computed checksum over an aligned zero word makes the bytes
verify. -/
theorem overwrite_checksum_verifies {bytes : Bytes} {offset : ℕ} (even : offset % 2 = 0)
    (high : bytes[offset]? = some 0) (low : bytes[offset + 1]? = some 0) :
    Verifies (overwrite bytes offset (toBeBytes (checksum bytes))) := by
  obtain ⟨inside, -⟩ := List.getElem?_eq_some_iff.mp low
  obtain ⟨oldHigh, oldLow, atHigh, atLow, around⟩ := around_word bytes offset even inside
  have blank : be16 oldHigh oldLow = 0 := by
    rw [Option.some.inj (atHigh.symm.trans high), Option.some.inj (atLow.symm.trans low)]
    rfl
  rw [verifies_iff, (around.overwrite _).words_sum, be16_toBeBytes, toNat_checksum]
  have before := around.words_sum
  rw [blank, Nat.add_zero] at before
  rw [← before]
  exact settle_add_complement (by decide)

end Usque.Checksum
