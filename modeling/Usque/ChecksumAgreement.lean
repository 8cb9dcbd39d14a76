import Usque.HopDecrement

/-! The two checksum routines compute one function: the header checksum skips its own
word where `checksum` would read two zero bytes. A field filled with the checksum of the
buffer around it brings the checksum of the whole to zero. -/
namespace Usque.ChecksumAgreement

open Packet Icmp Checksum HopDecrement OnesComplement
open Splice (overwrite)

/-! ## The sums of `checksum`, checked -/

/-- The chunks of `checksum` and what remains behind them. -/
def sumChunksChecked : Bytes → ℕ → Option ℕ
  | high :: low :: rest, sum => do
    let sum ← addU32 sum (be16 high low)
    sumChunksChecked rest sum
  | [last], sum => addU32 sum (be16 last 0)
  | [], sum => some sum

/-- `checksum`, nothing where a sum would overflow. -/
def checksumChecked (buf : Bytes) : Option UInt16 := do
  let sum ← sumChunksChecked buf 0
  let sum ← foldLoop sum sum
  some (~~~ (UInt16.ofNat sum))

/-- As long as the words still to come cannot carry the sum out of 32 bits, the chunks
add up to what the plain sum is. -/
theorem sumChunksChecked_eq (buf : Bytes) (sum : ℕ)
    (room : sum + 65535 * ((buf.length + 1) / 2) < 4294967296) :
    sumChunksChecked buf sum = some (sum + sumChunks buf) ∧
      sum + sumChunks buf < 4294967296 := by
  induction buf using words.induct generalizing sum with
  | case1 high low rest ih =>
    have word := be16_lt high low
    simp only [List.length_cons] at room
    obtain ⟨summed, small⟩ := ih (sum + be16 high low) (by omega)
    rw [sumChunksChecked, addU32_small (by omega), Option.bind_eq_bind, Option.bind_some, summed,
      sumChunks, ← Nat.add_assoc]
    exact ⟨rfl, small⟩
  | case2 last =>
    have word := be16_lt last 0
    simp only [List.length_singleton] at room
    rw [sumChunksChecked, addU32_small (by omega), sumChunks]
    exact ⟨rfl, by omega⟩
  | case3 =>
    rw [sumChunks]
    exact ⟨rfl, by omega⟩

/-- 65536 words of at most 65535 each stay below 2^32. -/
theorem checksumChecked_eq {buf : Bytes} (short : buf.length ≤ 131072) :
    checksumChecked buf = some (checksum buf) := by
  obtain ⟨summed, small⟩ := sumChunksChecked_eq buf 0 (by omega)
  rw [Nat.zero_add] at summed small
  simp only [checksumChecked, summed, foldLoop_eq _ _ small, Option.bind_eq_bind, Option.bind_some,
    checksum]

/-! ## The header checksum -/

/-- A header with its checksum word set to zero, as far as it is there. -/
def withoutChecksum (header : Bytes) : Bytes := (header.set 10 0).set 11 0

/-- From an even index on, the loop sums up what is left with the checksum word at zero. -/
theorem sumWords_eq (index : ℕ) (bytes : Bytes) (sum : ℕ) (even : index % 2 = 0)
    (reaches : index ≤ 10) :
    sumWords index bytes sum =
      sum + (words ((bytes.set (10 - index) 0).set (11 - index) 0)).sum := by
  induction bytes using words.induct generalizing index sum with
  | case1 high low rest ih =>
    by_cases skipped : index = 10
    · subst skipped
      rw [sumWords, if_pos rfl, sumWords_after _ _ _ (by omega)]
      simp [words, be16]
    · have past : 10 - index = 10 - (index + 2) + 2 ∧ 11 - index = 11 - (index + 2) + 2 := by omega
      rw [sumWords, if_neg skipped, ih _ _ (by omega) (by omega), past.1, past.2]
      simp only [List.set_cons_succ, words, List.sum_cons]
      omega
  | case2 last =>
    by_cases skipped : index = 10
    · subst skipped
      simp [sumWords, words, be16]
    · have past : 10 - index = 10 - (index + 2) + 2 ∧ 11 - index = 11 - (index + 2) + 2 := by omega
      rw [sumWords, if_neg skipped, past.1, past.2]
      simp [words]
  | case3 => simp [sumWords, words]

theorem calculateIpv4Checksum_eq_checksum (packet : Bytes) (held : 0 < packet.length) :
    calculateIpv4Checksum packet held =
      checksum (withoutChecksum (packet.take (min (statedHeaderLen packet) packet.length))) := by
  have summed (header : Bytes) : sumWords 0 header 0 = sumChunks (withoutChecksum header) := by
    rw [sumWords_eq 0 header 0 rfl (by omega), sumChunks_eq_sum, Nat.zero_add]
    rfl
  obtain ⟨first, rest, rfl⟩ := List.exists_cons_of_length_pos held
  simp only [calculateIpv4Checksum, checksum, ← summed]
  rfl

/-! ## A field of its own -/

/-- A 16-bit field at an even offset of a buffer, set to zero. -/
structure BlankField (buffer : Bytes) (offset : ℕ) : Prop where
  even : offset % 2 = 0
  high : buffer[offset]? = some 0
  low : buffer[offset + 1]? = some 0

theorem BlankField.inside {buffer : Bytes} {offset : ℕ} (blank : BlankField buffer offset) :
    offset + 2 ≤ buffer.length := by
  obtain ⟨inside, -⟩ := List.getElem?_eq_some_iff.mp blank.low
  exact inside

theorem checksum_of_verifies {bytes : Bytes} (verifies : Verifies bytes) : checksum bytes = 0 := by
  apply UInt16.toNat_inj.mp
  rw [toNat_checksum, (verifies_iff bytes).mp verifies]
  rfl

/-- On every packet of at least one byte the header checksum is that of the stated header,
as far as it is there, with the checksum word at zero; and in every buffer of up to 128 KiB
the checksum, written to an aligned field of zeros, leaves a buffer whose checksum is zero.
No sum on the way overflows. -/
theorem checksums_agree :
    (∀ (packet : Bytes) (held : 0 < packet.length),
      calculateIpv4Checksum packet held =
          checksum (withoutChecksum (packet.take (min (statedHeaderLen packet) packet.length))) ∧
        calculateIpv4ChecksumChecked packet = some (calculateIpv4Checksum packet held)) ∧
    ∀ (buffer : Bytes) (offset : ℕ), buffer.length ≤ 131072 → BlankField buffer offset →
      let written := overwrite buffer offset (toBeBytes (checksum buffer))
      checksum written = 0 ∧ checksumChecked buffer = some (checksum buffer) ∧
        checksumChecked written = some (checksum written) := by
  constructor
  · intro packet held
    exact ⟨calculateIpv4Checksum_eq_checksum packet held,
      calculateIpv4ChecksumChecked_eq packet held⟩
  · intro buffer offset short blank written
    have size : written.length = buffer.length := overwrite_size _ blank.inside
    refine ⟨?_, checksumChecked_eq short, checksumChecked_eq (by omega)⟩
    exact checksum_of_verifies (overwrite_checksum_verifies blank.even blank.high blank.low)

/-- An odd header of eleven bytes, and a buffer of five with its field in front. -/
theorem checksums_agree_odd :
    (∃ held, calculateIpv4Checksum [0x43, 1, 2, 3, 4, 5, 6, 7, 8, 9, 10] held =
      checksum (withoutChecksum [0x43, 1, 2, 3, 4, 5, 6, 7, 8, 9, 10])) ∧
    checksum (overwrite [0, 0, 1, 2, 3] 0 (toBeBytes (checksum [0, 0, 1, 2, 3]))) = 0 :=
  ⟨⟨by decide, (checksums_agree.1 _ (by decide)).1⟩,
    (checksums_agree.2 [0, 0, 1, 2, 3] 0 (by decide) ⟨rfl, rfl, rfl⟩).1⟩

end Usque.ChecksumAgreement
