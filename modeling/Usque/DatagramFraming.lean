import Mathlib.Tactic.Ring
import Usque.ConnectIp

/-! Which byte strings `parse_datagram` accepts. The writer uses the shortest
varint and a one-byte context; the reader takes every length class RFC 9000 allows
for both fields, so the two meet in the encodings of a value. -/
namespace Usque.ConnectIp

/-- An encoding of a value by RFC 9000 section 16, in any of the four classes: its
two top bits are the class, the others the value. -/
def Encodes (value : ℕ) (bytes : Bytes) : Prop :=
  ∃ kind < 4, value < 2 ^ (8 * 2 ^ kind - 2) ∧
    bytes = beBytes (2 ^ kind) (kind * 2 ^ (8 * 2 ^ kind - 2) + value)

/-! ## Big-endian numbers -/

theorem beBytes_length (size value : ℕ) : (beBytes size value).length = size := by
  induction size with
  | zero => rfl
  | succ size ih => rw [beBytes, List.length_cons, ih]

private theorem beNat_from (bytes : Bytes) (start : ℕ) :
    bytes.foldl (fun number byte => number * 256 + byte.toNat) start =
      start * 256 ^ bytes.length + beNat bytes := by
  induction bytes generalizing start with
  | nil => simp [beNat]
  | cons byte rest ih =>
    have head := ih (start * 256 + byte.toNat)
    have alone := ih (0 * 256 + byte.toNat)
    simp only [beNat, List.foldl_cons, List.length_cons, Nat.pow_succ] at head alone ⊢
    rw [head, alone]
    ring

theorem beNat_cons (byte : UInt8) (rest : Bytes) :
    beNat (byte :: rest) = byte.toNat * 256 ^ rest.length + beNat rest := by
  have folded := beNat_from rest (0 * 256 + byte.toNat)
  rw [Nat.zero_mul, Nat.zero_add] at folded
  simpa [beNat] using folded

theorem beNat_lt (bytes : Bytes) : beNat bytes < 256 ^ bytes.length := by
  induction bytes with
  | nil => exact Nat.one_pos
  | cons byte rest ih =>
    have bound := byte.toNat_lt
    have scaled : byte.toNat * 256 ^ rest.length ≤ 255 * 256 ^ rest.length :=
      Nat.mul_le_mul_right _ (by omega)
    rw [beNat_cons, List.length_cons, Nat.pow_succ]
    omega

/-- The digits of a number only depend on its residue. -/
private theorem beBytes_add_mul (size value count : ℕ) :
    beBytes size (count * 256 ^ size + value) = beBytes size value := by
  induction size generalizing count with
  | zero => rfl
  | succ size ih =>
    have positive : 0 < 256 ^ size := Nat.pow_pos (by omega)
    have regroup : count * 256 ^ (size + 1) + value = count * 256 * 256 ^ size + value := by
      rw [Nat.pow_succ]
      ring
    have top : UInt8.ofNat ((count * 256 * 256 ^ size + value) / 256 ^ size) =
        UInt8.ofNat (value / 256 ^ size) := by
      apply UInt8.toNat_inj.mp
      rw [Nat.mul_comm, Nat.mul_add_div positive]
      simp
    rw [regroup, beBytes, beBytes, top, ih (count * 256)]

/-- Writing reads back, up to the width. -/
theorem beNat_beBytes (size value : ℕ) : beNat (beBytes size value) = value % 256 ^ size := by
  induction size with
  | zero => simp [beBytes, beNat, Nat.mod_one]
  | succ size ih =>
    rw [beBytes, beNat_cons, beBytes_length, ih, Nat.pow_succ, Nat.mod_mul]
    simp only [UInt8.toNat_ofNat']
    rw [Nat.mul_comm, Nat.add_comm]

/-- Reading writes back. -/
theorem beBytes_beNat (bytes : Bytes) : beBytes bytes.length (beNat bytes) = bytes := by
  induction bytes with
  | nil => rfl
  | cons byte rest ih =>
    have small : beNat rest / 256 ^ rest.length = 0 := Nat.div_eq_of_lt (beNat_lt rest)
    have top : beNat (byte :: rest) / 256 ^ rest.length = byte.toNat := by
      rw [beNat_cons, Nat.mul_comm, Nat.mul_add_div (Nat.pow_pos (by omega)), small, Nat.add_zero]
    rw [List.length_cons, beBytes, top, UInt8.ofNat_toNat, beNat_cons, beBytes_add_mul, ih]

/-! ## Varints -/

/-- The byte length of a class, and what its values and its first byte are bounded
by. -/
private theorem class_cases {kind : ℕ} (valid : kind < 4) :
    (kind = 0 ∧ 2 ^ kind = 1) ∨ (kind = 1 ∧ 2 ^ kind = 2) ∨ (kind = 2 ∧ 2 ^ kind = 4) ∨
      (kind = 3 ∧ 2 ^ kind = 8) := by
  have range : kind = 0 ∨ kind = 1 ∨ kind = 2 ∨ kind = 3 := by omega
  rcases range with rfl | rfl | rfl | rfl <;> simp

/-- The first byte of an encoding names its class. -/
private theorem encoded_class {kind value : ℕ} (valid : kind < 4)
    (fits : value < 2 ^ (8 * 2 ^ kind - 2)) :
    ∃ first rest, beBytes (2 ^ kind) (kind * 2 ^ (8 * 2 ^ kind - 2) + value) = first :: rest ∧
      first.toNat / 64 = kind := by
  rcases class_cases valid with ⟨rfl, -⟩ | ⟨rfl, -⟩ | ⟨rfl, -⟩ | ⟨rfl, -⟩ <;>
    refine ⟨_, _, rfl, ?_⟩ <;> simp at fits ⊢ <;> omega

/-- The value bits of an encoding. -/
private theorem encoded_value {kind value : ℕ} (valid : kind < 4)
    (fits : value < 2 ^ (8 * 2 ^ kind - 2)) :
    (kind * 2 ^ (8 * 2 ^ kind - 2) + value) % 256 ^ (2 ^ kind) % 2 ^ (8 * 2 ^ kind - 2) = value := by
  rcases class_cases valid with ⟨rfl, -⟩ | ⟨rfl, -⟩ | ⟨rfl, -⟩ | ⟨rfl, -⟩ <;>
    simp at fits ⊢ <;> omega

/-- The reader takes any encoding of a value off the front. -/
theorem getVarint_encoded {value : ℕ} {encoding : Bytes} (encodes : Encodes value encoding)
    (rest : Bytes) : getVarint (encoding ++ rest) = some (value, rest) := by
  obtain ⟨kind, valid, fits, rfl⟩ := encodes
  obtain ⟨first, tail, shape, top⟩ := encoded_class valid fits
  have length : (first :: tail).length = 2 ^ kind := by rw [← shape, beBytes_length]
  have enough : ¬ ((first :: tail) ++ rest).length < 2 ^ kind := by
    rw [List.length_append, length]
    omega
  have read : beNat (first :: tail) % 2 ^ (8 * 2 ^ kind - 2) = value := by
    rw [← shape, beNat_beBytes]
    exact encoded_value valid fits
  rw [shape]
  simp only [getVarint, List.cons_append, top]
  rw [← List.cons_append, if_neg enough, List.take_left' length, List.drop_left' length, read]

/-- Behind its class, a number of the class's length. -/
private theorem number_class {kind : ℕ} {first : UInt8} {rest : Bytes} (valid : kind < 4)
    (top : first.toNat / 64 = kind) (length : (first :: rest).length = 2 ^ kind) :
    beNat (first :: rest) / 2 ^ (8 * 2 ^ kind - 2) = kind := by
  have bound := beNat_lt rest
  have byte := first.toNat_lt
  rw [beNat_cons]
  rw [List.length_cons] at length
  have short : rest.length = 2 ^ kind - 1 := by omega
  rw [short] at bound ⊢
  rcases class_cases valid with ⟨rfl, -⟩ | ⟨rfl, -⟩ | ⟨rfl, -⟩ | ⟨rfl, -⟩ <;>
    simp at bound ⊢ <;> omega

/-- What the reader takes is an encoding of the value it returns. -/
theorem getVarint_encodes {bytes rest : Bytes} {value : ℕ}
    (read : getVarint bytes = some (value, rest)) :
    ∃ encoding, Encodes value encoding ∧ bytes = encoding ++ rest := by
  cases bytes with
  | nil => cases read
  | cons first tail =>
    simp only [getVarint] at read
    split at read
    · cases read
    · rename_i enough
      generalize kindDef : first.toNat / 64 = kind at read enough
      simp only [Option.some.injEq, Prod.mk.injEq] at read
      obtain ⟨rfl, rfl⟩ := read
      have valid : kind < 4 := by
        have bound := first.toNat_lt
        omega
      refine ⟨(first :: tail).take (2 ^ kind), ⟨kind, valid, Nat.mod_lt _ (Nat.pow_pos (by omega)), ?_⟩,
        (List.take_append_drop _ _).symm⟩
      have length : ((first :: tail).take (2 ^ kind)).length = 2 ^ kind := by
        rw [List.length_take]
        omega
      obtain ⟨taken, shape⟩ : ∃ taken, (first :: tail).take (2 ^ kind) = first :: taken := by
        obtain ⟨size, positive⟩ := Nat.exists_eq_succ_of_ne_zero (Nat.two_pow_pos kind).ne'
        exact ⟨tail.take size, by rw [positive, List.take_succ_cons]⟩
      rw [shape] at length ⊢
      have digits := beBytes_beNat (first :: taken)
      have split := Nat.div_add_mod (beNat (first :: taken)) (2 ^ (8 * 2 ^ kind - 2))
      rw [number_class valid kindDef length, Nat.mul_comm] at split
      rw [split, ← length, digits]

/-- What the writer writes is an encoding, and every value below 2^62 can be written. -/
theorem putVarint_encodes {value : ℕ} (fits : value < 2 ^ 62) :
    ∃ encoding, putVarint value = some encoding ∧ Encodes value encoding := by
  have found : ∃ kind < 4, varintClass value = some kind ∧ value < 2 ^ (8 * 2 ^ kind - 2) := by
    unfold varintClass
    split
    · exact ⟨0, by decide, rfl, by assumption⟩
    · split
      · exact ⟨1, by decide, rfl, by assumption⟩
      · split
        · exact ⟨2, by decide, rfl, by assumption⟩
        · exact ⟨3, by decide, rfl, fits⟩
  obtain ⟨kind, valid, chosen, small⟩ := found
  refine ⟨_, by rw [putVarint, chosen, Option.map_some], kind, valid, small, rfl⟩

/-- The one-byte encoding of zero, the writer's context id. -/
theorem encodes_zero : Encodes 0 [0x00] := ⟨0, by decide, by decide, rfl⟩

/-! ## Datagrams -/

/-- `parse_datagram` accepts exactly an encoding of the flow id, an encoding of zero
and a payload. -/
theorem parseDatagram_eq_some_iff {dgram payload : Bytes} {flowId : UInt64} :
    parseDatagram dgram flowId = some payload ↔
      ∃ flow context, Encodes flowId.toNat flow ∧ Encodes 0 context ∧
        dgram = flow ++ context ++ payload ∧ payload ≠ [] := by
  constructor
  · intro parsed
    unfold parseDatagram at parsed
    split at parsed
    · cases parsed
    rename_i flowRead afterFlow readFlow
    split at parsed
    · cases parsed
    rename_i same
    split at parsed
    · cases parsed
    rename_i contextId afterContext readContext
    split at parsed
    · cases parsed
    rename_i zero
    split at parsed
    · cases parsed
    rename_i filled
    cases parsed
    obtain ⟨flow, encodesFlow, shape⟩ := getVarint_encodes readFlow
    obtain ⟨context, encodesContext, tail⟩ := getVarint_encodes readContext
    rw [Classical.not_not.mp same] at encodesFlow
    rw [Classical.not_not.mp zero] at encodesContext
    refine ⟨flow, context, encodesFlow, encodesContext, ?_, filled⟩
    rw [shape, tail, List.append_assoc]
  · rintro ⟨flow, context, encodesFlow, encodesContext, rfl, filled⟩
    have readFlow := getVarint_encoded encodesFlow (context ++ payload)
    have readContext := getVarint_encoded encodesContext payload
    rw [List.append_assoc]
    simp [parseDatagram, readFlow, readContext, filled]

/-- What `build_flow_prefix` builds: an encoding of the flow id and one of zero. -/
theorem buildFlowPrefix_encodes {flowId : UInt64} (fits : flowId.toNat < 2 ^ 62) :
    ∃ flow, buildFlowPrefix flowId = .ok (flow ++ [0x00]) ∧ Encodes flowId.toNat flow := by
  obtain ⟨flow, written, encodes⟩ := putVarint_encodes fits
  exact ⟨flow, by rw [buildFlowPrefix, written], encodes⟩

/-- Two request streams have different quarter stream ids. -/
private theorem quarter_ne {streamId other : UInt64} (requestStream : streamId.toNat % 4 = 0)
    (otherRequest : other.toNat % 4 = 0) (distinct : streamId ≠ other) :
    (streamId / 4).toNat ≠ (other / 4).toNat := by
  intro same
  apply distinct
  apply UInt64.toNat_inj.mp
  simp only [UInt64.toNat_div, UInt64.reduceToNat] at same
  omega

/-- The framing of CONNECT-IP: what is built for a flow parses to its payload, what
parses is exactly the language of the framing, and a DATAGRAM of one request stream
is never taken for another's. -/
theorem datagram_framing (flowId : UInt64) (dgram payload : Bytes) :
    (flowId.toNat < 2 ^ 62 → payload ≠ [] →
      ∃ flowPrefix, buildFlowPrefix flowId = .ok flowPrefix ∧
        parseDatagram (flowPrefix ++ payload) flowId = some payload) ∧
    (parseDatagram dgram flowId = some payload ↔
      ∃ flow context, Encodes flowId.toNat flow ∧ Encodes 0 context ∧
        dgram = flow ++ context ++ payload ∧ payload ≠ []) ∧
    (∀ streamId other : UInt64, streamId.toNat % 4 = 0 → other.toNat % 4 = 0 → streamId ≠ other →
      ∀ flow rest, Encodes (streamId / 4).toNat flow →
        parseDatagram (flow ++ rest) (other / 4) = none) := by
  refine ⟨?_, parseDatagram_eq_some_iff, ?_⟩
  · intro fits filled
    obtain ⟨flow, built, encodes⟩ := buildFlowPrefix_encodes fits
    exact ⟨_, built, parseDatagram_eq_some_iff.mpr ⟨flow, _, encodes, encodes_zero, rfl, filled⟩⟩
  · intro streamId other requestStream otherRequest distinct flow rest encodes
    have foreign := quarter_ne requestStream otherRequest distinct
    simp only [parseDatagram, getVarint_encoded encodes rest]
    rw [if_pos foreign]

end Usque.ConnectIp
