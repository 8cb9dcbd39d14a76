import Usque.Lib.Splice
import Mathlib.Data.UInt

/-! IP packets as the tunnel handles them (`api/packet.rs`): the hop-count
decrement and header checksum of an outgoing packet and the header check of an
incoming one. Indexing is by proof, so an out-of-bounds read cannot be written. -/
namespace Usque

/-- A byte string: an IP packet, a DATAGRAM or a buffer. -/
abbrev Bytes := List UInt8

namespace Packet

open Splice (overwrite)

def ipv4HeaderLen : ℕ := 20
def ipv6HeaderLen : ℕ := 40

/-- Why a packet is refused. -/
inductive PacketError where
  | empty
  | unknownVersion (version : UInt8)
  | tooShort (version : UInt8) (len : ℕ)
  | ttlExpired (ttl : UInt8)
  deriving DecidableEq, Repr

/-- `u16::from_be_bytes`, widened. -/
def be16 (high low : UInt8) : ℕ := high.toNat * 256 + low.toNat

/-- `u16::to_be_bytes`. -/
def toBeBytes (value : UInt16) : Bytes := [(value >>> 8).toUInt8, value.toUInt8]

/-- The summing loop of `calculate_ipv4_checksum` from byte `index` on: words in
network order, the checksum word skipped, a last odd byte padded with zero. -/
def sumWords : ℕ → Bytes → ℕ → ℕ
  | index, high :: low :: rest, sum =>
    if index = 10 then sumWords (index + 2) rest sum
    else sumWords (index + 2) rest (sum + be16 high low)
  | index, [last], sum => if index = 10 then sum else sum + be16 last 0
  | _, [], sum => sum

/-- `while sum >> 16 != 0`, with the number of turns as fuel. -/
def foldCarries : ℕ → ℕ → ℕ
  | 0, sum => sum
  | turns + 1, sum =>
    if sum >>> 16 ≠ 0 then foldCarries turns ((sum &&& 0xffff) + (sum >>> 16)) else sum

/-- Each turn makes the sum smaller, so `sum` turns leave no carry. -/
theorem foldCarries_lt (sum turns : ℕ) (enough : sum ≤ turns) :
    foldCarries turns sum < 65536 := by
  induction turns generalizing sum with
  | zero => simp [foldCarries, Nat.le_zero.mp enough]
  | succ turns ih =>
    simp only [foldCarries]
    have low : sum &&& 0xffff = sum % 65536 := Nat.and_two_pow_sub_one_eq_mod sum 16
    rw [low, Nat.shiftRight_eq_div_pow]
    split
    · exact ih _ (by omega)
    · omega

def calculateIpv4Checksum (header : Bytes) (held : 0 < header.length) : UInt16 :=
  let ihl := (header[0] &&& 0x0f).toNat * 4
  let len := min ihl header.length
  let sum := sumWords 0 (header.take len) 0
  ~~~ (UInt16.ofNat (foldCarries sum sum))

/-- `ip_version`: the high nibble of the first byte. -/
def ipVersion (buf : Bytes) (held : 0 < buf.length) : UInt8 := buf[0] >>> 4

/-- `prepare_outgoing`: the answer, and the buffer it leaves behind. -/
def prepareOutgoing (buf : Bytes) : Except PacketError UInt8 × Bytes :=
  if held : 0 < buf.length then
    if ipVersion buf held = 4 then
      if long : ipv4HeaderLen ≤ buf.length then
        have inside : 8 < buf.length := Nat.lt_of_lt_of_le (by decide) long
        let ttl := buf[8]
        if ttl ≤ 1 then (.error (.ttlExpired ttl), buf)
        else
          let aged := buf.set 8 (ttl - 1)
          let checksum := calculateIpv4Checksum aged (by simpa [aged] using held)
          (.ok 4, overwrite aged 10 (toBeBytes checksum))
      else (.error (.tooShort 4 buf.length), buf)
    else if ipVersion buf held = 6 then
      if long : ipv6HeaderLen ≤ buf.length then
        have inside : 7 < buf.length := Nat.lt_of_lt_of_le (by decide) long
        let hopLimit := buf[7]
        if hopLimit ≤ 1 then (.error (.ttlExpired hopLimit), buf)
        else (.ok 6, buf.set 7 (hopLimit - 1))
      else (.error (.tooShort 6 buf.length), buf)
    else (.error (.unknownVersion (ipVersion buf held)), buf)
  else (.error .empty, buf)

def validateIncoming (buf : Bytes) : Except PacketError UInt8 :=
  if held : 0 < buf.length then
    if ipVersion buf held = 4 then
      if buf.length < ipv4HeaderLen then .error (.tooShort 4 buf.length) else .ok 4
    else if ipVersion buf held = 6 then
      if buf.length < ipv6HeaderLen then .error (.tooShort 6 buf.length) else .ok 6
    else .error (.unknownVersion (ipVersion buf held))
  else .error .empty

/-- A packet the tunnel may carry: a whole fixed header of a known version. -/
structure WellHeaded (buf : Bytes) : Prop where
  held : 0 < buf.length
  header : (ipVersion buf held = 4 ∧ ipv4HeaderLen ≤ buf.length) ∨
    (ipVersion buf held = 6 ∧ ipv6HeaderLen ≤ buf.length)

/-- The header check accepts exactly the well-headed packets. -/
theorem validateIncoming_ok_iff (buf : Bytes) :
    (∃ version, validateIncoming buf = .ok version) ↔ WellHeaded buf := by
  unfold validateIncoming
  constructor
  · rintro ⟨version, accepted⟩
    split at accepted
    · rename_i held
      refine ⟨held, ?_⟩
      split at accepted
      · split at accepted
        · cases accepted
        · exact .inl ⟨‹_›, by omega⟩
      · split at accepted
        · split at accepted
          · cases accepted
          · exact .inr ⟨‹_›, by omega⟩
        · cases accepted
    · cases accepted
  · rintro ⟨held, ⟨four, long⟩ | ⟨six, long⟩⟩
    · exact ⟨4, by rw [dif_pos held, if_pos four, if_neg (by omega)]⟩
    · exact ⟨6, by rw [dif_pos held, if_neg (by rw [six]; decide), if_pos six, if_neg (by omega)]⟩

/-- The version is read from the first byte only. -/
theorem ipVersion_congr {buf out : Bytes} (held : 0 < buf.length) (heldOut : 0 < out.length)
    (first : out[0]? = buf[0]?) : ipVersion out heldOut = ipVersion buf held := by
  have same : some out[0] = some buf[0] := by
    simpa only [List.getElem?_eq_getElem heldOut, List.getElem?_eq_getElem held] using first
  simp only [ipVersion, Option.some.inj same]

/-- Whether a packet is well-headed depends on its first byte and length only. -/
theorem WellHeaded.of_same {buf out : Bytes} (sound : WellHeaded buf)
    (first : out[0]? = buf[0]?) (size : out.length = buf.length) : WellHeaded out := by
  obtain ⟨held, header⟩ := sound
  have heldOut : 0 < out.length := by omega
  have version := ipVersion_congr held heldOut first
  exact ⟨heldOut, by simpa only [version, size] using header⟩

private theorem aged_ipv4_same {buf : Bytes} {ttl : UInt8} {checksum : UInt16}
    (long : ipv4HeaderLen ≤ buf.length) :
    (overwrite (buf.set 8 ttl) 10 (toBeBytes checksum))[0]? = buf[0]? ∧
      (overwrite (buf.set 8 ttl) 10 (toBeBytes checksum)).length = buf.length := by
  have fits : 10 + (toBeBytes checksum).length ≤ (buf.set 8 ttl).length := by
    simp only [toBeBytes, List.length_set, List.length_cons, List.length_nil]
    exact Nat.le_trans (by decide) long
  exact ⟨by simp [Splice.getElem?_overwrite fits], by simp [Splice.overwrite_length fits]⟩

/-- Everything `prepare_outgoing` can do: refuse and leave the buffer alone,
or age a well-headed packet in place. -/
theorem prepareOutgoing_cases (buf : Bytes) :
    (∃ reason, (prepareOutgoing buf).1 = .error reason ∧ (prepareOutgoing buf).2 = buf) ∨
    (∃ version, (prepareOutgoing buf).1 = .ok version ∧ WellHeaded (prepareOutgoing buf).2 ∧
      (prepareOutgoing buf).2.length = buf.length) := by
  unfold prepareOutgoing
  split
  · rename_i held
    split
    · rename_i four
      split
      · rename_i long
        dsimp only
        split
        · exact .inl ⟨_, rfl, rfl⟩
        · obtain ⟨first, size⟩ := aged_ipv4_same long
          exact .inr ⟨4, rfl, WellHeaded.of_same ⟨held, .inl ⟨four, long⟩⟩ first size, size⟩
      · exact .inl ⟨_, rfl, rfl⟩
    · split
      · rename_i six
        split
        · rename_i long
          dsimp only
          split
          · exact .inl ⟨_, rfl, rfl⟩
          · exact .inr ⟨6, rfl, WellHeaded.of_same ⟨held, .inr ⟨six, long⟩⟩ (by simp) (by simp),
              by simp⟩
        · exact .inl ⟨_, rfl, rfl⟩
      · exact .inl ⟨_, rfl, rfl⟩
  · exact .inl ⟨_, rfl, rfl⟩

/-- The buffer keeps its length whatever the answer. -/
theorem prepareOutgoing_length (buf : Bytes) : (prepareOutgoing buf).2.length = buf.length := by
  rcases prepareOutgoing_cases buf with ⟨_, -, same⟩ | ⟨_, -, -, size⟩
  · rw [same]
  · exact size

/-- An accepted packet passes the check the other end applies. -/
theorem prepareOutgoing_wellHeaded {buf : Bytes} {version : UInt8}
    (accepted : (prepareOutgoing buf).1 = .ok version) : WellHeaded (prepareOutgoing buf).2 := by
  rcases prepareOutgoing_cases buf with ⟨_, refused, -⟩ | ⟨_, -, sound, -⟩
  · rw [accepted] at refused
    cases refused
  · exact sound

end Packet
end Usque
