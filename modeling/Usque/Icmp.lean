import Usque.Net

/-! ICMP messages the tunnel composes (`api/icmp.rs`): the Packet Too Big
replies for oversize inner packets, and the Echo Request of the activation
probe. -/
namespace Usque.Icmp

open Packet
open Splice (overwrite patched range)

def icmpHeaderLen : ℕ := 8
def icmpTypeDestUnreachable : UInt8 := 3
def icmpCodeFragNeeded : UInt8 := 4
def icmpv6TypePacketTooBig : UInt8 := 2
def icmpTypeEchoRequest : UInt8 := 8
def icmpv6TypeEchoRequest : UInt8 := 128
def echoIdentifier : UInt16 := 0x5551

/-- The words of a buffer added up, a last odd byte padded with zero. -/
def sumChunks : Bytes → ℕ
  | high :: low :: rest => be16 high low + sumChunks rest
  | [last] => be16 last 0
  | [] => 0

def checksum (buf : Bytes) : UInt16 :=
  ~~~ (UInt16.ofNat (foldCarries (sumChunks buf) (sumChunks buf)))

/-- `u32::to_be_bytes`. -/
def toBeBytes32 (value : ℕ) : Bytes :=
  [UInt8.ofNat (value / 16777216), UInt8.ofNat (value / 65536), UInt8.ofNat (value / 256),
    UInt8.ofNat value]

def icmpv6Checksum (src dst icmp : Bytes) : UInt16 :=
  checksum (src ++ dst ++ toBeBytes32 icmp.length ++ [0, 0, 0, 58] ++ icmp)

/-- Bytes of the offending packet that fit in a 576-byte IPv4 reply. -/
def ipv4QuoteLen (packet : Bytes) : ℕ :=
  min packet.length (576 - (ipv4HeaderLen + icmpHeaderLen))

/-- The assignments of `compose_ipv4_frag_needed` before its checksums. -/
def ipv4FragNeededFields (packet : Bytes) (mtu : UInt16) : List (ℕ × Bytes) :=
  let src := range packet 12 16
  let dst := range packet 16 20
  let totalLen := ipv4HeaderLen + icmpHeaderLen + ipv4QuoteLen packet
  [(0, [0x45]), (2, toBeBytes (UInt16.ofNat totalLen)), (8, [64]), (9, [1]),
    (12, dst), (16, src),
    (20, [icmpTypeDestUnreachable]), (21, [icmpCodeFragNeeded]), (24, toBeBytes mtu),
    (28, packet.take (ipv4QuoteLen packet))]

def composeIpv4FragNeeded (packet : Bytes) (mtu : UInt16) : Option Bytes :=
  if packet.length < ipv4HeaderLen then none
  else
    let totalLen := ipv4HeaderLen + icmpHeaderLen + ipv4QuoteLen packet
    let out := patched (List.replicate totalLen 0) (ipv4FragNeededFields packet mtu)
    let ipChecksum := checksum (out.take ipv4HeaderLen)
    let out := overwrite out 10 (toBeBytes ipChecksum)
    let icmpChecksum := checksum (out.drop ipv4HeaderLen)
    some (overwrite out 22 (toBeBytes icmpChecksum))

/-- Bytes of the offending packet that fit in a 1280-byte IPv6 reply. -/
def ipv6QuoteLen (packet : Bytes) : ℕ := min packet.length 1232

/-- The assignments of `compose_ipv6_packet_too_big` before its checksum. -/
def ipv6PacketTooBigFields (packet : Bytes) (mtu : UInt16) : List (ℕ × Bytes) :=
  let src := range packet 8 24
  let dst := range packet 24 40
  let payloadLen := icmpHeaderLen + ipv6QuoteLen packet
  [(0, [0x60]), (4, toBeBytes (UInt16.ofNat payloadLen)), (6, [58]), (7, [64]),
    (8, dst), (24, src),
    (40, [icmpv6TypePacketTooBig]), (41, [0]), (44, toBeBytes32 mtu.toNat),
    (48, packet.take (ipv6QuoteLen packet))]

def composeIpv6PacketTooBig (packet : Bytes) (mtu : UInt16) : Option Bytes :=
  if packet.length < ipv6HeaderLen then none
  else
    let totalLen := ipv6HeaderLen + (icmpHeaderLen + ipv6QuoteLen packet)
    let out := patched (List.replicate totalLen 0) (ipv6PacketTooBigFields packet mtu)
    let icmpChecksum := icmpv6Checksum (range out 8 24) (range out 24 40) (out.drop 40)
    some (overwrite out 42 (toBeBytes icmpChecksum))

def composeIcmpTooLarge (packet : Bytes) (mtu : UInt16) : Option Bytes :=
  if held : 0 < packet.length then
    if ipVersion packet held = 4 then composeIpv4FragNeeded packet mtu
    else if ipVersion packet held = 6 then composeIpv6PacketTooBig packet mtu
    else none
  else none

/-! ## Echo Requests -/

/-- `Ipv4Addr::octets`. -/
def ipv4Octets (address : Ipv4Addr) : Bytes :=
  [3, 2, 1, 0].map fun place => UInt8.ofNat (address.bits.toNat / 256 ^ place)

/-- `Ipv6Addr::octets`. -/
def ipv6Octets (address : Ipv6Addr) : Bytes :=
  [15, 14, 13, 12, 11, 10, 9, 8, 7, 6, 5, 4, 3, 2, 1, 0].map fun place =>
    UInt8.ofNat (address.bits.toNat / 256 ^ place)

def composeEchoRequest (source destination : IpAddr) (sequence : UInt16) : Option Bytes :=
  match source, destination with
  | .v4 source, .v4 destination =>
    let totalLen := ipv4HeaderLen + icmpHeaderLen
    let out := patched (List.replicate totalLen 0)
      [(0, [0x45]), (2, toBeBytes (UInt16.ofNat totalLen)), (8, [64]), (9, [1]),
        (12, ipv4Octets source), (16, ipv4Octets destination), (20, [icmpTypeEchoRequest]),
        (24, toBeBytes echoIdentifier), (26, toBeBytes sequence)]
    let ipChecksum := checksum (out.take ipv4HeaderLen)
    let out := overwrite out 10 (toBeBytes ipChecksum)
    let icmpChecksum := checksum (out.drop ipv4HeaderLen)
    some (overwrite out 22 (toBeBytes icmpChecksum))
  | .v6 source, .v6 destination =>
    let out := patched (List.replicate (ipv6HeaderLen + icmpHeaderLen) 0)
      [(0, [0x60]), (4, toBeBytes (UInt16.ofNat icmpHeaderLen)), (6, [58]), (7, [64]),
        (8, ipv6Octets source), (24, ipv6Octets destination), (40, [icmpv6TypeEchoRequest]),
        (44, toBeBytes echoIdentifier), (46, toBeBytes sequence)]
    let icmpChecksum := icmpv6Checksum (range out 8 24) (range out 24 40) (out.drop 40)
    some (overwrite out 42 (toBeBytes icmpChecksum))
  | _, _ => none

/-! ## What a reply reports -/

/-- The MTU field of a Packet Too Big message, where the composer's own tests
read it: bytes 24 and 25 of an IPv4 message, 44 to 47 of an IPv6 one. -/
def reportedMtu (message : Bytes) : Option ℕ := do
  let first : UInt8 ← message[0]?
  if first >>> 4 = 4 then
    let high : UInt8 ← message[24]?
    let low : UInt8 ← message[25]?
    some (be16 high low)
  else
    let a : UInt8 ← message[44]?
    let b : UInt8 ← message[45]?
    let c : UInt8 ← message[46]?
    let d : UInt8 ← message[47]?
    some (a.toNat * 16777216 + b.toNat * 65536 + be16 c d)

theorem toBeBytes_length (value : UInt16) : (toBeBytes value).length = 2 := rfl

theorem toBeBytes32_length (value : ℕ) : (toBeBytes32 value).length = 4 := rfl

theorem be16_toBeBytes (value : UInt16) :
    be16 (value >>> 8).toUInt8 value.toUInt8 = value.toNat := by
  have bound := value.toNat_lt
  simp only [be16, UInt16.toNat_toUInt8, UInt16.toNat_shiftRight, UInt16.reduceToNat,
    Nat.shiftRight_eq_div_pow, Nat.reduceMod, Nat.reducePow] at bound ⊢
  omega

theorem be32_toBeBytes32 (value : UInt16) :
    (UInt8.ofNat (value.toNat / 16777216)).toNat * 16777216 +
      (UInt8.ofNat (value.toNat / 65536)).toNat * 65536 +
      be16 (UInt8.ofNat (value.toNat / 256)) (UInt8.ofNat value.toNat) = value.toNat := by
  have bound := value.toNat_lt
  simp only [be16, UInt8.toNat_ofNat', Nat.reducePow] at bound ⊢
  omega

/-- The two checksums are written outside the bytes read here. -/
theorem overwrite_outside {buf : Bytes} {offset index : ℕ} {checksum : UInt16}
    (fits : offset + 2 ≤ buf.length) (outside : index < offset ∨ offset + 2 ≤ index) :
    (overwrite buf offset (toBeBytes checksum))[index]? = buf[index]? := by
  rw [Splice.getElem?_overwrite (by simpa only [toBeBytes_length] using fits), toBeBytes_length,
    if_neg (by omega)]

theorem overwrite_size {buf : Bytes} {offset : ℕ} (checksum : UInt16)
    (fits : offset + 2 ≤ buf.length) :
    (overwrite buf offset (toBeBytes checksum)).length = buf.length :=
  Splice.overwrite_length (by simpa only [toBeBytes_length] using fits)

theorem ipv4_fields_fit {packet : Bytes} (mtu : UInt16)
    (long : ipv4HeaderLen ≤ packet.length) :
    Splice.Fit (List.replicate (ipv4HeaderLen + icmpHeaderLen + ipv4QuoteLen packet)
      (0 : UInt8)).length (ipv4FragNeededFields packet mtu) := by
  simp only [ipv4HeaderLen] at long
  have srcLen : (range packet 12 (12 + 4)).length = 4 := Splice.range_length (by omega)
  have dstLen : (range packet 16 (16 + 4)).length = 4 := Splice.range_length (by omega)
  intro patch member
  simp only [ipv4FragNeededFields, List.mem_cons, List.not_mem_nil, or_false] at member
  rw [List.length_replicate]
  rcases member with rfl | rfl | rfl | rfl | rfl | rfl | rfl | rfl | rfl | rfl <;>
    simp_all [ipv4HeaderLen, icmpHeaderLen, toBeBytes_length, ipv4QuoteLen] <;> omega

theorem ipv6_fields_fit {packet : Bytes} (mtu : UInt16)
    (long : ipv6HeaderLen ≤ packet.length) :
    Splice.Fit (List.replicate (ipv6HeaderLen + (icmpHeaderLen + ipv6QuoteLen packet))
      (0 : UInt8)).length (ipv6PacketTooBigFields packet mtu) := by
  simp only [ipv6HeaderLen] at long
  have srcLen : (range packet 8 (8 + 16)).length = 16 := Splice.range_length (by omega)
  have dstLen : (range packet 24 (24 + 16)).length = 16 := Splice.range_length (by omega)
  intro patch member
  simp only [ipv6PacketTooBigFields, List.mem_cons, List.not_mem_nil, or_false] at member
  rw [List.length_replicate]
  rcases member with rfl | rfl | rfl | rfl | rfl | rfl | rfl | rfl | rfl | rfl <;>
    simp_all [ipv6HeaderLen, icmpHeaderLen, toBeBytes_length, toBeBytes32_length, ipv6QuoteLen] <;>
    omega

private theorem ipv4_fields_at {packet : Bytes} (mtu : UInt16)
    (long : ipv4HeaderLen ≤ packet.length) (old : Option UInt8) :
    Splice.patchedAt 0 old (ipv4FragNeededFields packet mtu) = some 0x45 ∧
    Splice.patchedAt 24 old (ipv4FragNeededFields packet mtu) = some (mtu >>> 8).toUInt8 ∧
    Splice.patchedAt 25 old (ipv4FragNeededFields packet mtu) = some mtu.toUInt8 := by
  simp only [ipv4HeaderLen] at long
  have srcLen : (range packet 12 (12 + 4)).length = 4 := Splice.range_length (by omega)
  have dstLen : (range packet 16 (16 + 4)).length = 4 := Splice.range_length (by omega)
  simp_all [Splice.patchedAt, ipv4FragNeededFields, toBeBytes]

private theorem ipv6_fields_at {packet : Bytes} (mtu : UInt16)
    (long : ipv6HeaderLen ≤ packet.length) (old : Option UInt8) :
    Splice.patchedAt 0 old (ipv6PacketTooBigFields packet mtu) = some 0x60 ∧
    Splice.patchedAt 44 old (ipv6PacketTooBigFields packet mtu) =
      some (UInt8.ofNat (mtu.toNat / 16777216)) ∧
    Splice.patchedAt 45 old (ipv6PacketTooBigFields packet mtu) =
      some (UInt8.ofNat (mtu.toNat / 65536)) ∧
    Splice.patchedAt 46 old (ipv6PacketTooBigFields packet mtu) =
      some (UInt8.ofNat (mtu.toNat / 256)) ∧
    Splice.patchedAt 47 old (ipv6PacketTooBigFields packet mtu) =
      some (UInt8.ofNat mtu.toNat) := by
  simp only [ipv6HeaderLen] at long
  have srcLen : (range packet 8 (8 + 16)).length = 16 := Splice.range_length (by omega)
  have dstLen : (range packet 24 (24 + 16)).length = 16 := Splice.range_length (by omega)
  simp_all [Splice.patchedAt, ipv6PacketTooBigFields, toBeBytes, toBeBytes32]

/-- An IPv4 reply carries the MTU it was composed with. -/
theorem composeIpv4FragNeeded_reports {packet : Bytes} (mtu : UInt16)
    (long : ipv4HeaderLen ≤ packet.length) :
    ∃ message, composeIpv4FragNeeded packet mtu = some message ∧
      reportedMtu message = some mtu.toNat := by
  have fit := ipv4_fields_fit mtu long
  have size := Splice.patched_length fit
  have read := Splice.getElem?_patched fit
  simp only [composeIpv4FragNeeded, if_neg (Nat.not_lt.mpr long), Option.some.injEq,
    exists_eq_left']
  generalize patched _ (ipv4FragNeededFields packet mtu) = out at *
  rw [List.length_replicate] at size
  simp only [ipv4HeaderLen, icmpHeaderLen] at size
  -- Neither checksum is among the bytes the reader of the MTU looks at.
  have whole (index : ℕ) (outside : index < 10 ∨ 24 ≤ index) (ip icmp : UInt16) :
      (overwrite (overwrite out 10 (toBeBytes ip)) 22 (toBeBytes icmp))[index]? = out[index]? := by
    have fits : 10 + 2 ≤ out.length := by omega
    have first := overwrite_size ip fits
    rw [overwrite_outside (by omega) (by omega), overwrite_outside (by omega) (by omega)]
  have field (index : ℕ) := ipv4_fields_at mtu long
    (List.replicate (ipv4HeaderLen + icmpHeaderLen + ipv4QuoteLen packet) (0 : UInt8))[index]?
  simp only [reportedMtu, whole _ (.inl (by omega : 0 < 10)), whole 24 (.inr (by omega)),
    whole 25 (.inr (by omega)), read, (field 0).1, (field 24).2.1, (field 25).2.2]
  exact congrArg some (be16_toBeBytes mtu)

/-- An IPv6 reply carries the MTU it was composed with. -/
theorem composeIpv6PacketTooBig_reports {packet : Bytes} (mtu : UInt16)
    (long : ipv6HeaderLen ≤ packet.length) :
    ∃ message, composeIpv6PacketTooBig packet mtu = some message ∧
      reportedMtu message = some mtu.toNat := by
  have fit := ipv6_fields_fit mtu long
  have size := Splice.patched_length fit
  have read := Splice.getElem?_patched fit
  simp only [composeIpv6PacketTooBig, if_neg (Nat.not_lt.mpr long), Option.some.injEq,
    exists_eq_left']
  generalize patched _ (ipv6PacketTooBigFields packet mtu) = out at *
  rw [List.length_replicate] at size
  simp only [ipv6HeaderLen, icmpHeaderLen] at size
  have whole (index : ℕ) (outside : index < 42 ∨ 44 ≤ index) (icmp : UInt16) :
      (overwrite out 42 (toBeBytes icmp))[index]? = out[index]? :=
    overwrite_outside (by omega) (by omega)
  have field (index : ℕ) := ipv6_fields_at mtu long
    (List.replicate (ipv6HeaderLen + (icmpHeaderLen + ipv6QuoteLen packet)) (0 : UInt8))[index]?
  obtain ⟨version, -⟩ := field 0
  obtain ⟨-, first, -⟩ := field 44
  obtain ⟨-, -, second, -⟩ := field 45
  obtain ⟨-, -, -, third, -⟩ := field 46
  obtain ⟨-, -, -, -, fourth⟩ := field 47
  simp only [reportedMtu, whole _ (.inl (by omega : 0 < 42)), whole 44 (.inr (by omega)),
    whole 45 (.inr (by omega)), whole 46 (.inr (by omega)), whole 47 (.inr (by omega)), read,
    version, first, second, third, fourth]
  exact congrArg some (be32_toBeBytes32 mtu)

/-- Every well-headed packet gets a reply that carries the given MTU. -/
theorem composeIcmpTooLarge_reports {packet : Bytes} (mtu : UInt16) (sound : WellHeaded packet) :
    ∃ message, composeIcmpTooLarge packet mtu = some message ∧
      reportedMtu message = some mtu.toNat := by
  obtain ⟨held, ⟨four, long⟩ | ⟨six, long⟩⟩ := sound
  · simpa only [composeIcmpTooLarge, dif_pos held, if_pos four]
      using composeIpv4FragNeeded_reports mtu long
  · have other : ¬ ipVersion packet held = 4 := by rw [six]; decide
    simpa only [composeIcmpTooLarge, dif_pos held, if_neg other, if_pos six]
      using composeIpv6PacketTooBig_reports mtu long

end Usque.Icmp
