import Usque.HopDecrement

/-! The Packet Too Big replies the tunnel composes, as whole messages: a header the
other end accepts, the addresses of the offending packet exchanged, lengths that are
the real ones, the longest quote that fits, and checksums that verify. -/
namespace Usque.TooLargeReply

open Packet Icmp Checksum HopDecrement
open Splice (overwrite patched range)

/-- Packets that get no reply: nothing, an unknown version, or less than the
fixed header of the version. -/
def Unanswerable (packet : Bytes) : Prop :=
  packet = [] ∨ ∃ first : UInt8, packet[0]? = some first ∧
    ((first >>> 4 ≠ 4 ∧ first >>> 4 ≠ 6) ∨
      (first >>> 4 = 4 ∧ packet.length < ipv4HeaderLen) ∨
      (first >>> 4 = 6 ∧ packet.length < ipv6HeaderLen))

/-- The message quotes a packet from `start` on, as much of it as the limit
leaves room for. -/
structure QuotesLongest (packet message : Bytes) (start limit : ℕ) : Prop where
  size : message.length ≤ limit
  quoted : message.drop start <+: packet
  longest : ∀ part : Bytes, part <+: packet → start + part.length ≤ limit →
    part <+: message.drop start

/-- A well-formed Fragmentation Needed message about a packet. -/
structure FragNeeded (packet : Bytes) (mtu : UInt16) (message : Bytes) : Prop where
  accepted : validateIncoming message = .ok 4
  headerLen : statedHeaderLen message = ipv4HeaderLen
  totalLen : wordAt message 2 = some message.length
  protocol : message[9]? = some 1
  source : range message 12 16 = range packet 16 20
  destination : range message 16 20 = range packet 12 16
  kind : message[20]? = some icmpTypeDestUnreachable
  code : message[21]? = some icmpCodeFragNeeded
  mtu : wordAt message 24 = some mtu.toNat
  quote : QuotesLongest packet message 28 576
  header : Verifies (message.take ipv4HeaderLen)
  icmp : Verifies (message.drop ipv4HeaderLen)

/-- The pseudo-header of an ICMPv6 message inside an IPv6 packet. -/
def pseudoHeader (message : Bytes) : Bytes :=
  range message 8 24 ++ range message 24 40 ++ toBeBytes32 (message.length - ipv6HeaderLen) ++
    [0, 0, 0, 58]

/-- A well-formed ICMPv6 Packet Too Big message about a packet. -/
structure PacketTooBig (packet : Bytes) (mtu : UInt16) (message : Bytes) : Prop where
  accepted : validateIncoming message = .ok 6
  payloadLen : wordAt message 4 = some (message.length - ipv6HeaderLen)
  nextHeader : message[6]? = some 58
  source : range message 8 24 = range packet 24 40
  destination : range message 24 40 = range packet 8 24
  kind : message[40]? = some icmpv6TypePacketTooBig
  code : message[41]? = some 0
  mtu : range message 44 48 = toBeBytes32 mtu.toNat
  quote : QuotesLongest packet message 48 1280
  icmp : Verifies (pseudoHeader message ++ message.drop ipv6HeaderLen)

/-! ## Reading a composed message -/

private theorem range_of_drop {buf : Bytes} {start : ℕ} (size : ℕ) (whole : start + size = buf.length) :
    range buf start (start + size) = buf.drop start := by
  rw [range, Nat.add_sub_cancel_left, List.take_of_length_le]
  rw [List.length_drop]
  omega

theorem byteAt_of_range {buf : Bytes} {start : ℕ} {value : UInt8}
    (read : range buf start (start + 1) = [value]) : buf[start]? = some value := by
  have first := Splice.getElem?_range buf start (start + 1) 0
  rw [read, if_pos (by omega)] at first
  exact first.symm

theorem wordAt_of_range {buf : Bytes} {start : ℕ} {value : UInt16}
    (read : range buf start (start + 2) = toBeBytes value) :
    wordAt buf start = some value.toNat := by
  have first := Splice.getElem?_range buf start (start + 2) 0
  have second := Splice.getElem?_range buf start (start + 2) 1
  rw [read, if_pos (by omega)] at first second
  have high : buf[start]? = some (value >>> 8).toUInt8 := first.symm
  have low : buf[start + 1]? = some value.toUInt8 := second.symm
  simp only [wordAt, high, low, Option.bind_eq_bind, Option.bind_some, be16_toBeBytes]

theorem ipVersion_of_first {buf : Bytes} {first : UInt8} (read : buf[0]? = some first) :
    ∃ held, ipVersion buf held = first >>> 4 := by
  obtain ⟨held, here⟩ := List.getElem?_eq_some_iff.mp read
  exact ⟨held, by rw [ipVersion, here]⟩

theorem statedHeaderLen_of_first {buf : Bytes} {first : UInt8}
    (read : buf[0]? = some first) : statedHeaderLen buf = (first &&& 0x0f).toNat * 4 := by
  cases buf with
  | nil => cases read
  | cons head rest =>
    cases read
    rfl

theorem toNat_ofNat_small {size : ℕ} (small : size < 65536) :
    (UInt16.ofNat size).toNat = size := by
  rw [UInt16.toNat_ofNat']
  exact Nat.mod_eq_of_lt small

/-- A front of the packet as long as the limit allows is the longest quote. -/
private theorem quotes_longest {packet message : Bytes} {start limit : ℕ} (room : start ≤ limit)
    (size : message.length = start + min packet.length (limit - start))
    (quote : message.drop start = packet.take (min packet.length (limit - start))) :
    QuotesLongest packet message start limit := by
  refine ⟨by omega, by rw [quote]; exact List.take_prefix _ _, ?_⟩
  intro part front fits
  rw [quote]
  have inPacket := front.length_le
  exact List.prefix_of_prefix_length_le front (List.take_prefix _ _)
    (by rw [List.length_take]; omega)

/-! ## Composing a message -/

/-- A message of zeros with some fields written to it, and words at the offsets of its
checksums. -/
structure Composed (fields : List (ℕ × Bytes)) (checksums : List ℕ) (size : ℕ) (message : Bytes) :
    Prop where
  length : message.length = size
  read : ∀ field ∈ fields, range message field.1 (field.1 + field.2.length) = field.2
  blank : ∀ index < size, (∀ field ∈ fields, index < field.1 ∨ field.1 + field.2.length ≤ index) →
    (∀ offset ∈ checksums, index < offset ∨ offset + 2 ≤ index) → message[index]? = some 0

/-- A word that no field covers. -/
def Apart (fields : List (ℕ × Bytes)) (offset : ℕ) : Prop :=
  ∀ field ∈ fields, offset + 2 ≤ field.1 ∨ field.1 + field.2.length ≤ offset

section Composing

variable {fields : List (ℕ × Bytes)} {checksums : List ℕ} {size offset : ℕ} {message out : Bytes}

theorem composed_patched (fit : Splice.Fit (List.replicate size (0 : UInt8)).length fields)
    (ascending : Splice.Ascending fields) :
    Composed fields [] size (patched (List.replicate size 0) fields) where
  length := (Splice.patched_length fit).trans List.length_replicate
  read _ member := Splice.range_patched fit ascending member
  blank index inside outside _ := by
    have kept : range (patched (List.replicate size 0) fields) index (index + 1) =
        range (List.replicate size 0) index (index + 1) :=
      Splice.range_patched_outside fit outside
    have here := congrArg (fun part : Bytes => part[0]?) kept
    simp only [Splice.getElem?_range] at here
    rw [if_pos (by omega), if_pos (by omega), List.getElem?_replicate, if_pos (by omega)] at here
    exact here

/-- Writing a checksum keeps every field that does not cover its word. -/
theorem Composed.written (composed : Composed fields checksums size message)
    (inside : offset + 2 ≤ size) (apart : Apart fields offset) (checksum : UInt16) :
    Composed fields (offset :: checksums) size (overwrite message offset (toBeBytes checksum)) where
  length := (overwrite_size checksum (composed.length ▸ inside)).trans composed.length
  read field member := by
    have fits : offset + (toBeBytes checksum).length ≤ message.length := composed.length ▸ inside
    rw [Splice.range_overwrite_outside fits (apart field member).symm]
    exact composed.read field member
  blank index here outside others := by
    have fits : offset + 2 ≤ message.length := composed.length ▸ inside
    obtain ⟨own, earlier⟩ := List.forall_mem_cons.mp others
    rw [overwrite_outside fits own]
    exact composed.blank index here outside earlier

theorem Composed.blank_word (composed : Composed fields [] size message) (inside : offset + 2 ≤ size)
    (apart : Apart fields offset) : message[offset]? = some 0 ∧ message[offset + 1]? = some 0 := by
  have none (index : ℕ) : ∀ offset ∈ ([] : List ℕ), index < offset ∨ offset + 2 ≤ index := by simp
  constructor
  · refine composed.blank offset (by omega) (fun field member => ?_) (none _)
    have outside := apart field member
    omega
  · refine composed.blank (offset + 1) (by omega) (fun field member => ?_) (none _)
    have outside := apart field member
    omega

/-- The two checksums of an IPv4 message, the second over the bytes behind the header. -/
def ipv4Checksummed (out : Bytes) : Bytes :=
  let aged := overwrite out 10 (toBeBytes (checksum (out.take ipv4HeaderLen)))
  overwrite aged 22 (toBeBytes (checksum (aged.drop ipv4HeaderLen)))

/-- The one checksum of an ICMPv6 message. -/
def ipv6Checksummed (out : Bytes) : Bytes :=
  overwrite out 42 (toBeBytes (icmpv6Checksum (range out 8 24) (range out 24 40) (out.drop 40)))

/-- A message whose two IPv4 checksums were written over zero words verifies. -/
theorem ipv4_checksums_verify {out : Bytes} (whole : 28 ≤ out.length)
    (blankIp : out[10]? = some 0 ∧ out[11]? = some 0)
    (blankIcmp : out[22]? = some 0 ∧ out[23]? = some 0) :
    Verifies ((ipv4Checksummed out).take ipv4HeaderLen) ∧
      Verifies ((ipv4Checksummed out).drop ipv4HeaderLen) := by
  let aged := overwrite out 10 (toBeBytes (checksum (out.take ipv4HeaderLen)))
  have agedLen : aged.length = out.length := overwrite_size _ (by omega)
  have fits : 22 + (toBeBytes (checksum (aged.drop ipv4HeaderLen))).length ≤ aged.length := by
    rw [toBeBytes_length]
    omega
  have fitsIp : 10 + (toBeBytes (checksum (out.take ipv4HeaderLen))).length ≤ ipv4HeaderLen := by
    rw [toBeBytes_length]
    decide
  constructor
  · have header : (ipv4Checksummed out).take ipv4HeaderLen =
        overwrite (out.take ipv4HeaderLen) 10 (toBeBytes (checksum (out.take ipv4HeaderLen))) := by
      rw [ipv4Checksummed, Splice.take_overwrite fits (by decide)]
      exact Splice.overwrite_take fitsIp (Nat.le_trans (by decide) whole)
    rw [header]
    apply overwrite_checksum_verifies rfl
    · rw [List.getElem?_take_of_lt (by decide)]
      exact blankIp.1
    · rw [List.getElem?_take_of_lt (by decide)]
      exact blankIp.2
  · have body : (ipv4Checksummed out).drop ipv4HeaderLen =
        overwrite (aged.drop ipv4HeaderLen) 2 (toBeBytes (checksum (aged.drop ipv4HeaderLen))) :=
      Splice.overwrite_drop (by decide) fits
    rw [body]
    apply overwrite_checksum_verifies rfl
    · rw [List.getElem?_drop]
      exact (overwrite_outside (by omega) (.inr (by omega))).trans blankIcmp.1
    · rw [List.getElem?_drop]
      exact (overwrite_outside (by omega) (.inr (by omega))).trans blankIcmp.2

/-- An ICMPv6 message verifies with its pseudo-header once its checksum has been
written over a zero word. -/
theorem ipv6_checksum_verifies {out : Bytes} (whole : 48 ≤ out.length)
    (blank : out[42]? = some 0 ∧ out[43]? = some 0) :
    Verifies (pseudoHeader (ipv6Checksummed out) ++ (ipv6Checksummed out).drop ipv6HeaderLen) := by
  have outLen : (out.drop 40).length = out.length - ipv6HeaderLen := List.length_drop
  have fits : 42 + (toBeBytes (icmpv6Checksum (range out 8 24) (range out 24 40)
      (out.drop 40))).length ≤ out.length := by
    rw [toBeBytes_length]
    omega
  have messageLen : (ipv6Checksummed out).length = out.length := Splice.overwrite_length fits
  have source : range (ipv6Checksummed out) 8 24 = range out 8 24 :=
    Splice.range_overwrite_outside fits (.inl (by omega))
  have destination : range (ipv6Checksummed out) 24 40 = range out 24 40 :=
    Splice.range_overwrite_outside fits (.inl (by omega))
  have pseudo : pseudoHeader (ipv6Checksummed out) = pseudoHeader out := by
    rw [pseudoHeader, source, destination, messageLen, pseudoHeader]
  have pseudoLen : (pseudoHeader out).length = 40 := by
    have sourceLen : (range out 8 (8 + 16)).length = 16 := Splice.range_length (by omega)
    have destinationLen : (range out 24 (24 + 16)).length = 16 := Splice.range_length (by omega)
    simp only [pseudoHeader, List.length_append, toBeBytes32_length]
    rw [sourceLen, destinationLen]
    rfl
  have summed : icmpv6Checksum (range out 8 24) (range out 24 40) (out.drop 40) =
      checksum (pseudoHeader out ++ out.drop 40) := by
    rw [icmpv6Checksum, outLen, pseudoHeader]
  have body : (ipv6Checksummed out).drop ipv6HeaderLen = overwrite (out.drop 40) 2
      (toBeBytes (checksum (pseudoHeader out ++ out.drop 40))) := by
    rw [← summed]
    exact Splice.overwrite_drop (by decide) fits
  rw [pseudo, body, Splice.append_overwrite, pseudoLen]
  apply overwrite_checksum_verifies rfl
  · rw [List.getElem?_append_right (by omega), pseudoLen, List.getElem?_drop]
    exact blank.1
  · rw [List.getElem?_append_right (by omega), pseudoLen, List.getElem?_drop]
    exact blank.2

theorem ipv4_composed (fit : Splice.Fit (List.replicate size (0 : UInt8)).length fields)
    (ascending : Splice.Ascending fields) (whole : 28 ≤ size) (apartIp : Apart fields 10)
    (apartIcmp : Apart fields 22) :
    let message := ipv4Checksummed (patched (List.replicate size 0) fields)
    Composed fields [22, 10] size message ∧ Verifies (message.take ipv4HeaderLen) ∧
      Verifies (message.drop ipv4HeaderLen) := by
  have draft := composed_patched fit ascending
  refine ⟨(draft.written (by omega) apartIp _).written (by omega) apartIcmp _, ?_⟩
  exact ipv4_checksums_verify (whole.trans_eq draft.length.symm) (draft.blank_word (by omega) apartIp)
    (draft.blank_word (by omega) apartIcmp)

theorem ipv6_composed (fit : Splice.Fit (List.replicate size (0 : UInt8)).length fields)
    (ascending : Splice.Ascending fields) (whole : 48 ≤ size) (apart : Apart fields 42) :
    let message := ipv6Checksummed (patched (List.replicate size 0) fields)
    Composed fields [42] size message ∧
      Verifies (pseudoHeader message ++ message.drop ipv6HeaderLen) := by
  have draft := composed_patched fit ascending
  refine ⟨draft.written (by omega) apart _, ?_⟩
  exact ipv6_checksum_verifies (whole.trans_eq draft.length.symm) (draft.blank_word (by omega) apart)

end Composing

/-! ## IPv4 -/

private theorem ipv4_fields_ascending {packet : Bytes} (mtu : UInt16)
    (long : ipv4HeaderLen ≤ packet.length) :
    Splice.Ascending (ipv4FragNeededFields packet mtu) := by
  simp only [ipv4HeaderLen] at long
  have srcLen : (range packet 12 (12 + 4)).length = 4 := Splice.range_length (by omega)
  have dstLen : (range packet 16 (16 + 4)).length = 4 := Splice.range_length (by omega)
  simp_all [Splice.Ascending, ipv4FragNeededFields, toBeBytes_length]

/-- The fields leave the two checksum words of an IPv4 message alone. -/
private theorem ipv4_fields_apart {packet : Bytes} (mtu : UInt16)
    (long : ipv4HeaderLen ≤ packet.length) {offset : ℕ} (checksumAt : offset = 10 ∨ offset = 22) :
    Apart (ipv4FragNeededFields packet mtu) offset := by
  simp only [ipv4HeaderLen] at long
  have srcLen : (range packet 12 (12 + 4)).length = 4 := Splice.range_length (by omega)
  have dstLen : (range packet 16 (16 + 4)).length = 4 := Splice.range_length (by omega)
  rcases checksumAt with rfl | rfl <;> simp_all [Apart, ipv4FragNeededFields, toBeBytes_length]

theorem composeIpv4FragNeeded_wellFormed {packet : Bytes} (mtu : UInt16)
    (long : ipv4HeaderLen ≤ packet.length) :
    ∃ message, composeIpv4FragNeeded packet mtu = some message ∧
      FragNeeded packet mtu message := by
  have whole : 20 ≤ packet.length := long
  have quoteSize : (packet.take (ipv4QuoteLen packet)).length = ipv4QuoteLen packet :=
    List.length_take_of_le (Nat.min_le_left _ _)
  have room : ipv4HeaderLen + icmpHeaderLen + ipv4QuoteLen packet = 28 + ipv4QuoteLen packet := by
    rw [ipv4HeaderLen, icmpHeaderLen]
  have made : composeIpv4FragNeeded packet mtu = some (ipv4Checksummed _) := if_neg (Nat.not_lt.mpr long)
  obtain ⟨composed, header, icmp⟩ := ipv4_composed (ipv4_fields_fit mtu long)
    (ipv4_fields_ascending mtu long) (by omega) (ipv4_fields_apart mtu long (.inl rfl))
    (ipv4_fields_apart mtu long (.inr rfl))
  generalize ipv4Checksummed _ = message at made composed header icmp
  refine ⟨message, made, ?_⟩
  have messageRead := composed.read
  simp only [ipv4FragNeededFields, List.forall_mem_cons] at messageRead
  obtain ⟨version, totalLen, -, protocol, destination, source, kind, code, mtuField, quote, -⟩ :=
    messageRead
  have srcLen : (range packet 12 (12 + 4)).length = 4 := Splice.range_length (by omega)
  have dstLen : (range packet 16 (16 + 4)).length = 4 := Splice.range_length (by omega)
  have versionByte := byteAt_of_range version
  obtain ⟨held, four⟩ := ipVersion_of_first versionByte
  have length : message.length = 28 + ipv4QuoteLen packet := composed.length.trans room
  have quoted : message.drop 28 = packet.take (ipv4QuoteLen packet) := by
    rw [← quote, quoteSize, range_of_drop _ length.symm]
  exact {
    accepted := validateIncoming_ipv4 held four (by rw [length, ipv4HeaderLen]; omega)
    headerLen := by
      rw [statedHeaderLen_of_first versionByte]
      rfl
    totalLen := by
      rw [wordAt_of_range totalLen, room, toNat_ofNat_small (by rw [ipv4QuoteLen]; omega), length]
    protocol := byteAt_of_range protocol
    source := by rwa [dstLen] at destination
    destination := by rwa [srcLen] at source
    kind := byteAt_of_range kind
    code := byteAt_of_range code
    mtu := wordAt_of_range mtuField
    quote := quotes_longest (by omega) length quoted
    header
    icmp }

/-! ## IPv6 -/

private theorem ipv6_fields_ascending {packet : Bytes} (mtu : UInt16)
    (long : ipv6HeaderLen ≤ packet.length) :
    Splice.Ascending (ipv6PacketTooBigFields packet mtu) := by
  simp only [ipv6HeaderLen] at long
  have srcLen : (range packet 8 (8 + 16)).length = 16 := Splice.range_length (by omega)
  have dstLen : (range packet 24 (24 + 16)).length = 16 := Splice.range_length (by omega)
  simp_all [Splice.Ascending, ipv6PacketTooBigFields, toBeBytes_length, toBeBytes32_length]

/-- The fields leave the checksum word of an ICMPv6 message alone. -/
private theorem ipv6_fields_apart {packet : Bytes} (mtu : UInt16)
    (long : ipv6HeaderLen ≤ packet.length) :
    Apart (ipv6PacketTooBigFields packet mtu) 42 := by
  simp only [ipv6HeaderLen] at long
  have srcLen : (range packet 8 (8 + 16)).length = 16 := Splice.range_length (by omega)
  have dstLen : (range packet 24 (24 + 16)).length = 16 := Splice.range_length (by omega)
  simp_all [Apart, ipv6PacketTooBigFields, toBeBytes_length, toBeBytes32_length]

theorem composeIpv6PacketTooBig_wellFormed {packet : Bytes} (mtu : UInt16)
    (long : ipv6HeaderLen ≤ packet.length) :
    ∃ message, composeIpv6PacketTooBig packet mtu = some message ∧
      PacketTooBig packet mtu message := by
  have whole : 40 ≤ packet.length := long
  have quoteSize : (packet.take (ipv6QuoteLen packet)).length = ipv6QuoteLen packet :=
    List.length_take_of_le (Nat.min_le_left _ _)
  have room : ipv6HeaderLen + (icmpHeaderLen + ipv6QuoteLen packet) = 48 + ipv6QuoteLen packet := by
    rw [ipv6HeaderLen, icmpHeaderLen]
    omega
  have made : composeIpv6PacketTooBig packet mtu = some (ipv6Checksummed _) := if_neg (Nat.not_lt.mpr long)
  obtain ⟨composed, icmp⟩ := ipv6_composed (ipv6_fields_fit mtu long) (ipv6_fields_ascending mtu long)
    (by omega) (ipv6_fields_apart mtu long)
  generalize ipv6Checksummed _ = message at made composed icmp
  refine ⟨message, made, ?_⟩
  have messageRead := composed.read
  simp only [ipv6PacketTooBigFields, List.forall_mem_cons] at messageRead
  obtain ⟨version, payloadLen, nextHeader, -, destination, source, kind, code, mtuField, quote, -⟩ :=
    messageRead
  have srcLen : (range packet 8 (8 + 16)).length = 16 := Splice.range_length (by omega)
  have dstLen : (range packet 24 (24 + 16)).length = 16 := Splice.range_length (by omega)
  obtain ⟨held, six⟩ := ipVersion_of_first (byteAt_of_range version)
  have length : message.length = 48 + ipv6QuoteLen packet := composed.length.trans room
  have quoted : message.drop 48 = packet.take (ipv6QuoteLen packet) := by
    rw [← quote, quoteSize, range_of_drop _ length.symm]
  have payload : icmpHeaderLen + ipv6QuoteLen packet = message.length - ipv6HeaderLen := by omega
  exact {
    accepted := validateIncoming_ipv6 held six (by rw [length, ipv6HeaderLen]; omega)
    payloadLen := by
      rw [wordAt_of_range payloadLen,
        toNat_ofNat_small (by rw [icmpHeaderLen, ipv6QuoteLen]; omega), payload]
    nextHeader := byteAt_of_range nextHeader
    source := by rwa [dstLen] at destination
    destination := by rwa [srcLen] at source
    kind := byteAt_of_range kind
    code := byteAt_of_range code
    mtu := mtuField
    quote := quotes_longest (by omega) length quoted
    icmp }

/-! ## Every packet -/

/-- Every packet gets a well-formed reply of its own family, except those that
have no whole header of a known version. -/
theorem compose_icmp_too_large_contract (packet : Bytes) (mtu : UInt16) :
    (composeIcmpTooLarge packet mtu = none ↔ Unanswerable packet) ∧
    ∀ message, composeIcmpTooLarge packet mtu = some message →
      (∃ held, ipVersion packet held = 4 ∧ FragNeeded packet mtu message) ∨
      (∃ held, ipVersion packet held = 6 ∧ PacketTooBig packet mtu message) := by
  by_cases held : 0 < packet.length
  · have first : packet[0]? = some packet[0] := List.getElem?_eq_getElem held
    have nonempty : packet ≠ [] := List.ne_nil_of_length_pos held
    have unanswerable : Unanswerable packet ↔
        (packet[0] >>> 4 ≠ 4 ∧ packet[0] >>> 4 ≠ 6) ∨
          (packet[0] >>> 4 = 4 ∧ packet.length < ipv4HeaderLen) ∨
          (packet[0] >>> 4 = 6 ∧ packet.length < ipv6HeaderLen) := by
      simp only [Unanswerable, nonempty, first, Option.some.injEq, exists_eq_left', false_or]
    rw [unanswerable, composeIcmpTooLarge, dif_pos held]
    by_cases four : ipVersion packet held = 4
    · have version : packet[0] >>> 4 = 4 := four
      rw [if_pos four]
      by_cases long : ipv4HeaderLen ≤ packet.length
      · obtain ⟨reply, composed, wellFormed⟩ := composeIpv4FragNeeded_wellFormed mtu long
        rw [composed, version]
        refine ⟨by simp [Nat.not_lt.mpr long], ?_⟩
        rintro message ⟨⟩
        exact .inl ⟨held, four, wellFormed⟩
      · rw [composeIpv4FragNeeded, if_pos (Nat.not_le.mp long), version]
        exact ⟨by simp [Nat.not_le.mp long], by rintro message ⟨⟩⟩
    · rw [if_neg four]
      have notFour : packet[0] >>> 4 ≠ 4 := four
      by_cases six : ipVersion packet held = 6
      · have version : packet[0] >>> 4 = 6 := six
        rw [if_pos six]
        by_cases long : ipv6HeaderLen ≤ packet.length
        · obtain ⟨reply, composed, wellFormed⟩ := composeIpv6PacketTooBig_wellFormed mtu long
          rw [composed, version]
          refine ⟨by simp [Nat.not_lt.mpr long], ?_⟩
          rintro message ⟨⟩
          exact .inr ⟨held, six, wellFormed⟩
        · rw [composeIpv6PacketTooBig, if_pos (Nat.not_le.mp long), version]
          exact ⟨by simp [Nat.not_le.mp long], by rintro message ⟨⟩⟩
      · have notSix : packet[0] >>> 4 ≠ 6 := six
        rw [if_neg six]
        exact ⟨by simp [notFour, notSix], by rintro message ⟨⟩⟩
  · have nothing : packet = [] := List.eq_nil_of_length_eq_zero (by omega)
    rw [composeIcmpTooLarge, dif_neg held]
    exact ⟨by simp [Unanswerable, nothing], by rintro message ⟨⟩⟩

end Usque.TooLargeReply
