import Usque.RunTunnel
import Usque.SessionSteps
import Usque.TooLargeReply

/-! The activation probe on the wire. `compose_echo_request` writes every checksum of the
packet; `prepare_outgoing` spends a hop of it and writes the IPv4 header checksum again,
and what it leaves is still a whole Echo Request. -/
namespace Usque.EchoProbe

open Packet Icmp Checksum HopDecrement TooLargeReply
open Splice (overwrite patched range)

/-- A well-formed ICMP Echo Request inside IPv4. -/
structure EchoIpv4 (source destination : Ipv4Addr) (sequence : UInt16) (packet : Bytes) :
    Prop where
  accepted : validateIncoming packet = .ok 4
  headerLen : statedHeaderLen packet = ipv4HeaderLen
  totalLen : wordAt packet 2 = some packet.length
  whole : packet.length = ipv4HeaderLen + icmpHeaderLen
  protocol : packet[9]? = some 1
  source : range packet 12 16 = ipv4Octets source
  destination : range packet 16 20 = ipv4Octets destination
  kind : packet[20]? = some icmpTypeEchoRequest
  code : packet[21]? = some 0
  identifier : wordAt packet 24 = some echoIdentifier.toNat
  sequence : wordAt packet 26 = some sequence.toNat
  header : Verifies (packet.take ipv4HeaderLen)
  icmp : Verifies (packet.drop ipv4HeaderLen)

/-- A well-formed ICMPv6 Echo Request. -/
structure EchoIpv6 (source destination : Ipv6Addr) (sequence : UInt16) (packet : Bytes) :
    Prop where
  accepted : validateIncoming packet = .ok 6
  payloadLen : wordAt packet 4 = some (packet.length - ipv6HeaderLen)
  whole : packet.length = ipv6HeaderLen + icmpHeaderLen
  nextHeader : packet[6]? = some 58
  source : range packet 8 24 = ipv6Octets source
  destination : range packet 24 40 = ipv6Octets destination
  kind : packet[40]? = some icmpv6TypeEchoRequest
  code : packet[41]? = some 0
  identifier : wordAt packet 44 = some echoIdentifier.toNat
  sequence : wordAt packet 46 = some sequence.toNat
  icmp : Verifies (pseudoHeader packet ++ packet.drop ipv6HeaderLen)

/-! ## Composing -/

/-- The assignments of the IPv4 branch before its checksums. -/
def ipv4EchoFields (source destination : Ipv4Addr) (sequence : UInt16) : List (ℕ × Bytes) :=
  [(0, [0x45]), (2, toBeBytes (UInt16.ofNat (ipv4HeaderLen + icmpHeaderLen))), (8, [64]), (9, [1]),
    (12, ipv4Octets source), (16, ipv4Octets destination), (20, [icmpTypeEchoRequest]),
    (24, toBeBytes echoIdentifier), (26, toBeBytes sequence)]

/-- The assignments of the IPv6 branch before its checksum. -/
def ipv6EchoFields (source destination : Ipv6Addr) (sequence : UInt16) : List (ℕ × Bytes) :=
  [(0, [0x60]), (4, toBeBytes (UInt16.ofNat icmpHeaderLen)), (6, [58]), (7, [64]),
    (8, ipv6Octets source), (24, ipv6Octets destination), (40, [icmpv6TypeEchoRequest]),
    (44, toBeBytes echoIdentifier), (46, toBeBytes sequence)]

theorem ipv4Octets_length (address : Ipv4Addr) : (ipv4Octets address).length = 4 := rfl

theorem ipv6Octets_length (address : Ipv6Addr) : (ipv6Octets address).length = 16 := rfl

section Fields

variable (source destination : Ipv4Addr) (source6 destination6 : Ipv6Addr) (sequence : UInt16)

private theorem ipv4_fields_fit : Splice.Fit (List.replicate 28 (0 : UInt8)).length
    (ipv4EchoFields source destination sequence) := by
  simp [Splice.Fit, ipv4EchoFields, toBeBytes_length, ipv4Octets_length]

private theorem ipv4_fields_ascending :
    Splice.Ascending (ipv4EchoFields source destination sequence) := by
  simp [Splice.Ascending, ipv4EchoFields, toBeBytes_length, ipv4Octets_length]

private theorem ipv4_fields_apart {offset : ℕ} (checksumAt : offset = 10 ∨ offset = 22) :
    Apart (ipv4EchoFields source destination sequence) offset := by
  rcases checksumAt with rfl | rfl <;>
    simp [Apart, ipv4EchoFields, toBeBytes_length, ipv4Octets_length]

private theorem ipv6_fields_fit : Splice.Fit (List.replicate 48 (0 : UInt8)).length
    (ipv6EchoFields source6 destination6 sequence) := by
  simp [Splice.Fit, ipv6EchoFields, toBeBytes_length, ipv6Octets_length]

private theorem ipv6_fields_ascending :
    Splice.Ascending (ipv6EchoFields source6 destination6 sequence) := by
  simp [Splice.Ascending, ipv6EchoFields, toBeBytes_length, ipv6Octets_length]

private theorem ipv6_fields_apart : Apart (ipv6EchoFields source6 destination6 sequence) 42 := by
  simp [Apart, ipv6EchoFields, toBeBytes_length, ipv6Octets_length]

end Fields

/-- The IPv4 branch writes a whole request with a time to live of 64. -/
theorem composeEchoRequest_ipv4 (source destination : Ipv4Addr) (sequence : UInt16) :
    ∃ packet, composeEchoRequest (.v4 source) (.v4 destination) sequence = some packet ∧
      packet[8]? = some 64 ∧ EchoIpv4 source destination sequence packet := by
  have made : composeEchoRequest (.v4 source) (.v4 destination) sequence = some (ipv4Checksummed
      (patched (List.replicate 28 0) (ipv4EchoFields source destination sequence))) := rfl
  obtain ⟨composed, header, icmp⟩ := ipv4_composed (ipv4_fields_fit source destination sequence)
    (ipv4_fields_ascending source destination sequence) (Nat.le_refl 28)
    (ipv4_fields_apart source destination sequence (.inl rfl))
    (ipv4_fields_apart source destination sequence (.inr rfl))
  generalize ipv4Checksummed _ = message at made composed header icmp
  have messageRead := composed.read
  have code : message[21]? = some 0 := composed.blank 21 (by decide)
    (by simp [ipv4EchoFields, toBeBytes_length, ipv4Octets_length]) (by simp)
  simp only [ipv4EchoFields, List.forall_mem_cons] at messageRead
  obtain ⟨version, totalLen, ttl, protocol, sourceField, destinationField, kind, identifier,
    sequenceField, -⟩ := messageRead
  have versionByte := byteAt_of_range version
  obtain ⟨held, four⟩ := ipVersion_of_first versionByte
  have length : message.length = 20 + 8 := composed.length
  refine ⟨message, made, byteAt_of_range ttl, ?_⟩
  exact {
    accepted := validateIncoming_ipv4 held four (Nat.le.intro length.symm)
    headerLen := by
      rw [statedHeaderLen_of_first versionByte]
      rfl
    totalLen := by
      rw [wordAt_of_range totalLen, length]
      rfl
    whole := length
    protocol := byteAt_of_range protocol
    source := sourceField
    destination := destinationField
    kind := byteAt_of_range kind
    code
    identifier := wordAt_of_range identifier
    sequence := wordAt_of_range sequenceField
    header
    icmp }

/-- The IPv6 branch writes a whole request with a hop limit of 64. -/
theorem composeEchoRequest_ipv6 (source destination : Ipv6Addr) (sequence : UInt16) :
    ∃ packet, composeEchoRequest (.v6 source) (.v6 destination) sequence = some packet ∧
      packet[7]? = some 64 ∧ EchoIpv6 source destination sequence packet := by
  have made : composeEchoRequest (.v6 source) (.v6 destination) sequence = some (ipv6Checksummed
      (patched (List.replicate 48 0) (ipv6EchoFields source destination sequence))) := rfl
  obtain ⟨composed, icmp⟩ := ipv6_composed (ipv6_fields_fit source destination sequence)
    (ipv6_fields_ascending source destination sequence) (Nat.le_refl 48)
    (ipv6_fields_apart source destination sequence)
  generalize ipv6Checksummed _ = message at made composed icmp
  have messageRead := composed.read
  have code : message[41]? = some 0 := composed.blank 41 (by decide)
    (by simp [ipv6EchoFields, toBeBytes_length, ipv6Octets_length]) (by simp)
  simp only [ipv6EchoFields, List.forall_mem_cons] at messageRead
  obtain ⟨version, payloadLen, nextHeader, hopLimit, sourceField, destinationField, kind,
    identifier, sequenceField, -⟩ := messageRead
  obtain ⟨held, six⟩ := ipVersion_of_first (byteAt_of_range version)
  have length : message.length = 40 + 8 := composed.length
  refine ⟨message, made, byteAt_of_range hopLimit, ?_⟩
  exact {
    accepted := validateIncoming_ipv6 held six (Nat.le.intro length.symm)
    payloadLen := by
      rw [wordAt_of_range payloadLen, length]
      rfl
    whole := length
    nextHeader := byteAt_of_range nextHeader
    source := sourceField
    destination := destinationField
    kind := byteAt_of_range kind
    code
    identifier := wordAt_of_range identifier
    sequence := wordAt_of_range sequenceField
    icmp }

/-! ## Forwarding -/

/-- An Echo Request with a hop to spend is forwarded as the same Echo Request. -/
theorem EchoIpv4.forwarded {source destination : Ipv4Addr} {sequence : UInt16} {packet : Bytes}
    {ttl : UInt8} (echo : EchoIpv4 source destination sequence packet)
    (hops : packet[8]? = some ttl) (left : 2 ≤ ttl.toNat) :
    (prepareOutgoing packet).1 = .ok 4 ∧
      EchoIpv4 source destination sequence (prepareOutgoing packet).2 := by
  obtain ⟨held, four⟩ := ipVersion_of_validated echo.accepted
  have forwardable : Ipv4Forwardable packet ttl :=
    ⟨held, four, Nat.le.intro echo.whole.symm, hops, left⟩
  obtain ⟨hop, verifies, -⟩ := ipv4_forwarded forwardable
  obtain ⟨answer, -, after⟩ := ipv4_accepted forwardable
  have stated : statedHeaderLen packet = 20 := echo.headerLen
  have whole : packet.length = 20 + 8 := echo.whole
  have header := verifies (by omega) (by omega)
  rw [stated] at header
  refine ⟨answer, {
    accepted := after
    headerLen := (hop.statedHeaderLen_kept (by simp)).trans echo.headerLen
    totalLen := by
      rw [hop.wordAt_kept (by simp) (by simp), hop.size]
      exact echo.totalLen
    whole := hop.size.trans echo.whole
    protocol := (hop.kept 9 (by simp)).trans echo.protocol
    source := (hop.range_kept (by simp)).trans echo.source
    destination := (hop.range_kept (by simp)).trans echo.destination
    kind := (hop.kept 20 (by simp)).trans echo.kind
    code := (hop.kept 21 (by simp)).trans echo.code
    identifier := (hop.wordAt_kept (by simp) (by simp)).trans echo.identifier
    sequence := (hop.wordAt_kept (by simp) (by simp)).trans echo.sequence
    header
    icmp := by
      rw [hop.drop_kept (by simp [ipv4HeaderLen])]
      exact echo.icmp }⟩

/-- The same for IPv6, where no checksum covers the hop limit. -/
theorem EchoIpv6.forwarded {source destination : Ipv6Addr} {sequence : UInt16} {packet : Bytes}
    {hopLimit : UInt8} (echo : EchoIpv6 source destination sequence packet)
    (hops : packet[7]? = some hopLimit) (left : 2 ≤ hopLimit.toNat) :
    (prepareOutgoing packet).1 = .ok 6 ∧
      EchoIpv6 source destination sequence (prepareOutgoing packet).2 := by
  obtain ⟨held, six⟩ := ipVersion_of_validated echo.accepted
  have forwardable : Ipv6Forwardable packet hopLimit :=
    ⟨held, six, Nat.le.intro echo.whole.symm, hops, left⟩
  have hop := ipv6_forwarded forwardable
  obtain ⟨answer, -, after⟩ := ipv6_accepted forwardable
  have pseudo : pseudoHeader (prepareOutgoing packet).2 = pseudoHeader packet := by
    rw [pseudoHeader, hop.range_kept (by simp), hop.range_kept (by simp),
      hop.size, pseudoHeader]
  refine ⟨answer, {
    accepted := after
    payloadLen := by
      rw [hop.wordAt_kept (by simp) (by simp), hop.size]
      exact echo.payloadLen
    whole := hop.size.trans echo.whole
    nextHeader := (hop.kept 6 (by simp)).trans echo.nextHeader
    source := (hop.range_kept (by simp)).trans echo.source
    destination := (hop.range_kept (by simp)).trans echo.destination
    kind := (hop.kept 40 (by simp)).trans echo.kind
    code := (hop.kept 41 (by simp)).trans echo.code
    identifier := (hop.wordAt_kept (by simp) (by simp)).trans echo.identifier
    sequence := (hop.wordAt_kept (by simp) (by simp)).trans echo.sequence
    icmp := by
      rw [pseudo, hop.drop_kept (by simp [ipv6HeaderLen])]
      exact echo.icmp }⟩

/-! ## The probe of a session -/

/-- A session that sends its probe sends what `prepare_outgoing` makes of the configured
packet, and no other session has changed that packet. -/
theorem step_probes {spkiOf : Bytes → Option Bytes} {cfg : MasqueConfig}
    {endpoint : MasqueEndpoint} {mtu : ℕ} {s next : Session} {input : Session.Input}
    {tunnel : Session.Tunnel} {packet : Bytes} (configured : cfg.activationProbe = some packet)
    (here : s.stage = .probe tunnel)
    (stepped : Session.step spkiOf cfg endpoint mtu s input = some next) :
    ∃ dgrams : List Bytes, next.log = s.log ++ dgrams.map (fun dgram => .sent (.probe dgram)) ∧
      ∀ dgram ∈ dgrams, dgram = tunnel.flowPrefix ++ (prepareOutgoing packet).2 := by
  cases Session.step_called stepped with
  | probe other took maxWritableLen tape there =>
    cases here.symm.trans there
    simp only [Session.sendProbe, configured]
    refine ⟨_, rfl, ?_⟩
    intro dgram member
    rcases SendPacket.sendPacketDatagram_sent tunnel.flowPrefix packet s.device.mtu maxWritableLen
      tunnel.stats tape with once | none
    · rw [once] at member
      exact List.mem_singleton.mp member
    · rw [none] at member
      cases member
  | setUp _ there | setUpFailed _ there | established there | handshakePass _ _ there
  | connectPass _ _ _ _ there _ | connectTimeout _ _ _ _ there _ | flushHandshake _ _ _ there
  | flushRequest _ _ _ _ there | flushConnect _ _ _ _ _ there | flushPending _ _ _ there
  | flushPendingFailed _ _ _ there | certificate _ there | requested _ _ there
  | polled _ _ _ there | announce _ there | loopEnded _ _ _ there _ | cleanUp _ there
  | pending _ _ _ _ there | entered _ _ there | pump _ _ _ _ there _ =>
    rw [here] at there
    cases there

/-- Whatever the addresses and the sequence number, the probe is accepted on its way out and
leaves as a whole Echo Request that carries them; between families none is composed. Every
session that sends the probe sends it as it is here. -/
theorem activation_probe_valid :
    (∀ (source destination : Ipv4Addr) (sequence : UInt16), ∃ packet,
      composeEchoRequest (.v4 source) (.v4 destination) sequence = some packet ∧
        (prepareOutgoing packet).1 = .ok 4 ∧
        EchoIpv4 source destination sequence (prepareOutgoing packet).2) ∧
    (∀ (source destination : Ipv6Addr) (sequence : UInt16), ∃ packet,
      composeEchoRequest (.v6 source) (.v6 destination) sequence = some packet ∧
        (prepareOutgoing packet).1 = .ok 6 ∧
        EchoIpv6 source destination sequence (prepareOutgoing packet).2) ∧
    (∀ (address : Ipv4Addr) (address6 : Ipv6Addr) (sequence : UInt16),
      composeEchoRequest (.v4 address) (.v6 address6) sequence = none ∧
        composeEchoRequest (.v6 address6) (.v4 address) sequence = none) ∧
    ∀ (spkiOf : Bytes → Option Bytes) (cfg : MasqueConfig) (endpoint : MasqueEndpoint) (mtu : ℕ)
      (s next : Session) (input : Session.Input) (tunnel : Session.Tunnel) (packet : Bytes),
      cfg.activationProbe = some packet → s.stage = .probe tunnel →
      Session.step spkiOf cfg endpoint mtu s input = some next →
      ∃ dgrams : List Bytes, next.log = s.log ++ dgrams.map (fun dgram => .sent (.probe dgram)) ∧
        ∀ dgram ∈ dgrams, dgram = tunnel.flowPrefix ++ (prepareOutgoing packet).2 := by
  refine ⟨?_, ?_, fun _ _ _ => ⟨rfl, rfl⟩, ?_⟩
  · intro source destination sequence
    obtain ⟨packet, composed, ttl, echo⟩ := composeEchoRequest_ipv4 source destination sequence
    exact ⟨packet, composed, echo.forwarded ttl (by decide)⟩
  · intro source destination sequence
    obtain ⟨packet, composed, hopLimit, echo⟩ := composeEchoRequest_ipv6 source destination sequence
    exact ⟨packet, composed, echo.forwarded hopLimit (by decide)⟩
  · intro _ _ _ _ _ _ _ _ _ configured here stepped
    exact step_probes configured here stepped

/-- An announced session about to send its probe. -/
def probing : Session where
  stage := .probe ⟨0, [0, 0], {}⟩
  started := 0
  heard := 0
  sessionEstablished := true
  now := 0
  device := DataLoop.smallDevice
  pending := none
  published := .disconnected
  moments := []
  log := []

theorem activation_probe_valid_small : ∃ packet next, ∃ dgrams : List Bytes,
    composeEchoRequest (.v4 ⟨0x64600001⟩) (.v4 ⟨0x01010101⟩) 1 = some packet ∧
      Session.step (fun _ => none) { RunTunnel.openLaunch.cfg with activationProbe := some packet }
        ⟨⟨.v4 ⟨0xc0000201⟩, 443⟩, "", [1, 2, 3]⟩ 1500 probing (.offered 0 none [.accepted]) =
          some next ∧
      next.log = probing.log ++ dgrams.map (fun dgram => .sent (.probe dgram)) ∧
      ∀ dgram ∈ dgrams, dgram = [0, 0] ++ (prepareOutgoing packet).2 := by
  obtain ⟨packet, composed, -, -⟩ := activation_probe_valid.1 ⟨0x64600001⟩ ⟨0x01010101⟩ 1
  obtain ⟨dgrams, sent⟩ := activation_probe_valid.2.2.2 (fun _ => none)
    { RunTunnel.openLaunch.cfg with activationProbe := some packet }
    ⟨⟨.v4 ⟨0xc0000201⟩, 443⟩, "", [1, 2, 3]⟩ 1500 probing _ (.offered 0 none [.accepted])
    ⟨0, [0, 0], {}⟩ packet rfl rfl rfl
  exact ⟨packet, _, dgrams, composed, rfl, sent⟩

end Usque.EchoProbe
