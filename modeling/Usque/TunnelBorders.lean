import Usque.DatagramFraming
import Usque.SupervisorSteps
import Usque.TooLargeReply
import Usque.UplinkRuns

/-! The two borders of the tunnel. Towards the peer, whatever a session gives to quiche is a
DATAGRAM of its own CONNECT stream around a packet of the host with one hop spent, as the
program's own download side would read it. Towards the host, nothing reaches the TUN that
`validate_incoming` refuses. -/
namespace Usque

open Packet
open HopDecrement (Ipv4Forwardable Ipv6Forwardable ipv4_accepted ipv6_accepted
  prepareOutgoing_refused ipVersion_of_validated)

/-- A packet with a whole header of a known version. -/
def Packet.Valid (packet : Bytes) : Prop := ∃ version, validateIncoming packet = .ok version

/-! ## Single packets -/

theorem Packet.prepared_valid {packet : Bytes} {version : UInt8}
    (prepared : (prepareOutgoing packet).1 = .ok version) : Valid (prepareOutgoing packet).2 := by
  by_cases ipv4 : ∃ ttl, Ipv4Forwardable packet ttl
  · obtain ⟨ttl, forwardable⟩ := ipv4
    exact ⟨4, (ipv4_accepted forwardable).after⟩
  · by_cases ipv6 : ∃ hopLimit, Ipv6Forwardable packet hopLimit
    · obtain ⟨hopLimit, forwardable⟩ := ipv6
      exact ⟨6, (ipv6_accepted forwardable).after⟩
    · obtain ⟨reason, refused⟩ := prepareOutgoing_refused ipv4 ipv6
      rw [refused] at prepared
      cases prepared

theorem Packet.Valid.nonempty {packet : Bytes} (valid : Valid packet) : packet ≠ [] := by
  obtain ⟨version, accepted⟩ := valid
  obtain ⟨held, -⟩ := ipVersion_of_validated accepted
  exact List.ne_nil_of_length_pos held

theorem TooLargeReply.composed_valid {packet message : Bytes} {mtu : UInt16}
    (composed : Icmp.composeIcmpTooLarge packet mtu = some message) : Valid message := by
  unfold Icmp.composeIcmpTooLarge at composed
  split at composed
  · split at composed
    · by_cases long : ipv4HeaderLen ≤ packet.length
      · obtain ⟨reply, same, wellFormed⟩ := composeIpv4FragNeeded_wellFormed mtu long
        cases same.symm.trans composed
        exact ⟨4, wellFormed.accepted⟩
      · rw [Icmp.composeIpv4FragNeeded, if_pos (Nat.not_le.mp long)] at composed
        cases composed
    · split at composed
      · by_cases long : ipv6HeaderLen ≤ packet.length
        · obtain ⟨reply, same, wellFormed⟩ := composeIpv6PacketTooBig_wellFormed mtu long
          cases same.symm.trans composed
          exact ⟨6, wellFormed.accepted⟩
        · rw [Icmp.composeIpv6PacketTooBig, if_pos (Nat.not_le.mp long)] at composed
          cases composed
      · cases composed
  · cases composed

/-! ## The one-packet path -/

namespace SendPacket

open Uplink

variable {flowPrefix pkt dgram packet : Bytes} {currentMtu : UInt16} {maxWritableLen : Option ℕ}
  {stats : TxStats} {tape : List Attempt}

theorem offer_written (dgram : Bytes) (pktLen : ℕ) (stats : TxStats) (left : ℕ)
    (tape : List Attempt) : (offer dgram pktLen stats left tape).written = [] := by
  induction left generalizing tape with
  | zero => rfl
  | succ left ih =>
    cases tape with
    | nil => exact ih []
    | cons attempt rest =>
      cases attempt with
      | accepted => rfl
      | refused => rfl
      | waited failure =>
        cases failure with
        | some failure => rfl
        | none => exact ih rest

/-- Only an acceptable packet is sent. -/
theorem sendPacketDatagram_delivers
    (sent : dgram ∈ (sendPacketDatagram flowPrefix pkt currentMtu maxWritableLen stats tape).sent) :
    (∃ version, (prepareOutgoing pkt).1 = .ok version) ∧
      dgram = flowPrefix ++ (prepareOutgoing pkt).2 := by
  unfold sendPacketDatagram at sent
  dsimp only at sent
  split at sent
  · cases sent
  · rename_i version prepared
    refine ⟨⟨version, prepared⟩, ?_⟩
    split at sent
    · cases sent
    · rcases offer_sent (flowPrefix ++ (prepareOutgoing pkt).2) (prepareOutgoing pkt).2.length
        stats datagramAttempts tape with ⟨once, -⟩ | ⟨none, -⟩
      · rw [once] at sent
        exact List.mem_singleton.mp sent
      · rw [none] at sent
        cases sent

theorem sendPacketDatagram_written
    (written : packet ∈
      (sendPacketDatagram flowPrefix pkt currentMtu maxWritableLen stats tape).written) :
    Valid packet := by
  unfold sendPacketDatagram at written
  dsimp only at written
  split at written
  · cases written
  · split at written
    · exact TooLargeReply.composed_valid (Option.mem_toList.mp written)
    · rw [offer_written] at written
      cases written

end SendPacket

/-! ## The pump -/

namespace DataLoop

open Uplink Http3 NativeTun

variable {a : LoopArgs} {s next : DataLoop a} {label : Label}

/-- What has been written to the TUN, and what is about to be. -/
structure WritesValid (s : DataLoop a) : Prop where
  written : ∀ packet ∈ s.tunWrites, Valid packet
  replies : ∀ packet ∈ s.progress.icmpPackets, Valid packet

theorem WritesValid.keep (valid : WritesValid s) (written : next.tunWrites = s.tunWrites)
    (replies : next.progress = s.progress ∨ next.progress = TxProgress.none) :
    WritesValid next := by
  refine ⟨written ▸ valid.written, ?_⟩
  rcases replies with same | none
  · rw [same]
    exact valid.replies
  · rw [none]
    exact fun _ absent => absurd absent List.not_mem_nil

/-- A drain offers only what both checks accept. -/
theorem drainIncoming_valid (flowId : UInt64) (left : ℕ) (stats : RxStats)
    (answers : List RecvAnswer) :
    ∀ packet ∈ (drainIncoming flowId left stats answers).written, Valid packet := by
  fun_induction drainIncoming flowId left stats answers with
  | case1 => exact fun _ absent => absurd absent List.not_mem_nil
  | case2 left stats dgram rest payload accepted after ih =>
    obtain ⟨-, checked⟩ := Option.filter_eq_some_iff.mp accepted
    refine List.forall_mem_cons.mpr ⟨?_, ih⟩
    cases answer : validateIncoming payload with
    | ok version => exact ⟨version, answer⟩
    | error reason =>
      rw [answer] at checked
      cases checked
  | case3 left stats dgram rest refused ih => exact ih
  | case4 => exact fun _ absent => absurd absent List.not_mem_nil

theorem record_valid {progress : TxProgress} {flowPrefixLen : ℕ} {mtu : UInt16}
    {item : TxDatagram} {answer : TxAnswer} (replies : ∀ packet ∈ progress.icmpPackets, Valid packet) :
    ∀ packet ∈ (progress.record (judge flowPrefixLen mtu item answer)).icmpPackets,
      Valid packet := by
  cases judged : judge flowPrefixLen mtu item answer with
  | oversize reply =>
    cases reply with
    | none => exact replies
    | some reply =>
      refine fun packet member => (List.mem_append.mp member).elim (replies packet) fun added => ?_
      rw [List.mem_singleton.mp added]
      unfold judge offerItem at judged
      split at judged
      · split at judged
        · split at judged
          · exact TooLargeReply.composed_valid (Fate.oversize.inj judged)
          · cases judged
        · repeat' split at judged
          all_goals cases judged
      · repeat' split at judged
        all_goals cases judged
  | refused | accepted | failed => exact replies

theorem step_writes (valid : WritesValid s) (stepped : step s label = some next) :
    WritesValid next := by
  have kept {next : DataLoop a} (written : next.tunWrites = s.tunWrites)
      (replies : next.progress = s.progress) : WritesValid next :=
    valid.keep written (.inl replies)
  have flushed {onward : DataLoop a} (ok : Bool) (written : onward.tunWrites = s.tunWrites)
      (replies : onward.progress = s.progress) : WritesValid (s.flushQuic ok onward) := by
    cases ok with
    | true => exact kept written replies
    | false => exact kept rfl rfl
  cases (step_called stepped).2 with
  | reader | tick | rearm | pulled | noticed => exact kept rfl rfl
  | batch inSelect batches count here fits =>
    obtain ⟨-, shape⟩ | ⟨size, received, -, -, ⟨-, shape⟩ | ⟨-, shape⟩ | ⟨-, shape⟩⟩ :=
      receiveBatch_cases s inSelect batches count <;> rw [shape] <;> exact kept rfl rfl
  | flushReceived ok here => exact flushed ok rfl rfl
  | flushReport ok here => exact flushed ok rfl rfl
  | flushTx ok here => exact flushed ok rfl rfl
  | flushTimers ok here => exact flushed ok rfl rfl
  | polled polls bodies here =>
    unfold pollTunnel
    split <;> exact kept rfl rfl
  | drained answers here =>
    refine ⟨fun packet member => ?_, valid.replies⟩
    rcases List.mem_append.mp member with earlier | offered
    · exact valid.written packet earlier
    · exact drainIncoming_valid _ _ _ _ packet offered
  | reported start sent here =>
    have opened : WritesValid (s.startReport start) := by
      unfold startReport
      split <;> exact kept rfl rfl
    unfold reportStats
    dsimp only
    split <;> exact opened.keep rfl (.inl rfl)
  | pathMtu pmtu writable readable answers here =>
    obtain shape | shape | ⟨tunMtu, -, shape | ⟨error, shape⟩⟩ :=
      applyPmtu_cases s pmtu writable readable answers <;> rw [shape] <;> exact kept rfl rfl
  | drainTx taken here =>
    obtain ⟨up, -, shape⟩ | ⟨up, -, shape⟩ | shape := drainTx_cases s taken <;> rw [shape]
    · exact kept rfl rfl
    · exact valid.keep rfl (.inr rfl)
    · exact valid.keep rfl (.inr rfl)
  | popTx here idle =>
    obtain ⟨up, -, shape⟩ | shape := popTx_cases s <;> rw [shape] <;> exact kept rfl rfl
  | returnIcmp here =>
    refine ⟨fun packet member => ?_, valid.replies⟩
    exact (List.mem_append.mp member).elim (valid.written packet) (valid.replies packet)
  | settled answer fate up here judged =>
    obtain ⟨item, -, rfl, -⟩ := settle_some judged
    exact ⟨valid.written, record_valid valid.replies⟩
  | checked closed here =>
    obtain shape | ⟨-, shape⟩ | ⟨-, shape⟩ | ⟨-, shape⟩ := checkLoop_cases s closed <;> rw [shape] <;>
      exact kept rfl rfl
  | readable ok timeout due since here => cases ok <;> exact kept rfl rfl
  | slept probed rearmed timeout due since here waited =>
    obtain ⟨quicDeadline, counts, keepalive, revalidation, appliedPmtu, stage, shape⟩ :=
      runTimers_shape s due probed rearmed
    rw [shape]
    exact kept rfl rfl

/-- A state of the pump some call of `data_loop` with these arguments reaches. -/
def Entered (s : DataLoop a) : Prop :=
  ∃ stats device now quicDeadline first, start a stats device now quicDeadline = some first ∧
    Transition.Reachable step first s

theorem Entered.writes (entered : Entered s) : WritesValid s := by
  obtain ⟨stats, device, now, quicDeadline, first, started, reached⟩ := entered
  obtain ⟨free, -, shape⟩ := start_eq a stats device now quicDeadline
  obtain rfl := Option.some.inj (shape.symm.trans started)
  refine reached.invariant WritesValid (fun _ _ _ valid stepped => step_writes valid stepped) ⟨?_, ?_⟩
  · exact fun _ absent => absurd absent List.not_mem_nil
  · exact fun _ absent => absurd absent List.not_mem_nil

/-- Every DATAGRAM sent was made of a packet read. -/
theorem Entered.sends (entered : Entered s) {dgram : Bytes} (sent : dgram ∈ s.up.sent) :
    ∃ packet ∈ s.up.read, Delivered a packet dgram := by
  obtain ⟨stats, device, now, quicDeadline, first, started, reached⟩ := entered
  obtain ⟨queue, faithful, refines⟩ := reachable_refines started reached
  obtain ⟨length, delivered⟩ := List.forall₂_iff_get.mp refines.delivered
  obtain ⟨place, here, rfl⟩ := List.getElem_of_mem sent
  have there : place < queue.delivered.length := length ▸ here
  refine ⟨queue.delivered[place], ?_, delivered place there here⟩
  rw [← refines.arrived]
  exact ((List.sublist_append_left _ _).trans faithful.order).subset (List.getElem_mem there)

end DataLoop

/-! ## A session -/

/-- The DATAGRAM an event gives to quiche. -/
def Event.dgram : Event → Option Bytes
  | .sent (.probe dgram) | .sent (.pending dgram) | .sent (.uplink dgram) => some dgram
  | _ => none

namespace Session

open Http3 NativeTun Uplink

variable {spkiOf : Bytes → Option Bytes} {cfg : MasqueConfig} {endpoint : MasqueEndpoint}
  {mtu : ℕ} {s next : Session} {input : Input}

/-- The CONNECT stream of a session that has announced it. -/
def tunnelStream : Stage → Option StreamId
  | .probe tunnel | .pending tunnel | .flushPending tunnel | .enter tunnel => some tunnel.streamId
  | .pump a _ => some a.connectStreamId
  | _ => none

/-- The flow prefix is that of the stream, and the pump was entered with it. -/
def Opened : Stage → Prop
  | .probe tunnel | .pending tunnel | .flushPending tunnel | .enter tunnel =>
    ConnectIp.buildFlowPrefix (tunnel.streamId / 4) = .ok tunnel.flowPrefix
  | .pump a loop =>
    ConnectIp.buildFlowPrefix (a.connectStreamId / 4) = .ok a.flowPrefix ∧ DataLoop.Entered loop
  | _ => True

/-- A packet the host has given to the session. -/
inductive HostPacket (cfg : MasqueConfig) (s next : Session) (packet : Bytes) : Prop where
  | probe (configured : cfg.activationProbe = some packet)
  | pending (captured : s.pending = some packet)
  | read (a : LoopArgs) (loop : DataLoop a) (there : next.stage = .pump a loop)
      (member : packet ∈ loop.up.read)

/-- A DATAGRAM of the stream, and of no other flow, around the packet as it is forwarded, which
`prepare_outgoing` has accepted and taken one hop from. -/
def Carries (streamId : StreamId) (packet dgram : Bytes) : Prop :=
  (∃ version, (prepareOutgoing packet).1 = .ok version) ∧
    ∀ flowId, DataLoop.acceptedPayload flowId dgram =
      if flowId = streamId / 4 then some (prepareOutgoing packet).2 else none

theorem carries_of_framed {streamId : StreamId} {flowPrefix packet : Bytes} {version : UInt8}
    (built : ConnectIp.buildFlowPrefix (streamId / 4) = .ok flowPrefix)
    (prepared : (prepareOutgoing packet).1 = .ok version) :
    Carries streamId packet (flowPrefix ++ (prepareOutgoing packet).2) := by
  have valid := prepared_valid prepared
  have quarter : (streamId / 4).toNat < 2 ^ 62 := by
    have bound := streamId.toNat_lt
    simp only [UInt64.toNat_div, UInt64.reduceToNat]
    omega
  obtain ⟨flow, same, encodes⟩ := ConnectIp.buildFlowPrefix_encodes quarter
  cases same.symm.trans built
  refine ⟨⟨version, prepared⟩, fun flowId => ?_⟩
  split
  · rename_i own
    have parsed : ConnectIp.parseDatagram (flow ++ [0x00] ++ (prepareOutgoing packet).2) flowId =
        some (prepareOutgoing packet).2 :=
      ConnectIp.parseDatagram_eq_some_iff.mpr
        ⟨flow, [0x00], own ▸ encodes, ConnectIp.encodes_zero, rfl, valid.nonempty⟩
    obtain ⟨version, accepted⟩ := valid
    rw [DataLoop.acceptedPayload, parsed, Option.filter_some, accepted]
    rfl
  · rename_i foreign
    have other : (streamId / 4).toNat ≠ flowId.toNat :=
      fun same => foreign (UInt64.toNat_inj.mp same).symm
    have refused : ConnectIp.parseDatagram (flow ++ [0x00] ++ (prepareOutgoing packet).2) flowId =
        none := by
      rw [List.append_assoc]
      simp only [ConnectIp.parseDatagram, ConnectIp.getVarint_encoded encodes]
      exact if_pos other
    rw [DataLoop.acceptedPayload, refused]
    rfl

/-- What is sent between two states of a session: DATAGRAMs of its own stream around
packets of the host. -/
def SendsWell (cfg : MasqueConfig) (s next : Session) (events : List Event) : Prop :=
  ∀ event ∈ events, ∀ dgram, event.dgram = some dgram →
    ∃ streamId packet, tunnelStream s.stage = some streamId ∧ HostPacket cfg s next packet ∧
      Carries streamId packet dgram

theorem sendsWell_silent {events : List Event} (silent : ∀ event ∈ events, event.dgram = none) :
    SendsWell cfg s next events := by
  intro event member dgram sent
  rw [silent event member] at sent
  cases sent

theorem opening_silent {latency : ℕ} {event : Event} (member : event ∈ opening cfg latency) :
    event.dgram = none := by
  obtain rfl | rfl | ⟨name, rfl⟩ := opening_cases member <;> rfl

theorem closing_silent {event : Event} (member : event ∈ closing cfg) : event.dgram = none := by
  obtain rfl | rfl | ⟨name, rfl⟩ := closing_cases member <;> rfl

/-- What the one-packet path sends on the tunnel of a stream. -/
theorem offered_sendsWell {tunnel : Tunnel} {packet : Bytes} {maxWritableLen : Option ℕ}
    {tape : List SendPacket.Attempt} {what : Bytes → Sent}
    (named : ∀ dgram, (Event.sent (what dgram)).dgram = some dgram)
    (here : tunnelStream s.stage = some tunnel.streamId)
    (built : ConnectIp.buildFlowPrefix (tunnel.streamId / 4) = .ok tunnel.flowPrefix)
    (host : HostPacket cfg s next packet) :
    SendsWell cfg s next ((SendPacket.sendPacketDatagram tunnel.flowPrefix packet s.device.mtu
      maxWritableLen tunnel.stats tape).sent.map fun dgram => .sent (what dgram)) := by
  intro event member dgram sent
  obtain ⟨given, offered, rfl⟩ := List.mem_map.mp member
  cases (named given).symm.trans sent
  obtain ⟨⟨version, prepared⟩, rfl⟩ := SendPacket.sendPacketDatagram_delivers offered
  exact ⟨tunnel.streamId, packet, here, host, carries_of_framed built prepared⟩

/-- What the pump sends. -/
theorem follow_sendsWell {a : LoopArgs} {loop after : DataLoop a} (here : s.stage = .pump a loop)
    (built : ConnectIp.buildFlowPrefix (a.connectStreamId / 4) = .ok a.flowPrefix)
    (entered : DataLoop.Entered after) :
    SendsWell cfg s (s.follow loop after) (pumpEvents loop after) := by
  intro event member dgram sent
  rcases List.mem_append.mp member with uplink | report
  · obtain ⟨given, among, rfl⟩ := List.mem_map.mp uplink
    cases sent
    obtain ⟨packet, read, ⟨version, prepared⟩, rfl⟩ := entered.sends (List.mem_of_mem_drop among)
    refine ⟨a.connectStreamId, packet, ?_, .read a after rfl read, carries_of_framed built prepared⟩
    rw [here]
    rfl
  · obtain ⟨streamId, -, rfl⟩ := List.mem_map.mp report
    cases sent

/-- A step that leaves the tunnel the one opened and sends on nothing else. -/
structure Keeps (cfg : MasqueConfig) (s next : Session) : Prop where
  opened : Opened next.stage
  sends : ∃ events, next.log = s.log ++ events ∧ SendsWell cfg s next events

theorem Adds.keeps {events : List Event} (adds : Adds s next events) (opened : Opened next.stage)
    (silent : ∀ event ∈ events, event.dgram = none) : Keeps cfg s next :=
  ⟨opened, events, adds.log, sendsWell_silent silent⟩

theorem Adds.keepsSilent (adds : Adds s next []) (opened : Opened next.stage) :
    Keeps cfg s next :=
  adds.keeps opened fun _ absent => absurd absent List.not_mem_nil

theorem await_keeps (arrival : Handshake.Arrival) {onward : Stage} (opened : Opened onward) :
    Keeps cfg s (s.await arrival onward) := by
  cases arrival with
  | received waited => exact (((adds_wait waited).at_stage onward).heard_at _).keepsSilent opened
  | failed waited => exact ((adds_wait waited).bail _).keepsSilent trivial
  | slept waited => exact ((adds_wait waited).at_stage onward).keepsSilent opened

theorem flush_keeps (took : Duration) (ok closed : Bool) (whenClosed : SessionError)
    {onward : Stage} (opened : Opened onward) :
    Keeps cfg s (s.flush took ok closed whenClosed onward) := by
  unfold flush
  dsimp only
  split
  · exact ((adds_wait took).bail _).keepsSilent trivial
  · split
    · exact ((adds_wait took).bail _).keepsSilent trivial
    · exact ((adds_wait took).at_stage onward).keepsSilent opened

theorem awaitResponse_keeps (took : Duration) (ok : Bool) (streamId : StreamId) :
    Keeps cfg s (s.awaitResponse took ok streamId) := by
  cases ok with
  | true => exact ((adds_wait took).at_stage _).keepsSilent trivial
  | false => exact ((adds_wait took).bail _).keepsSilent trivial

theorem checkPin_keeps (peerCert : Option Bytes) :
    Keeps cfg s (s.checkPin spkiOf cfg endpoint peerCert) := by
  unfold checkPin
  split
  · exact (adds_stage _).keepsSilent trivial
  · split
    · exact (adds_bail _).keepsSilent trivial
    · split
      · exact (adds_emit _ _).keeps trivial fun _ member => List.mem_singleton.mp member ▸ rfl
      · exact (adds_bail _).keepsSilent trivial

theorem sendRequest_keeps (http3 : Bool) (streamId : Option StreamId) :
    Keeps cfg s (s.sendRequest http3 streamId) := by
  unfold sendRequest
  split
  · exact (adds_bail _).keepsSilent trivial
  · split
    · exact (adds_bail _).keepsSilent trivial
    · exact (adds_emit _ _).keeps trivial fun _ member => List.mem_singleton.mp member ▸ rfl

theorem readResponse_keeps (answers : List PollAnswer) (streamId : StreamId) (deadline : Instant) :
    Keeps cfg s (s.readResponse answers streamId deadline) := by
  unfold readResponse
  split
  · exact (adds_bail _).keepsSilent trivial
  · exact (adds_stage _).keepsSilent trivial
  · exact (adds_stage _).keepsSilent trivial

theorem announce_keeps (streamId : StreamId) : Keeps cfg s (s.announce cfg streamId) := by
  obtain ⟨flowPrefix, built⟩ := ConnectIp.buildFlowPrefix_quarter_stream streamId
  simp only [announce, built]
  exact ⟨built, _, rfl, sendsWell_silent fun _ member => opening_silent member⟩

theorem sendProbe_keeps {tunnel : Tunnel} (here : s.stage = .probe tunnel) (opened : Opened s.stage)
    (took : Duration) (maxWritableLen : Option ℕ) (tape : List SendPacket.Attempt) :
    Keeps cfg s (s.sendProbe cfg tunnel took maxWritableLen tape) := by
  rw [here] at opened
  unfold sendProbe
  split
  · exact (adds_stage _).keepsSilent opened
  · rename_i packet configured
    refine ⟨opened, _, rfl, offered_sendsWell (fun _ => rfl) ?_ opened (.probe configured)⟩
    rw [here]
    rfl

theorem sendPending_keeps {tunnel : Tunnel} (here : s.stage = .pending tunnel)
    (opened : Opened s.stage) (took : Duration) (maxWritableLen : Option ℕ)
    (tape : List SendPacket.Attempt) :
    Keeps cfg s (s.sendPending tunnel took maxWritableLen tape) := by
  rw [here] at opened
  unfold sendPending
  split
  · exact (adds_stage _).keepsSilent opened
  · rename_i packet captured
    have stream : tunnelStream s.stage = some tunnel.streamId := by
      rw [here]
      rfl
    have sends {next : Session} : SendsWell cfg s next (.handed packet ::
        (SendPacket.sendPacketDatagram tunnel.flowPrefix packet s.device.mtu maxWritableLen
          tunnel.stats tape).sent.map fun dgram => .sent (.pending dgram)) := by
      refine List.forall_mem_cons.mpr ⟨fun dgram sent => ?_,
        offered_sendsWell (fun _ => rfl) stream opened (.pending captured)⟩
      cases sent
    dsimp only
    split
    · exact ⟨trivial, _, rfl, sends⟩
    · exact ⟨opened, _, rfl, sends⟩

theorem enterLoop_keeps {tunnel : Tunnel} (here : s.stage = .enter tunnel) (opened : Opened s.stage)
    (quicDeadline : Option Instant) : Keeps cfg s (s.enterLoop cfg mtu tunnel quicDeadline) := by
  rw [here] at opened
  unfold enterLoop
  dsimp only
  split
  · rename_i loop started
    exact (adds_stage _).keepsSilent ⟨opened, _, _, _, _, _, started, .refl⟩
  · exact (adds_stage _).keepsSilent trivial

theorem follow_keeps {a : LoopArgs} {loop after : DataLoop a} {label : DataLoop.Label}
    (here : s.stage = .pump a loop) (opened : Opened s.stage)
    (moved : DataLoop.step loop label = some after) : Keeps cfg s (s.follow loop after) := by
  rw [here] at opened
  obtain ⟨built, stats, device, now, quicDeadline, first, started, reached⟩ := opened
  have entered : DataLoop.Entered after :=
    ⟨stats, device, now, quicDeadline, first, started, reached.next moved⟩
  exact ⟨⟨built, entered⟩, _, rfl, follow_sendsWell here built entered⟩

/-- Every step of a session keeps its tunnel the one it has opened and sends on nothing else. -/
theorem step_keeps (opened : Opened s.stage)
    (stepped : step spkiOf cfg endpoint mtu s input = some next) : Keeps cfg s next := by
  cases step_called stepped with
  | setUp took here => exact (((adds_wait took).at_stage _).heard_at _).keepsSilent trivial
  | setUpFailed took here => exact ((adds_wait took).bail _).keepsSilent trivial
  | established here => exact (adds_stage _).keepsSilent trivial
  | handshakePass timeout arrival here => exact await_keeps arrival trivial
  | connectPass timeout arrival streamId deadline here ahead => exact await_keeps arrival trivial
  | connectTimeout timeout arrival streamId deadline here passed =>
    exact (adds_bail _).keepsSilent trivial
  | flushHandshake took ok closed here => exact flush_keeps took ok closed _ trivial
  | flushRequest took ok closed streamId here => exact awaitResponse_keeps took ok streamId
  | flushConnect took ok closed streamId deadline here => exact flush_keeps took ok closed _ trivial
  | flushPending took closed tunnel here =>
    rw [here] at opened
    exact ((adds_wait took).at_stage _).keepsSilent opened
  | flushPendingFailed took closed tunnel here => exact ((adds_wait took).bail _).keepsSilent trivial
  | certificate peerCert here => exact checkPin_keeps peerCert
  | requested http3 streamId here => exact sendRequest_keeps http3 streamId
  | polled answers streamId deadline here => exact readResponse_keeps answers streamId deadline
  | announce streamId here => exact announce_keeps streamId
  | loopEnded a loop error here ended => exact (adds_stage _).keepsSilent trivial
  | cleanUp error here =>
    exact ⟨trivial, _, rfl, sendsWell_silent fun _ member => closing_silent member⟩
  | probe tunnel took maxWritableLen tape here =>
    exact sendProbe_keeps here opened took maxWritableLen tape
  | pending tunnel took maxWritableLen tape here =>
    exact sendPending_keeps here opened took maxWritableLen tape
  | entered tunnel quicDeadline here => exact enterLoop_keeps here opened quicDeadline
  | pump a loop after label here moved => exact follow_keeps here opened moved

end Session

/-! ## Whole runs -/

namespace Supervisor

open NativeTun

variable {spkiOf : Bytes → Option Bytes} {cfg : MasqueConfig} {mtu : ℕ} {s next : Supervisor}
  {input : Input}

/-- The session the supervisor runs, if there is one, has opened its own tunnel. -/
def TunnelOpened (s : Supervisor) : Prop :=
  ∀ position, s.stage = .session position → Session.Opened position.stage

/-- What is sent between two states of the supervisor: DATAGRAMs of the running session's own
stream around packets of the host. -/
def SendsWell (cfg : MasqueConfig) (s next : Supervisor) (events : List Event) : Prop :=
  ∀ event ∈ events, ∀ dgram, event.dgram = some dgram →
    ∃ position after streamId packet, s.stage = .session position ∧ next.stage = .session after ∧
      Session.tunnelStream position.stage = some streamId ∧
      Session.HostPacket cfg ⟨position, s.toWorld⟩ ⟨after, next.toWorld⟩ packet ∧
      Session.Carries streamId packet dgram

theorem step_opened (opened : TunnelOpened s)
    (stepped : step spkiOf cfg mtu s input = some next) :
    TunnelOpened next ∧ ∃ events, next.log = s.log ++ events ∧ SendsWell cfg s next events := by
  have outside {next : Supervisor} {events : List Event}
      (ended : inSession next.stage = false) (log : next.log = s.log ++ events)
      (silent : ∀ event ∈ events, event.dgram = none) :
      TunnelOpened next ∧ ∃ events, next.log = s.log ++ events ∧ SendsWell cfg s next events := by
    refine ⟨fun position here => absurd here (not_session ended position), events, log, ?_⟩
    intro event member dgram sent
    rw [silent event member] at sent
    cases sent
  have quiet {next : Supervisor} (ended : inSession next.stage = false)
      (log : next.log = s.log) :
      TunnelOpened next ∧ ∃ events, next.log = s.log ++ events ∧ SendsWell cfg s next events :=
    outside ended (log.trans (List.append_nil _).symm) fun _ absent => absurd absent List.not_mem_nil
  have initialMtu (answers : TunAnswers) (onward : Supervisor → Supervisor)
      (ended : ∀ s, inSession (onward s).stage = false)
      (keeps : ∀ s, (onward s).log = s.log) :
      TunnelOpened (s.applyInitialMtu cfg answers onward) ∧
        ∃ events, (s.applyInitialMtu cfg answers onward).log = s.log ++ events ∧
          SendsWell cfg s (s.applyInitialMtu cfg answers onward) events := by
    rcases applyInitialMtu_cases cfg s answers onward with ⟨-, moved⟩ | ⟨error, moved⟩
    · rw [moved]
      exact quiet (ended _) (keeps _)
    · rw [moved]
      exact quiet rfl rfl
  cases step_called stepped with
  | prepare answers here =>
    refine initialMtu answers _ (fun s => ?_) fun _ => rfl
    rcases prepared_cases cfg s with ⟨-, shape⟩ | ⟨-, shape⟩ <;> rw [shape] <;> rfl
  | withdraw answers established here => exact initialMtu answers _ (fun _ => rfl) fun _ => rfl
  | received took packet here fits =>
    unfold capture
    split
    · exact quiet rfl rfl
    · split
      · exact quiet rfl rfl
      · exact outside rfl rfl fun _ member => List.mem_singleton.mp member ▸ rfl
  | connect here =>
    unfold attempt
    split
    · exact quiet rfl rfl
    · refine ⟨fun position there => ?_, _, rfl, ?_⟩
      · cases there
        trivial
      · intro event member dgram sent
        rw [List.mem_singleton.mp member] at sent
        cases sent
  | finish position error here ended =>
    exact outside rfl rfl fun _ member => List.mem_singleton.mp member ▸ rfl
  | slept took here waited => exact quiet rfl rfl
  | session input position endpoint session here found moved =>
    obtain ⟨still, events, log, sends⟩ := Session.step_keeps (opened position here) moved
    refine ⟨fun other there => ?_, events, log, fun event member dgram sent => ?_⟩
    · cases there
      exact still
    · obtain ⟨streamId, packet, stream, host, carries⟩ := sends event member dgram sent
      exact ⟨position, session.toPosition, streamId, packet, here, rfl, stream, host, carries⟩

/-- Over every run: what a step sends are DATAGRAMs of the running session's own CONNECT stream,
each around one packet of the host that the download side of the same framing reads back and no
other flow does; and whatever is written to the TUN, by the pump or by the one-packet path,
passes the check on incoming packets. -/
theorem tunnel_borders (spkiOf : Bytes → Option Bytes) (cfg : MasqueConfig) (mtu : ℕ)
    (dev : TunRsDevice) (now : Instant) (inputs : List Input) (s : Supervisor)
    (ran : Transition.run (step spkiOf cfg mtu) (start dev now) inputs = some s) :
    (∀ input next, step spkiOf cfg mtu s input = some next →
      ∃ events, next.log = s.log ++ events ∧ SendsWell cfg s next events) ∧
    (∀ position a loop, s.stage = .session position → position.stage = .pump a loop →
      ∀ packet ∈ loop.tunWrites, Valid packet) ∧
    ∀ flowPrefix pkt currentMtu maxWritableLen stats tape,
      ∀ packet ∈ (SendPacket.sendPacketDatagram flowPrefix pkt currentMtu maxWritableLen stats
        tape).written, Valid packet := by
  have opened : TunnelOpened s := by
    refine Transition.run_preserves TunnelOpened (fun _ _ _ kept stepped =>
      (step_opened kept stepped).1) (fun position here => ?_) ran
    cases here
  refine ⟨fun input next stepped => (step_opened opened stepped).2, ?_,
    fun _ _ _ _ _ _ _ written => SendPacket.sendPacketDatagram_written written⟩
  intro position a loop here there
  have entered := opened position here
  rw [there] at entered
  exact entered.2.writes.written

/-- What the first session makes of the packet that woke the supervisor. -/
def smallDgram : Bytes := [0, 0] ++ (prepareOutgoing DataLoop.smallPacket).2

theorem tunnel_borders_small :
    ∃ (s next : Supervisor) (position : Session.Position) (streamId : Http3.StreamId)
      (packet : Bytes), next.log = s.log ++ [.handed DataLoop.smallPacket, .sent (.pending smallDgram)] ∧
        s.stage = .session position ∧ Session.tunnelStream position.stage = some streamId ∧
        Session.Carries streamId packet smallDgram := by
  have ran : (Transition.run (step (fun _ => none) RunTunnel.openLaunch.cfg RunTunnel.openLaunch.mtu)
      (start RunTunnel.openLaunch.dev 0) (wakeInputs ++ establishInputs)).any (fun s =>
        (step (fun _ => none) RunTunnel.openLaunch.cfg RunTunnel.openLaunch.mtu s
          (.session (.offered 0 none [.accepted]))).any fun next => decide (next.log = s.log ++
            [.handed DataLoop.smallPacket, .sent (.pending smallDgram)])) = true := by
    decide
  obtain ⟨s, finished, found⟩ := Option.any_eq_true _ _ |>.mp ran
  obtain ⟨next, stepped, logged⟩ := Option.any_eq_true _ _ |>.mp found
  have log := of_decide_eq_true logged
  obtain ⟨sends, -, -⟩ := tunnel_borders _ _ _ _ _ _ s finished
  obtain ⟨events, same, well⟩ := sends _ next stepped
  obtain rfl := List.append_cancel_left (same.symm.trans log)
  obtain ⟨position, after, streamId, packet, here, -, stream, -, carries⟩ :=
    well (.sent (.pending smallDgram)) (by simp) smallDgram rfl
  exact ⟨s, next, position, streamId, packet, log, here, stream, carries⟩

end Supervisor

end Usque
