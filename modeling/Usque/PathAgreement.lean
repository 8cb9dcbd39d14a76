import Usque.QueueTx
import Usque.SendPacket
import Usque.UplinkRuns

/-! The two ways a packet takes to quiche. `send_packet_datagram` concatenates an owned
packet behind the prefix; the TUN reader writes both into a recycled buffer and
`queue_tx_datagrams` sends a slice of it. Where quiche takes a DATAGRAM or fails, they
do the same. -/
namespace Usque

open Packet Uplink

namespace SendPacket

/-- What the retry loop gives to `dgram_send_buf`. -/
def offers (dgram : Bytes) : ℕ → List Attempt → List Bytes
  | _ + 1, .accepted :: _ | _ + 1, .refused :: _ => [dgram]
  | left + 1, .waited none :: rest => offers dgram left rest
  | _, _ => []

/-- What `send_packet_datagram` gives to `dgram_send_buf`. -/
def offered (flowPrefix pkt : Bytes) (maxWritableLen : Option ℕ) (tape : List Attempt) :
    List Bytes :=
  let (answer, pkt) := prepareOutgoing pkt
  match answer with
  | .error _ => []
  | .ok _ =>
    let dgram := flowPrefix ++ pkt
    match maxWritableLen.filter (dgram.length > ·) with
    | some _ => []
    | none => offers dgram datagramAttempts tape

end SendPacket

namespace Uplink

open Splice

variable {a : LoopArgs} {u : Uplink a}

/-- Prefix and packet are written into a recycled buffer one after the other, and the
packet is then prepared in place. -/
private theorem encoded_buffer {data flowPrefix pkt prepared : Bytes}
    (room : flowPrefix.length + pkt.length ≤ data.length) (same : prepared.length = pkt.length) :
    let read := overwrite (overwrite data 0 flowPrefix) flowPrefix.length pkt
    let encoded := overwrite read flowPrefix.length prepared
    range read flowPrefix.length (flowPrefix.length + pkt.length) = pkt ∧
      encoded.take (flowPrefix.length + pkt.length) = flowPrefix ++ prepared ∧
      range encoded flowPrefix.length (flowPrefix.length + pkt.length) = prepared := by
  intro read encoded
  have prefixFits : 0 + flowPrefix.length ≤ data.length := by omega
  have packetFits : flowPrefix.length + pkt.length ≤ (overwrite data 0 flowPrefix).length := by
    rw [overwrite_length prefixFits]
    exact room
  have preparedFits : flowPrefix.length + prepared.length ≤ read.length := by
    rw [overwrite_length packetFits, same]
    exact packetFits
  have kept : read.take flowPrefix.length = flowPrefix := by
    have first := take_overwrite_end prefixFits
    rw [Nat.zero_add, List.take_zero, List.nil_append] at first
    rw [take_overwrite packetFits (Nat.le_refl _)]
    exact first
  refine ⟨range_overwrite packetFits, ?_, ?_⟩
  · rw [← same, take_overwrite_end preparedFits, kept]
  · rw [← same]
    exact range_overwrite preparedFits

/-- The reader's turn with a packet: it is counted as dropped, or goes on behind the
prefix in a buffer of the pool. -/
theorem reader_turn {buffer : PacketBuffer} {others : List PacketBuffer} {pkt : Bytes}
    (idle : u.reader = .waiting) (free : u.free.items = buffer :: others)
    (whole : buffer.data.length = a.packetBufferLen) (filled : pkt ≠ [])
    (fits : pkt.length ≤ a.readerBufLen) :
    ∃ v, Transition.run step u [.takeBuffer, .readPacket pkt, .prepare] = some v ∧
      ((∃ reason, (prepareOutgoing pkt).1 = .error reason ∧ v.reader.datagram = [] ∧
        v.stats = { u.stats with dropped := u.stats.dropped + 1 }) ∨
      ∃ version item, (prepareOutgoing pkt).1 = .ok version ∧ v.reader.datagram = [item] ∧
        v.stats = u.stats ∧ item.wireLen = a.flowPrefix.length + pkt.length ∧
        item.ipLen = pkt.length ∧ item.wire = a.flowPrefix ++ (prepareOutgoing pkt).2 ∧
        range item.bytes.data a.flowPrefix.length item.wireLen = (prepareOutgoing pkt).2) := by
  have room : a.flowPrefix.length + pkt.length ≤ buffer.data.length := by
    rw [whole, LoopArgs.packetBufferLen]
    omega
  obtain ⟨slice, wire, payload⟩ := encoded_buffer room (prepareOutgoing_length pkt)
  obtain ⟨rest, received⟩ : ∃ rest, u.free.receive = some (buffer, rest) := by
    cases taken : u.free.receive with
    | none =>
      rw [Fifo.receive_eq_none_iff.mp taken] at free
      cases free
    | some first =>
      have shape := Fifo.receive_eq_some_iff.mp taken
      rw [free] at shape
      cases shape
      exact ⟨first.2, rfl⟩
  rcases prepareOutgoing_cases pkt with ⟨reason, refused, -⟩ | ⟨version, accepted, -, -⟩
  · simp only [Transition.run, step, takeBuffer, idle, received, readPacket, filled, fits, prepare,
      slice, refused, ne_eq, not_false_eq_true, and_self, if_true, Option.bind_some]
    exact ⟨_, rfl, .inl ⟨reason, rfl, rfl, rfl⟩⟩
  · simp only [Transition.run, step, takeBuffer, idle, received, readPacket, filled, fits, prepare,
      slice, accepted, ne_eq, not_false_eq_true, and_self, if_true, Option.bind_some]
    exact ⟨_, rfl, .inr ⟨version, _, rfl, rfl, rfl, rfl, rfl, wire, payload⟩⟩

end Uplink

namespace DataLoop

private theorem judge_within {flowPrefixLen : ℕ} {mtu : UInt16} {item : TxDatagram}
    {answer : TxAnswer} (within : ∀ writable ∈ answer.maxWritableLen, item.wireLen ≤ writable) :
    judge flowPrefixLen mtu item answer = offerItem answer := by
  cases limit : answer.maxWritableLen with
  | none => simp only [judge, limit]
  | some writable =>
    have fitting := within writable limit
    simp only [judge, limit]
    rw [if_neg (by omega)]

/-- Where quiche's queue has room and takes or fails both kinds of send alike, the packet
captured before a session and a packet read by the TUN reader meet the same end: the same
bytes are offered to quiche, the same reply goes to the TUN, and the counters grow by
the same amounts. -/
theorem one_packet_path_agrees {a : LoopArgs} {stats : TxStats} {device : NativeTun.TunRsDevice}
    {now : Instant} {quicDeadline : Option Instant} {first s : DataLoop a}
    {buffer : PacketBuffer} {others : List PacketBuffer} (pkt : Bytes) (effectiveTunMtu : UInt16)
    (maxWritableLen : Option ℕ) (taken : Bool)
    (started : start a stats device now quicDeadline = some first)
    (reached : Transition.Reachable step first s) (idle : s.up.reader = .waiting)
    (free : s.up.free.items = buffer :: others) (filled : pkt ≠ [])
    (fits : pkt.length ≤ a.readerBufLen) :
    ∃ v, Transition.run Uplink.step s.up [.takeBuffer, .readPacket pkt, .prepare] = some v ∧
      let call := queueTxDatagrams v.reader.datagram v.stats a.txBurstPackets a.flowPrefix.length
        effectiveTunMtu fun _ => ⟨maxWritableLen, false, if taken then .ok else .error⟩
      let tape := [if taken then .accepted else .refused]
      let outcome := SendPacket.sendPacketDatagram a.flowPrefix pkt effectiveTunMtu maxWritableLen
        s.up.stats tape
      call.offered = SendPacket.offered a.flowPrefix pkt maxWritableLen tape ∧
        call.progress.icmpPackets = outcome.written ∧ call.stats = outcome.stats := by
  obtain ⟨queue, -, refines⟩ := reachable_refines started reached
  have whole : buffer.data.length = a.packetBufferLen := by
    apply refines.buffers
    rw [free]
    exact List.mem_cons_self
  have budget : 0 < max a.txBurstPackets 1 := by omega
  obtain ⟨v, ran, refused | encoded⟩ := reader_turn idle free whole filled fits
  · obtain ⟨reason, unprepared, nothing, counted⟩ := refused
    refine ⟨v, ran, ?_⟩
    simp only [nothing, counted, queueTxDatagrams, TxCall.drain, TxCall.start, TxProgress.none,
      SendPacket.offered, SendPacket.sendPacketDatagram, unprepared, SendPacket.dropped, and_self]
  · obtain ⟨version, item, prepared, one, same, wireLen, ipLen, wire, payload⟩ := encoded
    refine ⟨v, ran, ?_⟩
    have size : (a.flowPrefix ++ (prepareOutgoing pkt).2).length = item.wireLen := by
      rw [List.length_append, prepareOutgoing_length, wireLen]
    have length : (prepareOutgoing pkt).2.length = item.ipLen :=
      (prepareOutgoing_length pkt).trans ipLen.symm
    simp only [one, same, queueTxDatagrams, TxCall.drain, TxCall.start, TxProgress.none, if_pos budget,
      SendPacket.offered, SendPacket.sendPacketDatagram, prepared, size]
    cases refused : maxWritableLen.filter (item.wireLen > ·) with
    | some writable =>
      obtain ⟨known, exceeds⟩ := Option.filter_eq_some_iff.mp refused
      have tooLong : item.wireLen > writable := of_decide_eq_true exceeds
      have long : item.wireLen ≥ a.flowPrefix.length := by omega
      simp only [judge, known, if_pos tooLong, if_pos long, payload]
      cases composed : Icmp.composeIcmpTooLarge (prepareOutgoing pkt).2 effectiveTunMtu <;>
        simp [TxCall.settle, TxProgress.record, SendPacket.dropped]
    | none =>
      have within : ∀ writable ∈ maxWritableLen, item.wireLen ≤ writable := by
        intro writable known
        simpa using Option.filter_eq_none_iff.mp refused writable known
      rw [judge_within within]
      cases taken with
      | true =>
        simp [offerItem, TxCall.settle, TxProgress.record, SendPacket.offers, SendPacket.offer,
          datagramAttempts, wire, length]
      | false =>
        simp [offerItem, TxCall.settle, SendPacket.offers, SendPacket.offer, datagramAttempts,
          SendPacket.dropped, wire]

/-- The first packet of a session is accepted on both paths. -/
theorem one_packet_path_agrees_small :
    ∃ v : Uplink smallArgs,
      let call := queueTxDatagrams v.reader.datagram v.stats 1 2 40 fun _ => ⟨some 100, false, .ok⟩
      let outcome := SendPacket.sendPacketDatagram [0, 0] smallPacket 40 (some 100) {} [.accepted]
      call.offered = outcome.sent ∧ call.stats = outcome.stats ∧ call.stats.txPackets = 1 := by
  obtain ⟨pool, items, started⟩ := start_eq smallArgs {} smallDevice 0 none
  obtain ⟨v, -, offered, -, stats⟩ := one_packet_path_agrees smallPacket 40 (some 100) true started
    .refl rfl items (by decide) (by decide)
  have one : (SendPacket.sendPacketDatagram [0, 0] smallPacket 40 (some 100) {}
      [.accepted]).stats.txPackets = 1 := by decide
  refine ⟨v, offered.trans (by decide), stats, ?_⟩
  exact (congrArg TxStats.txPackets stats).trans one

end DataLoop

end Usque
