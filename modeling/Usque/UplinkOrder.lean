import Usque.UplinkSteps
import Usque.Lib.LossyFifo
import Mathlib.Data.List.Forall2

/-! The upload path is a lossy queue of packets. The abstract queue knows nothing
of buffers, channels or tasks; the relation below says which packet every buffer
carries, so order, content and conservation follow from the abstract invariant.
Recycled buffers keep the bytes of earlier packets; only the part that goes on
the wire is related to a packet. -/
namespace Usque.Uplink

open Packet Splice

variable {a : LoopArgs} {u next : Uplink a} {before : TxStats} {queue : LossyFifo Bytes}

/-- The byte string quiche accepts for a packet: the prefix and the prepared
packet, which must have been acceptable. -/
def Delivered (a : LoopArgs) (packet wire : Bytes) : Prop :=
  (∃ version, (prepareOutgoing packet).1 = .ok version) ∧
    wire = a.flowPrefix ++ (prepareOutgoing packet).2

/-- An encoded datagram carries this packet and nothing else on its wire. -/
structure Encoded (a : LoopArgs) (packet : Bytes) (item : TxDatagram) : Prop where
  wire : Delivered a packet item.wire
  wireLen : item.wireLen = a.flowPrefix.length + packet.length
  ipLen : item.ipLen = packet.length
  buffer : item.bytes.data.length = a.packetBufferLen

/-- The datagram in the reader's hand that is not in the channel yet. -/
def Reader.datagram : Reader → List TxDatagram
  | .sending item => [item]
  | _ => []

/-- All encoded datagrams, the next one to be sent first. -/
def datagrams (u : Uplink a) : List TxDatagram :=
  u.held.toList ++ u.txQueue ++ u.channel.items ++ u.reader.datagram

/-- What the reader's buffer holds, and the packets it has read but not yet
encoded. -/
def InHand (a : LoopArgs) : Reader → List Bytes → Prop
  | .reading dgram, [] =>
    dgram.data.length = a.packetBufferLen ∧ dgram.data.take a.flowPrefix.length = a.flowPrefix
  | .checking dgram n, [packet] =>
    dgram.data.length = a.packetBufferLen ∧ n = packet.length ∧
      dgram.data.take (a.flowPrefix.length + n) = a.flowPrefix ++ packet
  | .waiting, [] | .sending _, [] | .ended, [] => True
  | _, _ => False

/-- The upload path stands for the abstract queue: the same arrivals, every
datagram and the packet in hand in flight in this order, and both counters
telling what left. -/
structure Refines (before : TxStats) (u : Uplink a) (queue : LossyFifo Bytes) : Prop where
  arrived : queue.arrived = u.read
  inFlight : ∃ encoded hand, queue.inFlight = encoded ++ hand ∧
    List.Forall₂ (Encoded a) encoded u.datagrams ∧ InHand a u.reader hand
  delivered : List.Forall₂ (Delivered a) queue.delivered u.sent
  accepted : u.stats.txPackets = before.txPackets + queue.delivered.length
  dropped : u.stats.dropped = before.dropped + queue.lost
  buffers : ∀ buffer ∈ u.free.items, buffer.data.length = a.packetBufferLen

/-- Only the reader that checks a packet has one in its hand. -/
private theorem nothing_inHand {reader : Reader} {hand : List Bytes}
    (inHand : InHand a reader hand) (other : ∀ dgram n, reader ≠ .checking dgram n) : hand = [] := by
  cases hand with
  | nil => rfl
  | cons packet rest =>
    cases reader with
    | checking dgram n => exact absurd rfl (other dgram n)
    | reading _ | waiting | sending _ | ended => exact inHand.elim

/-- An operation that is no event of the abstract queue. -/
private theorem stutter (refines : Refines before next queue) :
    ∃ queue', Transition.Reachable LossyFifo.step queue queue' ∧ Refines before next queue' :=
  ⟨queue, .refl, refines⟩

private theorem one_action {queue' : LossyFifo Bytes} (action : LossyFifo.Action Bytes)
    (stepped : LossyFifo.step queue action = some queue') (refines : Refines before next queue') :
    ∃ queue', Transition.Reachable LossyFifo.step queue queue' ∧ Refines before next queue' :=
  ⟨queue', Transition.Reachable.refl.next stepped, refines⟩

theorem takeBuffer_refines (refines : Refines before u queue)
    (taken : u.takeBuffer = some next) :
    ∃ queue', Transition.Reachable LossyFifo.step queue queue' ∧ Refines before next queue' := by
  obtain ⟨buffer, free, idle, first, rfl⟩ := takeBuffer_some taken
  obtain ⟨encoded, hand, flight, carried, inHand⟩ := refines.inFlight
  have size := refines.buffers buffer (by simp [first])
  have fits : 0 + a.flowPrefix.length ≤ buffer.data.length := by
    simp only [size, LoopArgs.packetBufferLen]
    omega
  refine stutter ⟨refines.arrived, ⟨encoded, hand, flight, ?_, ?_⟩, refines.delivered,
    refines.accepted, refines.dropped,
    fun other member => refines.buffers other (by simp [first, member])⟩
  · simpa only [datagrams, idle, Reader.datagram] using carried
  · rw [idle] at inHand
    cases hand with
    | nil =>
      have front := take_overwrite_end fits
      simp only [Nat.zero_add, List.take_zero, List.nil_append] at front
      exact ⟨(overwrite_length fits).trans size, front⟩
    | cons packet rest => exact inHand.elim

theorem readPacket_refines {packet : Bytes} (refines : Refines before u queue)
    (arrived : u.readPacket packet = some next) :
    ∃ queue', Transition.Reachable LossyFifo.step queue queue' ∧ Refines before next queue' := by
  obtain ⟨dgram, resting, -, short, rfl⟩ := readPacket_some arrived
  obtain ⟨encoded, hand, flight, carried, inHand⟩ := refines.inFlight
  rw [resting] at inHand
  obtain rfl := nothing_inHand inHand nofun
  obtain ⟨size, front⟩ := inHand
  have fits : a.flowPrefix.length + packet.length ≤ dgram.data.length := by
    simp only [size, LoopArgs.packetBufferLen]
    omega
  refine one_action (.arrive packet) rfl ⟨by simp [refines.arrived],
    ⟨encoded, [packet], by simp [flight], ?_, ?_⟩, refines.delivered, refines.accepted,
    refines.dropped, refines.buffers⟩
  · simpa only [datagrams, resting, Reader.datagram] using carried
  · exact ⟨(overwrite_length fits).trans size, rfl, by rw [take_overwrite_end fits, front]⟩

theorem readEnds_refines (refines : Refines before u queue) (stopped : u.readEnds = some next) :
    ∃ queue', Transition.Reachable LossyFifo.step queue queue' ∧ Refines before next queue' := by
  obtain ⟨⟨dgram, resting⟩, rfl⟩ := readEnds_some stopped
  obtain ⟨encoded, hand, flight, carried, inHand⟩ := refines.inFlight
  rw [resting] at inHand
  obtain rfl := nothing_inHand inHand nofun
  exact stutter ⟨refines.arrived, ⟨encoded, [], flight,
    by simpa only [datagrams, resting, Reader.datagram] using carried, trivial⟩,
    refines.delivered, refines.accepted, refines.dropped, by simp⟩

/-- The slice behind the prefix is the packet that was read, whatever an
earlier packet left further back. -/
private theorem packet_in_hand {data packet : Bytes} {flowPrefix : Bytes}
    (front : data.take (flowPrefix.length + packet.length) = flowPrefix ++ packet) :
    range data flowPrefix.length (flowPrefix.length + packet.length) = packet := by
  have slice : range data flowPrefix.length (flowPrefix.length + packet.length) =
      (data.take (flowPrefix.length + packet.length)).drop flowPrefix.length := by
    simp [range, List.drop_take]
  rw [slice, front, List.drop_left']
  rfl

theorem prepare_refines (refines : Refines before u queue) (prepared : u.prepare = some next) :
    ∃ queue', Transition.Reachable LossyFifo.step queue queue' ∧ Refines before next queue' := by
  obtain ⟨dgram, n, resting, outcome⟩ := prepare_some prepared
  obtain ⟨encoded, hand, flight, carried, inHand⟩ := refines.inFlight
  rw [resting] at inHand
  match hand, inHand with
  | [packet], inHand =>
    obtain ⟨size, rfl, front⟩ := inHand
    rw [packet_in_hand front] at outcome
    have same := prepareOutgoing_length packet
    have within := congrArg List.length front
    simp only [List.length_take, List.length_append] at within
    have fits : a.flowPrefix.length + (prepareOutgoing packet).2.length ≤ dgram.data.length := by
      omega
    simp only [datagrams, resting, Reader.datagram, List.append_nil] at carried
    rcases outcome with ⟨-, rfl⟩ | ⟨acceptable, rfl⟩
    · -- A refused packet is the last one in flight.
      have last : LossyFifo.step queue (.lose encoded.length) = some { queue with
          inFlight := encoded, lost := queue.lost + 1 } := by
        simp [LossyFifo.step, flight, List.eraseIdx_append_of_length_le]
      refine one_action _ last ⟨refines.arrived, ⟨encoded, [], by simp, ?_, trivial⟩,
        refines.delivered, refines.accepted, ?_, fun buffer member => ?_⟩
      · simpa only [datagrams, giveBack, Reader.datagram, List.append_nil] using carried
      · simp only [giveBack, refines.dropped]
        omega
      · rcases mem_giveBack_free member with old | rfl
        · exact refines.buffers buffer old
        · exact (overwrite_length fits).trans size
    · refine stutter ⟨refines.arrived, ⟨encoded ++ [packet], [], by simp [flight], ?_, trivial⟩,
        refines.delivered, refines.accepted, refines.dropped, refines.buffers⟩
      refine List.rel_append carried (.cons ⟨⟨acceptable, ?_⟩, rfl, rfl, ?_⟩ .nil)
      · have prefixKept : dgram.data.take a.flowPrefix.length = a.flowPrefix := by
          have shorter := congrArg (List.take a.flowPrefix.length) front
          simpa [List.take_take] using shorter
        simp only [TxDatagram.wire]
        rw [← same, take_overwrite_end fits, prefixKept]
      · exact (overwrite_length fits).trans size

theorem send_refines (refines : Refines before u queue) (offered : u.send = some next) :
    ∃ queue', Transition.Reachable LossyFifo.step queue queue' ∧ Refines before next queue' := by
  obtain ⟨item, channel, resting, appended, rfl⟩ := send_some offered
  obtain ⟨encoded, hand, flight, carried, inHand⟩ := refines.inFlight
  rw [resting] at inHand
  obtain rfl := nothing_inHand inHand nofun
  refine stutter ⟨refines.arrived, ⟨encoded, [], flight, ?_, trivial⟩, refines.delivered,
    refines.accepted, refines.dropped, refines.buffers⟩
  simpa only [datagrams, resting, Reader.datagram, appended, List.append_nil,
    List.append_assoc] using carried

/-- An operation of the pump that only moves datagrams from place to place. -/
private theorem moved_refines (refines : Refines before u queue)
    (order : next.datagrams = u.datagrams) (reader : next.reader = u.reader)
    (read : next.read = u.read) (sent : next.sent = u.sent)
    (accepted : next.stats.txPackets = u.stats.txPackets)
    (dropped : next.stats.dropped = u.stats.dropped) (free : next.free = u.free) :
    ∃ queue', Transition.Reachable LossyFifo.step queue queue' ∧ Refines before next queue' := by
  refine stutter ⟨refines.arrived.trans read.symm, ?_, sent ▸ refines.delivered,
    accepted.trans refines.accepted, dropped.trans refines.dropped, free ▸ refines.buffers⟩
  obtain ⟨encoded, hand, flight, carried, inHand⟩ := refines.inFlight
  exact ⟨encoded, hand, flight, order ▸ carried, reader ▸ inHand⟩

theorem pull_refines (refines : Refines before u queue) (pulled : u.pull = some next) :
    ∃ queue', Transition.Reachable LossyFifo.step queue queue' ∧ Refines before next queue' := by
  obtain ⟨item, channel, idle, -, first, rfl⟩ := pull_some pulled
  exact moved_refines refines (by simp [datagrams, idle, first]) rfl rfl rfl rfl rfl rfl

theorem noticeClosed_refines (refines : Refines before u queue)
    (noticed : u.noticeClosed = some next) :
    ∃ queue', Transition.Reachable LossyFifo.step queue queue' ∧ Refines before next queue' := by
  obtain ⟨-, rfl⟩ := noticeClosed_some noticed
  exact moved_refines refines rfl rfl rfl rfl rfl rfl rfl

theorem pop_refines (refines : Refines before u queue) (popped : u.pop = some next) :
    ∃ queue', Transition.Reachable LossyFifo.step queue queue' ∧ Refines before next queue' := by
  obtain ⟨item, rest, idle, queued, rfl⟩ := pop_some popped
  exact moved_refines refines (by simp [datagrams, idle, queued]) rfl rfl rfl rfl rfl rfl

theorem settle_refines {mtu : UInt16} {answer : TxAnswer} {fate : Fate}
    (refines : Refines before u queue) (settled : u.settle mtu answer = some (fate, next)) :
    ∃ queue', Transition.Reachable LossyFifo.step queue queue' ∧ Refines before next queue' := by
  obtain ⟨item, popped, -, rfl⟩ := settle_some settled
  obtain ⟨encoded, hand, flight, carried, inHand⟩ := refines.inFlight
  have first : u.datagrams = item :: datagrams { u with held := none } := by
    simp [datagrams, popped]
  rw [first] at carried
  obtain _ | ⟨head, tail⟩ := carried
  rename_i packet packets
  have returned (state : Uplink a) (same : state.free = u.free) :
      ∀ buffer ∈ (state.giveBack item.bytes).free.items,
        buffer.data.length = a.packetBufferLen := by
    intro buffer member
    rcases mem_giveBack_free member with old | rfl
    · exact refines.buffers buffer (same ▸ old)
    · exact head.buffer
  rcases applyFate_cases u item fate with ⟨-, shape⟩ | ⟨-, shape⟩ | shape
  · rw [shape]
    exact moved_refines refines (by simp [datagrams, popped]) rfl rfl rfl rfl rfl rfl
  · rw [shape]
    have deliver : LossyFifo.step queue .deliver = some { queue with
        inFlight := packets ++ hand, delivered := queue.delivered ++ [packet] } := by
      simp [LossyFifo.step, flight]
    refine one_action _ deliver ⟨refines.arrived, ⟨packets, hand, rfl, tail, inHand⟩,
      List.rel_append refines.delivered (.cons head.wire .nil), ?_, refines.dropped,
      returned _ rfl⟩
    simp only [giveBack, refines.accepted, List.length_append, List.length_singleton]
    omega
  · rw [shape]
    have lose : LossyFifo.step queue (.lose 0) = some { queue with
        inFlight := packets ++ hand, lost := queue.lost + 1 } := by
      simp [LossyFifo.step, flight]
    refine one_action _ lose ⟨refines.arrived, ⟨packets, hand, rfl, tail, inHand⟩,
      refines.delivered, refines.accepted, ?_, returned _ rfl⟩
    simp only [giveBack, refines.dropped]
    omega

/-- Every operation of either task is an event of the lossy queue or none. -/
theorem step_simulates (before : TxStats) :
    Transition.Simulates (step (a := a)) LossyFifo.step (Refines before) := by
  intro u action next queue refines stepped
  cases action with
  | takeBuffer => exact takeBuffer_refines refines stepped
  | readPacket packet => exact readPacket_refines refines stepped
  | readEnds => exact readEnds_refines refines stepped
  | prepare => exact prepare_refines refines stepped
  | send => exact send_refines refines stepped
  | pull => exact pull_refines refines stepped
  | noticeClosed => exact noticeClosed_refines refines stepped
  | pop => exact pop_refines refines stepped
  | settle mtu answer =>
    simp only [step, Option.map_eq_some_iff] at stepped
    obtain ⟨⟨fate, after⟩, settled, rfl⟩ := stepped
    exact settle_refines refines settled

theorem fresh_refines {free : Fifo PacketBuffer a.poolSize} (before : TxStats)
    (filled : free.items = allocated a) : Refines before (fresh free before) {} := by
  refine ⟨rfl, ⟨[], [], rfl, .nil, trivial⟩, .nil, rfl, rfl, fun buffer member => ?_⟩
  simp only [fresh, filled, allocated, List.mem_map] at member
  obtain ⟨slot, -, rfl⟩ := member
  simp

end Usque.Uplink
