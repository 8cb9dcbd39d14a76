import Usque.SendPacket
import Usque.UplinkRuns

/-! Packet Too Big replies. A packet is dropped on quiche's current writable
length, but the reply reports the TUN MTU, which only a discovered path MTU
changes. The reply helps the sender exactly when the two agree: a packet of the
TUN MTU fits with the flow prefix. -/
namespace Usque.PacketTooBig

open Packet Uplink NativeTun

/-- A reply to a dropped packet is useful: it reports an MTU below the packet's
length, and a packet of that MTU fits in the writable length. -/
def Useful (prefixLen writable : ℕ) (packet : Bytes) (reply : Option Bytes) : Prop :=
  ∃ message mtu, reply = some message ∧ Icmp.reportedMtu message = some mtu ∧
    mtu < packet.length ∧ mtu + prefixLen ≤ writable

/-- The reply to an oversize packet is useful exactly when the reported MTU fits. -/
theorem useful_iff {prefixLen writable : ℕ} {packet : Bytes} (mtu : UInt16)
    (sound : WellHeaded packet) (exceeds : writable < prefixLen + packet.length) :
    Useful prefixLen writable packet (Icmp.composeIcmpTooLarge packet mtu) ↔
      mtu.toNat + prefixLen ≤ writable := by
  obtain ⟨message, composed, reports⟩ := Icmp.composeIcmpTooLarge_reports mtu sound
  constructor
  · rintro ⟨other, reported, same, reads, -, fits⟩
    obtain rfl := Option.some.inj (composed.symm.trans same)
    obtain rfl := Option.some.inj (reports.symm.trans reads)
    exact fits
  · intro fits
    exact ⟨message, mtu.toNat, composed, reports, by omega, fits⟩

/-- The packet in an encoded datagram. -/
def packetOf (a : LoopArgs) (item : TxDatagram) : Bytes :=
  Splice.range item.bytes.data a.flowPrefix.length item.wireLen

/-- The item in the pump's hand carries a prepared packet. -/
theorem held_packet {a : LoopArgs} {u : Uplink a} {stats : TxStats} {queue : LossyFifo Bytes}
    {item : TxDatagram} (refines : Refines stats u queue) (popped : u.held = some item) :
    WellHeaded (packetOf a item) ∧
      item.wireLen = a.flowPrefix.length + (packetOf a item).length := by
  obtain ⟨encoded, hand, -, carried, -⟩ := refines.inFlight
  simp only [datagrams, popped, Option.toList_some, List.cons_append] at carried
  cases carried with
  | cons carries rest =>
    rename_i packet others
    obtain ⟨⟨⟨version, accepted⟩, wire⟩, wireLen, -, -⟩ := carries
    have content : packetOf a item = (prepareOutgoing packet).2 := by
      rw [TxDatagram.wire] at wire
      rw [packetOf, Splice.range, ← List.drop_take, wire, List.drop_left]
    rw [content, prepareOutgoing_length]
    exact ⟨prepareOutgoing_wellHeaded accepted, wireLen⟩

/-- One turn of `queue_tx_datagrams` drops an oversize item and composes its
reply. -/
theorem oversize_step {a : LoopArgs} {s : DataLoop a} {item : TxDatagram} {answer : TxAnswer}
    {writable : ℕ} (here : s.stage = .queueTx) (popped : s.up.held = some item)
    (known : answer.maxWritableLen = some writable) (exceeds : writable < item.wireLen)
    (long : a.flowPrefix.length ≤ item.wireLen) :
    let reply := Icmp.composeIcmpTooLarge (packetOf a item) s.device.mtu
    ∃ next, DataLoop.step s (.pump (.settled answer)) = some next ∧
      next.progress.icmpPackets = s.progress.icmpPackets ++ reply.toList ∧
      next.up.stats.dropped = s.up.stats.dropped + 1 := by
  have running : s.Running := fun error ended => by rw [here] at ended; cases ended
  have fate : judge a.flowPrefix.length s.device.mtu item answer =
      .oversize (Icmp.composeIcmpTooLarge (packetOf a item) s.device.mtu) := by
    simp only [judge, known, if_pos exceeds, if_pos long, packetOf]
  simp only [DataLoop.step, if_pos running, DataLoop.pump, if_pos here, DataLoop.settleTx, settle,
    popped, fate, Option.map_some]
  refine ⟨_, rfl, ?_, rfl⟩
  cases composed : Icmp.composeIcmpTooLarge (packetOf a item) s.device.mtu with
  | none => simp [DataLoop.TxProgress.record]
  | some message => simp [DataLoop.TxProgress.record]

/-- What the steady-state path owes the sender of every packet it drops for its
size: a useful reply. -/
def RepliesUseful (a : LoopArgs) : Prop :=
  ∀ stats device now quicDeadline first (s next : DataLoop a) item answer writable,
    DataLoop.start a stats device now quicDeadline = some first →
    Transition.Reachable DataLoop.step first s →
    DataLoop.step s (.pump (.settled answer)) = some next →
    s.up.held = some item → answer.maxWritableLen = some writable → writable < item.wireLen →
    ∃ reply, next.progress.icmpPackets = s.progress.icmpPackets ++ reply.toList ∧
      Useful a.flowPrefix.length writable (packetOf a item) reply

/-- Both send paths answer a packet they drop for its size with a useful reply
exactly when a packet of the TUN MTU, with the flow prefix, fits in quiche's
writable length. -/
theorem oversize_reply_useful_iff (stats : TxStats) (writable : ℕ) :
    (∀ (a : LoopArgs) device now quicDeadline first (s : DataLoop a) item answer,
      DataLoop.start a stats device now quicDeadline = some first →
      Transition.Reachable DataLoop.step first s →
      s.stage = .queueTx → s.up.held = some item →
      answer.maxWritableLen = some writable → writable < item.wireLen →
      ∃ next reply, DataLoop.step s (.pump (.settled answer)) = some next ∧
        next.progress.icmpPackets = s.progress.icmpPackets ++ reply.toList ∧
        next.up.stats.dropped = s.up.stats.dropped + 1 ∧
        (Useful a.flowPrefix.length writable (packetOf a item) reply ↔
          s.device.mtu.toNat + a.flowPrefix.length ≤ writable)) ∧
    (∀ flowPrefix pkt currentMtu tape version,
      (prepareOutgoing pkt).1 = .ok version → writable < flowPrefix.length + pkt.length →
      ∃ reply,
        SendPacket.sendPacketDatagram flowPrefix pkt currentMtu (some writable) stats tape =
          SendPacket.dropped stats reply.toList ∧
        (Useful flowPrefix.length writable (prepareOutgoing pkt).2 reply ↔
          currentMtu.toNat + flowPrefix.length ≤ writable)) := by
  constructor
  · intro a device now quicDeadline first s item answer started reached here popped known exceeds
    obtain ⟨queue, -, refines⟩ := DataLoop.reachable_refines started reached
    obtain ⟨sound, size⟩ := held_packet refines popped
    obtain ⟨next, stepped, replied, counted⟩ := oversize_step here popped known exceeds (by omega)
    exact ⟨next, _, stepped, replied, counted, useful_iff s.device.mtu sound (by omega)⟩
  · intro flowPrefix pkt currentMtu tape version prepared exceeds
    refine ⟨_, SendPacket.sendPacketDatagram_oversize prepared rfl exceeds, ?_⟩
    apply useful_iff currentMtu (prepareOutgoing_wellHeaded prepared)
    rw [prepareOutgoing_length]
    exact exceeds

/-- The usual buffers, with path MTU discovery on. -/
def wideArgs : LoopArgs :=
  { DataLoop.smallArgs with mtu := 1500, maxTunMtu := 1500, enablePmtud := true }

/-- A device at the initial MTU of 1200, IPv6 withdrawn. -/
def initialDevice : TunRsDevice := ⟨⟨1200, none⟩, 1200, none, false, false⟩

/-- An IPv6 packet that fills the initial MTU. -/
def fullPacket : Bytes :=
  [0x60, 0, 0, 0, 4, 136, 17, 64] ++ List.replicate 1192 0

/-- Before the first discovery completes, a packet of exactly the TUN MTU is
refused with the advice to use that MTU. -/
theorem initial_mtu_reply_useless : ¬ RepliesUseful wideArgs := by
  intro useful
  obtain ⟨first, s, started, reached, found⟩ := DataLoop.execute_reaches wideArgs initialDevice
    (DataLoop.readLabels fullPacket ++ DataLoop.idleLabels ++ DataLoop.popLabels)
    (fun s => decide (s.stage = .queueTx ∧ s.device.mtu = 1200 ∧
      ∃ item ∈ s.up.held, item.wireLen = 1202)) (by decide +kernel)
  obtain ⟨here, mtu, item, popped, size⟩ := of_decide_eq_true found
  let answer : TxAnswer := ⟨some 1160, false, .ok⟩
  have exceeds : 1160 < item.wireLen := by omega
  have long : wideArgs.flowPrefix.length ≤ item.wireLen := by
    rw [size]
    decide
  obtain ⟨queue, -, refines⟩ := DataLoop.reachable_refines started reached
  obtain ⟨sound, length⟩ := held_packet refines popped
  have known : answer.maxWritableLen = some 1160 := rfl
  obtain ⟨next, stepped, composed, -⟩ := oversize_step here popped known exceeds long
  obtain ⟨reply, replied, helps⟩ :=
    useful {} initialDevice 0 none first s next item answer 1160 started reached stepped popped
      known exceeds
  have same := congrArg List.head? (List.append_cancel_left (replied.symm.trans composed))
  simp only [Option.head?_toList] at same
  rw [same] at helps
  have fits := (useful_iff s.device.mtu sound (by omega)).mp helps
  rw [mtu] at fits
  exact absurd fits (by decide)

end Usque.PacketTooBig
