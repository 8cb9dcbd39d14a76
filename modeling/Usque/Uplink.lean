import Usque.Lib.Fifo
import Usque.Icmp
import Usque.Timing

/-! The upload path of `data_loop` (`api/masque.rs`): the TUN reader task and
the pump share a pool of recycled buffers through two bounded channels. One
action is one operation of one task between two points where the other may
run; the pump's own values (the queue, the popped item) are seen by nobody
else. The reader stops at every `await`, so its buffer rests in its hand there. -/
namespace Usque

/-- The arguments `data_loop` is called with, `conn` and the other live objects
aside; of the UDP batch only its size, as requested. -/
structure LoopArgs where
  mtu : ℕ
  flowPrefix : Bytes
  flowId : UInt64
  connectStreamId : UInt64
  reportH3Stats : Bool
  keepalivePeriod : Duration
  enablePmtud : Bool
  pmtudRevalidatePeriod : Duration
  maxTunMtu : UInt16
  txQueueLen : ℕ
  txBurstPackets : ℕ
  packetBufferPoolSize : ℕ
  udpBatchSize : ℕ
  deriving DecidableEq

namespace LoopArgs

def maxPacketBufferPoolSize : ℕ := 16384

/-- `packet_buffer_pool_size.clamp(1, MAX_PACKET_BUFFER_POOL_SIZE)`. -/
def poolSize (a : LoopArgs) : ℕ := max 1 (min a.packetBufferPoolSize maxPacketBufferPoolSize)

/-- `tx_queue_len.min(pool_size).max(1)`. -/
def queueSize (a : LoopArgs) : ℕ := max (min a.txQueueLen a.poolSize) 1

def maxUdpBatchSize : ℕ := 64

/-- The clamped size `UdpBatchIo::new` keeps. -/
def batchSize (a : LoopArgs) : ℕ := max 1 (min a.udpBatchSize maxUdpBatchSize)

def readerBufLen (a : LoopArgs) : ℕ := a.mtu + 128

def packetBufferLen (a : LoopArgs) : ℕ := a.flowPrefix.length + a.readerBufLen

end LoopArgs

namespace Uplink

open Packet Splice

/-- A buffer of the pool. The slot tells which of the allocated vectors it is;
the code never looks at it. -/
structure PacketBuffer where
  slot : ℕ
  data : Bytes
  deriving DecidableEq

structure TxDatagram where
  bytes : PacketBuffer
  wireLen : ℕ
  ipLen : ℕ
  deriving DecidableEq

/-- What goes on the wire: `&item.bytes[..item.wire_len]`. -/
def TxDatagram.wire (item : TxDatagram) : Bytes := item.bytes.data.take item.wireLen

/-- The upload side of `Stats`. -/
structure TxStats where
  txPackets : ℕ := 0
  txBytes : ℕ := 0
  dropped : ℕ := 0
  txBackpressure : ℕ := 0
  deriving DecidableEq

/-- Where the TUN reader task rests. -/
inductive Reader where
  /-- In `free_rx.recv()`. -/
  | waiting
  /-- In `recv_packet`, the prefix already in the buffer. -/
  | reading (dgram : PacketBuffer)
  /-- A packet of `n` bytes was read behind the prefix. -/
  | checking (dgram : PacketBuffer) (n : ℕ)
  /-- In `tx.send`. -/
  | sending (item : TxDatagram)
  | ended
  deriving DecidableEq

/-! ## One queued item -/

/-- What `dgram_send` answers. -/
inductive SendAnswer where
  | ok
  | done
  | error
  deriving DecidableEq

/-- Quiche's answers while one item is considered. -/
structure TxAnswer where
  maxWritableLen : Option ℕ
  queueFull : Bool
  send : SendAnswer
  deriving DecidableEq

/-- What `queue_tx_datagrams` does with the item it popped. -/
inductive Fate where
  | oversize (icmp : Option Bytes)
  | refused
  | accepted
  | failed
  deriving DecidableEq

/-- The part of one turn after the size check: a full queue and `Done` refuse. -/
def offerItem (answer : TxAnswer) : Fate :=
  if answer.queueFull then .refused
  else match answer.send with
    | .ok => .accepted
    | .done => .refused
    | .error => .failed

/-- One turn of the loop of `queue_tx_datagrams`, from the popped item. -/
def judge (flowPrefixLen : ℕ) (effectiveTunMtu : UInt16) (item : TxDatagram)
    (answer : TxAnswer) : Fate :=
  match answer.maxWritableLen with
  | some maxLen =>
    if item.wireLen > maxLen then
      .oversize (if item.wireLen ≥ flowPrefixLen then
        Icmp.composeIcmpTooLarge (range item.bytes.data flowPrefixLen item.wireLen) effectiveTunMtu
        else none)
    else offerItem answer
  | none => offerItem answer

end Uplink

open Uplink in
/-- The upload path: the reader task, the two channels, and the pump's queue
with the item `queue_tx_datagrams` has in its hand. The last three fields are
the history an observer keeps: the packets read, the byte strings quiche
accepted, and the returns that found the free channel full. -/
structure Uplink (a : LoopArgs) where
  reader : Reader
  free : Fifo PacketBuffer a.poolSize
  channel : Fifo TxDatagram a.queueSize
  txQueue : List TxDatagram
  held : Option TxDatagram
  tunReaderClosed : Bool
  stats : TxStats
  read : List Bytes
  sent : List Bytes
  recycleFull : ℕ
  deriving DecidableEq

namespace Uplink

open Packet Splice

variable {a : LoopArgs}

/-! ## The reader task -/

/-- `recycle_tx.try_send`: the channel is closed once the reader has dropped its
end, and a buffer that finds no room is lost. -/
def recycle (u : Uplink a) (buffer : PacketBuffer) : Fifo PacketBuffer a.poolSize × ℕ :=
  if u.reader = .ended then (u.free, u.recycleFull)
  else match u.free.trySend buffer with
    | some free => (free, u.recycleFull)
    | none => (u.free, u.recycleFull + 1)

/-- Returns a buffer; the sender ignores what `try_send` answers. -/
def giveBack (u : Uplink a) (buffer : PacketBuffer) : Uplink a :=
  { u with free := (u.recycle buffer).1, recycleFull := (u.recycle buffer).2 }

/-- A free buffer arrives and the prefix is copied in. -/
def takeBuffer (u : Uplink a) : Option (Uplink a) :=
  match u.reader, u.free.receive with
  | .waiting, some (buffer, free) => some { u with
      reader := .reading { buffer with data := overwrite buffer.data 0 a.flowPrefix }
      free := free }
  | _, _ => none

/-- `recv_packet` answers `Ok(n)` for a packet of `n` bytes. -/
def readPacket (u : Uplink a) (packet : Bytes) : Option (Uplink a) :=
  match u.reader with
  | .reading dgram =>
    if packet ≠ [] ∧ packet.length ≤ a.readerBufLen then some { u with
      reader := .checking
        { dgram with data := overwrite dgram.data a.flowPrefix.length packet } packet.length
      read := u.read ++ [packet] }
    else none
  | _ => none

/-- `recv_packet` answers `Ok(0)` or fails: the task ends and both its channel
ends are dropped. -/
def readEnds (u : Uplink a) : Option (Uplink a) :=
  match u.reader with
  | .reading _ => some { u with reader := .ended, free := Fifo.empty }
  | _ => none

/-- `prepare_outgoing` on the bytes just read. -/
def prepare (u : Uplink a) : Option (Uplink a) :=
  match u.reader with
  | .checking dgram n =>
    let ipStart := a.flowPrefix.length
    let ipEnd := a.flowPrefix.length + n
    let (answer, prepared) := prepareOutgoing (range dgram.data ipStart ipEnd)
    let dgram := { dgram with data := overwrite dgram.data ipStart prepared }
    match answer with
    | .error _ => some (giveBack { u with
        reader := .waiting
        stats := { u.stats with dropped := u.stats.dropped + 1 } } dgram)
    | .ok _ => some { u with reader := .sending ⟨dgram, ipEnd, n⟩ }
  | _ => none

/-- `tx.send` finds room. -/
def send (u : Uplink a) : Option (Uplink a) :=
  match u.reader with
  | .sending item =>
    match u.channel.trySend item with
    | some channel => some { u with reader := .waiting, channel := channel }
    | none => none
  | _ => none

/-! ## The pump -/

/-- A datagram leaves the channel for the pump's queue, by `try_recv` or in the
`select!`: never inside `queue_tx_datagrams`, and only below the queue limit. -/
def pull (u : Uplink a) : Option (Uplink a) :=
  if u.held = none ∧ u.txQueue.length < a.txQueueLen then
    match u.channel.receive with
    | some (item, channel) => some { u with channel := channel, txQueue := u.txQueue ++ [item] }
    | none => none
  else none

/-- The channel is drained and its only sender is gone. -/
def Disconnected (u : Uplink a) : Prop := u.reader = .ended ∧ u.channel.items = []

instance (u : Uplink a) : Decidable u.Disconnected :=
  inferInstanceAs (Decidable (_ ∧ _))

def noticeClosed (u : Uplink a) : Option (Uplink a) :=
  if u.Disconnected then some { u with tunReaderClosed := true } else none

/-- `tx_queue.pop_front()`. -/
def pop (u : Uplink a) : Option (Uplink a) :=
  match u.held, u.txQueue with
  | none, item :: rest => some { u with held := some item, txQueue := rest }
  | _, _ => none

/-- The popped item meets its fate. -/
def applyFate (u : Uplink a) (item : TxDatagram) : Fate → Uplink a
  | .oversize _ | .failed => giveBack { u with
      held := none
      stats := { u.stats with dropped := u.stats.dropped + 1 } } item.bytes
  | .refused => { u with
      held := none
      txQueue := item :: u.txQueue
      stats := { u.stats with txBackpressure := u.stats.txBackpressure + 1 } }
  | .accepted => giveBack { u with
      held := none
      sent := u.sent ++ [item.wire]
      stats := { u.stats with
        txPackets := u.stats.txPackets + 1
        txBytes := u.stats.txBytes + item.ipLen } } item.bytes

def settle (u : Uplink a) (effectiveTunMtu : UInt16) (answer : TxAnswer) :
    Option (Fate × Uplink a) :=
  match u.held with
  | some item =>
    let fate := judge a.flowPrefix.length effectiveTunMtu item answer
    some (fate, u.applyFate item fate)
  | none => none

/-! ## The shared system -/

inductive Action where
  | takeBuffer
  | readPacket (packet : Bytes)
  | readEnds
  | prepare
  | send
  | pull
  | noticeClosed
  | pop
  | settle (effectiveTunMtu : UInt16) (answer : TxAnswer)

def step (u : Uplink a) : Action → Option (Uplink a)
  | .takeBuffer => u.takeBuffer
  | .readPacket packet => u.readPacket packet
  | .readEnds => u.readEnds
  | .prepare => u.prepare
  | .send => u.send
  | .pull => u.pull
  | .noticeClosed => u.noticeClosed
  | .pop => u.pop
  | .settle mtu answer => (u.settle mtu answer).map Prod.snd

/-- The vectors of the pool as they are allocated. -/
def allocated (a : LoopArgs) : List PacketBuffer :=
  (List.range a.poolSize).map fun slot => ⟨slot, List.replicate a.packetBufferLen 0⟩

/-- The state `data_loop` builds around a filled pool. The counters carry over
from the session. -/
def fresh (free : Fifo PacketBuffer a.poolSize) (stats : TxStats) : Uplink a where
  reader := .waiting
  free := free
  channel := Fifo.empty
  txQueue := []
  held := none
  tunReaderClosed := false
  stats := stats
  read := []
  sent := []
  recycleFull := 0

/-- Fills the pool before the reader is spawned; none when a buffer finds no
room in it. -/
def start (a : LoopArgs) (stats : TxStats) : Option (Uplink a) :=
  (Fifo.empty.fill (allocated a)).map fun free => fresh free stats

end Uplink
end Usque
