import Usque.UdpBatch
import Usque.Lib.Window

/-! Batched reception from the QUIC socket (`try_recv_batch`, `recvmmsg_nonblocking` and
`drain_quic` in `api/masque/udp.rs`). The socket's queue and Tokio's readiness are part of
the state, and a run is any number of `drain_quic` calls on one socket with flushes in
between, under arbitrary arrivals and answers. -/
namespace Usque.UdpReceive

open UdpBatch (UdpBatchIo Target maxDatagramSize maxUdpBatchSize)

/-! ## The receive buffers -/

/-- `UdpBatchIo` with its receive buffers. They are as many as the batch, of one size, and
their lengths stand in `tx_lens`. -/
structure BatchIo where
  tx : UdpBatchIo
  datagramSize : ℕ
  rxBuffers : List Bytes
  rxFull : rxBuffers.length = tx.batchSize
  rxSized : ∀ buffer ∈ rxBuffers, buffer.length = datagramSize

namespace BatchIo

theorem rxBuffers_new (datagramSize requestedBatchSize : ℕ) (now : Instant) :
    (List.replicate (max 1 (min requestedBatchSize maxUdpBatchSize))
      (List.replicate (max datagramSize maxDatagramSize) (0 : UInt8))).length =
        (UdpBatchIo.new datagramSize requestedBatchSize now).batchSize :=
  List.length_replicate

/-- `UdpBatchIo::new`. -/
def new (datagramSize requestedBatchSize : ℕ) (now : Instant) : BatchIo where
  tx := UdpBatchIo.new datagramSize requestedBatchSize now
  datagramSize := max datagramSize maxDatagramSize
  rxBuffers := .replicate (max 1 (min requestedBatchSize maxUdpBatchSize))
    (.replicate (max datagramSize maxDatagramSize) 0)
  rxFull := rxBuffers_new datagramSize requestedBatchSize now
  rxSized := by
    intro buffer member
    rw [(List.mem_replicate.mp member).2, List.length_replicate]

/-- Another transmit side of the same size beside the receive buffers. -/
def withTx (batch : BatchIo) (tx : UdpBatchIo) (same : tx.batchSize = batch.tx.batchSize) :
    BatchIo :=
  { batch with tx, rxFull := same ▸ batch.rxFull }

/-- Bytes written over the front of a receive buffer, as far as they fit. -/
def write (batch : BatchIo) (index : ℕ) (bytes : Bytes) : BatchIo :=
  { batch with
    rxBuffers := batch.rxBuffers.modify index fun buffer =>
      Splice.overwrite buffer 0 (bytes.take buffer.length)
    rxFull := by rw [List.length_modify, batch.rxFull]
    rxSized := by
      intro buffer member
      obtain ⟨position, inside, rfl⟩ := List.mem_iff_getElem.mp member
      rw [List.length_modify] at inside
      rw [List.getElem_modify]
      split
      · rw [Splice.overwrite_length (by simp), batch.rxSized _ (List.getElem_mem inside)]
      · exact batch.rxSized _ (List.getElem_mem inside) }

/-- `tx_lens[index] = length`. -/
def setLength (batch : BatchIo) (index length : ℕ) : BatchIo :=
  { batch with
    tx := { batch.tx with
      txLens := batch.tx.txLens.set index length
      lensFull := by rw [List.length_set, batch.tx.lensFull] } }

/-- `&rx_buffers[index][..tx_lens[index]]`; none where it panics. -/
def received (batch : BatchIo) (index : ℕ) : Option Bytes := do
  let buffer ← batch.rxBuffers[index]?
  let length ← batch.tx.txLens[index]?
  if length ≤ buffer.length then some (buffer.take length) else none

end BatchIo

/-- The length noted for a datagram. `recvmmsg` marks a datagram that was cut with
`MSG_TRUNC`; `try_recv` tells only how much it wrote. -/
def lengthNoted (target : Target) (size : ℕ) (datagram : Bytes) : ℕ :=
  match target with
  | .freebsd => if size < datagram.length then 0 else min datagram.length size
  | .other => min datagram.length size

/-- What the kernel and `try_recv_batch` leave of a datagram in a slot; none where an index
leaves its array. -/
def BatchIo.fill (target : Target) (batch : BatchIo) (index : ℕ) (datagram : Bytes) :
    Option BatchIo :=
  match batch.rxBuffers[index]? with
  | none => none
  | some buffer =>
    if batch.tx.txLens.length ≤ index then none
    else some ((batch.write index datagram).setLength index
      (lengthNoted target buffer.length datagram))

/-- Consecutive slots filled by one call. -/
def BatchIo.fillAll (target : Target) (batch : BatchIo) (index : ℕ) : List Bytes → Option BatchIo
  | [] => some batch
  | datagram :: rest => do
    let filled ← batch.fill target index datagram
    filled.fillAll target (index + 1) rest

/-- How many datagrams one call to the kernel may bring. -/
def BatchIo.room (target : Target) (batch : BatchIo) : ℕ :=
  match target with
  | .freebsd => min (min batch.rxBuffers.length batch.tx.txLens.length) maxUdpBatchSize
  | .other => 1

/-! ## One socket over any number of drains -/

/-- Where `drain_quic` is. `failed` keeps how many slots of the batch were filled when the
socket reported an error. -/
inductive Stage where
  | receive (count : ℕ)
  | deliver (index count : ℕ)
  | returned
  | failed (count : ℕ)
  | faulted
  deriving DecidableEq

/-- How an attempt to receive ends. `notReady` is Tokio's own refusal, before the kernel is
asked. -/
inductive KernelAnswer where
  | notReady
  | wouldBlock
  | failed
  | received (count : ℕ)
  deriving DecidableEq

/-- `arrive` and `event` belong to the kernel and to Tokio's driver. `drain` and `wake` are
the two places of `data_loop` that call `drain_quic`: with no condition, and once
`socket.readable()` is there. The transmit side they find is what the flushes left. -/
inductive Label where
  | arrive (datagram : Bytes)
  | event
  | drain (tx : UdpBatchIo)
  | wake (tx : UdpBatchIo)
  | kernel (answer : KernelAnswer)
  | quiche (left : Bytes)
  | skip

/-- The socket and the batch. Arrivals, what was taken from the socket, what quiche was
handed, and the wakes that found nothing are history. -/
structure Socket where
  batch : BatchIo
  stage : Stage := .returned
  total : ℕ := 0
  woken : Bool := false
  queue : List Bytes := []
  /-- An edge of the socket that Tokio's driver has not seen yet. -/
  edge : Bool := false
  /-- Tokio's readiness flag. -/
  ready : Bool := true
  arrived : List Bytes := []
  taken : List Bytes := []
  handed : List Bytes := []
  takenBefore : ℕ := 0
  emptyWakes : ℕ := 0

namespace Socket

/-- `drain_quic` returns its total. -/
def finish (s : Socket) : Socket :=
  { s with
    stage := .returned
    emptyWakes := if s.woken = true ∧ s.total = 0 then s.emptyWakes + 1 else s.emptyWakes }

/-- Behind `try_recv_batch`. -/
def batchReceived (s : Socket) (count : ℕ) : Socket :=
  if count = 0 then s.finish
  else { s with total := s.total + count, stage := .deliver 0 count }

/-- The head of the loop over the slots, and what follows the loop. -/
def nextSlot (s : Socket) (index count : ℕ) : Socket :=
  if index < count then { s with stage := .deliver index count }
  else if count < s.batch.tx.batchSize then s.finish
  else { s with stage := .receive 0 }

/-- A call of `drain_quic` from its first line. -/
def call (s : Socket) (tx : UdpBatchIo) (woken : Bool) : Option Socket :=
  if same : tx.batchSize = s.batch.tx.batchSize then
    some { s with
      batch := s.batch.withTx tx same
      stage := .receive 0
      total := 0
      woken
      takenBefore := s.taken.length }
  else none

/-- Datagrams copied into the slots from `count` on. -/
def take (target : Target) (s : Socket) (count size : ℕ) : Socket :=
  match s.batch.fillAll target count (s.queue.take size) with
  | none => { s with stage := .faulted }
  | some batch =>
    let s := { s with
      batch
      queue := s.queue.drop size
      taken := s.taken ++ s.queue.take size }
    match target with
    | .freebsd => s.batchReceived size
    | .other =>
      if count + size < s.batch.tx.batchSize then { s with stage := .receive (count + size) }
      else s.batchReceived (count + size)

/-- An attempt of `try_recv_batch`. `recvmmsg` fills what it can of the batch in one call,
`try_recv` one slot; neither answers `EAGAIN` while the queue holds a datagram. -/
def attempt (target : Target) (s : Socket) (count : ℕ) : KernelAnswer → Option Socket
  | .notReady => if s.ready then none else some (s.batchReceived count)
  | .wouldBlock =>
    if s.ready = true ∧ s.queue = [] then some ({ s with ready := false }.batchReceived count)
    else none
  | .failed => if s.ready then some { s with stage := .failed count } else none
  | .received size =>
    if s.ready = true ∧ 0 < size ∧ size ≤ s.batch.room target ∧ size ≤ s.queue.length then
      some (s.take target count size)
    else none

/-- `conn.recv` on a slot. Quiche decrypts in place and leaves what it likes there; its
errors are only logged. -/
def hand (s : Socket) (index count : ℕ) (left : Bytes) : Option Socket :=
  match s.batch.received index with
  | none => some { s with stage := .faulted }
  | some bytes =>
    if bytes ≠ [] ∧ left.length = bytes.length then
      some ({ s with
        batch := s.batch.write index left
        handed := s.handed ++ [bytes] }.nextSlot (index + 1) count)
    else none

end Socket

/-- One step of the socket and its drains. -/
def step (target : Target) (s : Socket) : Label → Option Socket
  | .arrive datagram => some { s with
      queue := s.queue ++ [datagram]
      arrived := s.arrived ++ [datagram]
      edge := true }
  | .event => if s.edge then some { s with edge := false, ready := true } else none
  | .drain tx => if s.stage = .returned then s.call tx false else none
  | .wake tx => if s.stage = .returned ∧ s.ready = true then s.call tx true else none
  | .kernel answer =>
    match s.stage with
    | .receive count => s.attempt target count answer
    | _ => none
  | .quiche left =>
    match s.stage with
    | .deliver index count => s.hand index count left
    | _ => none
  | .skip =>
    match s.stage with
    | .deliver index count =>
      if s.batch.received index = some [] then some (s.nextSlot (index + 1) count) else none
    | _ => none

end Usque.UdpReceive
