import Usque.Packet
import Usque.Timing
import Usque.Lib.Transition

/-! Paced batch transmission over the QUIC socket (`UdpBatchIo` in `api/masque/udp.rs`).
`flush_quic` fills the batch with what quiche produces, groups it by deadline and retries
what the kernel does not take. Every call to quiche, the kernel or the clock is one label,
so a run is one `flush_quic` call under arbitrary answers. -/
namespace Usque.UdpBatch

open Timing

def maxDatagramSize : ℕ := 1500
def maxUdpBatchSize : ℕ := 64

/-! ## The batch -/

/-- The transmit side of `UdpBatchIo`; its three arrays are as long as the batch. -/
structure UdpBatchIo where
  txBuffers : List Bytes
  txLens : List ℕ
  txAt : List Instant
  batchSize : ℕ
  lastPacingWait : Duration
  maxPacingWait : Duration
  pacedSleeps : ℕ
  positive : 0 < batchSize
  bounded : batchSize ≤ maxUdpBatchSize
  buffersFull : txBuffers.length = batchSize
  lensFull : txLens.length = batchSize
  atFull : txAt.length = batchSize

/-- A complete UDP datagram of quiche and its `send_info.at`. -/
structure Datagram where
  bytes : Bytes
  deadline : Instant
  deriving DecidableEq

namespace UdpBatchIo

/-- `UdpBatchIo::new`. -/
def new (datagramSize requestedBatchSize : ℕ) (now : Instant) : UdpBatchIo where
  txBuffers := .replicate (max 1 (min requestedBatchSize maxUdpBatchSize))
    (.replicate (max datagramSize maxDatagramSize) 0)
  txLens := .replicate (max 1 (min requestedBatchSize maxUdpBatchSize)) 0
  txAt := .replicate (max 1 (min requestedBatchSize maxUdpBatchSize)) now
  batchSize := max 1 (min requestedBatchSize maxUdpBatchSize)
  lastPacingWait := 0
  maxPacingWait := 0
  pacedSleeps := 0
  positive := by omega
  bounded := max_le (by decide) (Nat.min_le_right _ _)
  buffersFull := List.length_replicate
  lensFull := List.length_replicate
  atFull := List.length_replicate

/-- What `conn.send` leaves in a slot of the batch: the datagram at the front of the
buffer, its length and its deadline. -/
def store (io : UdpBatchIo) (index : ℕ) (buffer : Bytes) (datagram : Datagram) : UdpBatchIo :=
  { io with
    txBuffers := io.txBuffers.set index (datagram.bytes ++ buffer.drop datagram.bytes.length)
    txLens := io.txLens.set index datagram.bytes.length
    txAt := io.txAt.set index datagram.deadline
    buffersFull := by rw [List.length_set, io.buffersFull]
    lensFull := by rw [List.length_set, io.lensFull]
    atFull := by rw [List.length_set, io.atFull] }

/-- The bookkeeping of a pacing sleep, if there is one. -/
def recordSleep (io : UdpBatchIo) (wait : Duration) : UdpBatchIo :=
  if wait = 0 then io
  else { io with
    lastPacingWait := wait
    maxPacingWait := max io.maxPacingWait wait
    pacedSleeps := min (io.pacedSleeps + 1) (2 ^ 64 - 1) }

/-- What a slot of the batch holds; none outside the arrays, or where the length says
more than the buffer has. -/
def slot (io : UdpBatchIo) (index : ℕ) : Option Datagram := do
  let buffer ← io.txBuffers[index]?
  let length ← io.txLens[index]?
  let deadline ← io.txAt[index]?
  if length ≤ buffer.length then some ⟨buffer.take length, deadline⟩ else none

end UdpBatchIo

/-- `&items[start..stop]`, none where it panics. -/
def slice (items : List α) (start stop : ℕ) : Option (List α) :=
  if start ≤ stop ∧ stop ≤ items.length then some (Splice.range items start stop) else none

/-- The loop of `sendmmsg_nonblocking` that points the kernel to its first messages; none
where an index or a length leaves its array. -/
def iovecs (buffers : List Bytes) (lengths : List ℕ) : ℕ → Option (List Bytes)
  | 0 => some []
  | index + 1 => do
    let before ← iovecs buffers lengths index
    let buffer ← buffers[index]?
    let length ← lengths[index]?
    if length ≤ buffer.length then some (before ++ [buffer.take length]) else none

/-- The messages of `sendmmsg_nonblocking`. -/
def sendmmsgMessages (buffers : List Bytes) (lengths : List ℕ) : Option (List Bytes) :=
  iovecs buffers lengths (min (min buffers.length lengths.length) maxUdpBatchSize)

/-- The slots behind `stop` whose deadline has come, up to `left` of them; none where an
index leaves the batch. -/
def groupEnd (txAt : List Instant) (now : Instant) (stop : ℕ) : ℕ → Option ℕ
  | 0 => some stop
  | left + 1 =>
    match txAt[stop]? with
    | none => none
    | some deadline =>
      if deadline ≤ now then groupEnd txAt now (stop + 1) left else some stop

/-! ## One flush -/

/-- `send_batch` has a body for FreeBSD and one for all other targets. -/
inductive Target where
  | freebsd
  | other
  deriving DecidableEq

/-- What `send_batch` offers to the kernel next. -/
def Target.offered (target : Target) (io : UdpBatchIo) (sent stop : ℕ) : Option (List Bytes) :=
  match target with
  | .freebsd => do
    let buffers ← slice io.txBuffers sent stop
    let lengths ← slice io.txLens sent stop
    sendmmsgMessages buffers lengths
  | .other => do
    let buffer ← io.txBuffers[sent]?
    let length ← io.txLens[sent]?
    if length ≤ buffer.length then some [buffer.take length] else none

/-- Where `flush_quic` is. `faulted` is an index or a length that left its array. -/
inductive Stage where
  | produce (count : ℕ)
  | paced (start count : ℕ) (drained : Bool)
  | batch (sent stop count : ℕ) (drained : Bool)
  | writable (sent stop count : ℕ) (drained : Bool)
  | returned (ok : Bool)
  | faulted
  deriving DecidableEq

inductive SendAnswer where
  | datagram (datagram : Datagram)
  | done
  | error

/-- How an attempt to send ends. `notReady` is Tokio's own refusal, before the kernel is
asked. -/
inductive KernelAnswer where
  | notReady
  | wouldBlock
  | sent (count : ℕ)
  | failed

/-- `sendmmsg` takes at most the messages it is given; `send` takes its only one. -/
def KernelAnswer.possible (target : Target) (offered : ℕ) : KernelAnswer → Bool
  | .sent count =>
    match target with
    | .freebsd => count ≤ offered
    | .other => count = offered
  | .notReady | .wouldBlock | .failed => true

/-- One call out of the flush and its answer. The clock only moves forward, and a sleep
lasts as long as was asked or longer. -/
inductive Label where
  | send (answer : SendAnswer)
  | pace (before oversleep after : Duration)
  | kernel (passed : Duration) (answer : KernelAnswer)
  | writable (passed : Duration) (ok : Bool)

/-- Messages put before the kernel, behind this many accepted ones. -/
structure HandOver where
  time : Instant
  accepted : ℕ
  messages : List Bytes
  deriving DecidableEq

/-- A `flush_quic` call. What quiche produced, what the socket accepted and what the
kernel was handed are history. -/
structure Flush where
  io : UdpBatchIo
  now : Instant
  stage : Stage
  produced : List Datagram := []
  accepted : List Bytes := []
  handed : List HandOver := []

def start (io : UdpBatchIo) (now : Instant) : Flush := { io, now, stage := .produce 0 }

/-! ## The loop heads -/

/-- The end of the body of `flush_quic`'s loop. -/
def afterBatches (drained : Bool) : Stage :=
  if drained then .returned true else .produce 0

/-- The head of `send_paced_batches`' loop. -/
def nextGroup (start count : ℕ) (drained : Bool) : Stage :=
  if start < count then .paced start count drained else afterBatches drained

/-- The head of `send_batch`'s loop. -/
def nextChunk (sent stop count : ℕ) (drained : Bool) : Stage :=
  if sent < stop then .batch sent stop count drained else nextGroup stop count drained

/-- Behind the inner loop of `flush_quic`. -/
def afterProduction (count : ℕ) (drained : Bool) : Stage :=
  if 0 < count then nextGroup 0 count drained else afterBatches drained

namespace Flush

/-- One round of `flush_quic`'s inner loop. Quiche writes no more than the buffer has. -/
def produce (s : Flush) (count : ℕ) (answer : SendAnswer) : Option Flush :=
  match s.io.txBuffers[count]? with
  | none => some { s with stage := .faulted }
  | some buffer =>
    match answer with
    | .datagram datagram =>
      if buffer.length < datagram.bytes.length then none
      else if s.io.txLens.length ≤ count ∨ s.io.txAt.length ≤ count then
        some { s with stage := .faulted }
      else some { s with
        io := s.io.store count buffer datagram
        produced := s.produced ++ [datagram]
        stage := if count + 1 < s.io.batchSize then .produce (count + 1)
          else afterProduction (count + 1) false }
    | .done => some { s with stage := afterProduction count true }
    | .error => some { s with stage := .returned false }

/-- One round of `send_paced_batches` up to its `send_batch` call: the sleep until the
first deadline, then the slots that go with it. -/
def pace (s : Flush) (start count : ℕ) (drained : Bool) (before oversleep after : Duration) :
    Flush :=
  match s.io.txAt[start]? with
  | none => { s with stage := .faulted }
  | some deadline =>
    let wait : Duration := (deadline - (s.now + before)).toNat
    let io := s.io.recordSleep wait
    let woken := s.now + before + (if wait = 0 then 0 else wait + oversleep)
    let now := woken + after
    match groupEnd s.io.txAt now (start + 1) (count - (start + 1)) with
    | none => { s with io, now, stage := .faulted }
    | some stop => { s with io, now, stage := nextChunk start stop count drained }

/-- One round of `send_batch`. -/
def attempt (target : Target) (s : Flush) (sent stop count : ℕ) (drained : Bool)
    (passed : Duration) : KernelAnswer → Option Flush
  | .notReady => some { s with now := s.now + passed, stage := .writable sent stop count drained }
  | answer =>
    match target.offered s.io sent stop with
    | none => some { s with now := s.now + passed, stage := .faulted }
    | some messages =>
      if answer.possible target messages.length then
        let handOver : HandOver := ⟨s.now + passed, s.accepted.length, messages⟩
        let s := { s with now := s.now + passed, handed := s.handed ++ [handOver] }
        match answer with
        | .notReady | .wouldBlock => some { s with stage := .writable sent stop count drained }
        | .failed => some { s with stage := .returned false }
        | .sent taken => some { s with
            accepted := s.accepted ++ messages.take taken
            stage := if taken = 0 then .writable sent stop count drained
              else nextChunk (sent + taken) stop count drained }
      else none

end Flush

/-- One step of `flush_quic`. -/
def step (target : Target) (s : Flush) (label : Label) : Option Flush :=
  match s.stage, label with
  | .produce count, .send answer => s.produce count answer
  | .paced start count drained, .pace before oversleep after =>
    some (s.pace start count drained before oversleep after)
  | .batch sent stop count drained, .kernel passed answer =>
    s.attempt target sent stop count drained passed answer
  | .writable sent stop count drained, .writable passed ok =>
    some { s with
      now := s.now + passed
      stage := if ok then .batch sent stop count drained else .returned false }
  | _, _ => none

end Usque.UdpBatch
