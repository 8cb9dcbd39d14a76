import Usque.ConnectIp
import Usque.Http3
import Usque.NativeTun
import Usque.Uplink

/-! The packet pump `data_loop` (`api/masque.rs`) with its TUN reader task. The
pump's position is the call it makes next; an input is what quiche, the kernel
and the clock answer there, so a list of labels is one run under one
environment. Logging and the published metrics are left out: nothing reads them
back. -/
namespace Usque

def rxDgramDrainBurst : ℕ := 32
def txChannelDrainBurst : ℕ := 256
def meshH3StatsInterval : Duration := seconds 15

namespace DataLoop

open Packet Uplink Http3 NativeTun Timing

/-! ## The download side -/

structure RxStats where
  rxPackets : ℕ := 0
  rxBytes : ℕ := 0
  rxDrainBudgetHits : ℕ := 0
  deriving DecidableEq

/-- One answer of `dgram_recv_buf`. -/
inductive RecvAnswer where
  | datagram (bytes : Bytes)
  | done
  | error
  deriving DecidableEq

/-- What `drain_incoming_datagrams` returns, offers to the TUN and counts. -/
structure Drained where
  budgetExhausted : Bool
  written : List Bytes
  stats : RxStats
  deriving DecidableEq

/-- The inner packet of a DATAGRAM that goes to the TUN. -/
def acceptedPayload (flowId : UInt64) (dgram : Bytes) : Option Bytes :=
  (ConnectIp.parseDatagram dgram flowId).filter fun payload => (validateIncoming payload).isOk

/-- `drain_incoming_datagrams` with `left` DATAGRAMs of its burst to go. A failed
TUN write changes nothing here. -/
def drainIncoming (flowId : UInt64) : ℕ → RxStats → List RecvAnswer → Drained
  | 0, stats, _ => ⟨true, [], { stats with rxDrainBudgetHits := stats.rxDrainBudgetHits + 1 }⟩
  | left + 1, stats, .datagram dgram :: rest =>
    match acceptedPayload flowId dgram with
    | some payload =>
      let after := drainIncoming flowId left { stats with
        rxPackets := stats.rxPackets + 1
        rxBytes := stats.rxBytes + payload.length } rest
      { after with written := payload :: after.written }
    | none => drainIncoming flowId left stats rest
  | _ + 1, stats, _ => ⟨false, [], stats⟩

/-! ## The state of the pump -/

structure TxProgress where
  queued : ℕ
  backpressure : Bool
  icmpPackets : List Bytes
  deriving DecidableEq

def TxProgress.none : TxProgress := ⟨0, false, []⟩

/-- What one turn of `queue_tx_datagrams` adds to its progress. -/
def TxProgress.record (progress : TxProgress) : Fate → TxProgress
  | .oversize (some icmp) => { progress with icmpPackets := progress.icmpPackets ++ [icmp] }
  | .oversize .none | .failed => progress
  | .accepted => { progress with queued := progress.queued + 1 }
  | .refused => { progress with backpressure := true }

/-- Why `data_loop` returns. -/
inductive LoopError where
  | udp
  | flush
  | http3 (message : String)
  | device (error : TunError)
  | closed
  | tunReaderEnded
  | keepalive
  deriving DecidableEq

/-- The call the pump makes next. `drain_quic` is called at the loop's head and
again inside `select!`; both count the batches of this drain. -/
inductive Stage where
  | receive (inSelect : Bool) (batches : ℕ)
  | flushReceived
  | poll
  | drain
  | report
  | flushReport
  | applyPmtu
  | drainChannel (taken : ℕ)
  | queueTx
  | returnIcmp
  | flushTx
  | check
  | select (timeout : Duration) (quicTimeoutDue : Bool) (since : Instant)
  | flushTimers
  | ended (error : LoopError)
  deriving DecidableEq

/-- What an observer counts: ended iterations, received batches, and the calls
of `on_timeout`, `send_ack_eliciting` and `revalidate_pmtu`. -/
structure Counts where
  iterations : ℕ := 0
  batches : ℕ := 0
  onTimeouts : ℕ := 0
  keepalives : ℕ := 0
  revalidations : ℕ := 0
  deriving DecidableEq

end DataLoop

open DataLoop in
/-- The pump and the tasks around it. The device's moments, the packets offered
to the TUN, the requests opened and the counts are history. -/
structure DataLoop (a : LoopArgs) where
  stage : Stage
  up : Uplink a
  device : NativeTun.TunRsDevice
  rx : RxStats
  now : Instant
  quicDeadline : Option Instant
  lastKeepaliveProbe : Instant
  lastPmtudRevalidation : Instant
  lastH3StatsReport : Instant
  pendingH3StatsReport : Option Http3.PendingH3StatsReport
  appliedPmtu : Option ℕ
  rxDrainBudgetExhausted : Bool
  progress : TxProgress
  moments : List NativeTun.Moment
  tunWrites : List Bytes
  requests : List Http3.StreamId
  counts : Counts
  deriving DecidableEq

namespace DataLoop

open Packet Uplink Http3 NativeTun Timing

variable {a : LoopArgs}

/-- `conn.timeout()`. -/
def quicTimeout (s : DataLoop a) : Option Duration :=
  s.quicDeadline.map fun deadline => (deadline - s.now).toNat

def keepaliveWait (s : DataLoop a) : Option Duration :=
  keepaliveRemaining a.keepalivePeriod (elapsed s.lastKeepaliveProbe s.now)

def pmtudWait (s : DataLoop a) : Option Duration :=
  pmtudRemaining a.enablePmtud a.pmtudRevalidatePeriod (elapsed s.lastPmtudRevalidation s.now)

def h3StatsWait (s : DataLoop a) : Option Duration :=
  if a.reportH3Stats && s.pendingH3StatsReport.isNone then
    some (meshH3StatsInterval - elapsed s.lastH3StatsReport s.now)
  else none

/-! ## The calls of one iteration -/

def fail (s : DataLoop a) (error : LoopError) : DataLoop a := { s with stage := .ended error }

def nextIteration (s : DataLoop a) : DataLoop a :=
  { s with
    stage := .receive false 0
    counts := { s.counts with iterations := s.counts.iterations + 1 } }

/-- `udp_batch.flush_quic(..).await?`, then on to `next`. -/
def flushQuic (s : DataLoop a) (ok : Bool) (next : DataLoop a) : DataLoop a :=
  if ok then next else s.fail .flush

/-- One turn of `drain_quic`: a batch, or the failure of `try_recv_batch`. -/
def receiveBatch (s : DataLoop a) (inSelect : Bool) (batches : ℕ) : Option ℕ → DataLoop a
  | none => s.fail .udp
  | some count =>
    let s := if count = 0 then s
      else { s with counts := { s.counts with batches := s.counts.batches + 1 } }
    if count ≠ 0 ∧ a.batchSize ≤ count then { s with stage := .receive inSelect (batches + 1) }
    else if inSelect then s.nextIteration
    else { s with stage := .flushReceived }

def pollTunnel (s : DataLoop a) (polls : List PollAnswer) (bodies : List BodyAnswer) :
    DataLoop a :=
  match (pollH3 a.connectStreamId polls bodies).1 with
  | .ok () => { s with stage := .drain }
  | .error message => s.fail (.http3 message)

def drainDatagrams (s : DataLoop a) (answers : List RecvAnswer) : DataLoop a :=
  let drained := drainIncoming a.flowId rxDgramDrainBurst s.rx answers
  { s with
    stage := .report
    rx := drained.stats
    rxDrainBudgetExhausted := drained.budgetExhausted
    tunWrites := s.tunWrites ++ drained.written }

/-- A new statistics report, when one is due. -/
def startReport (s : DataLoop a) (answer : StartAnswer) : DataLoop a :=
  if a.reportH3Stats && s.pendingH3StatsReport.isNone &&
      decide (meshH3StatsInterval ≤ elapsed s.lastH3StatsReport s.now) then
    let report := startH3StatsReport answer
    { s with
      lastH3StatsReport := s.now
      pendingH3StatsReport := report
      requests := s.requests ++ report.toList.map (·.streamId) }
  else s

def reportStats (s : DataLoop a) (start : StartAnswer) (sent : SendBodyAnswer) : DataLoop a :=
  let s := s.startReport start
  match s.pendingH3StatsReport with
  | some report => { s with
      stage := .flushReport
      pendingH3StatsReport := flushH3StatsReport report sent }
  | none => { s with stage := .applyPmtu }

/-- The path MTU quiche has discovered reaches the TUN, once for each value.
`readable` tells whether `dev.mtu()` succeeds. -/
def applyPmtu (s : DataLoop a) (pmtu writable : Option ℕ) (readable : Bool)
    (answers : TunAnswers) : DataLoop a :=
  let after := { s with stage := .drainChannel 0 }
  if !a.enablePmtud || pmtu.isNone || s.appliedPmtu == pmtu then after
  else match discoveredTunMtu pmtu writable a.flowPrefix.length a.maxTunMtu with
    | none => after
    | some tunMtu =>
      if !readable then s.fail (.device .readMtu)
      else
        let call := s.device.applyPathMtu tunMtu true answers
        let s := { s with device := call.state, moments := s.moments ++ call.moments }
        match call.result with
        | .ok () => { s with stage := .drainChannel 0, appliedPmtu := pmtu }
        | .error error => s.fail (.device error)

/-- One turn of the channel drain. -/
def drainTx (s : DataLoop a) (taken : ℕ) : DataLoop a :=
  let queueTx := { s with stage := .queueTx, progress := TxProgress.none }
  if taken ≥ txChannelDrainBurst ∨ s.up.txQueue.length ≥ a.txQueueLen then queueTx
  else match s.up.pull with
    | some up => { s with up := up, stage := .drainChannel (taken + 1) }
    | none =>
      match s.up.noticeClosed with
      | some up => { queueTx with up := up }
      | none => queueTx

/-- The head of the loop of `queue_tx_datagrams`. -/
def popTx (s : DataLoop a) : DataLoop a :=
  if s.progress.queued < max a.txBurstPackets 1 then
    match s.up.pop with
    | some up => { s with up := up }
    | none => { s with stage := .returnIcmp }
  else { s with stage := .returnIcmp }

/-- The rest of that loop's turn, from the popped item. -/
def settleTx (s : DataLoop a) (answer : TxAnswer) : Option (DataLoop a) :=
  (s.up.settle s.device.mtu answer).map fun (fate, up) =>
    { s with
      up := up
      progress := s.progress.record fate
      stage := if fate = .refused then .returnIcmp else .queueTx }

def returnIcmp (s : DataLoop a) : DataLoop a :=
  { s with
    tunWrites := s.tunWrites ++ s.progress.icmpPackets
    stage := if s.progress.queued > 0 ∨ s.progress.backpressure then .flushTx else .check }

/-- Whether the iteration ends without waiting. -/
def busy (s : DataLoop a) : Bool :=
  s.rxDrainBudgetExhausted ||
    (!s.up.txQueue.isEmpty && decide (s.progress.queued ≥ a.txBurstPackets) &&
      !s.progress.backpressure)

/-- The smallest of the waits that are armed, or one hour. -/
def selectTimeout (s : DataLoop a) : Duration :=
  (([s.quicTimeout, s.keepaliveWait, s.pmtudWait, s.h3StatsWait].filterMap id).min?).getD
    (seconds 3600)

def checkLoop (s : DataLoop a) (closed : Bool) : DataLoop a :=
  if closed then s.fail .closed
  else if s.up.tunReaderClosed ∧ s.up.txQueue = [] then s.fail .tunReaderEnded
  else if s.busy then s.nextIteration
  else
    let quicTimeoutDue := s.quicTimeout.any fun quic => decide (quic ≤ s.selectTimeout)
    { s with stage := .select s.selectTimeout quicTimeoutDue s.now }

/-- The `tx_rx.recv()` branch of `select!`. -/
def selectRecv (s : DataLoop a) : Option (DataLoop a) :=
  if s.up.tunReaderClosed = false ∧ s.up.txQueue.length < a.txQueueLen then
    match s.up.pull with
    | some up => some { s with up := up }.nextIteration
    | none => s.up.noticeClosed.map fun up => { s with up := up }.nextIteration
  else none

/-- `conn.on_timeout()`, when quiche's timer was waited for; `rearmed` is the
deadline quiche leaves behind. -/
def onTimeout (s : DataLoop a) (quicTimeoutDue : Bool) (rearmed : Option Instant) : DataLoop a :=
  if quicTimeoutDue then { s with
    quicDeadline := rearmed
    counts := { s.counts with onTimeouts := s.counts.onTimeouts + 1 } }
  else s

/-- `conn.send_ack_eliciting()`, when a probe is due. -/
def sendAckEliciting (s : DataLoop a) (probed : Bool) : DataLoop a :=
  if s.keepaliveWait = some 0 then
    let s := { s with counts := { s.counts with keepalives := s.counts.keepalives + 1 } }
    if probed then { s with lastKeepaliveProbe := s.now } else s.fail .keepalive
  else s

/-- `conn.revalidate_pmtu()`, when its period has passed. -/
def revalidatePmtu (s : DataLoop a) : DataLoop a :=
  if s.pmtudWait = some 0 then { s with
    lastPmtudRevalidation := s.now
    appliedPmtu := none
    counts := { s.counts with revalidations := s.counts.revalidations + 1 } }
  else s

/-- The `sleep` branch of `select!`, up to its flush. -/
def runTimers (s : DataLoop a) (quicTimeoutDue probed : Bool) (rearmed : Option Instant) :
    DataLoop a :=
  let s := s.onTimeout quicTimeoutDue rearmed
  let probing := s.keepaliveWait = some 0
  let s := s.sendAckEliciting probed
  if probing ∧ probed = false then s
  else
    let revalidating := s.pmtudWait = some 0
    let s := s.revalidatePmtu
    if quicTimeoutDue ∨ probing ∨ revalidating then { s with stage := .flushTimers }
    else s.nextIteration

/-! ## The system -/

/-- What the environment answers to the pump's next call. -/
inductive Input where
  | batch (count : Option ℕ)
  | flushed (ok : Bool)
  | polled (polls : List PollAnswer) (bodies : List BodyAnswer)
  | drained (answers : List RecvAnswer)
  | reported (start : StartAnswer) (sent : SendBodyAnswer)
  | pathMtu (pmtu writable : Option ℕ) (readable : Bool) (answers : TunAnswers)
  /-- Nothing is asked: the call only looks at the pump's own state. -/
  | proceed
  | settled (answer : TxAnswer)
  | checked (closed : Bool)
  | readable (ok : Bool)
  | received
  | slept (probed : Bool) (rearmed : Option Instant)
  deriving DecidableEq

/-- The pump makes its next call; none where the input does not answer it. A
batch never holds more than its size, and a sleep is over only when its time is. -/
def pump (s : DataLoop a) : Input → Option (DataLoop a)
  | .batch count =>
    match s.stage with
    | .receive inSelect batches =>
      if ∀ size ∈ count, size ≤ a.batchSize then some (s.receiveBatch inSelect batches count)
      else none
    | _ => none
  | .flushed ok =>
    match s.stage with
    | .flushReceived => some (s.flushQuic ok { s with stage := .poll })
    | .flushReport => some (s.flushQuic ok { s with stage := .applyPmtu })
    | .flushTx => some (s.flushQuic ok { s with stage := .check })
    | .flushTimers => some (s.flushQuic ok s.nextIteration)
    | _ => none
  | .polled polls bodies => if s.stage = .poll then some (s.pollTunnel polls bodies) else none
  | .drained answers => if s.stage = .drain then some (s.drainDatagrams answers) else none
  | .reported start sent => if s.stage = .report then some (s.reportStats start sent) else none
  | .pathMtu pmtu writable readable answers =>
    if s.stage = .applyPmtu then some (s.applyPmtu pmtu writable readable answers) else none
  | .proceed =>
    match s.stage with
    | .drainChannel taken => some (s.drainTx taken)
    | .queueTx => if s.up.held = none then some s.popTx else none
    | .returnIcmp => some s.returnIcmp
    | _ => none
  | .settled answer => if s.stage = .queueTx then s.settleTx answer else none
  | .checked closed => if s.stage = .check then some (s.checkLoop closed) else none
  | .readable ok =>
    match s.stage with
    | .select _ _ _ => some (if ok then { s with stage := .receive true 0 } else s.fail .udp)
    | _ => none
  | .received =>
    match s.stage with
    | .select _ _ _ => s.selectRecv
    | _ => none
  | .slept probed rearmed =>
    match s.stage with
    | .select timeout quicTimeoutDue since =>
      if since + timeout ≤ s.now then some (s.runTimers quicTimeoutDue probed rearmed) else none
    | _ => none

/-- An operation of the TUN reader task. -/
inductive ReaderOp where
  | takeBuffer
  | readPacket (packet : Bytes)
  | readEnds
  | prepare
  | send
  deriving DecidableEq

def ReaderOp.action : ReaderOp → Uplink.Action
  | .takeBuffer => .takeBuffer
  | .readPacket packet => .readPacket packet
  | .readEnds => .readEnds
  | .prepare => .prepare
  | .send => .send

/-- Who moves next: the reader, the pump, the clock, or quiche's timer, which
any call into the connection may set. -/
inductive Label where
  | reader (op : ReaderOp)
  | pump (input : Input)
  | tick (passed : Duration)
  | rearm (deadline : Option Instant)
  deriving DecidableEq

def Running (s : DataLoop a) : Prop := ∀ error, s.stage ≠ .ended error

instance (s : DataLoop a) : Decidable s.Running :=
  match stage : s.stage with
  | .ended error => .isFalse fun running => running error stage
  | .receive .. | .flushReceived | .poll | .drain | .report | .flushReport | .applyPmtu
  | .drainChannel _ | .queueTx | .returnIcmp | .flushTx | .check | .select .. | .flushTimers =>
    .isTrue fun error same => by rw [stage] at same; cases same

/-- One step of the pump and the tasks around it. Returning aborts the reader,
so nothing follows an end. -/
def step (s : DataLoop a) (label : Label) : Option (DataLoop a) :=
  if s.Running then
    match label with
    | .reader op => (Uplink.step s.up op.action).map fun up => { s with up := up }
    | .pump input => s.pump input
    | .tick passed => some { s with now := s.now + passed }
    | .rearm deadline => some { s with quicDeadline := deadline }
  else none

/-- The pump as `data_loop` enters its loop. -/
def enter (up : Uplink a) (device : TunRsDevice) (now : Instant)
    (quicDeadline : Option Instant) : DataLoop a where
  stage := .receive false 0
  up := up
  device := device
  rx := {}
  now := now
  quicDeadline := quicDeadline
  lastKeepaliveProbe := now
  lastPmtudRevalidation := now
  lastH3StatsReport := now - meshH3StatsInterval
  pendingH3StatsReport := none
  appliedPmtu := none
  rxDrainBudgetExhausted := false
  progress := TxProgress.none
  moments := []
  tunWrites := []
  requests := []
  counts := {}

/-- `data_loop` from its call: none when the pool cannot be filled. -/
def start (a : LoopArgs) (stats : TxStats) (device : TunRsDevice) (now : Instant)
    (quicDeadline : Option Instant) : Option (DataLoop a) :=
  (Uplink.start a stats).map fun up => enter up device now quicDeadline

end DataLoop
end Usque
