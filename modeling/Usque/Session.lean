import Usque.DataLoop
import Usque.Handshake
import Usque.RunTunnel
import Usque.SendPacket

/-! One session attempt, `run_tunnel_session` (`api/masque.rs`) with the two wait
loops of `handshake.rs`. The position is the call made next, an input what
quiche, the kernel and the clock answer there. Everything an observer outside
can tell goes into the log, in order. -/
namespace Usque

/-- The state the reporter publishes. -/
inductive ConnectionState where
  | disconnected
  | connected (handshakeLatencyMs : ℕ)
  deriving DecidableEq

inductive HookPoint where
  | connect
  | disconnect
  deriving DecidableEq

/-- What a session puts into quiche for the peer. -/
inductive Sent where
  /-- The CONNECT request. -/
  | request
  | probe (dgram : Bytes)
  | pending (dgram : Bytes)
  | uplink (dgram : Bytes)
  /-- A statistics request on a stream of its own. -/
  | report (streamId : Http3.StreamId)
  deriving DecidableEq

inductive Event where
  /-- A packet read from the TUN while no session is up. -/
  | captured (packet : Bytes)
  | attempted (index : ℕ) (endpoint : MasqueEndpoint)
  /-- The certificate passed the pin check. -/
  | accepted (certificate : Bytes)
  | sent (what : Sent)
  | connected (handshakeLatencyMs : ℕ)
  | disconnected
  | hookRun (point : HookPoint) (path : String)
  | statsSpawned
  | statsAborted
  /-- `pending_pkt.take()`. -/
  | handed (packet : Bytes)
  /-- `run_tunnel_session` has returned. -/
  | ended (established : Bool)
  deriving DecidableEq

/-- What outlives a session attempt. The moments and the log are history. -/
structure World where
  now : Instant
  device : NativeTun.TunRsDevice
  pending : Option Bytes
  published : ConnectionState
  moments : List NativeTun.Moment
  log : List Event
  deriving DecidableEq

namespace Session

open NativeTun Handshake Http3 Uplink

inductive SessionError where
  /-- TLS material, QUIC configuration, socket or first packet. -/
  | setup
  | udp
  | flush
  /-- "connection closed during QUIC handshake" -/
  | handshakeClosed
  /-- "remote endpoint public key does not match config.json endpoint_pub_key" -/
  | pinMismatch
  /-- "no peer certificate received; cannot verify endpoint public key" -/
  | noCertificate
  | http3
  /-- "send CONNECT request: .." -/
  | request
  /-- "timed out waiting for CONNECT response" -/
  | connectTimeout
  | response (error : PollError)
  /-- "connection closed before CONNECT response" -/
  | connectClosed
  | flowPrefix (message : String)
  | pending (error : SendPacket.SendError)
  | bufferPool
  | pump (error : DataLoop.LoopError)
  deriving DecidableEq

/-- What the calls after CONNECT share. -/
structure Tunnel where
  streamId : StreamId
  flowPrefix : Bytes
  stats : TxStats
  deriving DecidableEq

inductive Stage where
  | setup
  /-- The head of the loop of `complete_quic_handshake`. -/
  | handshake
  | flushHandshake
  | verify
  | request
  | flushRequest (streamId : StreamId)
  /-- The head of the loop of `wait_connect_response`. -/
  | connect (streamId : StreamId) (deadline : Instant)
  | pollConnect (streamId : StreamId) (deadline : Instant)
  | flushConnect (streamId : StreamId) (deadline : Instant)
  | announce (streamId : StreamId)
  | probe (tunnel : Tunnel)
  | pending (tunnel : Tunnel)
  | flushPending (tunnel : Tunnel)
  | enter (tunnel : Tunnel)
  | pump (a : LoopArgs) (loop : DataLoop a)
  | cleanup (error : SessionError)
  | returned (error : SessionError)
  deriving DecidableEq

/-- Where the session function is. `heard` is when the peer last sent something. -/
structure Position where
  stage : Stage
  started : Instant
  heard : Instant
  sessionEstablished : Bool
  deriving DecidableEq

def Position.start (now : Instant) : Position := ⟨.setup, now, now, false⟩

end Session

/-- A session attempt in its world. -/
structure Session extends Session.Position, World where
  deriving DecidableEq

namespace Session

open NativeTun Handshake Http3 Uplink

variable (spkiOf : Bytes → Option Bytes) (cfg : MasqueConfig) (endpoint : MasqueEndpoint)
  (mtu : ℕ)

/-- The error leaves the function here, whatever is still open. -/
def bail (s : Session) (error : SessionError) : Session := { s with stage := .returned error }

def emit (s : Session) (events : List Event) : Session := { s with log := s.log ++ events }

def wait (s : Session) (took : Duration) : Session := { s with now := s.now + took }

/-- One `select!` of a wait loop. -/
def await (s : Session) (arrival : Arrival) (onward : Stage) : Session :=
  let s := s.wait arrival.waited
  match arrival with
  | .received _ => { s with stage := onward, heard := s.now }
  | .failed _ => s.bail .udp
  | .slept _ => { s with stage := onward }

/-- `flush_quic(..).await?` and the closed check behind it. -/
def flush (s : Session) (took : Duration) (ok closed : Bool) (whenClosed : SessionError)
    (onward : Stage) : Session :=
  let s := s.wait took
  if !ok then s.bail .flush else if closed then s.bail whenClosed else { s with stage := onward }

/-- The pin check. -/
def checkPin (s : Session) (peerCert : Option Bytes) : Session :=
  if cfg.insecure then { s with stage := .request }
  else match peerCert with
    | none => s.bail .noCertificate
    | some cert =>
      if verifyEndpointKey spkiOf cert (prepareTlsMaterial endpoint).endpointPubKeySpkiDer then
        { s with stage := .request }.emit [.accepted cert]
      else s.bail .pinMismatch

/-- The HTTP/3 connection and the CONNECT request. -/
def sendRequest (s : Session) (http3 : Bool) (streamId : Option StreamId) : Session :=
  if !http3 then s.bail .http3
  else match streamId with
    | none => s.bail .request
    | some streamId => { s with stage := .flushRequest streamId }.emit [.sent .request]

/-- `wait_connect_response` is entered: its deadline starts. -/
def awaitResponse (s : Session) (took : Duration) (ok : Bool) (streamId : StreamId) : Session :=
  let s := s.wait took
  if ok then { s with stage := .connect streamId (s.now + seconds 10) } else s.bail .flush

def readResponse (s : Session) (answers : List PollAnswer) (streamId : StreamId)
    (deadline : Instant) : Session :=
  match pollConnect streamId answers with
  | .error error => s.bail (.response error)
  | .ok true => { s with stage := .announce streamId }
  | .ok false => { s with stage := .flushConnect streamId deadline }

/-- `run_hook` for a configured path. -/
def hookEvents (point : HookPoint) (path : Option String) : List Event :=
  (path.filter (· ≠ "")).toList.map (.hookRun point)

/-- What the session announces once CONNECT has succeeded. -/
def opening (latencyMs : ℕ) : List Event :=
  (if cfg.deviceState then [.connected latencyMs] else []) ++
    hookEvents .connect cfg.hooks.onConnect ++ [.statsSpawned]

/-- What the cleanup behind the pump announces. -/
def closing : List Event :=
  .statsAborted :: (if cfg.deviceState then [.disconnected] else []) ++
    hookEvents .disconnect cfg.hooks.onDisconnect

/-- `handshake_latency.as_millis()`, as a `u64`. -/
def latencyMs (s : Session) : ℕ := min (elapsed s.started s.now / 1000000) (2 ^ 64 - 1)

/-- From the established CONNECT stream to the flow prefix. -/
def announce (s : Session) (streamId : StreamId) : Session :=
  let s := { s with
    sessionEstablished := true
    published := if cfg.deviceState then .connected s.latencyMs else s.published }.emit
      (opening cfg s.latencyMs)
  match ConnectIp.buildFlowPrefix (streamId / 4) with
  | .ok flowPrefix => { s with stage := .probe ⟨streamId, flowPrefix, {}⟩ }
  | .error message => s.bail (.flowPrefix message)

/-- The activation probe; its errors only show in the log file. -/
def sendProbe (s : Session) (tunnel : Tunnel) (took : Duration) (maxWritableLen : Option ℕ)
    (tape : List SendPacket.Attempt) : Session :=
  match cfg.activationProbe with
  | none => { s with stage := .pending tunnel }
  | some packet =>
    let outcome := SendPacket.sendPacketDatagram tunnel.flowPrefix packet s.device.mtu
      maxWritableLen tunnel.stats tape
    { s.wait took with stage := .pending { tunnel with stats := outcome.stats } }.emit
      (outcome.sent.map fun dgram => .sent (.probe dgram))

/-- The packet captured before the session, if there is one. -/
def sendPending (s : Session) (tunnel : Tunnel) (took : Duration) (maxWritableLen : Option ℕ)
    (tape : List SendPacket.Attempt) : Session :=
  match s.pending with
  | none => { s with stage := .enter tunnel }
  | some packet =>
    let outcome := SendPacket.sendPacketDatagram tunnel.flowPrefix packet s.device.mtu
      maxWritableLen tunnel.stats tape
    let s := { s.wait took with pending := none }.emit
      (.handed packet :: outcome.sent.map fun dgram => .sent (.pending dgram))
    match outcome.result with
    | .error error => s.bail (.pending error)
    | .ok _ => { s with stage := .flushPending { tunnel with stats := outcome.stats } }

def packetBufferPoolSize : ℕ :=
  max 1 (min cfg.io.packetBufferPoolSize LoopArgs.maxPacketBufferPoolSize)

def loopArgs (tunnel : Tunnel) : LoopArgs where
  mtu := mtu
  flowPrefix := tunnel.flowPrefix
  flowId := tunnel.streamId / 4
  connectStreamId := tunnel.streamId
  reportH3Stats := cfg.connectProfile.reportsH3Stats
  keepalivePeriod := cfg.quic.keepalivePeriod
  enablePmtud := cfg.pathMtu.enabled
  pmtudRevalidatePeriod := cfg.pathMtu.revalidatePeriod
  maxTunMtu := cfg.pathMtu.maxTunMtu
  txQueueLen := min (max cfg.io.txQueueLen 1) (packetBufferPoolSize cfg)
  txBurstPackets := max cfg.io.txBurstPackets 1
  packetBufferPoolSize := packetBufferPoolSize cfg
  udpBatchSize := cfg.io.udpBatchSize

/-- `data_loop` is called. -/
def enterLoop (s : Session) (tunnel : Tunnel) (quicDeadline : Option Instant) : Session :=
  let a := loopArgs cfg mtu tunnel
  match DataLoop.start a tunnel.stats s.device s.now quicDeadline with
  | some loop => { s with stage := .pump a loop }
  | none => { s with stage := .cleanup .bufferPool }

/-- What the pump has put into quiche between two of its states. -/
def pumpEvents {a : LoopArgs} (before after : DataLoop a) : List Event :=
  (after.up.sent.drop before.up.sent.length).map (fun dgram => .sent (.uplink dgram)) ++
    (after.requests.drop before.requests.length).map fun streamId => .sent (.report streamId)

/-- The pump has moved: its device is the device, and what it sent is logged. -/
def follow (s : Session) {a : LoopArgs} (before after : DataLoop a) : Session :=
  { s with
    stage := .pump a after
    now := after.now
    device := after.device
    moments := s.moments ++ after.moments.drop before.moments.length }.emit
      (pumpEvents before after)

def cleanUp (s : Session) (error : SessionError) : Session :=
  { s with
    stage := .returned error
    published := if cfg.deviceState then .disconnected else s.published }.emit (closing cfg)

/-- What the environment answers to the session's next call. -/
inductive Input where
  | setUp (took : Duration) (ok : Bool)
  /-- `conn.is_established()`. -/
  | established
  /-- A pass of a wait loop, with `conn.timeout()` and how its wait ends. -/
  | pass (timeout : Option Duration) (arrival : Arrival)
  | flushed (took : Duration) (ok closed : Bool)
  | certificate (peerCert : Option Bytes)
  | requested (http3 : Bool) (streamId : Option StreamId)
  | polled (answers : List PollAnswer)
  /-- Nothing is asked. -/
  | proceed
  | offered (took : Duration) (maxWritableLen : Option ℕ) (tape : List SendPacket.Attempt)
  | entered (quicDeadline : Option Instant)
  | pump (label : DataLoop.Label)
  deriving DecidableEq

/-- The session makes its next call; none where the input does not answer it. -/
def step (s : Session) : Input → Option Session
  | .setUp took ok =>
    match s.stage with
    | .setup =>
      let s := s.wait took
      some (if ok then { s with stage := .handshake, heard := s.now } else s.bail .setup)
    | _ => none
  | .established =>
    match s.stage with
    | .handshake => some { s with stage := .verify }
    | _ => none
  | .pass timeout arrival =>
    if arrival.Possible timeout then
      match s.stage with
      | .handshake => some (s.await arrival .flushHandshake)
      | .connect streamId deadline =>
        some (if deadline ≤ s.now then s.bail .connectTimeout
          else s.await arrival (.pollConnect streamId deadline))
      | _ => none
    else none
  | .flushed took ok closed =>
    match s.stage with
    | .flushHandshake => some (s.flush took ok closed .handshakeClosed .handshake)
    | .flushRequest streamId => some (s.awaitResponse took ok streamId)
    | .flushConnect streamId deadline =>
      some (s.flush took ok closed .connectClosed (.connect streamId deadline))
    | .flushPending tunnel =>
      some (if ok then { s.wait took with stage := .enter tunnel } else (s.wait took).bail .flush)
    | _ => none
  | .certificate peerCert =>
    match s.stage with
    | .verify => some (s.checkPin spkiOf cfg endpoint peerCert)
    | _ => none
  | .requested http3 streamId =>
    match s.stage with
    | .request => some (s.sendRequest http3 streamId)
    | _ => none
  | .polled answers =>
    match s.stage with
    | .pollConnect streamId deadline => some (s.readResponse answers streamId deadline)
    | _ => none
  | .proceed =>
    match s.stage with
    | .announce streamId => some (s.announce cfg streamId)
    | .pump _ loop =>
      match loop.stage with
      | .ended error => some { s with stage := .cleanup (.pump error) }
      | _ => none
    | .cleanup error => some (s.cleanUp cfg error)
    | _ => none
  | .offered took maxWritableLen tape =>
    match s.stage with
    | .probe tunnel => some (s.sendProbe cfg tunnel took maxWritableLen tape)
    | .pending tunnel => some (s.sendPending tunnel took maxWritableLen tape)
    | _ => none
  | .entered quicDeadline =>
    match s.stage with
    | .enter tunnel => some (s.enterLoop cfg mtu tunnel quicDeadline)
    | _ => none
  | .pump label =>
    match s.stage with
    | .pump _ loop => (DataLoop.step loop label).map (s.follow loop)
    | _ => none

end Session
end Usque
