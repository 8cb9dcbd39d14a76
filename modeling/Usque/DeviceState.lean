import Mathlib.Data.Rat.Defs
import Usque.SupervisorSteps

/-! Device-state reports (`api/device_state.rs`). The session task and the reporter task
share two cells, the watched connection state and the tunnel metrics, and the reporter
reads them one after the other. The session task is the supervisor with the session it
runs; its own steps are those of the supervisor, with the calls into the reporter
handle placed where `run_tunnel_session` and `data_loop` make them. A float that the host
measures is the rational number it stands for. -/
namespace Usque

structure TunnelMetrics where
  localIp : IpAddr
  rttUs : ℕ
  minRttUs : Option ℕ
  rttVarUs : ℕ
  packetsSentUpstream : ℕ
  packetsReceivedDownstream : ℕ
  packetsLostUpstream : ℕ
  packetsRetransmittedUpstream : ℕ
  bytesSentUpstream : ℕ
  bytesReceivedDownstream : ℕ
  bytesLostUpstream : ℕ
  bytesRetransmittedUpstream : ℕ
  deriving DecidableEq

namespace DeviceState

structure IpInfo where
  address : String
  netmask : String
  deriving DecidableEq

/-- `InterfaceSnapshot`, and the `InterfaceInfo` it is copied into. -/
structure InterfaceInfo where
  name : String
  connectionType : String
  networkSentBps : Option ℕ
  networkRcvdBps : Option ℕ
  deviceIpv4 : Option IpInfo
  deviceIpv6 : Option IpInfo
  deriving DecidableEq

structure HostSnapshot where
  interface : Option InterfaceInfo := none
  cpuPct : Option ℚ := none
  ramUsedPct : Option ℚ := none
  ramAvailableKb : Option ℕ := none
  diskUsagePct : Option ℚ := none
  deriving DecidableEq

structure ReporterConfig where
  accountId : String
  registrationId : String
  accessToken : String
  dohSubdomain : String
  profileId : String
  switchLocked : Bool
  alwaysOn : Bool
  clientVersion : String
  deriving DecidableEq

structure TunnelStatsPayload where
  rttUs : ℕ
  minRttUs : Option ℕ
  rttVarUs : ℕ
  packetsSent : ℕ
  packetsLost : Option ℕ
  packetsRetrans : Option ℕ
  bytesSent : ℕ
  bytesLost : Option ℕ
  bytesRetrans : Option ℕ
  deriving DecidableEq

/-- The payload, less the fields that are empty in every report. -/
structure DeviceStatePayload where
  timestamp : String
  accountId : String
  status : String
  mode : String
  alwaysOn : Bool
  regId : String
  dohSubdomain : String
  switchLocked : Bool
  clientVersion : String
  clientPlatform : String
  warpMetal : String
  warpColo : String
  handshakeLatencyMs : Option ℕ
  estimatedLoss : Option ℚ
  tunnelType : String
  interfaces : List InterfaceInfo
  tunnelStatsUpstream : Option TunnelStatsPayload
  tunnelStatsDownstream : Option TunnelStatsPayload
  cpuPct : Option ℚ
  ramUsedPct : Option ℚ
  ramAvailableKb : Option ℕ
  diskUsagePct : Option ℚ
  profileId : String
  deriving DecidableEq

def upstreamStats (sample : TunnelMetrics) : TunnelStatsPayload where
  rttUs := sample.rttUs
  minRttUs := sample.minRttUs
  rttVarUs := sample.rttVarUs
  packetsSent := sample.packetsSentUpstream
  packetsLost := some sample.packetsLostUpstream
  packetsRetrans := some sample.packetsRetransmittedUpstream
  bytesSent := sample.bytesSentUpstream
  bytesLost := some sample.bytesLostUpstream
  bytesRetrans := some sample.bytesRetransmittedUpstream

def downstreamStats (sample : TunnelMetrics) : TunnelStatsPayload where
  rttUs := sample.rttUs
  minRttUs := sample.minRttUs
  rttVarUs := sample.rttVarUs
  packetsSent := sample.packetsReceivedDownstream
  packetsLost := none
  packetsRetrans := none
  bytesSent := sample.bytesReceivedDownstream
  bytesLost := none
  bytesRetrans := none

/-- The exact quotient, which the code divides as floats and so rounds. -/
def estimatedLoss (sample : TunnelMetrics) : Option ℚ :=
  if sample.packetsSentUpstream > 0 then
    some (sample.packetsLostUpstream / sample.packetsSentUpstream)
  else none

def buildPayload (cfg : ReporterConfig) (timestamp : String) (state : ConnectionState)
    (metrics : Option TunnelMetrics) (host : HostSnapshot) : DeviceStatePayload :=
  let (status, handshakeLatencyMs) := match state with
    | .disconnected => ("Disconnected", none)
    | .connected handshakeLatencyMs =>
      ("Connected", some ((metrics.map fun sample => sample.rttUs / 1000).getD handshakeLatencyMs))
  let connectedMetrics := if status = "Connected" then metrics else none
  { timestamp := timestamp
    accountId := cfg.accountId
    status := status
    mode := "tunnel_only"
    alwaysOn := cfg.alwaysOn
    regId := cfg.registrationId
    dohSubdomain := cfg.dohSubdomain
    switchLocked := cfg.switchLocked
    clientVersion := cfg.clientVersion
    clientPlatform := "freebsd"
    warpMetal := "none"
    warpColo := "none"
    handshakeLatencyMs := handshakeLatencyMs
    estimatedLoss := connectedMetrics.bind estimatedLoss
    tunnelType := "masque"
    interfaces := host.interface.toList
    tunnelStatsUpstream := connectedMetrics.map upstreamStats
    tunnelStatsDownstream := connectedMetrics.map downstreamStats
    cpuPct := host.cpuPct
    ramUsedPct := host.ramUsedPct
    ramAvailableKb := host.ramAvailableKb
    diskUsagePct := host.diskUsagePct
    profileId := cfg.profileId }

/-- A disconnected payload says nothing about any tunnel. -/
theorem disconnected_payload_bare (cfg : ReporterConfig) (timestamp : String)
    (metrics : Option TunnelMetrics) (host : HostSnapshot) :
    let payload := buildPayload cfg timestamp .disconnected metrics host
    payload.status = "Disconnected" ∧ payload.handshakeLatencyMs = none ∧
      payload.estimatedLoss = none ∧ payload.tunnelStatsUpstream = none ∧
      payload.tunnelStatsDownstream = none := ⟨rfl, rfl, rfl, rfl, rfl⟩

theorem connected_payload_stats (cfg : ReporterConfig) (timestamp : String) (latencyMs : ℕ)
    (metrics : Option TunnelMetrics) (host : HostSnapshot) :
    let payload := buildPayload cfg timestamp (.connected latencyMs) metrics host
    payload.status = "Connected" ∧ payload.estimatedLoss = metrics.bind estimatedLoss ∧
      payload.tunnelStatsUpstream = metrics.map upstreamStats ∧
      payload.tunnelStatsDownstream = metrics.map downstreamStats := ⟨rfl, rfl, rfl, rfl⟩

/-! ## The two tasks -/

/-- Where the reporter task rests. A state read waits for its second read here,
together with the number of the session that published it. -/
inductive Reporter where
  | waiting
  | holding (state : ConnectionState) (publishedIn : ℕ)
  | sending
  deriving DecidableEq

/-- A payload as it is built, with the session of the state and the sample it was
built from. -/
structure Report where
  payload : DeviceStatePayload
  publishedIn : ℕ
  sample : Option (TunnelMetrics × ℕ)
  deriving DecidableEq

end DeviceState

open DeviceState in
/-- The supervisor and the reporter. The watched state is the supervisor's `published`;
`unseen` is the receiver's pending change. The session numbers and the reports are
history. -/
structure Monitored where
  sup : Supervisor
  metrics : Option (TunnelMetrics × ℕ)
  /-- `disconnected()` has cleared the metrics and not yet published the state. -/
  cleared : Bool
  unseen : Bool
  lastTelemetrySample : Instant
  reporter : Reporter
  /-- How many sessions have begun. -/
  sessions : ℕ
  /-- The last session that called `connected`. -/
  publishedIn : ℕ
  reports : List Report
  deriving DecidableEq

namespace Monitored

open DeviceState
open Supervisor (inSession)

/-- The next step of the session is its call of `connected()`. -/
def announcing : Supervisor.Stage → Bool
  | .session position => match position.stage with
    | .announce _ => true
    | _ => false
  | _ => false

/-- The next step of the session is its call of `disconnected()`. -/
def cleaning : Supervisor.Stage → Bool
  | .session position => match position.stage with
    | .cleanup _ => true
    | _ => false
  | _ => false

def loopStage : Supervisor.Stage → Option DataLoop.Stage
  | .session position => match position.stage with
    | .pump _ loop => some loop.stage
    | _ => none
  | _ => none

/-- The pump has gone past the checks in front of `publish_tunnel_metrics`. -/
def passesCheck (before after : Supervisor.Stage) : Bool :=
  loopStage before == some .check && match loopStage after with
    | some (.receive _ _) | some (.select _ _ _) => true
    | _ => false

variable (spkiOf : Bytes → Option Bytes) (cfg : MasqueConfig) (mtu : ℕ)
  (reporterCfg : ReporterConfig)

/-- A step of the supervisor with the calls it makes into the reporter handle. `sample`
is what the active path shows, none when there is none. -/
def follow (s : Monitored) (next : Supervisor) (sample : Option TunnelMetrics) : Monitored :=
  let announces := cfg.deviceState && announcing s.sup.stage
  let cleans := cfg.deviceState && cleaning s.sup.stage
  let entered := (loopStage s.sup.stage).isNone && (loopStage next.stage).isSome
  let sampling := passesCheck s.sup.stage next.stage &&
    decide (seconds 1 ≤ elapsed s.lastTelemetrySample next.now)
  { s with
    sup := next
    metrics := if cfg.deviceState && sampling then
        (sample.map fun sample => (sample, s.sessions)).or s.metrics
      else s.metrics
    cleared := false
    unseen := s.unseen || announces || cleans
    lastTelemetrySample := if entered then next.now - seconds 1
      else if sampling then next.now
      else s.lastTelemetrySample
    sessions := if !inSession s.sup.stage && inSession next.stage then s.sessions + 1
      else s.sessions
    publishedIn := if announces then s.sessions else s.publishedIn }

inductive Label where
  /-- The session task goes on. -/
  | supervise (input : Supervisor.Input) (sample : Option TunnelMetrics)
  /-- The first half of `disconnected()`. -/
  | clearMetrics
  /-- The reporter's interval fires; it may at any time. -/
  | tick
  | changed
  | collect (timestamp : String) (host : HostSnapshot)
  /-- The report is sent, or has failed. -/
  | sent
  deriving DecidableEq

/-- The second half of `disconnected()` waits for the first. -/
def step (s : Monitored) : Label → Option Monitored
  | .supervise input sample =>
    if cfg.deviceState && cleaning s.sup.stage && !s.cleared then none
    else (Supervisor.step spkiOf cfg mtu s.sup input).map fun next => s.follow cfg next sample
  | .clearMetrics =>
    if cfg.deviceState && cleaning s.sup.stage && !s.cleared then
      some { s with metrics := none, cleared := true }
    else none
  | .tick =>
    if cfg.deviceState && s.reporter == .waiting then
      some { s with reporter := .holding s.sup.published s.publishedIn }
    else none
  | .changed =>
    if cfg.deviceState && s.reporter == .waiting && s.unseen then
      some { s with reporter := .holding s.sup.published s.publishedIn, unseen := false }
    else none
  | .collect timestamp host =>
    match s.reporter with
    | .holding state publishedIn =>
      let payload := buildPayload reporterCfg timestamp state (s.metrics.map Prod.fst) host
      some { s with
        reporter := .sending
        reports := s.reports ++ [⟨payload, publishedIn, s.metrics⟩] }
    | _ => none
  | .sent =>
    match s.reporter with
    | .sending => some { s with reporter := .waiting }
    | _ => none

/-- The reporter is started, then the supervisor. -/
def start (dev : NativeTun.TunRsDevice) (now : Instant) : Monitored where
  sup := Supervisor.start dev now
  metrics := none
  cleared := false
  unseen := false
  lastTelemetrySample := now
  reporter := .waiting
  sessions := 0
  publishedIn := 0
  reports := []

end Monitored
end Usque
