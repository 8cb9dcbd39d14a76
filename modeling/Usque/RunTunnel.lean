import Usque.Lib.Fallible
import Usque.Config
import Usque.Icmp
import Usque.NativeTun
import Usque.Uplink

/-! `run_tunnel` (`commands.rs`): the checks of the command line and of the
configuration, the TUN device, and the MASQUE configuration the supervisor gets.
Answers of the network and of the key decoder are inputs. -/
namespace Usque

structure QuicTransportConfig where
  keepalivePeriod : Duration
  maxIdleTimeout : Duration
  deriving DecidableEq

structure PathMtuConfig where
  enabled : Bool
  revalidatePeriod : Duration
  initialTunMtu : UInt16
  maxTunMtu : UInt16
  tunnelIpv6 : Bool
  deriving DecidableEq

structure DatagramIoConfig where
  txQueueLen : ℕ
  txBurstPackets : ℕ
  packetBufferPoolSize : ℕ
  udpBatchSize : ℕ
  deriving DecidableEq

structure ReconnectPolicy where
  delay : Duration
  always : Bool
  deriving DecidableEq

structure LifecycleHooks where
  onConnect : Option String
  onDisconnect : Option String
  deriving DecidableEq

inductive CloudflareConnectProfile where
  | client
  | meshNode
  deriving DecidableEq

def CloudflareConnectProfile.reportsH3Stats : CloudflareConnectProfile → Bool
  | .client => false
  | .meshNode => true

/-- `MasqueConfig`, with `deviceState` for the presence of a reporter. -/
structure MasqueConfig where
  insecure : Bool
  endpoints : List MasqueEndpoint
  connectProfile : CloudflareConnectProfile
  quic : QuicTransportConfig
  pathMtu : PathMtuConfig
  io : DatagramIoConfig
  reconnect : ReconnectPolicy
  hooks : LifecycleHooks
  activationProbe : Option Bytes
  deviceState : Bool
  deriving DecidableEq

structure NativeTunArgs where
  connectPort : UInt16
  ipv6 : Bool
  noTunnelIpv6 : Bool
  keepalivePeriod : Duration
  mtu : UInt16
  maxTunMtu : UInt16
  disablePmtud : Bool
  pmtudRevalidatePeriod : Duration
  udpSocketBuffer : ℕ
  txQueueLen : ℕ
  txBurstPackets : ℕ
  packetBufferPoolSize : ℕ
  udpBatchSize : ℕ
  noIproute2 : Bool
  reconnectDelay : Duration
  alwaysReconnect : Bool
  insecure : Bool
  interfaceName : String
  onConnect : String
  onDisconnect : String
  deriving DecidableEq

namespace RunTunnel

open NativeTun Fallible

/-- `libc::c_int::MAX`. -/
def cIntMax : ℕ := 2147483647

/-- 1.1.1.1. -/
def defaultMeshActivationProbeTarget : IpAddr := .v4 ⟨0x01010101⟩

inductive RunError where
  /-- "config role is '..', but the selected command requires '..'" -/
  | role (configured requested : TunnelRole)
  /-- "Mesh node config is missing its node identity" -/
  | meshIdentity
  /-- "interface name cannot be empty" -/
  | emptyInterfaceName
  /-- "interface name contains invalid character: '/' or whitespace" -/
  | interfaceName
  /-- "--udp-socket-buffer (..) exceeds the largest value supported by
  SO_RCVBUF/SO_SNDBUF (..)" -/
  | udpSocketBuffer (requested : ℕ)
  /-- "--max-tun-mtu (..) must be at least --mtu (..)" -/
  | maxTunMtu (maximum mtu : UInt16)
  /-- "IPv6 requires --max-tun-mtu of at least 1280; use --no-tunnel-ipv6 for a
  smaller IPv4-only tunnel" -/
  | ipv6MaxTunMtu
  /-- "IPv6 requires --mtu of at least 1280 when PMTUD is disabled; raise --mtu
  or use --no-tunnel-ipv6" -/
  | ipv6Mtu
  /-- "--max-idle-timeout (..) must be greater than --keepalive-period (..)" -/
  | maxIdleTimeout (idle keepalive : Duration)
  /-- "invalid assigned Mesh source address '..' for activation probe" -/
  | probeSource (text : String)
  /-- "Mesh activation probe target .. does not match assigned source address .." -/
  | probeTarget (target source : IpAddr)
  | endpoints (error : ConfigError)
  /-- "Mesh registration validation failed; register a fresh node instead of
  starting an untracked Edge session" -/
  | meshRegistration
  /-- "failed to create native tun-rs TUN device" -/
  | device (error : CreateError)
  | privateKey
  deriving DecidableEq

/-- `check_ifname`, its warnings left out. -/
def checkIfname (name : String) : Except RunError Unit :=
  if name = "" then .error .emptyInterfaceName
  else if name.toList.any fun c => c == '/' || Net.isWhiteSpace c then .error .interfaceName
  else .ok ()

def roleMaxIdleTimeout (role : TunnelRole) (meshTimeout : Option Duration) : Duration :=
  match role with
  | .client => 0
  | .meshNode => meshTimeout.getD (seconds 90)

def maintainEdgeSession (role : TunnelRole) (alwaysReconnect : Bool) : Bool :=
  alwaysReconnect || role == .meshNode

def nonEmpty (text : String) : Option String := if text = "" then none else some text

/-- `if refused { return Err(error) }`. -/
def bailIf (refused : Prop) [Decidable refused] (error : RunError) : Except RunError Unit :=
  if refused then .error error else .ok ()

/-- The checks `run_tunnel` makes before it touches anything. -/
def checkArgs (cfg : AppConfig) (args : NativeTunArgs) (requestedRole : TunnelRole)
    (meshMaxIdleTimeout : Option Duration) : Except RunError Unit := do
  bailIf (cfg.role ≠ requestedRole) (.role cfg.role requestedRole)
  bailIf (requestedRole = .meshNode ∧ cfg.meshNode = none) .meshIdentity
  (if args.interfaceName = "" then .ok () else checkIfname args.interfaceName)
  bailIf (args.udpSocketBuffer > cIntMax) (.udpSocketBuffer args.udpSocketBuffer)
  bailIf (args.maxTunMtu < args.mtu) (.maxTunMtu args.maxTunMtu args.mtu)
  let tunnelIpv6 := !args.noTunnelIpv6
  bailIf (tunnelIpv6 ∧ args.maxTunMtu < ipv6MinMtu) .ipv6MaxTunMtu
  bailIf (tunnelIpv6 ∧ args.disablePmtud ∧ args.mtu < ipv6MinMtu) .ipv6Mtu
  let maxIdleTimeout := roleMaxIdleTimeout requestedRole meshMaxIdleTimeout
  bailIf (requestedRole = .meshNode ∧ maxIdleTimeout ≠ 0 ∧ args.keepalivePeriod ≠ 0 ∧
    maxIdleTimeout ≤ args.keepalivePeriod) (.maxIdleTimeout maxIdleTimeout args.keepalivePeriod)

def buildMeshActivationProbe (cfg : AppConfig) (role : TunnelRole)
    (overrideTarget : Option IpAddr) : Except RunError (Option Bytes) :=
  if role ≠ .meshNode then .ok none
  else
    let target := (overrideTarget <|> cfg.meshNode.bind (·.activationProbeTarget)).getD
      defaultMeshActivationProbeTarget
    let sourceConfig := match target with
      | .v4 _ => cfg.ipv4
      | .v6 _ => cfg.ipv6
    let sourceText := sourceConfig.toList.takeWhile (· ≠ '/')
    match Net.parseIpAddr sourceText with
    | none => .error (.probeSource (String.ofList sourceText))
    | some source =>
      match Icmp.composeEchoRequest source target 0 with
      | none => .error (.probeTarget target source)
      | some packet => .ok (some packet)

/-- What `run_tunnel` asks of the outside: `pem::parse`, whether the reporter
could be started, whether the TUN device was built, and whether the private key
decodes. -/
structure Answers where
  pemContents : String → Option Bytes
  reporterStarted : Bool
  deviceBuilt : Bool
  privateKeyDecodes : Bool

def tunOptions (args : NativeTunArgs) : TunOptions where
  mtu := args.mtu
  configureAddresses := !args.noIproute2
  ipv6 := !args.noTunnelIpv6
  deferIpv6 := !args.noTunnelIpv6 && !args.disablePmtud

def masqueConfig (args : NativeTunArgs) (requestedRole : TunnelRole)
    (meshMaxIdleTimeout : Option Duration) (endpoints : List MasqueEndpoint)
    (activationProbe : Option Bytes) (deviceState : Bool) : MasqueConfig where
  insecure := args.insecure
  endpoints := endpoints
  connectProfile := match requestedRole with
    | .client => .client
    | .meshNode => .meshNode
  quic := {
    keepalivePeriod := args.keepalivePeriod
    maxIdleTimeout := roleMaxIdleTimeout requestedRole meshMaxIdleTimeout }
  pathMtu := {
    enabled := !args.disablePmtud
    revalidatePeriod := args.pmtudRevalidatePeriod
    initialTunMtu := args.mtu
    maxTunMtu := args.maxTunMtu
    tunnelIpv6 := !args.noTunnelIpv6 }
  io := {
    txQueueLen := args.txQueueLen
    txBurstPackets := args.txBurstPackets
    packetBufferPoolSize := args.packetBufferPoolSize
    udpBatchSize := args.udpBatchSize }
  reconnect := {
    delay := args.reconnectDelay
    always := maintainEdgeSession requestedRole args.alwaysReconnect }
  hooks := {
    onConnect := nonEmpty args.onConnect
    onDisconnect := nonEmpty args.onDisconnect }
  activationProbe := activationProbe
  deviceState := deviceState

/-- The arguments of `maintain_native_tun`. -/
structure Launch where
  cfg : MasqueConfig
  dev : TunRsDevice
  mtu : ℕ
  deriving DecidableEq

/-- `run_tunnel` from the loaded configuration up to the supervisor's call. -/
def runTunnel (answers : Answers) (cfg : AppConfig) (args : NativeTunArgs)
    (requestedRole : TunnelRole) (activationProbeOverride : Option IpAddr)
    (meshMaxIdleTimeout : Option Duration) : Except RunError Launch := do
  checkArgs cfg args requestedRole meshMaxIdleTimeout
  let activationProbe ← buildMeshActivationProbe cfg requestedRole activationProbeOverride
  let endpoints ←
    (Config.selectEndpointsFromConfig answers.pemContents cfg args.ipv6 args.connectPort).mapError
      .endpoints
  bailIf (answers.reporterStarted = false ∧ requestedRole = .meshNode) .meshRegistration
  let dev ← (create cfg.ipv6 (tunOptions args) answers.deviceBuilt).mapError .device
  bailIf (answers.privateKeyDecodes = false) .privateKey
  pure {
    cfg := masqueConfig args requestedRole meshMaxIdleTimeout endpoints activationProbe
      answers.reporterStarted
    dev := dev
    mtu := args.maxTunMtu.toNat }

/-! ## What an accepted start guarantees -/

variable {answers : Answers} {cfg : AppConfig} {args : NativeTunArgs} {role : TunnelRole}
  {probeTarget : Option IpAddr} {idle : Option Duration} {launch : Launch}

private theorem bailIf_ok {refused : Prop} [Decidable refused] {error : RunError} {ended : Unit}
    (succeeded : bailIf refused error = .ok ended) : ¬ refused := by
  intro refuse
  rw [bailIf, if_pos refuse] at succeeded
  cases succeeded

/-- The pieces a successful `run_tunnel` was made of. -/
theorem runTunnel_ok (started : runTunnel answers cfg args role probeTarget idle = .ok launch) :
    checkArgs cfg args role idle = .ok () ∧
    ∃ activationProbe endpoints,
      Config.selectEndpointsFromConfig answers.pemContents cfg args.ipv6 args.connectPort =
        .ok endpoints ∧
      create cfg.ipv6 (tunOptions args) answers.deviceBuilt = .ok launch.dev ∧
      launch.cfg = masqueConfig args role idle endpoints activationProbe answers.reporterStarted ∧
      launch.mtu = args.maxTunMtu.toNat := by
  unfold runTunnel at started
  obtain ⟨⟨⟩, checked, started⟩ := bind_eq_ok_iff.mp started
  obtain ⟨activationProbe, -, started⟩ := bind_eq_ok_iff.mp started
  obtain ⟨endpoints, selected, started⟩ := bind_eq_ok_iff.mp started
  obtain ⟨-, -, started⟩ := bind_eq_ok_iff.mp started
  obtain ⟨dev, created, started⟩ := bind_eq_ok_iff.mp started
  obtain ⟨-, -, started⟩ := bind_eq_ok_iff.mp started
  cases started
  exact ⟨checked, activationProbe, endpoints, mapError_eq_ok_iff.mp selected, mapError_eq_ok_iff.mp created, rfl, rfl⟩

/-- What the checks say about the two MTUs. -/
theorem checkArgs_mtu (checked : checkArgs cfg args role idle = .ok ()) :
    args.mtu ≤ args.maxTunMtu ∧
      (args.noTunnelIpv6 = false → args.disablePmtud = true → ipv6MinMtu ≤ args.mtu) := by
  unfold checkArgs at checked
  obtain ⟨-, -, checked⟩ := bind_eq_ok_iff.mp checked
  obtain ⟨-, -, checked⟩ := bind_eq_ok_iff.mp checked
  obtain ⟨-, -, checked⟩ := bind_eq_ok_iff.mp checked
  obtain ⟨-, -, checked⟩ := bind_eq_ok_iff.mp checked
  obtain ⟨⟨⟩, ordered, checked⟩ := bind_eq_ok_iff.mp checked
  obtain ⟨-, -, checked⟩ := bind_eq_ok_iff.mp checked
  obtain ⟨⟨⟩, carries, -⟩ := bind_eq_ok_iff.mp checked
  constructor
  · exact UInt16.not_lt.mp (bailIf_ok ordered)
  · intro wanted disabled
    apply UInt16.not_lt.mp
    intro small
    exact bailIf_ok carries ⟨by simp [wanted], disabled, small⟩

/-- The device of an accepted start is sound under the configured ceiling. -/
theorem runTunnel_sound (started : runTunnel answers cfg args role probeTarget idle = .ok launch) :
    Sound launch.cfg.pathMtu.maxTunMtu launch.dev ∧
      launch.cfg.pathMtu.initialTunMtu ≤ launch.cfg.pathMtu.maxTunMtu := by
  obtain ⟨checked, activationProbe, endpoints, -, created, same, -⟩ := runTunnel_ok started
  obtain ⟨ordered, carries⟩ := checkArgs_mtu checked
  rw [same]
  refine ⟨create_sound created ordered ?_, ordered⟩
  intro wanted immediate
  apply carries
  · simpa [tunOptions] using wanted
  · cases disabled : args.disablePmtud with
    | true => rfl
    | false => simp_all [tunOptions]

/-! ## A small start -/

def smallPem : String := "-----BEGIN PUBLIC KEY-----\nAQID\n-----END PUBLIC KEY-----\n"

/-- A client whose peer has one address of each family. -/
def smallConfig : AppConfig where
  role := .client
  meshNode := none
  endpointV4 := "192.0.2.1"
  endpointV6 := "2001:db8::1"
  endpointPubKey := smallPem
  ipv4 := "172.16.0.2"
  ipv6 := "2001:db8::2"
  masquePeers := []

/-- The defaults of the command line, with a buffer pool of one. -/
def smallArgs : NativeTunArgs where
  connectPort := 0
  ipv6 := false
  noTunnelIpv6 := false
  keepalivePeriod := seconds 25
  mtu := 1200
  maxTunMtu := 1500
  disablePmtud := false
  pmtudRevalidatePeriod := seconds 600
  udpSocketBuffer := 8388608
  txQueueLen := 1
  txBurstPackets := 16
  packetBufferPoolSize := 1
  udpBatchSize := 32
  noIproute2 := false
  reconnectDelay := seconds 1
  alwaysReconnect := false
  insecure := false
  interfaceName := ""
  onConnect := ""
  onDisconnect := ""

/-- The sample key decodes to three bytes, and nothing fails. -/
def smallAnswers : Answers where
  pemContents text := if text = smallPem then some [1, 2, 3] else none
  reporterStarted := true
  deviceBuilt := true
  privateKeyDecodes := true

/-- Both addresses, each with the decoded key. -/
def smallEndpoints : List MasqueEndpoint :=
  [⟨⟨.v4 ⟨0xc0000201⟩, 443⟩, "", [1, 2, 3]⟩,
    ⟨⟨.v6 ⟨0x20010db8000000000000000000000001⟩, 443⟩, "", [1, 2, 3]⟩]

/-- What the small start leads to, with or without `--insecure`. -/
def launchWith (insecure : Bool) : Launch where
  cfg := masqueConfig { smallArgs with insecure := insecure } .client none smallEndpoints none true
  dev := ⟨⟨1200, none⟩, 1200, some ⟨0x20010db8000000000000000000000002⟩, true, false⟩
  mtu := 1500

def smallLaunch : Launch := launchWith false

def openLaunch : Launch := launchWith true

private theorem launchWith_started (insecure : Bool) :
    runTunnel smallAnswers smallConfig { smallArgs with insecure := insecure } .client none none =
      .ok (launchWith insecure) := by
  have checked : checkArgs smallConfig { smallArgs with insecure := insecure } .client none =
      .ok () := by
    show checkArgs smallConfig smallArgs .client none = .ok ()
    decide +kernel
  have folded : smallConfig.peers.foldlM
      (Config.addPeer smallAnswers.pemContents smallArgs.ipv6 smallArgs.connectPort) {} =
        .ok ⟨smallEndpoints,
          (smallEndpoints.map fun e => (e.addr, e.endpointPubKeySpkiDer)).reverse⟩ := by
    decide +kernel
  have selected : Config.selectEndpointsFromConfig smallAnswers.pemContents smallConfig
      smallArgs.ipv6 smallArgs.connectPort = .ok smallEndpoints := by
    have sorted : smallEndpoints.mergeSort (fun a b => Config.portClass a ≤ Config.portClass b) =
        smallEndpoints := List.mergeSort_of_pairwise (by decide)
    have filled : smallEndpoints ≠ [] := by decide
    simp only [Config.selectEndpointsFromConfig, folded, bind, Except.bind, if_neg filled, sorted]
    rfl
  have created : create smallConfig.ipv6 (tunOptions smallArgs) smallAnswers.deviceBuilt =
      .ok smallLaunch.dev := by decide +kernel
  have probe : buildMeshActivationProbe smallConfig .client none = .ok none := rfl
  have options : tunOptions { smallArgs with insecure := insecure } = tunOptions smallArgs := rfl
  simp only [runTunnel, checked, selected, options, created, probe]
  rfl

theorem smallLaunch_started :
    runTunnel smallAnswers smallConfig smallArgs .client none none = .ok smallLaunch :=
  launchWith_started false

theorem openLaunch_started :
    runTunnel smallAnswers smallConfig { smallArgs with insecure := true } .client none none =
      .ok openLaunch := launchWith_started true

end RunTunnel
end Usque
