import Usque.EndpointPinning
import Usque.StoredKey

/-! Whose key a tunnel trusts. A command writes the peers of the answer its enrollment got, a
refresh keeps those that are stored, and a tunnel sends nothing before a certificate has passed
the key of a peer it was configured with. So behind every packet stands a key that the service
has named, for the very address the packet went to, in an answer to some earlier command. -/
namespace Usque

open Transition

namespace Registration

open Fallible

section

variable {SecretKey : Type} (keys : Keys SecretKey) (codec : Codec) (path : String)

/-- An update that the attempt asks for is answered with this account. -/
def Answered (account : AccountData) (disk : Disk) (attempt : Attempt) : Prop :=
  ∃ update ∈ attempt.operation.updates keys codec path attempt.process disk,
    enrollKey keys attempt.process update.account update.publicKeyDer update.identity = .ok account

/-- The peers of a configuration are those of one that was there before, or of an answer to
one of the attempts. -/
def PeersFrom (disk : Disk) (attempts : List Attempt) (cfg : AppConfig) : Prop :=
  (∃ old, load codec path disk = .ok old ∧ cfg.tunnel.peers = old.tunnel.peers) ∨
    ∃ account, Happened (attemptStep keys codec path) (Answered keys codec path account) disk attempts ∧
      cfg.tunnel.peers = account.peers.map masquePeer

end

section

variable {SecretKey : Type} {keys : Keys SecretKey} {codec : Codec} {path : String} {disk finish : Disk}
  {attempt : Attempt} {attempts : List Attempt} {plan : Plan} {cfg : AppConfig}

theorem built_peers {account : AccountData} {privateKeyDer : Bytes} {token : String}
    {identity : DeviceIdentity} {built : AppConfig} {ending : Ending}
    (ready : buildAppConfig keys account privateKeyDer token identity = .ok built)
    (written : (ending.plan built).written = some cfg) :
    cfg.tunnel.peers = account.peers.map masquePeer := by
  unfold buildAppConfig at ready
  split at ready
  · cases ready
  · rename_i peer rest listed
    cases ready
    cases ending <;> cases written <;> simp [AppConfig.tunnel, AppConfig.peers, listed]

/-- What an attempt writes has the peers of the answer to its enrollment, or, after a refresh,
those that were stored. -/
theorem written_peers (planned : attempt.plan keys codec path disk = .ok plan)
    (written : plan.written = some cfg) :
    (∃ stored, load codec path disk = .ok stored ∧ cfg.tunnel.peers = stored.tunnel.peers) ∨
      ∃ account, Answered keys codec path account disk attempt ∧
        cfg.tunnel.peers = account.peers.map masquePeer := by
  rcases written_cases planned written with
    ⟨given, account, built, enrolls, accepted, ready, same⟩ | ⟨-, refreshed⟩
  · obtain ⟨⟨front, asks, -⟩, -⟩ := enrolls.endsWith
    refine .inr ⟨account, ⟨given.update, ?_, accepted⟩, built_peers ready same⟩
    rw [asks]
    exact List.mem_append_right _ (List.mem_singleton_self _)
  · obtain ⟨stored, request, loaded, accepted⟩ := refresh_accepted refreshed written
    refine .inl ⟨stored, loaded, ?_⟩
    rw [accepted_updated accepted]
    rfl

/-- Wherever saves have stopped, what is loaded has peers from before or from an answer. -/
theorem run_peers (lawful : codec.Lawful)
    (ran : run (attemptStep keys codec path) disk attempts = some finish)
    (loaded : load codec path finish = .ok cfg) : PeersFrom keys codec path disk attempts cfg := by
  refine run_preserves_history
    (fun past found => ∀ cfg, load codec path found = .ok cfg → PeersFrom keys codec path disk past cfg)
    ?_ (fun cfg loaded => .inl ⟨cfg, loaded, rfl⟩) ran cfg loaded
  intro past found attempt next ranPast held stepped cfg loaded
  have stays {cfg : AppConfig} (earlier : PeersFrom keys codec path disk past cfg) :
      PeersFrom keys codec path disk (past ++ [attempt]) cfg := by
    rcases earlier with stored | ⟨account, answered, peers⟩
    · exact .inl stored
    · exact .inr ⟨account, answered.later [attempt], peers⟩
  cases stepped
  rcases found_loads lawful loaded with earlier | ⟨plan, planned, written, -⟩
  · exact stays (held cfg earlier)
  · rcases written_peers planned written with ⟨stored, before, same⟩ | ⟨account, answered, peers⟩
    · rcases stays (held stored before) with ⟨old, first, peers⟩ | ⟨account, answered, peers⟩
      · exact .inl ⟨old, first, same.trans peers⟩
      · exact .inr ⟨account, answered, same.trans peers⟩
    · exact .inr ⟨account, .now ranPast answered, peers⟩

end

end Registration

namespace Supervisor

open Registration

variable {SecretKey : Type} {s : Supervisor} {launch : RunTunnel.Launch}

/-- The endpoint is one that a peer advertises, with the key it is advertised with. -/
def Names (pemContents : String → Option Bytes) (peers : List MasquePeerConfig)
    (endpoint : MasqueEndpoint) : Prop :=
  ∃ peer ∈ peers, pemContents peer.endpointPubKey = some endpoint.endpointPubKeySpkiDer ∧
    Config.Lists peer endpoint.addr.ip

/-- Over every run of a tunnel started, without `--insecure`, from a configuration file that any
commands have left, with whatever interruptions: before anything is sent, and before an attempt
counts as established, the peer of the same attempt has shown the key that an answer of the
service, to one of these commands, gave for the address; or that of the file they started from. -/
theorem trusted_keys_come_from_the_service (keys : Keys SecretKey) (codec : Codec)
    (lawful : codec.Lawful) (path : String) (disk finish : Disk) (attempts : List Attempt)
    (cfg : Registration.AppConfig)
    (answers : RunTunnel.Answers) (args : NativeTunArgs) (role : TunnelRole)
    (probeTarget : Option IpAddr) (idle : Option Duration) (spkiOf : Bytes → Option Bytes)
    (now : Instant) (ran : run (attemptStep keys codec path) disk attempts = some finish)
    (loaded : load codec path finish = .ok cfg)
    (started : RunTunnel.runTunnel answers cfg.tunnel args role probeTarget idle = .ok launch)
    (secure : args.insecure = false)
    (reached : Reachable (step spkiOf launch.cfg launch.mtu) (start launch.dev now) s)
    (before : List Event) (event : Event) (after : List Event)
    (split : s.log = before ++ event :: after) (needs : event.NeedsPin) :
    ∃ index endpoint events cert, InAttempt before index endpoint events ∧
      Event.accepted cert ∈ events ∧ spkiOf cert = some endpoint.endpointPubKeySpkiDer ∧
      ((∃ old, load codec path disk = .ok old ∧
          Names answers.pemContents old.tunnel.peers endpoint) ∨
        ∃ account,
          Happened (attemptStep keys codec path) (Answered keys codec path account) disk attempts ∧
            Names answers.pemContents (account.peers.map masquePeer) endpoint) := by
  obtain ⟨-, activationProbe, endpoints, selected, -, config, -⟩ := RunTunnel.runTunnel_ok started
  have checked : launch.cfg.insecure = false := by
    rw [config]
    exact secure
  have chosen : launch.cfg.endpoints = endpoints := by
    rw [config]
    rfl
  have pinning := reached.invariant (Pinning spkiOf launch.cfg)
    (fun s input next pinning stepped => step_pinning checked pinning stepped)
    (start_pinning launch.dev now)
  obtain ⟨index, endpoint, events, inside, member, cert, accepted, valid⟩ :=
    pinning.justified before event after split needs
  rw [chosen] at member
  have named : Names answers.pemContents cfg.tunnel.peers endpoint :=
    (Config.selected_pinned selected).2 endpoint member
  refine ⟨index, endpoint, events, cert, inside, accepted, valid, ?_⟩
  rcases run_peers lawful ran loaded with ⟨old, first, same⟩ | ⟨account, answered, same⟩
  · exact .inl ⟨old, first, same ▸ named⟩
  · exact .inr ⟨account, answered, same ▸ named⟩

/-! ## A registration and its tunnel -/

/-- A tunnel starts from a few fields of the configuration and from its peers. -/
theorem runTunnel_congr {cfg other : AppConfig} (peers : cfg.peers = other.peers)
    (role : cfg.role = other.role) (node : cfg.meshNode = other.meshNode) (v4 : cfg.ipv4 = other.ipv4)
    (v6 : cfg.ipv6 = other.ipv6) (answers : RunTunnel.Answers) (args : NativeTunArgs)
    (requestedRole : TunnelRole) (probeTarget : Option IpAddr) (idle : Option Duration) :
    RunTunnel.runTunnel answers cfg args requestedRole probeTarget idle =
      RunTunnel.runTunnel answers other args requestedRole probeTarget idle := by
  simp only [RunTunnel.runTunnel, RunTunnel.checkArgs, RunTunnel.buildMeshActivationProbe,
    Config.selectEndpointsFromConfig, role, node, peers, v4, v6]

/-- The account the service answers an update with. -/
def peerAccount : AccountData where
  id := "registration"
  peers := [{ publicKey := RunTunnel.smallPem
              endpoint := { v4 := "192.0.2.1:0", v6 := "[2001:db8::1]:0" } }]
  addressV4 := "172.16.0.2"
  addressV6 := "2001:db8::2"

def peerAccountJson : Bytes :=
  textBytes ("\x7b\"id\":\"registration\",\"config\":\x7b\"peers\":[\x7b\"public_key\":" ++
    "\"-----BEGIN PUBLIC KEY-----\\nAQID\\n-----END PUBLIC KEY-----\\n\",\"endpoint\":\x7b\"v4\":" ++
    "\"192.0.2.1:0\",\"v6\":\"[2001:db8::1]:0\"\x7d\x7d],\"interface\":\x7b\"addresses\":\x7b\"v4\":" ++
    "\"172.16.0.2\",\"v6\":\"2001:db8::2\"\x7d\x7d\x7d\x7d")

def decodePeerAccount (body : Bytes) : Except String AccountData :=
  if body = peerAccountJson then .ok peerAccount else .error "expected value"

def peerProcess : Process where
  clientVersion := "0.8.0"
  apiUrl := "https://api.devices.cloudflare.com"
  apiVersion := "v0a4471"
  send _ := .received 200 peerAccountJson
  decodeAccount := decodePeerAccount
  decodeError _ := none

theorem peerProcess_enrollKey (account : AccountData) (publicKeyDer : Bytes) (identity : DeviceIdentity) :
    enrollKey pointKeys peerProcess account publicKeyDer identity = .ok peerAccount := by
  refine enrollKey_ok rfl ?_
  show decodePeerAccount peerAccountJson = .ok peerAccount
  unfold decodePeerAccount
  exact if_pos rfl

/-- What the registration stores. -/
def registeredConfig : Registration.AppConfig where
  role := .client
  meshNode := none
  privateKey := pointText
  endpointV4 := "192.0.2.1"
  endpointV6 := "2001:db8::1"
  endpointPubKey := RunTunnel.smallPem
  license := ""
  id := "registration"
  accessToken := "token"
  ipv4 := "172.16.0.2"
  ipv6 := "2001:db8::2"
  deviceIdentity := clientConfig.deviceIdentity
  masquePeers := [{ endpointV4 := "192.0.2.1", endpointV6 := "2001:db8::1",
                    endpointPubKey := RunTunnel.smallPem }]

def peerInput : RegisterInput where
  credentials := .ok none
  response := .error "failed to read response"
  identity := clientConfig.deviceIdentity
  acquireServiceTokenJwt _ := .error "failed to acquire a token"
  keyPair := .ok (pointSec1, pointSpki)
  register _ _ _ := .ok { id := "registration", token := "token" }

def peerRegister (stop : ℕ) : Attempt := ⟨.register peerInput, peerProcess, 0o022, stop⟩

/-- The registration that gets to the end of its save. -/
def wholeRegister : Attempt := peerRegister ((savedBytes plainJson.codec registeredConfig).length + 1)

/-- A first registration that goes through. -/
theorem register_of_accepted {SecretKey : Type} {keys : Keys SecretKey} {process : Process}
    {input : RegisterInput} {account updated : AccountData} {privateKeyDer publicKeyDer : Bytes}
    {cfg : Registration.AppConfig} (credentials : input.credentials = .ok none)
    (pair : input.keyPair = .ok (privateKeyDer, publicKeyDer))
    (registered : input.register input.identity publicKeyDer none = .ok account)
    (accepted : enrollKey keys process account publicKeyDer input.identity = .ok updated)
    (built : buildAppConfig keys updated privateKeyDer account.token input.identity = .ok cfg) :
    Registration.register keys process input none = .ok (.saveSensitive cfg) := by
  simp [Registration.register, credentials, overwrites, registrationJwt, pair, registered, enrollOrFail,
    accepted, built, message, Except.mapError, bind, Except.bind, pure, Except.pure]

theorem peerRegister_saves {stop : ℕ}
    (whole : (savedBytes plainJson.codec registeredConfig).length < stop) :
    Saves pointKeys plainJson.codec "config.json" registeredConfig none (peerRegister stop) := by
  have planned : Registration.register pointKeys peerProcess peerInput none =
      .ok (.saveSensitive registeredConfig) :=
    register_of_accepted rfl rfl rfl (peerProcess_enrollKey _ _ _) (by decide)
  exact ⟨.saveSensitive registeredConfig, planned, rfl, whole⟩

theorem wholeRegister_saves :
    Saves pointKeys plainJson.codec "config.json" registeredConfig none wholeRegister :=
  peerRegister_saves (Nat.lt_add_one _)

theorem wholeRegister_ran :
    run (attemptStep pointKeys plainJson.codec "config.json") none [wholeRegister] =
      some (wholeRegister.found pointKeys plainJson.codec "config.json" none) := rfl

theorem registeredConfig_started :
    RunTunnel.runTunnel RunTunnel.smallAnswers registeredConfig.tunnel RunTunnel.smallArgs .client none none =
      .ok RunTunnel.smallLaunch := by
  have peers : registeredConfig.tunnel.peers = RunTunnel.smallConfig.peers := by
    simp [AppConfig.peers, AppConfig.tunnel, registeredConfig, RunTunnel.smallConfig]
  rw [runTunnel_congr peers rfl rfl rfl rfl]
  exact RunTunnel.smallLaunch_started

/-- The CONNECT request goes to the peer that has shown the key of the registration's answer. -/
theorem trusted_keys_come_from_the_service_small :
    ∃ (s : Supervisor) (before after : List Event), s.log = before ++ .sent .request :: after ∧
      ∃ index endpoint events cert, InAttempt before index endpoint events ∧
        Event.accepted cert ∈ events ∧ some cert = some endpoint.endpointPubKeySpkiDer ∧
        ∃ account, Happened (attemptStep pointKeys plainJson.codec "config.json")
            (Answered pointKeys plainJson.codec "config.json" account) none [wholeRegister] ∧
          Names RunTunnel.smallAnswers.pemContents (account.peers.map masquePeer) endpoint := by
  obtain ⟨s, reached, found⟩ := execute_reaches some RunTunnel.smallLaunch
    (wakeInputs ++ [.session (.setUp 0 true), .session .established,
      .session (.certificate (some [1, 2, 3])), .session (.requested true (some 0))])
    (fun s => decide (Event.sent .request ∈ s.log)) (by decide)
  obtain ⟨before, after, split⟩ := List.append_of_mem (of_decide_eq_true found)
  obtain ⟨index, endpoint, events, cert, inside, accepted, valid, trusted⟩ :=
    trusted_keys_come_from_the_service pointKeys plainJson.codec plainJson_lawful "config.json" none
      _ [wholeRegister] registeredConfig RunTunnel.smallAnswers RunTunnel.smallArgs .client none none some 0
      wholeRegister_ran (found_saved plainJson_lawful wholeRegister_saves) registeredConfig_started rfl
      reached before _ after split trivial
  refine ⟨s, before, after, split, index, endpoint, events, cert, inside, accepted, valid, ?_⟩
  rcases trusted with ⟨old, there, -⟩ | answered
  · cases there
  · exact answered

end Supervisor
end Usque
