import Usque.Net
import Usque.Timing

/-! The configuration and the endpoints selected from it (`config.rs`). A selected
endpoint carries the key of the peer it was read from, so the pin cannot be
parted from the address on the way to the session. -/
namespace Usque

/-- `TunnelRole`. -/
inductive TunnelRole where
  | client
  | meshNode
  deriving DecidableEq

structure MasquePeerConfig where
  endpointV4 : String
  endpointV6 : String
  endpointHost : String := ""
  ports : List UInt16 := []
  endpointPubKey : String
  deriving DecidableEq

/-- The part of the node identity a tunnel reads. -/
structure MeshNodeIdentity where
  activationProbeTarget : Option IpAddr
  deriving DecidableEq

/-- The part of `AppConfig` a tunnel reads. -/
structure AppConfig where
  role : TunnelRole
  meshNode : Option MeshNodeIdentity
  endpointV4 : String
  endpointV6 : String
  endpointPubKey : String
  ipv4 : String
  ipv6 : String
  masquePeers : List MasquePeerConfig
  deriving DecidableEq

/-- The configured peers, or one made of the legacy fields. -/
def AppConfig.peers (cfg : AppConfig) : List MasquePeerConfig :=
  if cfg.masquePeers = [] then
    [{ endpointV4 := cfg.endpointV4
       endpointV6 := cfg.endpointV6
       endpointPubKey := cfg.endpointPubKey }]
  else cfg.masquePeers

structure MasqueEndpoint where
  addr : SocketAddr
  host : String
  endpointPubKeySpkiDer : Bytes
  deriving DecidableEq

inductive ConfigError where
  /-- "failed to decode MASQUE peer endpoint public key" -/
  | endpointPubKey (value : String)
  /-- "invalid endpoint IP value" -/
  | endpointIp (value : String)
  /-- "Cloudflare configuration did not contain a usable MASQUE endpoint" -/
  | noEndpoint
  deriving DecidableEq

namespace Config

open Net

def normalizeIp (ip : String) : List Char :=
  let trimmed := trim ip.toList
  ((stripPrefix '[' trimmed).bind (stripSuffix ']')).getD trimmed

def parseSocket (ip : String) (port : UInt16) : Except ConfigError SocketAddr :=
  match parseIpAddr (normalizeIp ip) with
  | some address => .ok ⟨address, port⟩
  | none => .error (.endpointIp ip)

def peerPorts (portOverride : UInt16) (peer : MasquePeerConfig) : List UInt16 :=
  if portOverride ≠ 0 then [portOverride]
  else
    let apiPorts := peer.ports.filter (· ≠ 0)
    if apiPorts = [] then [443] else apiPorts

def families (preferIpv6 : Bool) (peer : MasquePeerConfig) : List String :=
  if preferIpv6 then [peer.endpointV6, peer.endpointV4] else [peer.endpointV4, peer.endpointV6]

/-- The endpoints pushed so far and the pairs seen. -/
structure Selection where
  endpoints : List MasqueEndpoint := []
  seen : List (SocketAddr × Bytes) := []
  deriving DecidableEq

instance (key : SocketAddr × Bytes) (seen : List (SocketAddr × Bytes)) : Decidable (key ∈ seen) :=
  inferInstance

/-- One turn of the innermost loop: a pair seen before is not pushed again. -/
def addPort (host : String) (key : Bytes) (address : String) (selection : Selection)
    (port : UInt16) : Except ConfigError Selection := do
  let socket ← parseSocket address port
  if (socket, key) ∈ selection.seen then pure selection
  else pure {
    endpoints := selection.endpoints ++ [⟨socket, host, key⟩]
    seen := (socket, key) :: selection.seen }

def addAddress (host : String) (key : Bytes) (ports : List UInt16) (selection : Selection)
    (address : String) : Except ConfigError Selection :=
  if trim address.toList = [] then .ok selection
  else ports.foldlM (addPort host key address) selection

/-- `pemContents` is `pem::parse`, reduced to the contents of the block. -/
def addPeer (pemContents : String → Option Bytes) (preferIpv6 : Bool) (portOverride : UInt16)
    (selection : Selection) (peer : MasquePeerConfig) : Except ConfigError Selection :=
  match pemContents peer.endpointPubKey with
  | none => .error (.endpointPubKey peer.endpointPubKey)
  | some key =>
    (families preferIpv6 peer).foldlM
      (addAddress peer.endpointHost key (peerPorts portOverride peer)) selection

/-- The class an endpoint is sorted by. -/
def portClass (endpoint : MasqueEndpoint) : ℕ :=
  if endpoint.addr.port = 443 then 0 else if endpoint.addr.port = 1701 then 2 else 1

def selectEndpointsFromConfig (pemContents : String → Option Bytes) (cfg : AppConfig)
    (preferIpv6 : Bool) (portOverride : UInt16) : Except ConfigError (List MasqueEndpoint) := do
  let selection ← cfg.peers.foldlM (addPeer pemContents preferIpv6 portOverride) {}
  if selection.endpoints = [] then throw .noEndpoint
  else pure (selection.endpoints.mergeSort fun a b => portClass a ≤ portClass b)

/-! ## Pins -/

variable {pemContents : String → Option Bytes} {cfg : AppConfig} {preferIpv6 : Bool}
  {portOverride : UInt16}

/-- A peer lists an IP address in one of its two address fields. -/
def Lists (peer : MasquePeerConfig) (ip : IpAddr) : Prop :=
  parseIpAddr (normalizeIp peer.endpointV4) = some ip ∨
    parseIpAddr (normalizeIp peer.endpointV6) = some ip

/-- The key of an endpoint is the decoded key of a peer that lists its address. -/
def Pinned (pemContents : String → Option Bytes) (cfg : AppConfig) (endpoint : MasqueEndpoint) :
    Prop :=
  ∃ peer ∈ cfg.peers, pemContents peer.endpointPubKey = some endpoint.endpointPubKeySpkiDer ∧
    Lists peer endpoint.addr.ip

/-- A fold that may fail keeps an invariant its turns keep. -/
private theorem foldlM_keeps {α β : Type} {ε : Type} {turn : β → α → Except ε β} {items : List α}
    (inv : β → Prop)
    (kept : ∀ acc item next, item ∈ items → inv acc → turn acc item = .ok next → inv next)
    {start result : β} (before : inv start) (folded : items.foldlM turn start = .ok result) :
    inv result := by
  induction items generalizing start with
  | nil =>
    cases folded
    exact before
  | cons item rest ih =>
    rw [List.foldlM_cons] at folded
    cases first : turn start item with
    | error e =>
      rw [first] at folded
      cases folded
    | ok next =>
      rw [first] at folded
      apply ih
      · intro acc other after member
        exact kept acc other after (List.mem_cons_of_mem _ member)
      · exact kept start item next List.mem_cons_self before first
      · exact folded

theorem addPort_pinned {host address : String} {key : Bytes} {port : UInt16}
    {selection next : Selection} {peer : MasquePeerConfig} (member : peer ∈ cfg.peers)
    (decoded : pemContents peer.endpointPubKey = some key)
    (own : address = peer.endpointV4 ∨ address = peer.endpointV6)
    (before : ∀ endpoint ∈ selection.endpoints, Pinned pemContents cfg endpoint)
    (added : addPort host key address selection port = .ok next) :
    ∀ endpoint ∈ next.endpoints, Pinned pemContents cfg endpoint := by
  unfold addPort parseSocket at added
  cases parsed : parseIpAddr (normalizeIp address) with
  | none =>
    rw [parsed] at added
    cases added
  | some ip =>
    rw [parsed] at added
    simp only [bind, Except.bind, pure, Except.pure] at added
    split at added
    · cases added
      exact before
    · cases added
      intro endpoint pushed
      rcases List.mem_append.mp pushed with earlier | new
      · exact before endpoint earlier
      · rw [List.mem_singleton.mp new]
        refine ⟨peer, member, decoded, ?_⟩
        rcases own with rfl | rfl
        · exact .inl parsed
        · exact .inr parsed

theorem addPeer_pinned {selection next : Selection} {peer : MasquePeerConfig}
    (member : peer ∈ cfg.peers)
    (before : ∀ endpoint ∈ selection.endpoints, Pinned pemContents cfg endpoint)
    (added : addPeer pemContents preferIpv6 portOverride selection peer = .ok next) :
    ∀ endpoint ∈ next.endpoints, Pinned pemContents cfg endpoint := by
  unfold addPeer at added
  split at added
  · cases added
  · rename_i key decoded
    refine foldlM_keeps (fun s : Selection => ∀ endpoint ∈ s.endpoints, Pinned pemContents cfg endpoint)
      ?_ before added
    intro acc address after family kept turn
    have own : address = peer.endpointV4 ∨ address = peer.endpointV6 := by
      unfold families at family
      split at family <;> simp only [List.mem_cons, List.not_mem_nil, or_false] at family
      · exact family.symm
      · exact family
    unfold addAddress at turn
    split at turn
    · cases turn
      exact kept
    · refine foldlM_keeps
        (fun s : Selection => ∀ endpoint ∈ s.endpoints, Pinned pemContents cfg endpoint) ?_ kept turn
      intro acc port after _ kept turn
      exact addPort_pinned member decoded own kept turn

/-- Every selected endpoint is pinned, and there is at least one. -/
theorem selected_pinned {endpoints : List MasqueEndpoint}
    (selected : selectEndpointsFromConfig pemContents cfg preferIpv6 portOverride = .ok endpoints) :
    endpoints ≠ [] ∧ ∀ endpoint ∈ endpoints, Pinned pemContents cfg endpoint := by
  unfold selectEndpointsFromConfig at selected
  cases folded : cfg.peers.foldlM (addPeer pemContents preferIpv6 portOverride) {} with
  | error e =>
    rw [folded] at selected
    cases selected
  | ok selection =>
    rw [folded] at selected
    simp only [bind, Except.bind, pure, Except.pure, throw, throwThe, MonadExceptOf.throw]
      at selected
    split at selected
    · cases selected
    · rename_i nonempty
      cases selected
      have perm := List.mergeSort_perm selection.endpoints fun a b => portClass a ≤ portClass b
      constructor
      · intro empty
        rw [empty] at perm
        exact nonempty perm.symm.eq_nil
      · intro endpoint member
        refine foldlM_keeps
          (fun s : Selection => ∀ endpoint ∈ s.endpoints, Pinned pemContents cfg endpoint)
          ?_ ?_ folded endpoint (perm.mem_iff.mp member)
        · intro acc peer next listed kept turn
          exact addPeer_pinned listed kept turn
        · intro endpoint none
          cases none

end Config
end Usque
