import Mathlib
import Usque.AddressText
import Usque.ConfigPermissions
import Usque.Lib.JsonText
import Usque.RegistrationAnswers

/-! The text of the configuration file (`config.rs`, `models.rs`): how the derived serializer
writes a configuration and how the derived deserializer reads one, with the defaults and the
omissions the attributes ask for. What is saved is loaded, and what a save that stopped has
left is not. -/
namespace Usque.Registration

open Json (Value HasField)
open Net

/-! ## Writing -/

def TunnelRole.text : TunnelRole → String
  | .client => "client"
  | .meshNode => "mesh-node"

def ipValue (address : IpAddr) : Value := .string (String.ofList (displayIpAddr address))

def MeshNodeIdentity.fields (node : MeshNodeIdentity) : List (String × Option Value) :=
  [("account_tag", some (.string node.accountTag)),
    ("tunnel_id", some (.string node.tunnelId)),
    ("activation_probe_target", node.activationProbeTarget.map ipValue),
    ("native_platform", some (.string node.nativePlatform)),
    ("registration_platform_claim", some (.string node.registrationPlatformClaim))]

def DeviceIdentity.fields (identity : DeviceIdentity) : List (String × Option Value) :=
  [("name", some (.string identity.name)),
    ("device_type", some (.string identity.deviceType)),
    ("manufacturer", some (.string identity.manufacturer)),
    ("model", some (.string identity.model)),
    ("os_version", some (.string identity.osVersion)),
    ("client_version", some (.string identity.clientVersion)),
    ("serial_number", some (.string identity.serialNumber)),
    ("locale", some (.string identity.locale))]

def portValue (port : UInt16) : Value := .number (String.ofList (Nat.toDigits 10 port.toNat))

def peerFields (peer : MasquePeerConfig) : List (String × Option Value) :=
  [("endpoint_v4", some (.string peer.endpointV4)),
    ("endpoint_v6", some (.string peer.endpointV6)),
    ("endpoint_host", some (.string peer.endpointHost)),
    ("ports", some (.array (peer.ports.map portValue))),
    ("endpoint_pub_key", some (.string peer.endpointPubKey))]

def peerValue (peer : MasquePeerConfig) : Value := .object (Json.record (peerFields peer))

def AppConfig.fields (cfg : AppConfig) : List (String × Option Value) :=
  [("role", some (.string (TunnelRole.text cfg.role))),
    ("mesh_node", cfg.meshNode.map fun node => .object (Json.record node.fields)),
    ("private_key", some (.string cfg.privateKey)),
    ("endpoint_v4", some (.string cfg.endpointV4)),
    ("endpoint_v6", some (.string cfg.endpointV6)),
    ("endpoint_pub_key", some (.string cfg.endpointPubKey)),
    ("license", some (.string cfg.license)),
    ("id", some (.string cfg.id)),
    ("access_token", some (.string cfg.accessToken)),
    ("ipv4", some (.string cfg.ipv4)),
    ("ipv6", some (.string cfg.ipv6)),
    ("device_identity", some (.object (Json.record cfg.deviceIdentity.fields))),
    ("masque_peers",
      if cfg.masquePeers = [] then none else some (.array (cfg.masquePeers.map peerValue)))]

/-! ## Reading -/

/-- A unit variant is its name, or an object with the name and null. -/
def readRole : Value → Option TunnelRole
  | .string "client" | .object [("client", .null)] => some .client
  | .string "mesh-node" | .object [("mesh-node", .null)] => some .meshNode
  | _ => none

def readIp (value : Value) : Option IpAddr :=
  value.readString.bind fun text => parseIpAddr text.toList

def readOption (read : Value → Option α) : Value → Option (Option α)
  | .null => some none
  | value => (read value).map some

def MeshNodeIdentity.read (value : Value) : Option MeshNodeIdentity := do
  guard (value.isRecord 5)
  let accountTag ← value.readField 0 ["account_tag"] none Value.readString
  let tunnelId ← value.readField 1 ["tunnel_id"] none Value.readString
  let activationProbeTarget ←
    value.readField 2 ["activation_probe_target"] (some none) (readOption readIp)
  let nativePlatform ← value.readField 3 ["native_platform"] (some "") Value.readString
  let registrationPlatformClaim ←
    value.readField 4 ["registration_platform_claim"] (some "") Value.readString
  pure { accountTag, tunnelId, activationProbeTarget, nativePlatform, registrationPlatformClaim }

def DeviceIdentity.read (value : Value) : Option DeviceIdentity := do
  guard (value.isRecord 8)
  let name ← value.readField 0 ["name"] none Value.readString
  let deviceType ← value.readField 1 ["device_type"] none Value.readString
  let manufacturer ← value.readField 2 ["manufacturer"] none Value.readString
  let model ← value.readField 3 ["model"] none Value.readString
  let osVersion ← value.readField 4 ["os_version"] none Value.readString
  let clientVersion ← value.readField 5 ["client_version"] none Value.readString
  let serialNumber ← value.readField 6 ["serial_number"] none Value.readString
  let locale ← value.readField 7 ["locale"] none Value.readString
  pure { name, deviceType, manufacturer, model, osVersion, clientVersion, serialNumber, locale }

def readPeerConfig (value : Value) : Option MasquePeerConfig := do
  guard (value.isRecord 5)
  let endpointV4 ← value.readField 0 ["endpoint_v4"] (some "") Value.readString
  let endpointV6 ← value.readField 1 ["endpoint_v6"] (some "") Value.readString
  let endpointHost ← value.readField 2 ["endpoint_host"] (some "") Value.readString
  let ports ← value.readField 3 ["ports"] (some []) readPorts
  let endpointPubKey ← value.readField 4 ["endpoint_pub_key"] (some "") Value.readString
  pure { endpointV4, endpointV6, endpointHost, ports, endpointPubKey }

/-- `DeviceIdentity::default()` -/
def noIdentity : DeviceIdentity := ⟨"", "", "", "", "", "", "", ""⟩

def AppConfig.read (value : Value) : Option AppConfig := do
  guard (value.isRecord 13)
  let role ← value.readField 0 ["role"] (some .client) readRole
  let meshNode ← value.readField 1 ["mesh_node"] (some none) (readOption MeshNodeIdentity.read)
  let privateKey ← value.readField 2 ["private_key"] none Value.readString
  let endpointV4 ← value.readField 3 ["endpoint_v4"] none Value.readString
  let endpointV6 ← value.readField 4 ["endpoint_v6"] none Value.readString
  let endpointPubKey ← value.readField 5 ["endpoint_pub_key"] none Value.readString
  let license ← value.readField 6 ["license"] (some "") Value.readString
  let id ← value.readField 7 ["id"] none Value.readString
  let accessToken ← value.readField 8 ["access_token"] none Value.readString
  let ipv4 ← value.readField 9 ["ipv4"] none Value.readString
  let ipv6 ← value.readField 10 ["ipv6"] none Value.readString
  let deviceIdentity ←
    value.readField 11 ["device_identity"] (some noIdentity) DeviceIdentity.read
  let masquePeers ← value.readField 12 ["masque_peers"] (some []) (Value.readList readPeerConfig)
  pure ⟨role, meshNode, privateKey, endpointV4, endpointV6, endpointPubKey, license, id,
    accessToken, ipv4, ipv6, deviceIdentity, masquePeers⟩

/-! ## The file -/

/-- `serde_json` between texts and values. What nothing reads may stand for any value. -/
structure JsonFormat where
  print : Value → String
  parse : String → Option Value

/-- The derived implementations over a format. -/
def JsonFormat.codec (json : JsonFormat) : Codec where
  toStringPretty cfg := json.print (.object (Json.record cfg.fields))
  fromStr text := (json.parse text).bind AppConfig.read

/-- The nesting every format follows. -/
def nestingLimit : ℕ := 127

/-! ## What a document says -/

def IsRole (role : TunnelRole) (value : Value) : Prop :=
  value = .string (TunnelRole.text role) ∨ value = .object [(TunnelRole.text role, .null)]

def IsIp (address : IpAddr) (value : Value) : Prop :=
  ∃ text, value = .string text ∧ parseIpAddr text.toList = some address

def IsOption (holds : α → Value → Prop) (given : Option α) (value : Value) : Prop :=
  given = none ∧ value = .null ∨ ∃ some, given = .some some ∧ holds some value

def IsList (holds : α → Value → Prop) (results : List α) (value : Value) : Prop :=
  ∃ items, value = .array items ∧ List.Forall₂ (fun item result => holds result item) items results

/-- A numeral without a sign, a fraction or an exponent. -/
def IsPort (port : UInt16) (value : Value) : Prop :=
  ∃ digits, value = .number digits ∧ digits.toList.all Char.isDigit = true ∧
    digits.toNat? = some port.toNat

/-- The members of a node identity, with what they are where they are missing. -/
structure NodeDocument (node : MeshNodeIdentity) (value : Value) : Prop where
  record : value.isRecord 5
  accountTag : HasField (· = .string node.accountTag) False 0 "account_tag" value
  tunnelId : HasField (· = .string node.tunnelId) False 1 "tunnel_id" value
  activationProbeTarget : HasField (IsOption IsIp node.activationProbeTarget)
    (node.activationProbeTarget = none) 2 "activation_probe_target" value
  nativePlatform : HasField (· = .string node.nativePlatform) (node.nativePlatform = "") 3
    "native_platform" value
  registrationPlatformClaim : HasField (· = .string node.registrationPlatformClaim)
    (node.registrationPlatformClaim = "") 4 "registration_platform_claim" value

structure IdentityDocument (identity : DeviceIdentity) (value : Value) : Prop where
  record : value.isRecord 8
  name : HasField (· = .string identity.name) False 0 "name" value
  deviceType : HasField (· = .string identity.deviceType) False 1 "device_type" value
  manufacturer : HasField (· = .string identity.manufacturer) False 2 "manufacturer" value
  model : HasField (· = .string identity.model) False 3 "model" value
  osVersion : HasField (· = .string identity.osVersion) False 4 "os_version" value
  clientVersion : HasField (· = .string identity.clientVersion) False 5 "client_version" value
  serialNumber : HasField (· = .string identity.serialNumber) False 6 "serial_number" value
  locale : HasField (· = .string identity.locale) False 7 "locale" value

structure PeerDocument (peer : MasquePeerConfig) (value : Value) : Prop where
  record : value.isRecord 5
  endpointV4 : HasField (· = .string peer.endpointV4) (peer.endpointV4 = "") 0 "endpoint_v4" value
  endpointV6 : HasField (· = .string peer.endpointV6) (peer.endpointV6 = "") 1 "endpoint_v6" value
  endpointHost : HasField (· = .string peer.endpointHost) (peer.endpointHost = "") 2 "endpoint_host" value
  ports : HasField (IsList IsPort peer.ports) (peer.ports = []) 3 "ports" value
  endpointPubKey : HasField (· = .string peer.endpointPubKey) (peer.endpointPubKey = "") 4
    "endpoint_pub_key" value

structure ConfigDocument (cfg : AppConfig) (value : Value) : Prop where
  record : value.isRecord 13
  role : HasField (IsRole cfg.role) (cfg.role = .client) 0 "role" value
  meshNode : HasField (IsOption NodeDocument cfg.meshNode) (cfg.meshNode = none) 1 "mesh_node" value
  privateKey : HasField (· = .string cfg.privateKey) False 2 "private_key" value
  endpointV4 : HasField (· = .string cfg.endpointV4) False 3 "endpoint_v4" value
  endpointV6 : HasField (· = .string cfg.endpointV6) False 4 "endpoint_v6" value
  endpointPubKey : HasField (· = .string cfg.endpointPubKey) False 5 "endpoint_pub_key" value
  license : HasField (· = .string cfg.license) (cfg.license = "") 6 "license" value
  id : HasField (· = .string cfg.id) False 7 "id" value
  accessToken : HasField (· = .string cfg.accessToken) False 8 "access_token" value
  ipv4 : HasField (· = .string cfg.ipv4) False 9 "ipv4" value
  ipv6 : HasField (· = .string cfg.ipv6) False 10 "ipv6" value
  deviceIdentity : HasField (IdentityDocument cfg.deviceIdentity) (cfg.deviceIdentity = noIdentity) 11
    "device_identity" value
  masquePeers : HasField (IsList PeerDocument cfg.masquePeers) (cfg.masquePeers = []) 12
    "masque_peers" value

/-! ## Values -/

theorem readRole_eq_some_iff {role : TunnelRole} {value : Value} :
    readRole value = some role ↔ IsRole role value := by
  constructor
  · intro read
    unfold readRole at read
    split at read <;> cases read
    · exact .inl rfl
    · exact .inr rfl
    · exact .inl rfl
    · exact .inr rfl
  · rintro (rfl | rfl) <;> cases role <;> rfl

theorem readIp_eq_some_iff {address : IpAddr} {value : Value} :
    readIp value = some address ↔ IsIp address value := by
  rw [readIp, Option.bind_eq_some_iff]
  simp only [Json.readString_eq_some_iff, IsIp]

theorem readOption_eq_some_iff {read : Value → Option α} {holds : α → Value → Prop} {value : Value}
    {given : Option α} (reads : ∀ result value, read value = some result ↔ holds result value)
    (noNull : ∀ result, ¬ holds result .null) :
    readOption read value = some given ↔ IsOption holds given value := by
  unfold IsOption readOption
  split
  · simp [noNull, eq_comm]
  · rename_i other
    have some_value : value ≠ .null := other
    simp [Option.map_eq_some_iff, reads, some_value, eq_comm, and_comm]

theorem readList_iff {read : Value → Option α} {holds : α → Value → Prop} {value : Value}
    {results : List α} (reads : ∀ result value, read value = some result ↔ holds result value) :
    Value.readList read value = some results ↔ IsList holds results value := by
  rw [Json.readList_eq_some_iff, IsList]
  simp only [reads]

theorem readUnsigned_eq_some_iff {port : UInt16} {value : Value} :
    Value.readUnsigned (2 ^ 16) value = some port.toNat ↔ IsPort port value := by
  have below : port.toNat < 2 ^ 16 := port.toNat_lt
  unfold IsPort
  cases value with
  | number digits =>
    rw [Value.readUnsigned]
    split_ifs with numeral
    · rw [Option.filter_eq_some_iff]
      constructor
      · rintro ⟨read, -⟩
        exact ⟨digits, rfl, numeral, read⟩
      · rintro ⟨_, same, -, read⟩
        cases same
        exact ⟨read, decide_eq_true below⟩
    · constructor
      · rintro read
        cases read
      · rintro ⟨_, same, all, -⟩
        cases same
        exact absurd all numeral
  | _ => simp [Value.readUnsigned]

theorem readPorts_eq_some_iff {ports : List UInt16} {value : Value} :
    readPorts value = some ports ↔ IsList IsPort ports value := by
  rw [readPorts, Option.map_eq_some_iff]
  constructor
  · rintro ⟨numbers, read, rfl⟩
    obtain ⟨items, rfl, each⟩ := Json.readList_eq_some_iff.mp read
    refine ⟨items, rfl, ?_⟩
    rw [List.forall₂_map_right_iff]
    refine each.imp fun item number came => readUnsigned_eq_some_iff.mp ?_
    rw [UInt16.toNat_ofNat_of_lt' (Json.readUnsigned_lt came)]
    exact came
  · rintro ⟨items, rfl, each⟩
    have same : UInt16.ofNat ∘ UInt16.toNat = id := funext fun port => UInt16.ofNat_toNat
    refine ⟨ports.map UInt16.toNat, Json.readList_eq_some_iff.mpr ⟨items, rfl, ?_⟩, ?_⟩
    · rw [List.forall₂_map_right_iff]
      exact each.imp fun item port => readUnsigned_eq_some_iff.mpr
    · rw [List.map_map, same, List.map_id]

/-! ## What is read -/

theorem guard_eq_some_iff {cond : Prop} [Decidable cond] {done : Unit} :
    (guard cond : Option Unit) = some done ↔ cond := by
  by_cases holds : cond <;> simp [guard, holds, failure]

theorem text_iff {value : Value} {index : ℕ} {name text : String} :
    value.readField index [name] none Value.readString = some text ↔
      HasField (· = .string text) False index name value :=
  Json.required_iff fun _ => Json.readString_eq_some_iff

theorem textDefaulted_iff {value : Value} {index : ℕ} {name text missing : String} :
    value.readField index [name] (some missing) Value.readString = some text ↔
      HasField (· = .string text) (text = missing) index name value :=
  Json.defaulted_iff fun _ => Json.readString_eq_some_iff

theorem option_iff {read : Value → Option α} {holds : α → Value → Prop} {value : Value} {index : ℕ}
    {name : String} {given : Option α} (reads : ∀ result value, read value = some result ↔ holds result value)
    (noNull : ∀ result, ¬ holds result .null) :
    value.readField index [name] (some none) (readOption read) = some given ↔
      HasField (IsOption holds given) (given = none) index name value :=
  Json.defaulted_iff fun _ => readOption_eq_some_iff reads noNull

theorem nodeDocument_iff {node : MeshNodeIdentity} {value : Value} :
    MeshNodeIdentity.read value = some node ↔ NodeDocument node value := by
  have target {given : Option IpAddr} :
      value.readField 2 ["activation_probe_target"] (some none) (readOption readIp) = some given ↔
        HasField (IsOption IsIp given) (given = none) 2 "activation_probe_target" value :=
    option_iff (fun _ _ => readIp_eq_some_iff) (by simp [IsIp])
  unfold MeshNodeIdentity.read
  simp only [bind, Option.bind_eq_some_iff, guard_eq_some_iff, text_iff, textDefaulted_iff, target, pure,
    Option.some.injEq]
  constructor
  · rintro ⟨_, record, _, h0, _, h1, _, h2, _, h3, _, h4, rfl⟩
    exact ⟨record, h0, h1, h2, h3, h4⟩
  · rintro ⟨record, h0, h1, h2, h3, h4⟩
    exact ⟨(), record, _, h0, _, h1, _, h2, _, h3, _, h4, rfl⟩

theorem identityDocument_iff {identity : DeviceIdentity} {value : Value} :
    DeviceIdentity.read value = some identity ↔ IdentityDocument identity value := by
  unfold DeviceIdentity.read
  simp only [bind, Option.bind_eq_some_iff, guard_eq_some_iff, text_iff, pure, Option.some.injEq]
  constructor
  · rintro ⟨_, record, _, h0, _, h1, _, h2, _, h3, _, h4, _, h5, _, h6, _, h7, rfl⟩
    exact ⟨record, h0, h1, h2, h3, h4, h5, h6, h7⟩
  · rintro ⟨record, h0, h1, h2, h3, h4, h5, h6, h7⟩
    exact ⟨(), record, _, h0, _, h1, _, h2, _, h3, _, h4, _, h5, _, h6, _, h7, rfl⟩

theorem peerDocument_iff {peer : MasquePeerConfig} {value : Value} :
    readPeerConfig value = some peer ↔ PeerDocument peer value := by
  have ports {given : List UInt16} : value.readField 3 ["ports"] (some []) readPorts = some given ↔
      HasField (IsList IsPort given) (given = []) 3 "ports" value :=
    Json.defaulted_iff fun _ => readPorts_eq_some_iff
  unfold readPeerConfig
  simp only [bind, Option.bind_eq_some_iff, guard_eq_some_iff, textDefaulted_iff, ports, pure,
    Option.some.injEq]
  constructor
  · rintro ⟨_, record, _, h0, _, h1, _, h2, _, h3, _, h4, rfl⟩
    exact ⟨record, h0, h1, h2, h3, h4⟩
  · rintro ⟨record, h0, h1, h2, h3, h4⟩
    exact ⟨(), record, _, h0, _, h1, _, h2, _, h3, _, h4, rfl⟩

/-- A document is read as the configuration it tells, field by field. -/
theorem configDocument_iff {cfg : AppConfig} {value : Value} :
    AppConfig.read value = some cfg ↔ ConfigDocument cfg value := by
  have role {given : TunnelRole} : value.readField 0 ["role"] (some .client) readRole = some given ↔
      HasField (IsRole given) (given = .client) 0 "role" value :=
    Json.defaulted_iff fun _ => readRole_eq_some_iff
  have node {given : Option MeshNodeIdentity} :
      value.readField 1 ["mesh_node"] (some none) (readOption MeshNodeIdentity.read) = some given ↔
        HasField (IsOption NodeDocument given) (given = none) 1 "mesh_node" value :=
    option_iff (fun _ _ => nodeDocument_iff) fun _ document => Bool.noConfusion document.record
  have identity {given : DeviceIdentity} :
      value.readField 11 ["device_identity"] (some noIdentity) DeviceIdentity.read = some given ↔
        HasField (IdentityDocument given) (given = noIdentity) 11 "device_identity" value :=
    Json.defaulted_iff fun _ => identityDocument_iff
  have peers {given : List MasquePeerConfig} :
      value.readField 12 ["masque_peers"] (some []) (Value.readList readPeerConfig) = some given ↔
        HasField (IsList PeerDocument given) (given = []) 12 "masque_peers" value :=
    Json.defaulted_iff fun _ => readList_iff fun _ _ => peerDocument_iff
  constructor
  · intro read
    obtain ⟨_, record, read⟩ := Option.bind_eq_some_iff.mp read
    obtain ⟨_, h0, read⟩ := Option.bind_eq_some_iff.mp read
    obtain ⟨_, h1, read⟩ := Option.bind_eq_some_iff.mp read
    obtain ⟨_, h2, read⟩ := Option.bind_eq_some_iff.mp read
    obtain ⟨_, h3, read⟩ := Option.bind_eq_some_iff.mp read
    obtain ⟨_, h4, read⟩ := Option.bind_eq_some_iff.mp read
    obtain ⟨_, h5, read⟩ := Option.bind_eq_some_iff.mp read
    obtain ⟨_, h6, read⟩ := Option.bind_eq_some_iff.mp read
    obtain ⟨_, h7, read⟩ := Option.bind_eq_some_iff.mp read
    obtain ⟨_, h8, read⟩ := Option.bind_eq_some_iff.mp read
    obtain ⟨_, h9, read⟩ := Option.bind_eq_some_iff.mp read
    obtain ⟨_, h10, read⟩ := Option.bind_eq_some_iff.mp read
    obtain ⟨_, h11, read⟩ := Option.bind_eq_some_iff.mp read
    obtain ⟨_, h12, read⟩ := Option.bind_eq_some_iff.mp read
    cases read
    exact ⟨guard_eq_some_iff.mp record, role.mp h0, node.mp h1, text_iff.mp h2, text_iff.mp h3,
      text_iff.mp h4, text_iff.mp h5, textDefaulted_iff.mp h6, text_iff.mp h7, text_iff.mp h8,
      text_iff.mp h9, text_iff.mp h10, identity.mp h11, peers.mp h12⟩
  · rintro ⟨record, h0, h1, h2, h3, h4, h5, h6, h7, h8, h9, h10, h11, h12⟩
    have whole : (guard (value.isRecord 13 = true) : Option Unit) = some () := guard_eq_some_iff.mpr record
    unfold AppConfig.read
    rw [whole, role.mpr h0, node.mpr h1, text_iff.mpr h2, text_iff.mpr h3,
      text_iff.mpr h4, text_iff.mpr h5, textDefaulted_iff.mpr h6, text_iff.mpr h7, text_iff.mpr h8,
      text_iff.mpr h9, text_iff.mpr h10, identity.mpr h11, peers.mpr h12]
    rfl

/-! ## What is written -/

theorem portValue_is (port : UInt16) : IsPort port (portValue port) := by
  have digit : ∀ c ∈ Nat.toDigits 10 port.toNat, c.isDigit = true :=
    fun c member => Nat.isDigit_of_mem_toDigits (by decide) (by decide) member
  have plain : (Nat.toDigits 10 port.toNat).filter (· != '_') = Nat.toDigits 10 port.toNat := by
    rw [List.filter_eq_self]
    intro c member
    simp only [bne_iff_ne, ne_eq]
    rintro rfl
    cases digit _ member
  have natural : (String.ofList (Nat.toDigits 10 port.toNat)).isNat = true := by
    refine String.isNat_of_isDigit ?_ ?_
    · intro empty
      have chars := congrArg String.toList empty
      rw [String.toList_ofList] at chars
      exact Nat.toDigits_ne_nil chars
    · rw [String.toList_ofList]
      exact digit
  refine ⟨_, rfl, ?_, ?_⟩
  · rw [String.toList_ofList, List.all_eq_true]
    exact digit
  · rw [String.toNat?_eq_some_ofDigitChars natural, String.toList_ofList, plain,
      Nat.ofDigitChars_ten_toDigits]

theorem isList_map {holds : α → Value → Prop} {write : α → Value} (written : ∀ item, holds item (write item))
    (items : List α) : IsList holds items (.array (items.map write)) :=
  ⟨_, rfl, List.forall₂_map_left_iff.mpr (List.forall₂_same.mpr fun item _ => written item)⟩

theorem ipValue_is (address : IpAddr) : IsIp address (ipValue address) :=
  ⟨_, rfl, by rw [String.toList_ofList, parseIpAddr_display]⟩

theorem node_written (node : MeshNodeIdentity) : NodeDocument node (.object (Json.record node.fields)) := by
  have distinct : (node.fields.map Prod.fst).Nodup := by simp [MeshNodeIdentity.fields]
  have field {index : ℕ} {name : String} {given : Option Value} {holds : Value → Prop} {absent : Prop}
      (here : node.fields[index]? = some (name, given)) (said : given.elim absent holds) :
      HasField holds absent index name (.object (Json.record node.fields)) :=
    Json.hasField_record distinct (List.mem_of_getElem? here) said
  refine ⟨rfl, field rfl rfl, field rfl rfl, field rfl ?_, field rfl rfl, field rfl rfl⟩
  cases given : node.activationProbeTarget with
  | none => rfl
  | some address => exact .inr ⟨address, rfl, ipValue_is address⟩

theorem identity_written (identity : DeviceIdentity) :
    IdentityDocument identity (.object (Json.record identity.fields)) := by
  have distinct : (identity.fields.map Prod.fst).Nodup := by simp [DeviceIdentity.fields]
  have field {index : ℕ} {name : String} {given : Option Value} {holds : Value → Prop} {absent : Prop}
      (here : identity.fields[index]? = some (name, given)) (said : given.elim absent holds) :
      HasField holds absent index name (.object (Json.record identity.fields)) :=
    Json.hasField_record distinct (List.mem_of_getElem? here) said
  exact ⟨rfl, field rfl rfl, field rfl rfl, field rfl rfl, field rfl rfl, field rfl rfl, field rfl rfl,
    field rfl rfl, field rfl rfl⟩

theorem peer_written (peer : MasquePeerConfig) : PeerDocument peer (peerValue peer) := by
  have distinct : ((peerFields peer).map Prod.fst).Nodup := by simp [peerFields]
  have field {index : ℕ} {name : String} {given : Option Value} {holds : Value → Prop} {absent : Prop}
      (here : (peerFields peer)[index]? = some (name, given)) (said : given.elim absent holds) :
      HasField holds absent index name (peerValue peer) :=
    Json.hasField_record distinct (List.mem_of_getElem? here) said
  exact ⟨rfl, field rfl rfl, field rfl rfl, field rfl rfl,
    field rfl (isList_map portValue_is peer.ports), field rfl rfl⟩

/-- What is written tells the configuration it is written from. -/
theorem config_written (cfg : AppConfig) : ConfigDocument cfg (.object (Json.record cfg.fields)) := by
  have distinct : (cfg.fields.map Prod.fst).Nodup := by simp [AppConfig.fields]
  have field {index : ℕ} {name : String} {given : Option Value} {holds : Value → Prop} {absent : Prop}
      (here : cfg.fields[index]? = some (name, given)) (said : given.elim absent holds) :
      HasField holds absent index name (.object (Json.record cfg.fields)) :=
    Json.hasField_record distinct (List.mem_of_getElem? here) said
  refine ⟨rfl, field rfl (.inl rfl), field rfl ?_, field rfl rfl, field rfl rfl, field rfl rfl,
    field rfl rfl, field rfl rfl, field rfl rfl, field rfl rfl, field rfl rfl, field rfl rfl,
    field rfl (identity_written cfg.deviceIdentity), field rfl ?_⟩
  · cases given : cfg.meshNode with
    | none => rfl
    | some node => exact .inr ⟨node, rfl, node_written node⟩
  · split_ifs with none
    · exact none
    · exact isList_map peer_written cfg.masquePeers

theorem plain_record {depth : ℕ} {fields : List (String × Option Value)}
    (plain : ∀ field ∈ fields, ∀ value, field.2 = some value → value.Plain depth) :
    (Value.object (Json.record fields)).Plain (depth + 1) := by
  refine .object _ fun member inside => ?_
  obtain ⟨⟨name, given⟩, listed, written⟩ := List.mem_filterMap.mp inside
  obtain ⟨value, rfl, rfl⟩ := Option.map_eq_some_iff.mp written
  exact plain _ listed value rfl

theorem plain_map {depth : ℕ} {write : β → Value} (plain : ∀ item, (write item).Plain depth)
    (items : List β) : (Value.array (items.map write)).Plain (depth + 1) := by
  refine .array _ fun value inside => ?_
  obtain ⟨item, -, rfl⟩ := List.mem_map.mp inside
  exact plain item

theorem plain_deviceIdentity {depth : ℕ} (identity : DeviceIdentity) :
    (Value.object (Json.record identity.fields)).Plain (depth + 1) :=
  plain_record (by simp [DeviceIdentity.fields, Value.Plain.string])

theorem plain_meshNode {depth : ℕ} (node : MeshNodeIdentity) :
    (Value.object (Json.record node.fields)).Plain (depth + 1) :=
  plain_record (by simp [MeshNodeIdentity.fields, ipValue, Value.Plain.string])

theorem plain_peer {depth : ℕ} (peer : MasquePeerConfig) : (peerValue peer).Plain (depth + 2) := by
  have ports : (Value.array (peer.ports.map portValue)).Plain (depth + 1) :=
    plain_map (fun port => .number port.toNat) peer.ports
  exact plain_record (by simp [peerFields, Value.Plain.string, ports])

theorem plain_fields (cfg : AppConfig) :
    (Value.object (Json.record cfg.fields)).Plain nestingLimit := by
  have peers (depth : ℕ) : (Value.array (cfg.masquePeers.map peerValue)).Plain (depth + 3) :=
    plain_map plain_peer cfg.masquePeers
  refine plain_record ?_
  simp [AppConfig.fields, Value.Plain.string, plain_deviceIdentity, plain_meshNode, peers]

/-! ## What is loaded -/

theorem JsonFormat.codec_roundTrip {json : JsonFormat}
    (prints : ∀ value : Value, value.Plain nestingLimit → json.parse (json.print value) = some value)
    (cfg : AppConfig) : json.codec.fromStr (json.codec.toStringPretty cfg) = some cfg := by
  simp only [JsonFormat.codec, prints _ (plain_fields cfg), Option.bind_some]
  exact configDocument_iff.mpr (config_written cfg)

theorem foldl_save {codec : Codec} {umask : UInt16} {disk : Disk} {cfg : AppConfig} :
    (save codec umask cfg).foldl apply disk = some ⟨savedBytes codec cfg, createdMode umask disk⟩ := by
  rw [save, foldl_fsWrite]

theorem foldl_saveSensitive {codec : Codec} {umask : UInt16} {disk : Disk} {cfg : AppConfig} :
    (saveSensitive codec umask cfg).foldl apply disk = some ⟨savedBytes codec cfg, 0o600⟩ := by
  rw [saveSensitive, List.foldl_append, foldl_save]
  rfl

/-- Both saves are read back, whatever the file was and whatever the texts hold. -/
theorem config_file_round_trip (json : JsonFormat)
    (prints : ∀ value : Value, value.Plain nestingLimit → json.parse (json.print value) = some value)
    (path : String) (umask : UInt16) (disk : Disk) (cfg : AppConfig) :
    load json.codec path ((save json.codec umask cfg).foldl apply disk) = .ok cfg ∧
      load json.codec path ((saveSensitive json.codec umask cfg).foldl apply disk) = .ok cfg :=
  ⟨load_of_content (congrArg _ foldl_save) (JsonFormat.codec_roundTrip prints cfg),
    load_of_content (congrArg _ foldl_saveSensitive) (JsonFormat.codec_roundTrip prints cfg)⟩

/-! ## A format -/

def plainJson : JsonFormat where
  print value := String.ofList (value.print 0)
  parse text := Json.document nestingLimit text.toList

theorem plainJson_prints (value : Value) (plain : value.Plain nestingLimit) :
    plainJson.parse (plainJson.print value) = some value := by
  simp only [plainJson, String.toList_ofList]
  exact Json.document_print plain

theorem plainJson_lawful : plainJson.codec.Lawful where
  roundTrip := JsonFormat.codec_roundTrip plainJson_prints
  unfinished cfg text rest torn short := by
    have front : text.toList ++ rest.toList = (Value.object (Json.record cfg.fields)).print 0 := by
      rw [← String.toList_append, torn]
      exact String.toList_ofList
    have more : rest.toList ≠ [] := fun nothing => short (String.toList_eq_nil_iff.mp nothing)
    simp only [JsonFormat.codec, plainJson, Json.document_torn (plain_fields cfg) front more,
      Option.bind_none]

theorem config_file_round_trip_client :
    load plainJson.codec "config.json" ((save plainJson.codec 0o022 clientConfig).foldl apply none) =
        .ok clientConfig ∧
      load plainJson.codec "config.json"
        ((saveSensitive plainJson.codec 0o022 clientConfig).foldl apply none) = .ok clientConfig :=
  config_file_round_trip plainJson plainJson_prints "config.json" 0o022 none clientConfig

end Usque.Registration
