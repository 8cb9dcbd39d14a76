import Usque.Config
import Usque.Mdm

/-! Device registrations (`models.rs`, `api/cloudflare.rs`, `commands.rs`): the stored
configuration with its credentials, the update of a registered device, and the refresh a
process start makes after the version of the binary has changed. The codecs of the
base64, p256 and serde_json crates are parameters. -/
namespace Usque.Registration

structure DeviceIdentity where
  name : String
  deviceType : String
  manufacturer : String
  model : String
  osVersion : String
  clientVersion : String
  serialNumber : String
  locale : String
  deriving DecidableEq

structure MeshNodeIdentity where
  accountTag : String
  tunnelId : String
  activationProbeTarget : Option IpAddr
  nativePlatform : String
  registrationPlatformClaim : String
  deriving DecidableEq

/-- `AppConfig`, every field of it. -/
structure AppConfig where
  role : TunnelRole
  meshNode : Option MeshNodeIdentity
  privateKey : String
  endpointV4 : String
  endpointV6 : String
  endpointPubKey : String
  license : String
  id : String
  accessToken : String
  ipv4 : String
  ipv6 : String
  deviceIdentity : DeviceIdentity
  masquePeers : List MasquePeerConfig
  deriving DecidableEq

/-- What a tunnel reads of the configuration. -/
def AppConfig.tunnel (cfg : AppConfig) : Usque.AppConfig where
  role := cfg.role
  meshNode := cfg.meshNode.map fun node => ⟨node.activationProbeTarget⟩
  endpointV4 := cfg.endpointV4
  endpointV6 := cfg.endpointV6
  endpointPubKey := cfg.endpointPubKey
  ipv4 := cfg.ipv4
  ipv6 := cfg.ipv6
  masquePeers := cfg.masquePeers

def AppConfig.withClientVersion (cfg : AppConfig) (version : String) : AppConfig :=
  { cfg with deviceIdentity := { cfg.deviceIdentity with clientVersion := version } }

/-! ## Accounts -/

structure Endpoint where
  v4 : String := ""
  v6 : String := ""
  host : String := ""
  ports : List UInt16 := []
  deriving DecidableEq

structure Peer where
  publicKey : String := ""
  endpoint : Endpoint := {}
  deriving DecidableEq

/-- `AccountData`, flattened to what the commands read of it. -/
structure AccountData where
  id : String := ""
  license : String := ""
  peers : List Peer := []
  addressV4 : String := ""
  addressV6 : String := ""
  token : String := ""
  deriving DecidableEq

def stripSuffix (suffix text : List Char) : Option (List Char) :=
  if suffix.isSuffixOf text then some (text.take (text.length - suffix.length)) else none

def endpointV4FromAccountValue (input : String) : String :=
  ((stripSuffix ":0".toList input.toList).map String.ofList).getD input

def endpointV6FromAccountValue (input : String) : String :=
  (((Net.stripPrefix '[' input.toList).bind (stripSuffix "]:0".toList)).map String.ofList).getD input

def masquePeer (peer : Peer) : MasquePeerConfig where
  endpointV4 := endpointV4FromAccountValue peer.endpoint.v4
  endpointV6 := endpointV6FromAccountValue peer.endpoint.v6
  endpointHost := peer.endpoint.host
  ports := peer.endpoint.ports
  endpointPubKey := peer.publicKey

/-! ## Keys -/

/-- What the code uses of the base64 and p256 crates. -/
structure Keys (SecretKey : Type) where
  encode : Bytes → String
  decode : String → Option Bytes
  fromSec1Der : Bytes → Option SecretKey
  toSec1Der : SecretKey → Except String Bytes
  /-- `secret.public_key().to_public_key_der()` -/
  publicKeyDer : SecretKey → Except String Bytes

variable {SecretKey : Type} (keys : Keys SecretKey)

def getEcPrivateKey (cfg : AppConfig) : Except String SecretKey :=
  match keys.decode cfg.privateKey with
  | none => .error "failed to decode base64 private key"
  | some der =>
    match keys.fromSec1Der der with
    | none => .error "failed to parse P-256 SEC1 private key"
    | some secret => .ok secret

def buildAppConfig (account : AccountData) (privateKeyDer : Bytes) (accessToken : String)
    (deviceIdentity : DeviceIdentity) : Except String AppConfig :=
  match account.peers with
  | [] => .error "Cloudflare response did not contain a peer config"
  | peer :: _ => .ok {
      role := .client
      meshNode := none
      privateKey := keys.encode privateKeyDer
      endpointV4 := endpointV4FromAccountValue peer.endpoint.v4
      endpointV6 := endpointV6FromAccountValue peer.endpoint.v6
      endpointPubKey := peer.publicKey
      license := account.license
      id := account.id
      accessToken := accessToken
      ipv4 := account.addressV4
      ipv6 := account.addressV6
      deviceIdentity := deviceIdentity
      masquePeers := account.peers.map masquePeer }

/-! ## The update of a registered device -/

structure DeviceUpdate where
  key : String
  keyType : String
  tunnelType : String
  name : Option String
  model : String
  serialNumber : String
  osVersion : String
  locale : String
  deviceType : String
  manufacturer : String
  deriving DecidableEq

/-- A `PATCH` request. -/
structure Request where
  url : String
  headers : List (String × String)
  update : DeviceUpdate
  deriving DecidableEq

inductive Answer where
  | sendFailed (reason : String)
  | readFailed (reason : String)
  | received (status : ℕ) (body : Bytes)
  deriving DecidableEq

/-- `ApiError`, by its messages. -/
structure ApiError where
  errors : List String := []
  deriving DecidableEq

inductive EnrollFailure where
  | api (status : ℕ) (apiError : ApiError)
  | transport (reason : String)
  deriving DecidableEq

/-- One process: the version of its binary, the service it talks to and how the bodies of
the answers are decoded. -/
structure Process where
  clientVersion : String
  apiUrl : String
  apiVersion : String
  send : Request → Answer
  decodeAccount : Bytes → Except String AccountData
  decodeError : Bytes → Option ApiError

def clientHeaders (process : Process) : List (String × String) :=
  [("User-Agent", "usque-nativetun/" ++ process.clientVersion ++ " (FreeBSD; TunnelOnly; MASQUE)"),
    ("CF-Client-Version", process.clientVersion),
    ("Content-Type", "application/json; charset=UTF-8")]

def enrollRequest (process : Process) (account : AccountData) (publicKeyDer : Bytes)
    (identity : DeviceIdentity) : Request where
  url := process.apiUrl ++ "/" ++ process.apiVersion ++ "/reg/" ++ account.id
  headers := clientHeaders process ++ [("Authorization", "Bearer " ++ account.token)]
  update := {
    key := keys.encode publicKeyDer
    keyType := "secp256r1"
    tunnelType := "masque"
    name := some identity.name
    model := identity.model
    serialNumber := identity.serialNumber
    osVersion := identity.osVersion
    locale := identity.locale
    deviceType := identity.deviceType
    manufacturer := identity.manufacturer }

def enrollKey (process : Process) (account : AccountData) (publicKeyDer : Bytes)
    (identity : DeviceIdentity) : Except EnrollFailure AccountData :=
  match process.send (enrollRequest keys process account publicKeyDer identity) with
  | .sendFailed reason => .error (.transport ("failed to send enroll request: " ++ reason))
  | .readFailed reason => .error (.transport ("failed to read enroll response: " ++ reason))
  | .received status body =>
    if status ≠ 200 then .error (.api status ((process.decodeError body).getD {}))
    else match process.decodeAccount body with
      | .error reason => .error (.transport ("failed to decode enroll response: " ++ reason))
      | .ok account => .ok account

/-! ## Versions -/

/-- `u64::from_str`: digits behind an optional plus sign. -/
def parseU64 (text : List Char) : Option ℕ :=
  let digits := (Net.stripPrefix '+' text).getD text
  if digits = [] then none
  else
    let number := digits.foldl (fun number digit => number * 10 + (digit.toNat - '0'.toNat)) 0
    if digits.all Char.isDigit ∧ number < 2 ^ 64 then some number else none

def releaseVersion (value : String) : Option (ℕ × ℕ × ℕ) :=
  match (Mdm.trim value).toList.splitOn '.' with
  | major :: minor :: patch :: rest => do
    let version := (← parseU64 major, ← parseU64 minor, ← parseU64 patch)
    if rest = [] then some version else none
  | _ => none

def registrationRefreshRequired (clientVersion : String) (cfg : AppConfig) : Bool :=
  match releaseVersion cfg.deviceIdentity.clientVersion, releaseVersion clientVersion with
  | some registered, some running => running != registered
  | _, _ => false

def registrationRefreshIdentity (clientVersion : String) (cfg : AppConfig) :
    Except String DeviceIdentity :=
  let identity := { cfg.deviceIdentity with clientVersion := clientVersion }
  if cfg.role = .meshNode then
    match cfg.meshNode with
    | none => .error "Mesh node config is missing its node identity"
    | some node =>
      let platformClaim := Mdm.trim node.registrationPlatformClaim
      if platformClaim = "" then
        .error ("Mesh node config does not record its registration platform claim; refusing to " ++
          "guess registration metadata")
      else .ok { identity with deviceType := platformClaim }
  else .ok identity

/-! ## The refresh -/

/-- What a refresh has come to before the configuration is saved. -/
inductive Refresh where
  | notRequired
  | unsent (reason : String)
  | refused (request : Request) (failure : EnrollFailure)
  | accepted (request : Request) (updated : AppConfig)
  deriving DecidableEq

/-- The update request sent. -/
def Refresh.sent : Refresh → Option Request
  | .notRequired | .unsent _ => none
  | .refused request _ | .accepted request _ => some request

/-- The public key and the identity of the update, made before anything is sent. -/
def refreshUpdate (clientVersion : String) (cfg : AppConfig) :
    Except String (Bytes × DeviceIdentity) := do
  let secret ← getEcPrivateKey keys cfg
  let publicKeyDer ← keys.publicKeyDer secret
  let identity ← registrationRefreshIdentity clientVersion cfg
  pure (publicKeyDer, identity)

/-- `refresh_registration_after_version_change`, up to the call that saves. -/
def refreshRegistration (process : Process) (cfg : AppConfig) : Refresh :=
  if registrationRefreshRequired process.clientVersion cfg then
    match refreshUpdate keys process.clientVersion cfg with
    | .error reason => .unsent reason
    | .ok (publicKeyDer, identity) =>
      let account : AccountData := { id := cfg.id, token := cfg.accessToken }
      let request := enrollRequest keys process account publicKeyDer identity
      match enrollKey keys process account publicKeyDer identity with
      | .error failure => .refused request failure
      | .ok _ => .accepted request (cfg.withClientVersion process.clientVersion)
  else .notRequired

end Usque.Registration
