import Usque.ConfigFile
import Usque.MeshToken

/-! What the registration API answers (`models.rs`, `api/cloudflare.rs`, `api/mesh.rs`).
Every field of an answer has a default, so an answer without any of them is read as well
as a complete one. How serde_json reads a text is a parameter. -/
namespace Usque.Registration

open Json (Value)

/-! ## Account data -/

def readPorts (value : Value) : Option (List UInt16) :=
  (value.readList (Value.readUnsigned (2 ^ 16))).map (List.map UInt16.ofNat)

def Endpoint.read (value : Value) : Option Endpoint := do
  guard (value.isRecord 4)
  let v4 ← value.readField 0 ["v4"] (some "") Value.readString
  let v6 ← value.readField 1 ["v6"] (some "") Value.readString
  let host ← value.readField 2 ["host"] (some "") Value.readString
  let ports ← value.readField 3 ["ports"] (some []) readPorts
  pure { v4, v6, host, ports }

def Peer.read (value : Value) : Option Peer := do
  guard (value.isRecord 2)
  let publicKey ← value.readField 0 ["public_key"] (some "") Value.readString
  let endpoint ← value.readField 1 ["endpoint"] (some {}) Endpoint.read
  pure { publicKey, endpoint }

/-- `Account`, of which the license is kept. -/
def readAccount (value : Value) : Option String := do
  guard (value.isRecord 2)
  let _id ← value.readField 0 ["id"] (some "") Value.readString
  value.readField 1 ["license"] (some "") Value.readString

def readAddresses (value : Value) : Option (String × String) := do
  guard (value.isRecord 2)
  let v4 ← value.readField 0 ["v4"] (some "") Value.readString
  let v6 ← value.readField 1 ["v6"] (some "") Value.readString
  pure (v4, v6)

def readInterface (value : Value) : Option (String × String) := do
  guard (value.isRecord 1)
  value.readField 0 ["addresses"] (some ("", "")) readAddresses

def readAccountConfig (value : Value) : Option (List Peer × String × String) := do
  guard (value.isRecord 2)
  let peers ← value.readField 0 ["peers"] (some []) (Value.readList Peer.read)
  let addresses ← value.readField 1 ["interface"] (some ("", "")) readInterface
  pure (peers, addresses)

/-- `Policy`, which nothing here uses, but which has to be well formed. -/
def readPolicy (value : Value) : Option Unit := do
  guard (value.isRecord 2)
  let _policyId ← value.readField 0 ["policy_id"] (some "") Value.readString
  let _switchLocked ← value.readField 1 ["switch_locked"] (some false) Value.readBool
  pure ()

def AccountData.read (value : Value) : Option AccountData := do
  guard (value.isRecord 5)
  let id ← value.readField 0 ["id"] (some "") Value.readString
  let license ← value.readField 1 ["account"] (some "") readAccount
  let (peers, addressV4, addressV6) ← value.readField 2 ["config"] (some ([], "", "")) readAccountConfig
  let token ← value.readField 3 ["token"] (some "") Value.readString
  let () ← value.readField 4 ["policy"] (some ()) readPolicy
  pure { id, license, peers, addressV4, addressV6, token }

/-- `ErrorInfo`, by its message. -/
def readErrorInfo (value : Value) : Option String := do
  guard (value.isRecord 1)
  value.readField 0 ["message"] (some "") Value.readString

def ApiError.read (value : Value) : Option ApiError := do
  guard (value.isRecord 1)
  let errors ← value.readField 0 ["errors"] (some []) (Value.readList readErrorInfo)
  pure { errors }

/-! ## Requests -/

/-- `Registration`. -/
structure NewRegistration where
  key : String
  installId : String
  fcmToken : String
  tos : String
  model : String
  serialNumber : String
  osVersion : String
  keyType : String
  tunnelType : String
  locale : String
  deviceType : String
  name : String
  manufacturer : String
  deriving DecidableEq

structure MeshRegistration where
  deviceType : String
  model : String
  name : String
  key : String
  keyType : String
  tunnelType : String
  osVersion : String
  serialNumber : String
  warpConnectorToken : String
  tos : String
  deriving DecidableEq

/-- A `POST` request. -/
structure Post (Payload : Type) where
  url : String
  headers : List (String × String)
  payload : Payload
  deriving DecidableEq

/-- The registration API, as one process finds it. -/
structure Service where
  clientVersion : String
  apiUrl : String
  apiVersion : String
  /-- `time_as_cf_string_now` -/
  now : String
  statusText : ℕ → String
  register : Post NewRegistration → Answer
  meshRegister : Post MeshRegistration → Answer
  update : Request → Answer
  fromSlice : Bytes → Option Value
  /-- The reason for which a body is not read. -/
  decodeReason : Bytes → String

/-- The process that talks to a service. -/
def Service.process (service : Service) : Process where
  clientVersion := service.clientVersion
  apiUrl := service.apiUrl
  apiVersion := service.apiVersion
  send := service.update
  decodeAccount body :=
    match (service.fromSlice body).bind AccountData.read with
    | none => .error (service.decodeReason body)
    | some account => .ok account
  decodeError body := (service.fromSlice body).bind ApiError.read

section Calls

variable {SecretKey : Type} (keys : Keys SecretKey) (service : Service)

def newRegistration (publicKeyDer : Bytes) (identity : DeviceIdentity) : NewRegistration where
  key := keys.encode publicKeyDer
  installId := ""
  fcmToken := ""
  tos := service.now
  model := identity.model
  serialNumber := identity.serialNumber
  osVersion := identity.osVersion
  keyType := "secp256r1"
  tunnelType := "masque"
  locale := identity.locale
  deviceType := identity.deviceType
  name := identity.name
  manufacturer := identity.manufacturer

def jwtHeader : Option String → List (String × String)
  | none => []
  | some jwt => if jwt = "" then [] else [("CF-Access-Jwt-Assertion", jwt)]

/-- `cloudflare::register`; `response` is what is typed at the prompt. -/
def registerClient (response : Except String String) (identity : DeviceIdentity) (publicKeyDer : Bytes)
    (jwt : Option String) (acceptTos : Bool) : Except String AccountData := do
  if ¬ acceptTos then
    if Mdm.trim (← response) ≠ "y" then throw "user did not accept TOS"
  let request : Post NewRegistration := {
    url := service.apiUrl ++ "/" ++ service.apiVersion ++ "/reg"
    headers := clientHeaders service.process ++ jwtHeader jwt
    payload := newRegistration keys service publicKeyDer identity }
  match service.register request with
  | .sendFailed _ => .error "failed to send register request"
  | .received status body =>
    if status ≠ 200 then .error ("failed to register: " ++ service.statusText status)
    else match (service.fromSlice body).bind AccountData.read with
      | none => .error "failed to decode register response"
      | some account => .ok account
  | .readFailed _ => .error "failed to decode register response"

def meshRegistration (token : Mesh.MeshNodeToken) (identity : DeviceIdentity) (publicKeyDer : Bytes) :
    MeshRegistration where
  deviceType := "linux"
  model := identity.model
  name := identity.name
  key := keys.encode publicKeyDer
  keyType := "secp256r1"
  tunnelType := "masque"
  osVersion := identity.osVersion
  serialNumber := identity.serialNumber
  warpConnectorToken := token.encoded
  tos := service.now

/-- The registration data, or the `result` of an envelope around them. -/
def decodeAccountDataResponse (body : Bytes) : Option AccountData :=
  match (service.fromSlice body).map Value.unique with
  | none => none
  | some (.object members) =>
    match members.find? fun member => member.1 == "result" with
    | some (_, result) => AccountData.read result
    | none => AccountData.read (.object members)
  | some other => AccountData.read other

/-- `mesh::register`. -/
def registerMeshNode (token : Mesh.MeshNodeToken) (identity : DeviceIdentity) (publicKeyDer : Bytes) :
    Except String AccountData :=
  let request : Post MeshRegistration := {
    url := service.apiUrl ++ "/v1/accounts/" ++ token.accountTag ++ "/warp_connector"
    headers := clientHeaders service.process
    payload := meshRegistration keys service token identity publicKeyDer }
  match service.meshRegister request with
  | .sendFailed _ => .error "failed to send Mesh node registration"
  | .readFailed _ => .error "failed to read Mesh node registration response"
  | .received status body =>
    if status ≠ 200 then
      let apiError := ((service.fromSlice body).bind ApiError.read).getD {}
      .error ("failed to register Mesh node: " ++ service.statusText status ++ "; API errors: " ++
        String.intercalate "; " apiError.errors)
    else match decodeAccountDataResponse service body with
      | none => .error "failed to decode Mesh node registration response"
      | some account =>
        if account.id = "" ∨ account.token = "" then
          .error "Mesh node registration response omitted the registration ID or access token"
        else .ok account

end Calls

/-! ## What an answer says -/

variable {value : Value} {account : AccountData} {text : String}

/-- The member of a record that holds a text. -/
def Gives (value : Value) (index : ℕ) (name text : String) : Prop :=
  value.field index [name] = some (some (.string text))

theorem read_id (read : AccountData.read value = some account) :
    value.readField 0 ["id"] (some "") Value.readString = some account.id := by
  unfold AccountData.read at read
  simp only [Option.bind_eq_bind, Option.bind_eq_some_iff] at read
  obtain ⟨_, -, id, idRead, license, -, ⟨peers, v4, v6⟩, -, token, -, _, -, ended⟩ := read
  cases ended
  exact idRead

theorem readString_field_iff {index : ℕ} {name : String} (filled : text ≠ "") :
    value.readField index [name] (some "") Value.readString = some text ↔ Gives value index name text := by
  rw [Json.readField_eq_some_iff (by simpa using filled.symm), Gives]
  simp [Json.readString_eq_some_iff]

/-- An answer is read with some id exactly if it gives that id. -/
theorem read_id_iff (read : AccountData.read value = some account) (filled : text ≠ "") :
    account.id = text ↔ Gives value 0 "id" text := by
  rw [← readString_field_iff filled, read_id read, Option.some_inj]

theorem registerMeshNode_filled {SecretKey : Type} {keys : Keys SecretKey} {service : Service}
    {token : Mesh.MeshNodeToken} {identity : DeviceIdentity} {publicKeyDer : Bytes}
    (registered : registerMeshNode keys service token identity publicKeyDer = .ok account) :
    account.id ≠ "" ∧ account.token ≠ "" := by
  unfold registerMeshNode at registered
  dsimp only at registered
  split at registered
  · cases registered
  · cases registered
  split at registered
  · cases registered
  split at registered
  · cases registered
  split at registered
  · cases registered
  rename_i filled
  cases registered
  exact not_or.mp filled

end Usque.Registration
