import Usque.Lib.Interrupted
import Usque.Registration

/-! The configuration file (`config.rs`) and the four commands that write it
(`commands.rs`). A file is its bytes and its permission bits. A save is the list of its
effects on the file system: any of them may fail, or be the one the process no longer
gets to. -/
namespace Usque.Registration

structure File where
  content : Bytes
  mode : UInt16
  deriving DecidableEq

/-- What is found at the configuration path. -/
abbrev Disk := Option File

/-- `serde_json` on the configuration. -/
structure Codec where
  toStringPretty : AppConfig → String
  fromStr : String → Option AppConfig

/-- What the program relies on: what is written is read as what it was written from, and a
document of which the end is missing is not read at all. -/
structure Codec.Lawful (codec : Codec) : Prop where
  roundTrip : ∀ cfg, codec.fromStr (codec.toStringPretty cfg) = some cfg
  unfinished : ∀ cfg text rest, text ++ rest = codec.toStringPretty cfg → rest ≠ "" →
    codec.fromStr text = none

def encodeUtf8 (text : String) : Bytes := text.toByteArray.data.toList

def decodeUtf8 (raw : Bytes) : Option String := String.fromUTF8? ⟨raw.toArray⟩

/-- The bytes both saves write. -/
def savedBytes (codec : Codec) (cfg : AppConfig) : Bytes := encodeUtf8 (codec.toStringPretty cfg)

/-! ## Saves -/

inductive Effect where
  /-- `open` with `O_CREAT | O_TRUNC`: the mode of an existing file stays. -/
  | create (umask : UInt16)
  | append (byte : UInt8)
  | setPermissions (mode : UInt16)
  deriving DecidableEq

def apply : Disk → Effect → Disk
  | none, .create umask => some ⟨[], 0o666 &&& ~~~umask⟩
  | some file, .create _ => some { file with content := [] }
  | disk, .append byte => disk.map fun file => { file with content := file.content ++ [byte] }
  | disk, .setPermissions mode => disk.map fun file => { file with mode := mode }

/-- `fs::write`; `write_all` may stop behind any byte. -/
def fsWrite (umask : UInt16) (raw : Bytes) : List Effect := .create umask :: raw.map .append

/-- `fs::read_to_string`, which takes a file that is no UTF-8 for one it cannot read. -/
def readToString (disk : Disk) : Option String := disk.bind fun file => decodeUtf8 file.content

def load (codec : Codec) (path : String) (disk : Disk) : Except String AppConfig :=
  match readToString disk with
  | none => .error ("failed to open config file " ++ path)
  | some raw =>
    match codec.fromStr raw with
    | none => .error ("failed to decode config file " ++ path)
    | some cfg => .ok cfg

def save (codec : Codec) (umask : UInt16) (cfg : AppConfig) : List Effect :=
  fsWrite umask (savedBytes codec cfg)

def saveSensitive (codec : Codec) (umask : UInt16) (cfg : AppConfig) : List Effect :=
  save codec umask cfg ++ [.setPermissions 0o600]

/-- The error of a save that could not do `effect`. -/
def saveError (path : String) : Effect → String
  | .create _ | .append _ => "failed to write config file " ++ path
  | .setPermissions _ => "failed to restrict config file permissions for " ++ path

/-! ## Commands -/

inductive CommandError where
  | message (text : String)
  | enroll (failure : EnrollFailure)
  deriving DecidableEq

/-- What a command that has not failed does at its end. -/
inductive Plan where
  | nothing
  | save (cfg : AppConfig)
  | saveSensitive (cfg : AppConfig)
  deriving DecidableEq

def Plan.written : Plan → Option AppConfig
  | .nothing => none
  | .save cfg | .saveSensitive cfg => some cfg

def Plan.effects (codec : Codec) (umask : UInt16) : Plan → List Effect
  | .nothing => []
  | .save cfg => Registration.save codec umask cfg
  | .saveSensitive cfg => Registration.saveSensitive codec umask cfg

def message (result : Except String α) : Except CommandError α := result.mapError .message

def ensure (holds : Bool) (text : String) : Except CommandError Unit :=
  if holds then .ok () else .error (.message text)

inductive RegistrationCredentials where
  | jwt (jwt : String)
  | serviceToken (config : ServiceTokenEnrollment)

structure MeshNodeToken where
  accountTag : String
  tunnelId : String

/-- What `register` gets from its operator, the machine and the services. -/
structure RegisterInput where
  credentials : Except String (Option RegistrationCredentials)
  response : Except String String
  identity : DeviceIdentity
  acquireServiceTokenJwt : ServiceTokenEnrollment → Except String String
  keyPair : Except String (Bytes × Bytes)
  register : DeviceIdentity → Bytes → Option String → Except String AccountData

structure MeshRegisterInput where
  acceptTos : Bool
  response : Except String String
  acknowledgeLinuxPlatformClaim : Bool
  token : Except String MeshNodeToken
  identity : DeviceIdentity
  keyPair : Except String (Bytes × Bytes)
  register : MeshNodeToken → DeviceIdentity → Bytes → Except String AccountData

structure EnrollInput where
  name : String
  regenKey : Bool
  detected : DeviceIdentity
  keyPair : Except String (Bytes × Bytes)
  response : Except String String
  /-- The pair generated after the first one has been refused. -/
  anotherKeyPair : Except String (Bytes × Bytes)

section Commands

variable {SecretKey : Type} (keys : Keys SecretKey) (codec : Codec) (path : String)
  (process : Process)

def enrollOrFail (account : AccountData) (publicKeyDer : Bytes) (identity : DeviceIdentity) :
    Except CommandError AccountData :=
  (enrollKey keys process account publicKeyDer identity).mapError .enroll

def registrationJwt (input : RegisterInput) :
    Option RegistrationCredentials → Except CommandError (Option String)
  | some (.jwt jwt) => .ok (some jwt)
  | some (.serviceToken config) => (message (input.acquireServiceTokenJwt config)).map some
  | none => .ok none

/-- Whether `register` goes on: an existing file is replaced on request only. -/
def overwrites (input : RegisterInput) (disk : Disk) : Except CommandError Bool :=
  if disk.isSome then (message input.response).map fun response => decide (Mdm.trim response = "y")
  else .ok true

def register (input : RegisterInput) (disk : Disk) : Except CommandError Plan := do
  let credentials ← message input.credentials
  if ← overwrites input disk then
    let jwt ← registrationJwt input credentials
    let (privateKeyDer, publicKeyDer) ← message input.keyPair
    let account ← message (input.register input.identity publicKeyDer jwt)
    let updated ← enrollOrFail keys process account publicKeyDer input.identity
    let cfg ← message (buildAppConfig keys updated privateKeyDer account.token input.identity)
    pure (.saveSensitive cfg)
  else pure .nothing

/-- The terms of service, accepted in the arguments or at the prompt. -/
def confirmTos (input : MeshRegisterInput) : Except CommandError Unit :=
  if input.acceptTos then .ok ()
  else do
    let response ← message input.response
    ensure (Mdm.trim response = "y") "user did not accept TOS"

def meshRegister (input : MeshRegisterInput) (disk : Disk) : Except CommandError Plan := do
  ensure disk.isNone ("refusing to overwrite existing config " ++ path ++
    "; choose a separate Mesh config path")
  confirmTos input
  ensure input.acknowledgeLinuxPlatformClaim
    ("Cloudflare's Mesh node endpoint is Linux-only and rejects FreeBSD. Re-run with " ++
      "--acknowledge-linux-platform-claim only after reading README.md and LEGAL.md")
  let token ← message input.token
  let registrationIdentity := { input.identity with deviceType := "linux" }
  let (privateKeyDer, publicKeyDer) ← message input.keyPair
  let account ← message (input.register token registrationIdentity publicKeyDer)
  let enrolled ← enrollOrFail keys process account publicKeyDer registrationIdentity
  let cfg ← message (buildAppConfig keys enrolled privateKeyDer account.token input.identity)
  pure (.saveSensitive { cfg with
    role := .meshNode
    meshNode := some ⟨token.accountTag, token.tunnelId, none, input.identity.deviceType, "linux"⟩ })

/-- The identity `enroll` sends: the stored one where there is one. -/
def enrollIdentity (input : EnrollInput) (cfg : AppConfig) : DeviceIdentity :=
  let identity := if cfg.deviceIdentity.serialNumber = "" then input.detected else cfg.deviceIdentity
  let named := if Mdm.trim input.name ≠ "" then { identity with name := Mdm.trim input.name } else identity
  { named with clientVersion := process.clientVersion }

def enrollKeyPair (input : EnrollInput) (cfg : AppConfig) : Except CommandError (Bytes × Bytes) :=
  if input.regenKey then message input.keyPair
  else do
    let secret ← message (getEcPrivateKey keys cfg)
    let privateDer ← message (keys.toSec1Der secret)
    let publicDer ← message (keys.publicKeyDer secret)
    pure (privateDer, publicDer)

/-- The enrolled account with the private key it was enrolled for. -/
def enrolled (input : EnrollInput) (account : AccountData) (identity : DeviceIdentity)
    (privateKeyDer publicKeyDer : Bytes) : Except CommandError (AccountData × Bytes) :=
  match enrollKey keys process account publicKeyDer identity with
  | .ok updated => .ok (updated, privateKeyDer)
  | .error (.api status apiError) =>
    if apiError.errors.contains "Invalid public key" then do
      let response ← message input.response
      ensure (Mdm.trim response = "y")
        ("enrollment aborted by user. API errors: " ++ String.intercalate "; " apiError.errors)
      let (privateKeyDer, publicKeyDer) ← message input.anotherKeyPair
      let updated ← enrollOrFail keys process account publicKeyDer identity
      pure (updated, privateKeyDer)
    else .error (.enroll (.api status apiError))
  | .error failure => .error (.enroll failure)

def enroll (input : EnrollInput) (disk : Disk) : Except CommandError Plan := do
  let cfg ← message (load codec path disk)
  ensure (cfg.role = .client)
    ("the enroll command only supports client configs; Mesh nodes must be registered " ++
      "with mesh-register")
  let account : AccountData := { id := cfg.id, token := cfg.accessToken }
  let identity := enrollIdentity process input cfg
  let (privateKeyDer, publicKeyDer) ← enrollKeyPair keys input cfg
  let (updated, privateKeyDer) ← enrolled keys process input account identity privateKeyDer publicKeyDer
  let cfg ← message (buildAppConfig keys updated privateKeyDer account.token identity)
  pure (.save cfg)

/-- What `refresh_registration_after_version_change` does with the outcome of the update; its
error is only logged. -/
def refreshPlan : Refresh → Except CommandError Plan
  | .notRequired => .ok .nothing
  | .unsent reason => .error (.message reason)
  | .refused _ failure => .error (.enroll failure)
  | .accepted _ updated => .ok (.saveSensitive updated)

def refresh (disk : Disk) : Except CommandError Plan := do
  let cfg ← message (load codec path disk)
  refreshPlan (refreshRegistration keys process cfg)

inductive Operation where
  | register (input : RegisterInput)
  | meshRegister (input : MeshRegisterInput)
  | enroll (input : EnrollInput)
  | refresh

def Operation.plan (disk : Disk) : Operation → Except CommandError Plan
  | .register input => Registration.register keys process input disk
  | .meshRegister input => Registration.meshRegister keys path process input disk
  | .enroll input => Registration.enroll keys codec path process input disk
  | .refresh => Registration.refresh keys codec path process disk

end Commands

/-- One operation of one process, which gets to the first `stop` effects of its save. -/
structure Attempt where
  operation : Operation
  process : Process
  umask : UInt16
  stop : ℕ

section Attempts

variable {SecretKey : Type} (keys : Keys SecretKey) (codec : Codec) (path : String)

def Attempt.plan (attempt : Attempt) (disk : Disk) : Except CommandError Plan :=
  attempt.operation.plan keys codec path attempt.process disk

/-- The file found after an attempt. -/
def Attempt.found (attempt : Attempt) (disk : Disk) : Disk :=
  match attempt.plan keys codec path disk with
  | .error _ => disk
  | .ok plan => Interrupted.after apply disk (plan.effects codec attempt.umask) attempt.stop

/-- What the operation comes to; a process that stops during its save is among those
that fail there. -/
def Attempt.result (attempt : Attempt) (disk : Disk) : Except CommandError Plan := do
  let plan ← attempt.plan keys codec path disk
  match (plan.effects codec attempt.umask)[attempt.stop]? with
  | none => .ok plan
  | some effect => .error (.message (saveError path effect))

end Attempts

end Usque.Registration
