import Usque.ConfigPermissions
import Usque.RegistrationAnswers

/-! Whose configuration an enrollment writes. The token of a new configuration is that of
the registration the key has been enrolled for, its id is the one the answer to the
enrollment gives. Every field of that answer has a default, so it is the answer that
decides whether the registration is still known after the save. -/
namespace Usque.Registration

open Json (Value)

/-- A command that enrolls a key, with what it gets besides the service. -/
inductive Command where
  | register (input : RegisterInput) (acceptTos : Bool) (response : Except String String)
  | meshRegister (input : MeshRegisterInput) (token : Except String Mesh.MeshNodeToken)
  | enroll (input : EnrollInput)

/-- How a command ends once its key is enrolled. -/
inductive Ending where
  | client
  | meshNode (node : MeshNodeIdentity)
  | stored

def Ending.plan (cfg : AppConfig) : Ending → Plan
  | .client => .saveSensitive cfg
  | .meshNode node => .saveSensitive { cfg with role := .meshNode, meshNode := some node }
  | .stored => .save cfg

/-- A key for which the enrollment is asked, and the registration it is asked for. -/
structure Enrolling where
  account : AccountData
  privateKeyDer : Bytes
  publicKeyDer : Bytes
  sent : DeviceIdentity
  kept : DeviceIdentity
  ending : Ending

section Commands

variable {SecretKey : Type} (keys : Keys SecretKey) (codec : Codec) (path : String)
  (process : Process)

/-! ## The commands up to their enrollment -/

def registering (input : RegisterInput) (disk : Disk) : Except CommandError (Option Enrolling) := do
  let credentials ← message input.credentials
  if ← overwrites input disk then
    let jwt ← registrationJwt input credentials
    let (privateKeyDer, publicKeyDer) ← message input.keyPair
    let account ← message (input.register input.identity publicKeyDer jwt)
    pure (some ⟨account, privateKeyDer, publicKeyDer, input.identity, input.identity, .client⟩)
  else pure none

def meshRegistering (input : MeshRegisterInput) (disk : Disk) :
    Except CommandError (Option Enrolling) := do
  ensure disk.isNone ("refusing to overwrite existing config " ++ path ++
    "; choose a separate Mesh config path")
  confirmTos input
  ensure input.acknowledgeLinuxPlatformClaim
    ("Cloudflare's Mesh node endpoint is Linux-only and rejects FreeBSD. Re-run with " ++
      "--acknowledge-linux-platform-claim only after reading README.md and LEGAL.md")
  let token ← message input.token
  let registrationIdentity := { input.identity with deviceType := "linux" }
  let (privateKeyDer, publicKeyDer) ← message input.keyPair
  let account ← message (input.register token registrationIdentity publicKeyDer)
  pure (some ⟨account, privateKeyDer, publicKeyDer, registrationIdentity, input.identity,
    .meshNode ⟨token.accountTag, token.tunnelId, none, input.identity.deviceType, "linux"⟩⟩)

/-- The pair that is left once the first one may have been refused. -/
def enrollingPair (input : EnrollInput) (account : AccountData) (identity : DeviceIdentity)
    (privateKeyDer publicKeyDer : Bytes) : Except CommandError (Bytes × Bytes) :=
  match enrollKey keys process account publicKeyDer identity with
  | .ok _ => .ok (privateKeyDer, publicKeyDer)
  | .error (.api status apiError) =>
    if apiError.errors.contains "Invalid public key" then do
      let response ← message input.response
      ensure (Mdm.trim response = "y")
        ("enrollment aborted by user. API errors: " ++ String.intercalate "; " apiError.errors)
      message input.anotherKeyPair
    else .error (.enroll (.api status apiError))
  | .error failure => .error (.enroll failure)

def reEnrolling (input : EnrollInput) (disk : Disk) : Except CommandError (Option Enrolling) := do
  let cfg ← message (load codec path disk)
  ensure (cfg.role = .client)
    ("the enroll command only supports client configs; Mesh nodes must be registered " ++
      "with mesh-register")
  let account : AccountData := { id := cfg.id, token := cfg.accessToken }
  let identity := enrollIdentity process input cfg
  let (privateKeyDer, publicKeyDer) ← enrollKeyPair keys input cfg
  let (privateKeyDer, publicKeyDer) ←
    enrollingPair keys process input account identity privateKeyDer publicKeyDer
  pure (some ⟨account, privateKeyDer, publicKeyDer, identity, identity, .stored⟩)

/-- What is left of a command from its enrollment on. -/
def concluded : Option Enrolling → Except CommandError Plan
  | none => pure .nothing
  | some enrolling => do
    let updated ← enrollOrFail keys process enrolling.account enrolling.publicKeyDer enrolling.sent
    let cfg ← message (buildAppConfig keys updated enrolling.privateKeyDer enrolling.account.token
      enrolling.kept)
    pure (enrolling.ending.plan cfg)

end Commands

section

variable {SecretKey : Type} {keys : Keys SecretKey} {codec : Codec} {path : String}
  {process : Process} {disk : Disk} {cfg : AppConfig}

theorem register_concluded (input : RegisterInput) :
    register keys process input disk = registering input disk >>= concluded keys process := by
  unfold register registering
  simp only [bind_assoc]
  refine bind_congr fun credentials => bind_congr fun overwrite => ?_
  cases overwrite with
  | false => rfl
  | true => simp [bind_assoc, concluded, Ending.plan]

theorem meshRegister_concluded (input : MeshRegisterInput) :
    meshRegister keys path process input disk =
      meshRegistering path input disk >>= concluded keys process := by
  unfold meshRegister meshRegistering
  simp [bind_assoc, concluded, Ending.plan]

theorem enrolled_pair (input : EnrollInput) (account : AccountData) (identity : DeviceIdentity)
    (privateKeyDer publicKeyDer : Bytes) :
    enrolled keys process input account identity privateKeyDer publicKeyDer =
      enrollingPair keys process input account identity privateKeyDer publicKeyDer >>= fun pair =>
        enrollOrFail keys process account pair.2 identity >>= fun updated =>
          pure (updated, pair.1) := by
  unfold enrolled enrollingPair
  cases answered : enrollKey keys process account publicKeyDer identity with
  | ok updated =>
    have sent : enrollOrFail keys process account publicKeyDer identity = .ok updated :=
      Fallible.mapError_eq_ok_iff.mpr answered
    symm
    apply Fallible.bind_eq_ok_iff.mpr
    refine ⟨(privateKeyDer, publicKeyDer), rfl, ?_⟩
    exact Fallible.bind_eq_ok_iff.mpr ⟨updated, sent, rfl⟩
  | error failure =>
    cases failure with
    | transport reason => rfl
    | api status apiError =>
      by_cases invalid : apiError.errors.contains "Invalid public key" = true
      · simp only [invalid, if_true, bind_assoc]
      · simp only [invalid]
        rfl

theorem enroll_concluded (input : EnrollInput) :
    enroll keys codec path process input disk =
      reEnrolling keys codec path process input disk >>= concluded keys process := by
  unfold enroll reEnrolling
  simp [bind_assoc, enrolled_pair, concluded, Ending.plan]

/-! ## What is written -/

/-- No command touches the credentials once they are put together. -/
theorem Ending.plan_written (ending : Ending) (cfg : AppConfig) :
    ∃ written, (ending.plan cfg).written = some written ∧ written.id = cfg.id ∧
      written.accessToken = cfg.accessToken := by
  cases ending with
  | client => exact ⟨cfg, rfl, rfl, rfl⟩
  | meshNode node => exact ⟨{ cfg with role := .meshNode, meshNode := some node }, rfl, rfl, rfl⟩
  | stored => exact ⟨cfg, rfl, rfl, rfl⟩

theorem buildAppConfig_credentials {account : AccountData} {privateKeyDer : Bytes} {token : String}
    {identity : DeviceIdentity}
    (built : buildAppConfig keys account privateKeyDer token identity = .ok cfg) :
    account.peers ≠ [] ∧ cfg.id = account.id ∧ cfg.accessToken = token := by
  unfold buildAppConfig at built
  split at built
  · cases built
  · rename_i peer rest listed
    cases built
    exact ⟨by simp [listed], rfl, rfl⟩

theorem buildAppConfig_of_peers {account : AccountData} (listed : account.peers ≠ [])
    (privateKeyDer : Bytes) (token : String) (identity : DeviceIdentity) :
    ∃ cfg, buildAppConfig keys account privateKeyDer token identity = .ok cfg := by
  unfold buildAppConfig
  cases peers : account.peers with
  | nil => exact absurd peers listed
  | cons peer rest => exact ⟨_, rfl⟩

/-- A command that writes has had its enrollment accepted, by an answer with a peer. -/
theorem concluded_written {enrolling : Option Enrolling} {plan : Plan}
    (planned : concluded keys process enrolling = .ok plan) (written : plan.written = some cfg) :
    ∃ given updated, enrolling = some given ∧
      enrollKey keys process given.account given.publicKeyDer given.sent = .ok updated ∧
      updated.peers ≠ [] ∧ cfg.id = updated.id ∧ cfg.accessToken = given.account.token := by
  cases enrolling with
  | none =>
    cases planned
    cases written
  | some given =>
    simp only [concluded, Fallible.bind_eq_ok_iff, enrollOrFail, message,
      Fallible.mapError_eq_ok_iff] at planned
    obtain ⟨updated, accepted, built, ready, ended⟩ := planned
    obtain ⟨listed, id, token⟩ := buildAppConfig_credentials ready
    cases ended
    obtain ⟨saved, same, savedId, savedToken⟩ := given.ending.plan_written built
    rw [same] at written
    cases written
    exact ⟨given, updated, rfl, accepted, listed, savedId.trans id, savedToken.trans token⟩

theorem written_of_accepted {given : Enrolling} {updated : AccountData}
    (accepted : enrollKey keys process given.account given.publicKeyDer given.sent = .ok updated)
    (listed : updated.peers ≠ []) :
    ∃ plan cfg, concluded keys process (some given) = .ok plan ∧ plan.written = some cfg ∧
      cfg.id = updated.id ∧ cfg.accessToken = given.account.token := by
  obtain ⟨built, ready⟩ : ∃ cfg, buildAppConfig keys updated given.privateKeyDer given.account.token
      given.kept = .ok cfg := buildAppConfig_of_peers listed _ _ _
  obtain ⟨-, id, token⟩ := buildAppConfig_credentials ready
  obtain ⟨saved, same, savedId, savedToken⟩ := given.ending.plan_written built
  refine ⟨given.ending.plan built, saved, ?_, same, savedId.trans id, savedToken.trans token⟩
  simp only [concluded, Fallible.bind_eq_ok_iff, enrollOrFail, message, Fallible.mapError_eq_ok_iff]
  exact ⟨updated, accepted, built, ready, rfl⟩

end

/-! ## The registration a configuration belongs to -/

section Services

variable {SecretKey : Type} (keys : Keys SecretKey) (codec : Codec) (path : String)
  (service : Service) (disk : Disk)

def clientInput (input : RegisterInput) (acceptTos : Bool) (response : Except String String) :
    RegisterInput :=
  { input with register := fun identity publicKeyDer jwt =>
      registerClient keys service response identity publicKeyDer jwt acceptTos }

def meshInput (input : MeshRegisterInput) (token : Except String Mesh.MeshNodeToken) :
    MeshRegisterInput :=
  { input with
    token := token.map fun token => ⟨token.accountTag, token.tunnelId⟩
    register := fun _ identity publicKeyDer =>
      token.bind fun token => registerMeshNode keys service token identity publicKeyDer }

def Command.operation : Command → Operation
  | .register input acceptTos response => .register (clientInput keys service input acceptTos response)
  | .meshRegister input token => .meshRegister (meshInput keys service input token)
  | .enroll input => .enroll input

def Command.plan (command : Command) : Except CommandError Plan :=
  (command.operation keys service).plan keys codec path service.process disk

def Command.enrolling : Command → Except CommandError (Option Enrolling)
  | .register input acceptTos response =>
    registering (clientInput keys service input acceptTos response) disk
  | .meshRegister input token => meshRegistering path (meshInput keys service input token) disk
  | .enroll input => reEnrolling keys codec path service.process input disk

def Enrolling.request (enrolling : Enrolling) : Request :=
  enrollRequest keys service.process enrolling.account enrolling.publicKeyDer enrolling.sent

/-- A configuration that is written belongs to the registration whose key has just been
enrolled, and holds the token that authorised it; neither is empty. -/
def IdentityKept (command : Command) : Prop :=
  ∀ plan cfg, command.plan keys codec path service disk = .ok plan → plan.written = some cfg →
    ∃ enrolling body, command.enrolling keys codec path service disk = .ok (some enrolling) ∧
      service.update (enrolling.request keys service) = .received 200 body ∧
      cfg.id = enrolling.account.id ∧ cfg.id ≠ "" ∧
      cfg.accessToken = enrolling.account.token ∧ cfg.accessToken ≠ ""

/-- The enrollment is asked for a registration with an id and a token, and the answer, if
it lists a peer, gives that id. -/
def NamesRegistration (command : Command) : Prop :=
  ∀ enrolling body value updated,
    command.enrolling keys codec path service disk = .ok (some enrolling) →
    service.update (enrolling.request keys service) = .received 200 body →
    service.fromSlice body = some value → AccountData.read value = some updated →
    updated.peers ≠ [] →
    enrolling.account.id ≠ "" ∧ enrolling.account.token ≠ "" ∧
      Gives value 0 "id" enrolling.account.id

variable {keys codec path service disk} {command : Command}

theorem Command.plan_concluded (command : Command) :
    command.plan keys codec path service disk =
      command.enrolling keys codec path service disk >>= concluded keys service.process := by
  cases command with
  | register input acceptTos response => exact register_concluded _
  | meshRegister input token => exact meshRegister_concluded _
  | enroll input => exact enroll_concluded _

theorem enrollKey_eq_ok_iff {enrolling : Enrolling} {updated : AccountData} :
    enrollKey keys service.process enrolling.account enrolling.publicKeyDer enrolling.sent =
        .ok updated ↔
      ∃ body value, service.update (enrolling.request keys service) = .received 200 body ∧
        service.fromSlice body = some value ∧ AccountData.read value = some updated := by
  have asked : service.process.send
      (enrollRequest keys service.process enrolling.account enrolling.publicKeyDer enrolling.sent) =
        service.update (enrolling.request keys service) := rfl
  unfold enrollKey
  rw [asked]
  cases answered : service.update (enrolling.request keys service) with
  | sendFailed reason => simp
  | readFailed reason => simp
  | received status body =>
    by_cases accepted : status = 200
    · subst accepted
      simp only [Service.process]
      cases given : service.fromSlice body with
      | none => simp [given]
      | some value =>
        cases read : AccountData.read value with
        | none => simp [given, read]
        | some account => simp [given, read]
    · simp [accepted]

/-- An enrollment keeps the identity exactly if its answer names the registration. -/
theorem enrollment_keeps_identity_iff :
    IdentityKept keys codec path service disk command ↔
      NamesRegistration keys codec path service disk command := by
  unfold IdentityKept NamesRegistration
  rw [command.plan_concluded]
  constructor
  · intro kept enrolling body value updated asked answered given read listed
    have accepted := enrollKey_eq_ok_iff.mpr ⟨body, value, answered, given, read⟩
    obtain ⟨plan, cfg, planned, written, id, token⟩ := written_of_accepted accepted listed
    obtain ⟨same, _, again, -, sameId, filledId, sameToken, filledToken⟩ :=
      kept plan cfg (Fallible.bind_eq_ok_iff.mpr ⟨_, asked, planned⟩) written
    rw [asked] at again
    cases again
    rw [sameId] at filledId
    rw [sameToken] at filledToken
    exact ⟨filledId, filledToken, (read_id_iff read filledId).mp (id.symm.trans sameId)⟩
  · intro names plan cfg planned written
    obtain ⟨enrolling, asked, ended⟩ := Fallible.bind_eq_ok_iff.mp planned
    obtain ⟨given, updated, rfl, accepted, listed, id, token⟩ := concluded_written ended written
    obtain ⟨body, value, answered, read, account⟩ := enrollKey_eq_ok_iff.mp accepted
    obtain ⟨filledId, filledToken, gives⟩ := names given body value updated asked answered read account listed
    have same : cfg.id = given.account.id := id.trans ((read_id_iff account filledId).mpr gives)
    exact ⟨given, body, asked, answered, same, same ▸ filledId, token, token ▸ filledToken⟩

/-- What `mesh-register` has enrolled is never nameless: `mesh::register` has looked. -/
theorem mesh_enrolling_filled {input : MeshRegisterInput} {token : Except String Mesh.MeshNodeToken}
    {enrolling : Enrolling}
    (asked : (Command.meshRegister input token).enrolling keys codec path service disk =
      .ok (some enrolling)) :
    enrolling.account.id ≠ "" ∧ enrolling.account.token ≠ "" := by
  simp only [Command.enrolling, meshRegistering, Fallible.bind_eq_ok_iff, message,
    Fallible.mapError_eq_ok_iff] at asked
  obtain ⟨_, -, _, -, _, -, given, -, pair, -, account, registered, ended⟩ := asked
  cases ended
  cases token with
  | error reason => cases registered
  | ok token => exact registerMeshNode_filled registered

/-- So only the id of the second answer is left to matter there. -/
theorem mesh_identity_kept_iff {input : MeshRegisterInput} {token : Except String Mesh.MeshNodeToken} :
    NamesRegistration keys codec path service disk (.meshRegister input token) ↔
      ∀ enrolling body value updated,
        (Command.meshRegister input token).enrolling keys codec path service disk =
          .ok (some enrolling) →
        service.update (enrolling.request keys service) = .received 200 body →
        service.fromSlice body = some value → AccountData.read value = some updated →
        updated.peers ≠ [] → Gives value 0 "id" enrolling.account.id := by
  constructor
  · intro names enrolling body value updated asked answered given read listed
    exact (names enrolling body value updated asked answered given read listed).2.2
  · intro names enrolling body value updated asked answered given read listed
    obtain ⟨id, token⟩ := mesh_enrolling_filled asked
    exact ⟨id, token, names enrolling body value updated asked answered given read listed⟩

end Services

/-! ## An answer without an id -/

def namelessJson : Bytes := textBytes "\x7b\"config\":\x7b\"peers\":[\x7b\x7d]\x7d\x7d"

def namelessValue : Value := .object [("config", .object [("peers", .array [.object []])])]

def namelessService : Service where
  clientVersion := "0.8.0"
  apiUrl := "https://api.devices.cloudflare.com"
  apiVersion := "v0a4471"
  now := "2026-01-01T00:00:00.000+00:00"
  statusText := toString
  register _ := .sendFailed "connection refused"
  meshRegister _ := .sendFailed "connection refused"
  update _ := .received 200 namelessJson
  fromSlice body := if body = namelessJson then some namelessValue else none
  decodeReason _ := "expected value"

/-- The stored client asks for its key to be enrolled anew. -/
def clientReEnroll : EnrollInput where
  name := ""
  regenKey := true
  detected := clientConfig.deviceIdentity
  keyPair := .ok (pointSec1, pointSpki)
  response := .ok "y"
  anotherKeyPair := .ok (pointSec1, pointSpki)

theorem namelessService_enrollKey (account : AccountData) (publicKeyDer : Bytes)
    (identity : DeviceIdentity) :
    enrollKey pointKeys namelessService.process account publicKeyDer identity =
      .ok { peers := [{}] } := by
  refine enrollKey_ok rfl ?_
  have given : namelessService.fromSlice namelessJson = some namelessValue := if_pos rfl
  simp only [Service.process, given]
  rfl

def clientEnrolling : Enrolling where
  account := { id := "registration", token := "token" }
  privateKeyDer := pointSec1
  publicKeyDer := pointSpki
  sent := { clientConfig.deviceIdentity with clientVersion := "0.8.0" }
  kept := { clientConfig.deviceIdentity with clientVersion := "0.8.0" }
  ending := .stored

theorem clientReEnroll_enrolling :
    (Command.enroll clientReEnroll).enrolling pointKeys clientCodec "config.json" namelessService
      (clientDisk 0o600) = .ok (some clientEnrolling) := by
  have identity : enrollIdentity namelessService.process clientReEnroll clientConfig =
      clientEnrolling.sent := by decide
  refine Fallible.bind_eq_ok_iff.mpr ⟨clientConfig,
    Fallible.mapError_eq_ok_iff.mpr (clientDisk_load 0o600), ?_⟩
  refine Fallible.bind_eq_ok_iff.mpr ⟨(), rfl, ?_⟩
  refine Fallible.bind_eq_ok_iff.mpr ⟨(pointSec1, pointSpki), rfl, ?_⟩
  refine Fallible.bind_eq_ok_iff.mpr ⟨(pointSec1, pointSpki), ?_, ?_⟩
  · simp [enrollingPair, namelessService_enrollKey]
  · rw [identity]
    rfl

/-- An answer without an id leaves the stored client without its own. -/
theorem nameless_answer_loses_identity :
    ¬ IdentityKept pointKeys clientCodec "config.json" namelessService (clientDisk 0o600)
      (.enroll clientReEnroll) := by
  intro kept
  obtain ⟨plan, cfg, planned, written, id, -⟩ := written_of_accepted
    (namelessService_enrollKey clientEnrolling.account _ clientEnrolling.sent) (List.cons_ne_nil _ _)
  have ended : (Command.enroll clientReEnroll).plan pointKeys clientCodec "config.json" namelessService
      (clientDisk 0o600) = .ok plan :=
    (Command.plan_concluded _).trans
      (Fallible.bind_eq_ok_iff.mpr ⟨_, clientReEnroll_enrolling, planned⟩)
  obtain ⟨-, -, -, -, -, filled, -⟩ := kept plan cfg ended written
  exact filled id

end Usque.Registration
