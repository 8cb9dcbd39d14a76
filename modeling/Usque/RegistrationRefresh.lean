import Usque.Lib.Fallible
import Usque.Lib.Transition
import Usque.Registration

/-! The registration refresh over process starts. A start reads the stored configuration
and may replace it by one that differs in the version alone, so the registration and its
key are those of the first start, and whether an update is sent is a matter of the two
versions. -/
namespace Usque.Registration

open Transition

variable {SecretKey : Type} {keys : Keys SecretKey} {cfg stored updated : AppConfig}
  {process : Process} {version : String}

/-- The stored and the running version both parse, and they differ. -/
def VersionsDiffer (clientVersion : String) (cfg : AppConfig) : Prop :=
  ∃ registered running, releaseVersion cfg.deviceIdentity.clientVersion = some registered ∧
    releaseVersion clientVersion = some running ∧ running ≠ registered

/-- A Mesh configuration says which platform it was registered for. -/
def PlatformRecorded (cfg : AppConfig) : Prop :=
  cfg.role = .meshNode →
    ∃ node, cfg.meshNode = some node ∧ Mdm.trim node.registrationPlatformClaim ≠ ""

theorem registrationRefreshRequired_iff {clientVersion : String} :
    registrationRefreshRequired clientVersion cfg = true ↔ VersionsDiffer clientVersion cfg := by
  unfold registrationRefreshRequired VersionsDiffer
  constructor
  · intro required
    split at required
    · rename_i registered running storedParses runningParses
      exact ⟨registered, running, storedParses, runningParses, by simpa using required⟩
    · cases required
  · rintro ⟨registered, running, storedParses, runningParses, differ⟩
    simp [storedParses, runningParses, differ]

theorem registrationRefreshIdentity_iff (clientVersion : String) :
    (∃ identity, registrationRefreshIdentity clientVersion cfg = .ok identity) ↔
      PlatformRecorded cfg := by
  unfold registrationRefreshIdentity PlatformRecorded
  by_cases mesh : cfg.role = .meshNode
  · rw [if_pos mesh]
    cases found : cfg.meshNode with
    | none => exact ⟨nofun, fun recorded => nomatch recorded mesh⟩
    | some node =>
      by_cases claim : Mdm.trim node.registrationPlatformClaim = ""
      · dsimp only
        rw [if_pos claim]
        exact ⟨nofun, fun recorded => by
          obtain ⟨_, ⟨rfl⟩, filled⟩ := recorded mesh
          exact absurd claim filled⟩
      · dsimp only
        rw [if_neg claim]
        exact ⟨fun _ _ => ⟨node, rfl, claim⟩, fun _ => ⟨_, rfl⟩⟩
  · rw [if_neg mesh]
    exact ⟨fun _ mesh' => absurd mesh' mesh, fun _ => ⟨_, rfl⟩⟩

/-- A successful answer that can be read is an accepted update. -/
theorem enrollKey_ok {account updatedAccount : AccountData} {publicKeyDer body : Bytes}
    {identity : DeviceIdentity}
    (answered : process.send (enrollRequest keys process account publicKeyDer identity) = .received 200 body)
    (decoded : process.decodeAccount body = .ok updatedAccount) :
    enrollKey keys process account publicKeyDer identity = .ok updatedAccount := by
  simp [enrollKey, answered, decoded]

/-! ## One start -/

/-- The stored configuration after a start whose writes succeed. -/
def step (keys : Keys SecretKey) (cfg : AppConfig) (process : Process) : Option AppConfig :=
  match refreshRegistration keys process cfg with
  | .accepted _ updated => some updated
  | .notRequired | .unsent _ | .refused _ _ => some cfg

theorem refreshUpdate_eq_ok_iff {clientVersion : String} {publicKeyDer : Bytes}
    {identity : DeviceIdentity} :
    refreshUpdate keys clientVersion cfg = .ok (publicKeyDer, identity) ↔
      ∃ secret, getEcPrivateKey keys cfg = .ok secret ∧ keys.publicKeyDer secret = .ok publicKeyDer ∧
        registrationRefreshIdentity clientVersion cfg = .ok identity := by
  unfold refreshUpdate
  simp only [Fallible.bind_eq_ok_iff]
  constructor
  · rintro ⟨secret, decoded, der, encoded, claimed, identified, same⟩
    cases same
    exact ⟨secret, decoded, encoded, identified⟩
  · rintro ⟨secret, decoded, encoded, identified⟩
    exact ⟨secret, decoded, publicKeyDer, encoded, identity, identified, rfl⟩

/-- All a start can have sent: the request made of the stored registration and its key. -/
theorem sent_iff {request : Request} :
    (refreshRegistration keys process cfg).sent = some request ↔
      VersionsDiffer process.clientVersion cfg ∧
        ∃ publicKeyDer identity, refreshUpdate keys process.clientVersion cfg = .ok (publicKeyDer, identity) ∧
          request = enrollRequest keys process { id := cfg.id, token := cfg.accessToken }
            publicKeyDer identity := by
  rw [← registrationRefreshRequired_iff]
  unfold refreshRegistration
  by_cases required : registrationRefreshRequired process.clientVersion cfg = true
  · rw [if_pos required]
    cases made : refreshUpdate keys process.clientVersion cfg with
    | error reason => simp [Refresh.sent]
    | ok update =>
      obtain ⟨publicKeyDer, identity⟩ := update
      dsimp only
      split
      · simp [Refresh.sent, required, eq_comm]
      · simp [Refresh.sent, required, eq_comm]
  · rw [if_neg required]
    simp [Refresh.sent, required]

/-- Only the version of the configuration can be replaced, by the running one. -/
theorem accepted_updated {request : Request}
    (accepted : refreshRegistration keys process cfg = .accepted request updated) :
    updated = cfg.withClientVersion process.clientVersion := by
  unfold refreshRegistration at accepted
  split at accepted
  · split at accepted
    · cases accepted
    · dsimp only at accepted
      split at accepted
      · cases accepted
      · cases accepted
        rfl
  · cases accepted

theorem refreshRegistration_accepted {publicKeyDer : Bytes} {identity : DeviceIdentity}
    {account : AccountData} (differ : VersionsDiffer process.clientVersion cfg)
    (made : refreshUpdate keys process.clientVersion cfg = .ok (publicKeyDer, identity))
    (taken : enrollKey keys process { id := cfg.id, token := cfg.accessToken } publicKeyDer identity =
      .ok account) :
    ∃ request, refreshRegistration keys process cfg =
      .accepted request (cfg.withClientVersion process.clientVersion) := by
  unfold refreshRegistration
  rw [if_pos (registrationRefreshRequired_iff.mpr differ)]
  simp only [made, taken]
  exact ⟨_, rfl⟩

/-- Whether an update is due depends on the version of the binary alone. -/
theorem sent_isSome_iff (encodes : ∀ secret, ∃ der, keys.publicKeyDer secret = .ok der) :
    (refreshRegistration keys process cfg).sent.isSome ↔
      VersionsDiffer process.clientVersion cfg ∧
        (∃ secret, getEcPrivateKey keys cfg = .ok secret) ∧ PlatformRecorded cfg := by
  rw [Option.isSome_iff_exists, ← registrationRefreshIdentity_iff process.clientVersion]
  simp only [sent_iff, refreshUpdate_eq_ok_iff]
  constructor
  · rintro ⟨request, differ, publicKeyDer, identity, ⟨secret, decoded, -, identified⟩, -⟩
    exact ⟨differ, ⟨secret, decoded⟩, identity, identified⟩
  · rintro ⟨differ, ⟨secret, decoded⟩, identity, identified⟩
    obtain ⟨publicKeyDer, encoded⟩ := encodes secret
    exact ⟨_, differ, publicKeyDer, identity, ⟨secret, decoded, encoded, identified⟩, rfl⟩

/-- What one start leaves is what it found, or that with the running version. -/
theorem step_cases {next : AppConfig} (stepped : step keys cfg process = some next) :
    (∃ request, refreshRegistration keys process cfg = .accepted request next ∧
      next = cfg.withClientVersion process.clientVersion) ∨
    ((∀ request updated, refreshRegistration keys process cfg ≠ .accepted request updated) ∧
      next = cfg) := by
  unfold step at stepped
  split at stepped
  · rename_i request updated accepted
    cases stepped
    exact .inl ⟨request, accepted, accepted_updated accepted⟩
  all_goals
    rename_i refused
    cases stepped
    exact .inr ⟨by simp [refused], rfl⟩

theorem step_refused (refused : ∀ request updated,
    refreshRegistration keys process cfg ≠ .accepted request updated) :
    step keys cfg process = some cfg := by
  unfold step
  split
  · rename_i request updated accepted
    exact absurd accepted (refused request updated)
  all_goals rfl

/-! ## Any number of starts -/

theorem run_withClientVersion {starts : List Process}
    (ran : run (step keys) cfg starts = some stored) :
    stored = cfg.withClientVersion stored.deviceIdentity.clientVersion := by
  refine run_preserves (fun s => s = cfg.withClientVersion s.deviceIdentity.clientVersion) ?_ rfl ran
  intro s process next inv stepped
  rcases step_cases stepped with ⟨request, -, rfl⟩ | ⟨-, rfl⟩
  · rw [inv]
    rfl
  · exact inv

/-- An update accepted in this start would be that of the binary `version`. -/
def AcceptsOnly (keys : Keys SecretKey) (version : String) (cfg : AppConfig) (process : Process) : Prop :=
  ∀ request updated, refreshRegistration keys process cfg = .accepted request updated →
    process.clientVersion = version

/-- The stored version stays until the update of another binary is accepted. -/
theorem run_clientVersion {later : List Process}
    (first : cfg.deviceIdentity.clientVersion = version)
    (only : Along (step keys) (AcceptsOnly keys version) cfg later)
    (ran : run (step keys) cfg later = some stored) :
    stored.deviceIdentity.clientVersion = version := by
  refine run_preserves_along (fun s => s.deviceIdentity.clientVersion = version) ?_ first only ran
  intro s process next inv accepts stepped
  rcases step_cases stepped with ⟨request, accepted, rfl⟩ | ⟨-, rfl⟩
  · exact accepts request _ accepted
  · exact inv

/-- A binary sends nothing for its own version. -/
theorem sent_same_version (same : cfg.deviceIdentity.clientVersion = process.clientVersion) :
    (refreshRegistration keys process cfg).sent = none := by
  rw [Option.eq_none_iff_forall_ne_some]
  intro request sent
  obtain ⟨⟨registered, running, storedParses, runningParses, differ⟩, -⟩ := sent_iff.mp sent
  rw [same, runningParses] at storedParses
  exact differ (Option.some.inj storedParses)

/-- What a start does with the configuration `stored`, where `cfg` was stored first. -/
structure StartContract (keys : Keys SecretKey) (cfg stored : AppConfig) (process : Process) : Prop where
  sends : (refreshRegistration keys process stored).sent.isSome ↔
    VersionsDiffer process.clientVersion stored ∧
      (∃ secret, getEcPrivateKey keys stored = .ok secret) ∧ PlatformRecorded stored
  carries : ∀ request, (refreshRegistration keys process stored).sent = some request →
    request.url = process.apiUrl ++ "/" ++ process.apiVersion ++ "/reg/" ++ cfg.id ∧
      ∃ secret der, getEcPrivateKey keys cfg = .ok secret ∧ keys.publicKeyDer secret = .ok der ∧
        request.update.key = keys.encode der
  /-- Later starts of the same binary are silent, as long as no other binary's update has
  been accepted. -/
  accepted : ∀ request updated, refreshRegistration keys process stored = .accepted request updated →
    step keys stored process = some updated ∧
      updated.deviceIdentity.clientVersion = process.clientVersion ∧
      ∀ later after, Along (step keys) (AcceptsOnly keys process.clientVersion) updated later →
        run (step keys) updated later = some after →
        ∀ further, further.clientVersion = process.clientVersion →
          (refreshRegistration keys further after).sent = none
  failed : (∀ request updated, refreshRegistration keys process stored ≠ .accepted request updated) →
    step keys stored process = some stored ∧
      ∀ further, further.clientVersion = process.clientVersion →
        ((refreshRegistration keys further stored).sent.isSome ↔
          (refreshRegistration keys process stored).sent.isSome)
  unchanged : stored = cfg.withClientVersion stored.deviceIdentity.clientVersion

/-- Every start of every sequence of starts keeps to its contract. -/
theorem registration_refresh_over_starts
    (encodes : ∀ secret, ∃ der, keys.publicKeyDer secret = .ok der) {starts : List Process}
    (ran : run (step keys) cfg starts = some stored) : StartContract keys cfg stored process where
  sends := sent_isSome_iff encodes
  carries := by
    intro request sent
    obtain ⟨-, publicKeyDer, identity, made, rfl⟩ := sent_iff.mp sent
    obtain ⟨secret, decoded, encoded, -⟩ := refreshUpdate_eq_ok_iff.mp made
    rw [run_withClientVersion ran] at decoded
    constructor
    · rw [run_withClientVersion ran]
      rfl
    · exact ⟨secret, publicKeyDer, decoded, encoded, rfl⟩
  accepted := by
    intro request updated accepted
    have version : updated.deviceIdentity.clientVersion = process.clientVersion := by
      rw [accepted_updated accepted]
      rfl
    refine ⟨by simp [step, accepted], version, ?_⟩
    intro later after only ranLater further same
    exact sent_same_version ((run_clientVersion version only ranLater).trans same.symm)
  failed := by
    intro refused
    refine ⟨step_refused refused, ?_⟩
    intro further same
    rw [sent_isSome_iff encodes, sent_isSome_iff encodes, same]
  unchanged := run_withClientVersion ran

/-! ## A key pair to run with: the scalar one and the generator of P-256 -/

def pointSec1 : Bytes :=
  [0x30, 0x31, 0x02, 0x01, 0x01, 0x04, 0x20] ++ List.replicate 31 0 ++ [0x01] ++
    [0xa0, 0x0a, 0x06, 0x08, 0x2a, 0x86, 0x48, 0xce, 0x3d, 0x03, 0x01, 0x07]

def pointSpki : Bytes :=
  [0x30, 0x59, 0x30, 0x13, 0x06, 0x07, 0x2a, 0x86, 0x48, 0xce, 0x3d, 0x02, 0x01, 0x06, 0x08, 0x2a,
   0x86, 0x48, 0xce, 0x3d, 0x03, 0x01, 0x07, 0x03, 0x42, 0x00, 0x04, 0x6b, 0x17, 0xd1, 0xf2, 0xe1,
   0x2c, 0x42, 0x47, 0xf8, 0xbc, 0xe6, 0xe5, 0x63, 0xa4, 0x40, 0xf2, 0x77, 0x03, 0x7d, 0x81, 0x2d,
   0xeb, 0x33, 0xa0, 0xf4, 0xa1, 0x39, 0x45, 0xd8, 0x98, 0xc2, 0x96, 0x4f, 0xe3, 0x42, 0xe2, 0xfe,
   0x1a, 0x7f, 0x9b, 0x8e, 0xe7, 0xeb, 0x4a, 0x7c, 0x0f, 0x9e, 0x16, 0x2b, 0xce, 0x33, 0x57, 0x6b,
   0x31, 0x5e, 0xce, 0xcb, 0xb6, 0x40, 0x68, 0x37, 0xbf, 0x51, 0xf5]

def pointText : String := "MDECAQEEIAAAAAAAAAAAAAAAAAAAAAAAAAAAAAAAAAAAAAAAAAABoAoGCCqGSM49AwEH"

/-- The codecs, on this key pair. -/
def pointKeys : Keys Unit where
  encode bytes :=
    if bytes = pointSec1 then pointText
    else if bytes = pointSpki then
      "MFkwEwYHKoZIzj0CAQYIKoZIzj0DAQcDQgAEaxfR8uEsQkf4vOblY6RA8ncDfYEt" ++
        "6zOg9KE5RdiYwpZP40Li/hp/m47n60p8D54WK84zV2sxXs7LtkBoN79R9Q=="
    else ""
  decode text := if text = pointText then some pointSec1 else none
  fromSec1Der der := if der = pointSec1 then some () else none
  toSec1Der _ := .ok pointSec1
  publicKeyDer _ := .ok pointSpki

def smallConfig : AppConfig where
  role := .meshNode
  meshNode := some ⟨"account", "tunnel", none, "FreeBSD", " linux "⟩
  privateKey := pointText
  endpointV4 := "192.0.2.1"
  endpointV6 := ""
  endpointPubKey := ""
  license := ""
  id := "registration"
  accessToken := "token"
  ipv4 := "198.51.100.2"
  ipv6 := ""
  deviceIdentity := ⟨"node", "FreeBSD", "FreeBSD Project", "FreeBSD", "14.3", "0.7.0", "serial", "en_US"⟩
  masquePeers := []

/-- A process whose service gives the same answer to every request. -/
def answering (version : String) (answer : Answer) : Process where
  clientVersion := version
  apiUrl := "https://api.devices.cloudflare.com"
  apiVersion := "v0a4471"
  send _ := answer
  decodeAccount body := if body = [0x7b, 0x7d] then .ok {} else .error "expected value"
  decodeError _ := none

theorem registration_refresh_over_starts_small :
    run (step pointKeys) smallConfig
        [answering "0.8.0" (.sendFailed "connection refused"),
          answering "0.8.0" (.received 200 [0x7b, 0x7d])] =
      some (smallConfig.withClientVersion "0.8.0") ∧
    StartContract pointKeys smallConfig (smallConfig.withClientVersion "0.8.0")
      (answering "0.9.0" (.received 500 [])) := by
  have ran : run (step pointKeys) smallConfig
        [answering "0.8.0" (.sendFailed "connection refused"),
          answering "0.8.0" (.received 200 [0x7b, 0x7d])] =
      some (smallConfig.withClientVersion "0.8.0") := by decide
  exact ⟨ran, registration_refresh_over_starts (fun _ => ⟨pointSpki, rfl⟩) ran⟩

end Usque.Registration
