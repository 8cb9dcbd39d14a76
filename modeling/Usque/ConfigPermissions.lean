import Usque.ConfigSaves

/-! Who may read the configuration file. `save_sensitive` ends with the mode of the file
and `save` does not touch it, so a command that ends with `save` hands on whatever mode
it has found. -/
namespace Usque.Registration

open Interrupted Transition

variable {SecretKey : Type} {keys : Keys SecretKey} {codec : Codec} {path : String}
  {process : Process} {disk : Disk} {plan : Plan} {cfg : AppConfig} {attempt : Attempt}
  {umask : UInt16} {raw : Bytes}

/-- The file grants nothing to group or others. -/
def OwnerOnly : Disk → Prop
  | none => True
  | some file => file.mode &&& 0o077 = 0

instance : DecidablePred OwnerOnly
  | none => isTrue trivial
  | some file => inferInstanceAs (Decidable (file.mode &&& 0o077 = 0))

def Operation.isEnroll : Operation → Bool
  | .enroll _ => true
  | .register _ | .meshRegister _ | .refresh => false

/-- The attempt has written credentials and returned successfully. -/
def Wrote (keys : Keys SecretKey) (codec : Codec) (path : String) (disk : Disk) (attempt : Attempt) : Prop :=
  ∃ plan cfg, attempt.result keys codec path disk = .ok plan ∧ plan.written = some cfg

/-! ## Which save a command ends with -/

theorem register_plan {input : RegisterInput} (planned : register keys process input disk = .ok plan) :
    plan = .nothing ∨ ∃ cfg, plan = .saveSensitive cfg := by
  unfold register at planned
  simp only [Fallible.bind_eq_ok_iff] at planned
  obtain ⟨credentials, -, overwrite, -, planned⟩ := planned
  split at planned
  · simp only [Fallible.bind_eq_ok_iff] at planned
    obtain ⟨jwt, -, pair, -, account, -, updated, -, cfg, -, ended⟩ := planned
    cases ended
    exact .inr ⟨cfg, rfl⟩
  · cases planned
    exact .inl rfl

theorem meshRegister_plan {input : MeshRegisterInput}
    (planned : meshRegister keys path process input disk = .ok plan) :
    ∃ cfg, plan = .saveSensitive cfg := by
  unfold meshRegister at planned
  simp only [Fallible.bind_eq_ok_iff] at planned
  obtain ⟨_, -, _, -, _, -, token, -, pair, -, account, -, updated, -, cfg, -, ended⟩ := planned
  cases ended
  exact ⟨_, rfl⟩

theorem enroll_plan {input : EnrollInput} (planned : enroll keys codec path process input disk = .ok plan) :
    ∃ file cfg, disk = some file ∧ plan = .save cfg := by
  unfold enroll at planned
  simp only [Fallible.bind_eq_ok_iff] at planned
  obtain ⟨stored, loaded, _, -, pair, -, updated, -, cfg, -, ended⟩ := planned
  cases ended
  cases disk with
  | none => cases loaded
  | some file => exact ⟨file, cfg, rfl, rfl⟩

theorem refreshPlan_sensitive {outcome : Refresh} (planned : refreshPlan outcome = .ok plan) :
    plan = .nothing ∨ ∃ cfg, plan = .saveSensitive cfg := by
  cases outcome with
  | notRequired =>
    cases planned
    exact .inl rfl
  | unsent reason => cases planned
  | refused request failure => cases planned
  | accepted request updated =>
    cases planned
    exact .inr ⟨updated, rfl⟩

theorem refresh_plan (planned : refresh keys codec path process disk = .ok plan) :
    plan = .nothing ∨ ∃ cfg, plan = .saveSensitive cfg := by
  unfold refresh at planned
  obtain ⟨stored, -, outcome⟩ := Fallible.bind_eq_ok_iff.mp planned
  exact refreshPlan_sensitive outcome

/-- `enroll` keeps the mode of the file it has read; the others set one. -/
theorem plan_mode (planned : attempt.plan keys codec path disk = .ok plan)
    (written : plan.written = some cfg) :
    (attempt.operation.isEnroll = true ∧
      ∃ file, disk = some file ∧ plan.mode attempt.umask disk = file.mode) ∨
    (attempt.operation.isEnroll = false ∧ plan.mode attempt.umask disk = 0o600) := by
  obtain ⟨operation, process, umask, stop⟩ := attempt
  have sensitive (settled : plan = .nothing ∨ ∃ cfg, plan = .saveSensitive cfg) :
      plan.mode umask disk = 0o600 := by
    rcases settled with rfl | ⟨other, rfl⟩
    · cases written
    · rfl
  unfold Attempt.plan Operation.plan at planned
  cases operation with
  | register input => exact .inr ⟨rfl, sensitive (register_plan planned)⟩
  | meshRegister input => exact .inr ⟨rfl, sensitive (.inr (meshRegister_plan planned))⟩
  | enroll input =>
    obtain ⟨file, other, rfl, rfl⟩ := enroll_plan planned
    exact .inl ⟨rfl, file, rfl, rfl⟩
  | refresh => exact .inr ⟨rfl, sensitive (refresh_plan planned)⟩

/-! ## Runs of operations -/

def attemptStep (keys : Keys SecretKey) (codec : Codec) (path : String) (disk : Disk) (attempt : Attempt) :
    Option Disk :=
  some (attempt.found keys codec path disk)

/-- If the attempt writes credentials and succeeds, only the owner may read them. -/
def WritesPrivately (keys : Keys SecretKey) (codec : Codec) (path : String) (disk : Disk)
    (attempt : Attempt) : Prop :=
  Wrote keys codec path disk attempt → OwnerOnly (attempt.found keys codec path disk)

/-- If the attempt is an `enroll` that comes to write, the file is its owner's already. -/
def EnrollsPrivately (keys : Keys SecretKey) (codec : Codec) (path : String) (disk : Disk)
    (attempt : Attempt) : Prop :=
  attempt.operation.isEnroll = true → Wrote keys codec path disk attempt → OwnerOnly disk

theorem writesPrivately_iff :
    WritesPrivately keys codec path disk attempt ↔ EnrollsPrivately keys codec path disk attempt := by
  unfold WritesPrivately EnrollsPrivately
  constructor
  · rintro keeps enrolls ⟨plan, cfg, succeeded, written⟩
    have after := keeps ⟨plan, cfg, succeeded, written⟩
    rw [found_of_result succeeded written] at after
    rcases plan_mode (result_eq_ok_iff.mp succeeded).1 written with ⟨-, file, rfl, mode⟩ | ⟨other, -⟩
    · rw [mode] at after
      exact after
    · rw [enrolls] at other
      cases other
  · rintro keeps ⟨plan, cfg, succeeded, written⟩
    rw [found_of_result succeeded written]
    rcases plan_mode (result_eq_ok_iff.mp succeeded).1 written with ⟨enrolls, file, rfl, mode⟩ | ⟨-, mode⟩
    · rw [mode]
      exact keeps enrolls ⟨plan, cfg, succeeded, written⟩
    · rw [mode]
      show (0o600 : UInt16) &&& 0o077 = 0
      decide

/-- In a run of the four operations every successful write leaves the file to its owner
alone exactly if every `enroll` that writes finds it so. -/
theorem credential_file_permissions (keys : Keys SecretKey) (codec : Codec) (path : String) (disk : Disk)
    (attempts : List Attempt) :
    Along (attemptStep keys codec path) (WritesPrivately keys codec path) disk attempts ↔
      Along (attemptStep keys codec path) (EnrollsPrivately keys codec path) disk attempts :=
  along_congr fun _ _ => writesPrivately_iff

theorem enroll_of_accepted {input : EnrollInput} {stored cfg : AppConfig} {updated : AccountData}
    {privateKeyDer publicKeyDer : Bytes} (loaded : load codec path disk = .ok stored)
    (client : stored.role = .client)
    (pair : enrollKeyPair keys input stored = .ok (privateKeyDer, publicKeyDer))
    (accepted : enrollKey keys process { id := stored.id, token := stored.accessToken } publicKeyDer
      (enrollIdentity process input stored) = .ok updated)
    (built : buildAppConfig keys updated privateKeyDer stored.accessToken
      (enrollIdentity process input stored) = .ok cfg) :
    enroll keys codec path process input disk = .ok (.save cfg) := by
  unfold enroll
  refine Fallible.bind_eq_ok_iff.mpr ⟨stored, Fallible.mapError_eq_ok_iff.mpr loaded, ?_⟩
  refine Fallible.bind_eq_ok_iff.mpr ⟨(), by simp [ensure, client], ?_⟩
  refine Fallible.bind_eq_ok_iff.mpr ⟨_, pair, ?_⟩
  refine Fallible.bind_eq_ok_iff.mpr ⟨(updated, privateKeyDer), by simp [enrolled, accepted], ?_⟩
  exact Fallible.bind_eq_ok_iff.mpr ⟨cfg, Fallible.mapError_eq_ok_iff.mpr built, rfl⟩

/-- An `enroll` with a new key, which gets to the end of its save. -/
def clientEnroll : Attempt where
  operation := .enroll {
    name := ""
    regenKey := true
    detected := clientConfig.deviceIdentity
    keyPair := .ok (pointSec1, pointSpki)
    response := .ok "y"
    anotherKeyPair := .ok (pointSec1, pointSpki) }
  process := clientProcess
  umask := 0o077
  stop := (save clientCodec 0o077 (clientConfig.withClientVersion "0.8.0")).length

theorem clientEnroll_result :
    clientEnroll.result pointKeys clientCodec "config.json" (clientDisk 0o644) =
      .ok (.save (clientConfig.withClientVersion "0.8.0")) := by
  refine result_eq_ok_iff.mpr ⟨?_, Nat.le_refl _⟩
  unfold Attempt.plan Operation.plan clientEnroll
  dsimp only
  refine enroll_of_accepted (clientDisk_load 0o644) rfl rfl (clientProcess_enrollKey _ _ _) ?_
  decide

/-- A file that others could read before `enroll` they can read afterwards. -/
theorem enroll_keeps_open_mode :
    ¬ Along (attemptStep pointKeys clientCodec "config.json") (WritesPrivately pointKeys clientCodec "config.json")
      (clientDisk 0o644) [clientEnroll] := by
  intro along
  have keeps : WritesPrivately pointKeys clientCodec "config.json" (clientDisk 0o644) clientEnroll := along.1
  have ownerOnly := keeps ⟨_, _, clientEnroll_result, rfl⟩
  rw [found_of_result clientEnroll_result rfl] at ownerOnly
  have open_mode : (0o644 : UInt16) &&& 0o077 = 0 := ownerOnly
  exact absurd open_mode (by decide)

end Usque.Registration
