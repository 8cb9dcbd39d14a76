import Usque.ConfigFile
import Usque.Lib.Fallible
import Usque.RegistrationRefresh

/-! What is found at the configuration path when a save stops half way. A prefix of the
effects of a save leaves the previous bytes or a prefix of the new ones, so everything
between the first effect and the last byte loses the previous configuration. -/
namespace Usque.Registration

open Interrupted Transition

variable {SecretKey : Type} {keys : Keys SecretKey} {codec : Codec} {path : String}
  {process : Process} {disk : Disk} {plan : Plan} {cfg : AppConfig} {attempt : Attempt}
  {umask : UInt16} {raw : Bytes} {stop : ℕ}

/-! ## Text and bytes -/

theorem decodeUtf8_eq_some_iff {text : String} : decodeUtf8 raw = some text ↔ raw = encodeUtf8 text := by
  rw [decodeUtf8, encodeUtf8]
  constructor
  · intro decoded
    rw [String.fromUTF8?] at decoded
    split at decoded
    · cases decoded
      rfl
    · cases decoded
  · rintro rfl
    have valid : ByteArray.IsValidUTF8 ⟨text.toByteArray.data.toList.toArray⟩ := by
      simpa using text.isValidUTF8
    rw [String.fromUTF8?, dif_pos valid]
    exact congrArg some (String.toByteArray_inj.mp rfl)

theorem encodeUtf8_eq_nil_iff {text : String} : encodeUtf8 text = [] ↔ text = "" := by
  rw [← String.toByteArray_inj]
  simp [encodeUtf8, ByteArray.ext_iff]

/-- The text in front of a cut is the front of the text. -/
theorem decodeUtf8_take {text read : String} {count : ℕ}
    (decoded : decodeUtf8 ((encodeUtf8 text).take count) = some read) :
    ∃ rest, read ++ rest = text ∧ (count < (encodeUtf8 text).length → rest ≠ "") := by
  have whole : encodeUtf8 read ++ (encodeUtf8 text).drop count = encodeUtf8 text := by
    rw [← decodeUtf8_eq_some_iff.mp decoded, List.take_append_drop]
  have front : read.toList <+: text.toList := by
    refine List.isPrefix_of_utf8Encode_append_eq_utf8Encode
      ⟨((encodeUtf8 text).drop count).toArray⟩ ?_
    have bytes : (read.toList.utf8Encode ++
        ⟨((encodeUtf8 text).drop count).toArray⟩ : ByteArray).data.toList =
          text.toList.utf8Encode.data.toList := by
      simpa [encodeUtf8] using whole
    exact ByteArray.ext (Array.toList_inj.mp bytes)
  obtain ⟨rest, same⟩ := front
  refine ⟨String.ofList rest, String.toList_inj.mp (by simp [same]), fun cut nothing => ?_⟩
  have full : read = text := by
    rw [← String.toList_inj, ← same, String.ofList_eq_empty_iff.mp nothing, List.append_nil]
  rw [full] at whole
  have left := congrArg List.length whole
  rw [List.length_append, List.length_drop] at left
  omega

/-! ## Loading -/

theorem load_eq_ok_iff : load codec path disk = .ok cfg ↔
    ∃ raw, disk.map File.content = some (encodeUtf8 raw) ∧ codec.fromStr raw = some cfg := by
  rw [load, readToString]
  cases disk with
  | none => simp
  | some file =>
    rw [Option.bind_some, Option.map_some]
    cases decoded : decodeUtf8 file.content with
    | none =>
      have other (text : String) : file.content ≠ encodeUtf8 text := fun same => by
        rw [decodeUtf8_eq_some_iff.mpr same] at decoded
        cases decoded
      simp [other]
    | some text =>
      have text_iff (raw : String) : file.content = encodeUtf8 raw ↔ text = raw := by
        rw [← decodeUtf8_eq_some_iff, decoded, Option.some.injEq]
      cases read : codec.fromStr text <;> simp [text_iff, read]

theorem load_of_content (found : disk.map File.content = some (savedBytes codec cfg))
    (roundTrip : codec.fromStr (codec.toStringPretty cfg) = some cfg) : load codec path disk = .ok cfg :=
  load_eq_ok_iff.mpr ⟨_, found, roundTrip⟩

/-- A part of what a save writes is no text, or one that is not read. -/
theorem load_torn {count : ℕ}
    (unfinished : ∀ text rest, text ++ rest = codec.toStringPretty cfg → rest ≠ "" →
      codec.fromStr text = none)
    (found : disk.map File.content = some ((savedBytes codec cfg).take count))
    (short : count < (savedBytes codec cfg).length) :
    load codec path disk = .error ("failed to decode config file " ++ path) ∨
      load codec path disk = .error ("failed to open config file " ++ path) := by
  obtain ⟨file, rfl, content⟩ := Option.map_eq_some_iff.mp found
  rw [load, readToString, Option.bind_some, content]
  cases decoded : decodeUtf8 ((savedBytes codec cfg).take count) with
  | none => exact .inr rfl
  | some text =>
    obtain ⟨rest, front, more⟩ := decodeUtf8_take decoded
    have refused := unfinished text rest front (more short)
    exact .inl (by simp only [refused])

/-! ## Refreshes -/

theorem message_ok (value : α) : message (.ok value) = .ok value := rfl

theorem refresh_of_loaded (loaded : load codec path disk = .ok cfg) :
    refresh keys codec path process disk = refreshPlan (refreshRegistration keys process cfg) := by
  simp only [refresh, loaded, message_ok, bind, Except.bind]

/-- An accepted refresh ends with the save of its configuration. -/
theorem refresh_of_accepted {request : Request} {updated : AppConfig}
    (loaded : load codec path disk = .ok cfg)
    (accepted : refreshRegistration keys process cfg = .accepted request updated) :
    refresh keys codec path process disk = .ok (.saveSensitive updated) := by
  rw [refresh_of_loaded loaded, accepted, refreshPlan]

/-! ## Prefixes of a save -/

/-- The mode of the file once it is open. -/
def createdMode (umask : UInt16) : Disk → UInt16
  | none => 0o666 &&& ~~~umask
  | some file => file.mode

theorem apply_create : apply disk (.create umask) = some ⟨[], createdMode umask disk⟩ := by
  cases disk with
  | none => rfl
  | some file => rfl

theorem after_appends {file : File} :
    after apply (some file) (raw.map .append) stop =
      some { file with content := file.content ++ raw.take stop } := by
  induction raw generalizing file stop with
  | nil => simp
  | cons byte rest ih =>
    cases stop with
    | zero => simp
    | succ stop =>
      have appended : apply (some file) (.append byte) =
          some { file with content := file.content ++ [byte] } := rfl
      rw [List.map_cons, after_cons_succ, appended, ih]
      simp

theorem after_fsWrite_succ :
    after apply disk (fsWrite umask raw) (stop + 1) =
      some ⟨raw.take stop, createdMode umask disk⟩ := by
  rw [fsWrite, after_cons_succ, apply_create, after_appends]
  rfl

/-- A change of the mode is no change of the content. -/
theorem after_setPermissions_content {mode : UInt16} :
    (after apply disk [.setPermissions mode] stop).map File.content = disk.map File.content := by
  refine after_preserves (fun s : Disk => s.map File.content = disk.map File.content) ?_ rfl
  intro s effect member same
  obtain rfl := List.mem_singleton.mp member
  rw [← same]
  cases s with
  | none => rfl
  | some file => rfl

theorem after_save_content :
    (after apply disk (save codec umask cfg) stop).map File.content =
      if stop = 0 then disk.map File.content
      else some ((savedBytes codec cfg).take (stop - 1)) := by
  cases stop with
  | zero => rfl
  | succ stop =>
    rw [save, after_fsWrite_succ]
    rfl

/-- Both saves leave what was there, or the bytes written so far. -/
theorem after_effects_content (written : plan.written = some cfg) :
    (after apply disk (plan.effects codec umask) stop).map File.content =
      if stop = 0 then disk.map File.content
      else some ((savedBytes codec cfg).take (stop - 1)) := by
  cases plan with
  | nothing => cases written
  | save other =>
    cases written
    exact after_save_content
  | saveSensitive other =>
    cases written
    rw [Plan.effects, saveSensitive, after_append, after_setPermissions_content, after_save_content]

/-! ## What is found at the next start -/

/-- The bytes found are those of the previous file or of the whole new configuration. -/
def Intact (codec : Codec) (cfg : AppConfig) (disk found : Disk) : Prop :=
  found.map File.content = disk.map File.content ∨
    found.map File.content = some (savedBytes codec cfg)

instance {found : Disk} : Decidable (Intact codec cfg disk found) :=
  inferInstanceAs (Decidable (_ ∨ _))

theorem found_eq (planned : attempt.plan keys codec path disk = .ok plan) :
    attempt.found keys codec path disk =
      after apply disk (plan.effects codec attempt.umask) attempt.stop := by
  rw [Attempt.found, planned]

theorem found_content (planned : attempt.plan keys codec path disk = .ok plan)
    (written : plan.written = some cfg) :
    (attempt.found keys codec path disk).map File.content =
      if attempt.stop = 0 then disk.map File.content
      else some ((savedBytes codec cfg).take (attempt.stop - 1)) := by
  rw [found_eq planned, after_effects_content written]

/-- A save that stops leaves a configuration exactly if it stops before the file is
opened, behind the last byte, or where the bytes written so far are those of the
previous file. -/
theorem interrupted_save_intact_iff (planned : attempt.plan keys codec path disk = .ok plan)
    (written : plan.written = some cfg) :
    Intact codec cfg disk (attempt.found keys codec path disk) ↔
      attempt.stop = 0 ∨ (savedBytes codec cfg).length < attempt.stop ∨
        disk.map File.content = some ((savedBytes codec cfg).take (attempt.stop - 1)) := by
  unfold Intact
  rw [found_content planned written]
  by_cases first : attempt.stop = 0
  · simp [first]
  · rw [if_neg first]
    constructor
    · rintro (previous | whole)
      · exact .inr (.inr previous.symm)
      · refine .inr (.inl ?_)
        have long := List.take_eq_self_iff _ |>.mp (Option.some.inj whole)
        omega
    · rintro (unopened | whole | previous)
      · exact absurd unopened first
      · refine .inr ?_
        rw [List.take_of_length_le (by omega)]
      · exact .inl previous.symm

/-- After any other stop the next start has no configuration, where `fromStr` refuses
unfinished documents: nothing is left to retry with. -/
theorem interrupted_save_lost
    (unfinished : ∀ text rest, text ++ rest = codec.toStringPretty cfg → rest ≠ "" →
      codec.fromStr text = none)
    (planned : attempt.plan keys codec path disk = .ok plan) (written : plan.written = some cfg)
    (opened : 0 < attempt.stop) (short : attempt.stop ≤ (savedBytes codec cfg).length) :
    load codec path (attempt.found keys codec path disk) =
        .error ("failed to decode config file " ++ path) ∨
      load codec path (attempt.found keys codec path disk) =
        .error ("failed to open config file " ++ path) := by
  have content := found_content planned written
  rw [if_neg (by omega)] at content
  exact load_torn unfinished content (by omega)

/-! ## Complete saves -/

/-- The mode a complete save leaves. -/
def Plan.mode (umask : UInt16) (disk : Disk) : Plan → UInt16
  | .nothing | .save _ => createdMode umask disk
  | .saveSensitive _ => 0o600

theorem result_eq_ok_iff :
    attempt.result keys codec path disk = .ok plan ↔
      attempt.plan keys codec path disk = .ok plan ∧
        (plan.effects codec attempt.umask).length ≤ attempt.stop := by
  unfold Attempt.result
  rw [Fallible.bind_eq_ok_iff]
  constructor
  · rintro ⟨other, planned, ended⟩
    split at ended
    · rename_i whole
      cases ended
      exact ⟨planned, List.getElem?_eq_none_iff.mp whole⟩
    · cases ended
  · rintro ⟨planned, whole⟩
    refine ⟨plan, planned, ?_⟩
    rw [List.getElem?_eq_none_iff.mpr whole]

theorem foldl_fsWrite : (fsWrite umask raw).foldl apply disk = some ⟨raw, createdMode umask disk⟩ := by
  have length : (fsWrite umask raw).length = raw.length + 1 := by simp [fsWrite]
  rw [← after_eq_foldl (Nat.le_of_eq length), after_fsWrite_succ, List.take_length]

/-- A command that has succeeded leaves its configuration under the mode of its save. -/
theorem found_of_result (succeeded : attempt.result keys codec path disk = .ok plan)
    (written : plan.written = some cfg) :
    attempt.found keys codec path disk =
      some ⟨savedBytes codec cfg, plan.mode attempt.umask disk⟩ := by
  obtain ⟨planned, whole⟩ := result_eq_ok_iff.mp succeeded
  rw [found_eq planned, after_eq_foldl whole]
  cases plan with
  | nothing => cases written
  | save other =>
    cases written
    exact foldl_fsWrite
  | saveSensitive other =>
    cases written
    rw [Plan.effects, saveSensitive, List.foldl_append, save, foldl_fsWrite]
    rfl

/-- As long as nothing fails a start does to the file what `step` does to the
configuration in it, where a document is read as what it was written from. -/
theorem refresh_follows_step {next : AppConfig}
    (roundTrip : ∀ cfg, codec.fromStr (codec.toStringPretty cfg) = some cfg)
    (refreshes : attempt.operation = .refresh)
    (whole : ∀ plan, attempt.plan keys codec path disk = .ok plan →
      (plan.effects codec attempt.umask).length ≤ attempt.stop)
    (loaded : load codec path disk = .ok cfg)
    (stepped : step keys cfg attempt.process = some next) :
    load codec path (attempt.found keys codec path disk) = .ok next := by
  have isRefresh : attempt.plan keys codec path disk = refresh keys codec path attempt.process disk := by
    rw [Attempt.plan, refreshes, Operation.plan]
  cases came : refreshRegistration keys attempt.process cfg with
  | accepted request updated =>
    have planned := isRefresh.trans (refresh_of_accepted loaded came)
    have succeeded := result_eq_ok_iff.mpr ⟨planned, whole _ planned⟩
    rw [found_of_result succeeded rfl]
    simp only [step, came, Option.some.injEq] at stepped
    rw [← stepped]
    exact load_of_content rfl (roundTrip updated)
  | notRequired | unsent | refused =>
    simp only [step, came, Option.some.injEq] at stepped
    have untouched : attempt.found keys codec path disk = disk := by
      simp [Attempt.found, isRefresh, refresh_of_loaded loaded, came, refreshPlan, Plan.effects]
    rw [untouched, ← stepped, loaded]

/-! ## A client of one peer, with the documents of its registration -/

@[irreducible] def textBytes (text : String) : Bytes := text.toList.map fun c => c.toNat.toUInt8

def clientConfig : AppConfig where
  role := .client
  meshNode := none
  privateKey := pointText
  endpointV4 := "192.0.2.1"
  endpointV6 := ""
  endpointPubKey := ""
  license := ""
  id := "registration"
  accessToken := "token"
  ipv4 := "198.51.100.2"
  ipv6 := ""
  deviceIdentity := ⟨"host", "FreeBSD", "FreeBSD Project", "FreeBSD", "14.3", "0.7.0", "serial", "en_US"⟩
  masquePeers := [{ endpointV4 := "192.0.2.1", endpointV6 := "", endpointPubKey := "" }]

/-- `clientConfig` as it is stored. -/
@[irreducible] def clientJson (version : String) : String :=
  "\x7b" ++ String.intercalate "\n" ["",
    "  \"role\": \"client\",",
    "  \"private_key\": \"" ++ pointText ++ "\",",
    "  \"endpoint_v4\": \"192.0.2.1\",",
    "  \"endpoint_v6\": \"\",",
    "  \"endpoint_pub_key\": \"\",",
    "  \"license\": \"\",",
    "  \"id\": \"registration\",",
    "  \"access_token\": \"token\",",
    "  \"ipv4\": \"198.51.100.2\",",
    "  \"ipv6\": \"\",",
    "  \"device_identity\": \x7b",
    "    \"name\": \"host\",",
    "    \"device_type\": \"FreeBSD\",",
    "    \"manufacturer\": \"FreeBSD Project\",",
    "    \"model\": \"FreeBSD\",",
    "    \"os_version\": \"14.3\",",
    "    \"client_version\": \"" ++ version ++ "\",",
    "    \"serial_number\": \"serial\",",
    "    \"locale\": \"en_US\"",
    "  \x7d,",
    "  \"masque_peers\": [",
    "    \x7b",
    "      \"endpoint_v4\": \"192.0.2.1\",",
    "      \"endpoint_v6\": \"\",",
    "      \"endpoint_host\": \"\",",
    "      \"ports\": [],",
    "      \"endpoint_pub_key\": \"\"",
    "    \x7d",
    "  ]",
    "\x7d"]

def clientFromStr (raw : String) : Option AppConfig :=
  if raw = clientJson "0.7.0" then some clientConfig
  else if raw = clientJson "0.8.0" then some (clientConfig.withClientVersion "0.8.0")
  else none

/-- `serde_json` on these documents. -/
def clientCodec : Codec where
  toStringPretty cfg := clientJson cfg.deviceIdentity.clientVersion
  fromStr := clientFromStr

def clientAccount : AccountData where
  id := "registration"
  peers := [{ endpoint := { v4 := "192.0.2.1:0" } }]
  addressV4 := "198.51.100.2"

def clientAccountJson : Bytes :=
  textBytes ("\x7b\"id\":\"registration\",\"config\":\x7b\"peers\":[\x7b\"endpoint\":\x7b\"v4\":" ++
    "\"192.0.2.1:0\"\x7d\x7d],\"interface\":\x7b\"addresses\":\x7b\"v4\":\"198.51.100.2\"\x7d\x7d\x7d\x7d")

def decodeClientAccount (body : Bytes) : Except String AccountData :=
  if body = clientAccountJson then .ok clientAccount else .error "expected value"

def clientProcess : Process where
  clientVersion := "0.8.0"
  apiUrl := "https://api.devices.cloudflare.com"
  apiVersion := "v0a4471"
  send _ := .received 200 clientAccountJson
  decodeAccount := decodeClientAccount
  decodeError _ := none

def clientDisk (mode : UInt16) : Disk := some ⟨encodeUtf8 (clientJson "0.7.0"), mode⟩

def clientRefresh (stop : ℕ) : Attempt := ⟨.refresh, clientProcess, 0o022, stop⟩

theorem clientDisk_load (mode : UInt16) :
    load clientCodec "config.json" (clientDisk mode) = .ok clientConfig := by
  refine load_of_content rfl ?_
  show clientFromStr (clientJson "0.7.0") = some clientConfig
  unfold clientFromStr
  exact if_pos rfl

theorem clientProcess_enrollKey (account : AccountData) (publicKeyDer : Bytes) (identity : DeviceIdentity) :
    enrollKey pointKeys clientProcess account publicKeyDer identity = .ok clientAccount := by
  refine enrollKey_ok rfl ?_
  show decodeClientAccount clientAccountJson = .ok clientAccount
  unfold decodeClientAccount
  exact if_pos rfl

theorem clientRefresh_plan (stop : ℕ) :
    (clientRefresh stop).plan pointKeys clientCodec "config.json" (clientDisk 0o600) =
      .ok (.saveSensitive (clientConfig.withClientVersion "0.8.0")) := by
  have differ : VersionsDiffer clientProcess.clientVersion clientConfig :=
    ⟨(0, 7, 0), (0, 8, 0), by decide, by decide +kernel, by decide⟩
  have made : refreshUpdate pointKeys clientProcess.clientVersion clientConfig =
      .ok (pointSpki, { clientConfig.deviceIdentity with clientVersion := "0.8.0" }) := by decide
  obtain ⟨request, accepted⟩ := refreshRegistration_accepted differ made
    (clientProcess_enrollKey _ _ _)
  have planned : refresh pointKeys clientCodec "config.json" clientProcess (clientDisk 0o600) =
      .ok (.saveSensitive (clientConfig.withClientVersion "0.8.0")) :=
    refresh_of_accepted (clientDisk_load 0o600) accepted
  unfold Attempt.plan Operation.plan clientRefresh
  exact planned

/-- The refresh on a disk that is full: the file is truncated and nothing is written. -/
theorem full_disk_truncates_config :
    (clientRefresh 1).plan pointKeys clientCodec "config.json" (clientDisk 0o600) =
        .ok (.saveSensitive (clientConfig.withClientVersion "0.8.0")) ∧
      ¬ Intact clientCodec (clientConfig.withClientVersion "0.8.0") (clientDisk 0o600)
        ((clientRefresh 1).found pointKeys clientCodec "config.json" (clientDisk 0o600)) := by
  refine ⟨clientRefresh_plan 1, ?_⟩
  have filled (version : String) : encodeUtf8 (clientJson version) ≠ [] := by
    rw [Ne, encodeUtf8_eq_nil_iff]
    unfold clientJson
    simp
  have opened : (clientRefresh 1).stop ≠ 0 := Nat.one_ne_zero
  unfold Intact
  rw [found_content (clientRefresh_plan 1) rfl, if_neg opened]
  rintro (previous | whole)
  · exact filled "0.7.0" (Option.some.inj previous).symm
  · exact filled "0.8.0" (Option.some.inj whole).symm

/-- A refresh that is stopped behind the last byte, before it sets the mode. -/
theorem interrupted_save_intact_iff_small :
    Intact clientCodec (clientConfig.withClientVersion "0.8.0") (clientDisk 0o600)
      ((clientRefresh ((savedBytes clientCodec (clientConfig.withClientVersion "0.8.0")).length + 1)).found
        pointKeys clientCodec "config.json" (clientDisk 0o600)) :=
  (interrupted_save_intact_iff (clientRefresh_plan _) rfl).mpr (.inr (.inl (Nat.lt_succ_self _)))

end Usque.Registration
