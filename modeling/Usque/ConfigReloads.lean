import Usque.ConfigText

/-! What a start makes of the configuration file it finds: one of another version of the
program, or one that a stopped save has left. -/
namespace Usque.Registration

open Json (Value HasField)

/-! ## Documents of other versions -/

/-- The names a configuration has fields for. -/
def configNames : List String :=
  ["role", "mesh_node", "private_key", "endpoint_v4", "endpoint_v6", "endpoint_pub_key", "license", "id",
    "access_token", "ipv4", "ipv6", "device_identity", "masque_peers"]

/-- Members of other names do not matter, nor does the order of the members. -/
theorem read_congr {members others : List (String × Value)}
    (same : (others.filter fun member => configNames.contains member.1).Perm
      (members.filter fun member => configNames.contains member.1)) :
    AppConfig.read (.object others) = AppConfig.read (.object members) := by
  have field {name : String} (known : name ∈ configNames) {index : ℕ} {α : Type} {missing : Option α}
      {read : Value → Option α} :
      (Value.object others).readField index [name] missing read =
        (Value.object members).readField index [name] missing read := by
    have narrowed (given : List (String × Value)) :
        (given.filter fun member => [name].contains member.1) =
          (given.filter fun member => configNames.contains member.1).filter
            fun member => [name].contains member.1 := by
      rw [List.filter_filter]
      refine List.filter_congr fun member _ => ?_
      by_cases here : member.1 = name
      · simp [here, known]
      · simp [here]
    refine Json.readField_congr ?_
    rw [narrowed others, narrowed members]
    exact same.filter _
  have every : ∀ name ∈ configNames, ∀ {index : ℕ} {α : Type} {missing : Option α} {read : Value → Option α},
      (Value.object others).readField index [name] missing read =
        (Value.object members).readField index [name] missing read := fun name known => field known
  simp only [configNames, List.forall_mem_cons] at every
  obtain ⟨h0, h1, h2, h3, h4, h5, h6, h7, h8, h9, h10, h11, h12, -⟩ := every
  unfold AppConfig.read
  rw [h0, h1, h2, h3, h4, h5, h6, h7, h8, h9, h10, h11, h12]
  rfl

theorem load_format {json : JsonFormat} {path : String} {disk : Disk} {cfg : AppConfig} :
    load json.codec path disk = .ok cfg ↔ ∃ text value, disk.map File.content = some (encodeUtf8 text) ∧
      json.parse text = some value ∧ ConfigDocument cfg value := by
  rw [load_eq_ok_iff]
  simp only [JsonFormat.codec, Option.bind_eq_some_iff, configDocument_iff]
  constructor
  · rintro ⟨text, content, value, parsed, document⟩
    exact ⟨text, value, content, parsed, document⟩
  · rintro ⟨text, value, content, parsed, document⟩
    exact ⟨text, content, value, parsed, document⟩

/-- A file is loaded exactly as the document it holds tells it: each field from its one member,
or as what it is where the member is missing and may be. Whatever else the document has, and in
whatever order, is loaded the same. -/
theorem other_versions_load (json : JsonFormat) (path : String) :
    (∀ disk cfg, load json.codec path disk = .ok cfg ↔
      ∃ text value, disk.map File.content = some (encodeUtf8 text) ∧ json.parse text = some value ∧
        ConfigDocument cfg value) ∧
    ∀ text other members others mode, json.parse text = some (.object members) →
      json.parse other = some (.object others) →
      (others.filter fun member => configNames.contains member.1).Perm
        (members.filter fun member => configNames.contains member.1) →
      load json.codec path (some ⟨encodeUtf8 other, mode⟩) =
        load json.codec path (some ⟨encodeUtf8 text, mode⟩) := by
  refine ⟨fun disk cfg => load_format, fun text other members others mode parsed parsedOther same => ?_⟩
  have decoded (raw : String) : decodeUtf8 (encodeUtf8 raw) = some raw := decodeUtf8_eq_some_iff.mpr rfl
  have read := read_congr same
  simp only [load, readToString, Option.bind_some, decoded, JsonFormat.codec, parsed, parsedOther, read]

/-- A configuration of an older version. -/
def legacyConfig : AppConfig where
  role := .client
  meshNode := none
  privateKey := pointText
  endpointV4 := "162.159.198.1"
  endpointV6 := ""
  endpointPubKey := ""
  license := ""
  id := "registration"
  accessToken := "token"
  ipv4 := "172.16.0.2"
  ipv6 := ""
  deviceIdentity := noIdentity
  masquePeers := [{ endpointV4 := "162.159.198.1", endpointV6 := "", endpointPubKey := "" }]

/-- Its file, with members nothing reads. -/
def legacyMembers : List (String × Value) :=
  [("endpoint_v4", .string "162.159.198.1"), ("private_key", .string pointText),
    ("endpoint_v6", .string ""), ("endpoint_pub_key", .string ""), ("id", .string "registration"),
    ("access_token", .string "token"), ("ipv4", .string "172.16.0.2"), ("ipv6", .string ""),
    ("masque_peers", .array [.object [("weight", .null), ("endpoint_v4", .string "162.159.198.1")]]),
    ("notes", .array [.null, .bool true])]

theorem legacyMembers_document : ConfigDocument legacyConfig (.object legacyMembers) := by
  have peer : PeerDocument { endpointV4 := "162.159.198.1", endpointV6 := "", endpointPubKey := "" }
      (.object [("weight", .null), ("endpoint_v4", .string "162.159.198.1")]) :=
    ⟨rfl, .member rfl rfl, .noMember rfl rfl, .noMember rfl rfl, .noMember rfl rfl, .noMember rfl rfl⟩
  have given {name : String} {value : Value} {holds : Value → Prop} {absent : Prop} {index : ℕ}
      (only : (legacyMembers.filter fun member => member.1 == name) = [(name, value)]) (said : holds value) :
      HasField holds absent index name (.object legacyMembers) := .member only said
  have missing {name : String} {holds : Value → Prop} {absent : Prop} {index : ℕ}
      (none : (legacyMembers.filter fun member => member.1 == name) = []) (default : absent) :
      HasField holds absent index name (.object legacyMembers) := .noMember none default
  exact {
    record := rfl
    role := missing (by simp [legacyMembers]) rfl
    meshNode := missing (by simp [legacyMembers]) rfl
    privateKey := given (by simp [legacyMembers]; rfl) rfl
    endpointV4 := given (by simp [legacyMembers]; rfl) rfl
    endpointV6 := given (by simp [legacyMembers]; rfl) rfl
    endpointPubKey := given (by simp [legacyMembers]; rfl) rfl
    license := missing (by simp [legacyMembers]) rfl
    id := given (by simp [legacyMembers]; rfl) rfl
    accessToken := given (by simp [legacyMembers]; rfl) rfl
    ipv4 := given (by simp [legacyMembers]; rfl) rfl
    ipv6 := given (by simp [legacyMembers]; rfl) rfl
    deviceIdentity := missing (by simp [legacyMembers]) rfl
    masquePeers := given (by simp [legacyMembers]) ⟨_, rfl, .cons peer .nil⟩ }

theorem legacyMembers_plain : (Value.object legacyMembers).Plain nestingLimit := by
  refine .object _ fun member inside => ?_
  simp only [legacyMembers, List.mem_cons, List.not_mem_nil, or_false] at inside
  rcases inside with rfl | rfl | rfl | rfl | rfl | rfl | rfl | rfl | rfl | rfl
  case inr.inr.inr.inr.inr.inr.inr.inr.inl =>
    refine .array _ fun item within => ?_
    obtain rfl := List.mem_singleton.mp within
    refine .object _ fun member inside => ?_
    rcases List.mem_pair.mp inside with rfl | rfl
    · exact .null
    · exact .string _
  case inr.inr.inr.inr.inr.inr.inr.inr.inr =>
    refine .array _ fun item within => ?_
    rcases List.mem_pair.mp within with rfl | rfl
    · exact .null
    · exact .bool true
  all_goals exact .string _

def legacyDisk : Disk := some ⟨encodeUtf8 (plainJson.print (.object legacyMembers)), 0o600⟩

theorem other_versions_load_legacy : load plainJson.codec "config.json" legacyDisk = .ok legacyConfig := by
  obtain ⟨loads, -⟩ := other_versions_load plainJson "config.json"
  exact (loads legacyDisk legacyConfig).mpr
    ⟨plainJson.print (.object legacyMembers), .object legacyMembers, by rw [legacyDisk, Option.map_some],
      plainJson_prints _ legacyMembers_plain, legacyMembers_document⟩

/-! ## Saves that stop -/

section Interrupted

open Transition

variable {SecretKey : Type} {keys : Keys SecretKey} {codec : Codec} {path : String} {disk finish : Disk}
  {attempt : Attempt} {attempts : List Attempt} {plan : Plan} {cfg : AppConfig}

/-- The attempt comes to its save and opens the file. -/
def Attempt.Opens (keys : Keys SecretKey) (codec : Codec) (path : String) (attempt : Attempt)
    (disk : Disk) : Prop :=
  ∃ plan cfg, attempt.plan keys codec path disk = .ok plan ∧ plan.written = some cfg ∧ 0 < attempt.stop

/-- The attempt writes the whole of a configuration. -/
def Saves (keys : Keys SecretKey) (codec : Codec) (path : String) (cfg : AppConfig) (disk : Disk)
    (attempt : Attempt) : Prop :=
  ∃ plan, attempt.plan keys codec path disk = .ok plan ∧ plan.written = some cfg ∧
    (savedBytes codec cfg).length < attempt.stop

theorem torn_save_refused (lawful : codec.Lawful) (planned : attempt.plan keys codec path disk = .ok plan)
    (written : plan.written = some cfg) (opened : 0 < attempt.stop)
    (short : attempt.stop ≤ (savedBytes codec cfg).length) :
    ∃ reason, load codec path (attempt.found keys codec path disk) = .error reason := by
  rcases interrupted_save_lost (lawful.unfinished cfg) planned written opened short with lost | lost
  · exact ⟨_, lost⟩
  · exact ⟨_, lost⟩

theorem found_unopened (closed : ¬ attempt.Opens keys codec path disk) :
    attempt.found keys codec path disk = disk := by
  cases planned : attempt.plan keys codec path disk with
  | error failure => rw [Attempt.found, planned]
  | ok plan =>
    rw [found_eq planned]
    cases written : plan.written with
    | none =>
      cases plan with
      | nothing => exact Interrupted.after_nil
      | save other => cases written
      | saveSensitive other => cases written
    | some cfg =>
      have before : attempt.stop = 0 :=
        Nat.eq_zero_of_not_pos fun opened => closed ⟨plan, cfg, planned, written, opened⟩
      rw [before]
      exact Interrupted.after_zero

/-- What has been written whole is loaded. -/
theorem found_saved (lawful : codec.Lawful) (saves : Saves keys codec path cfg disk attempt) :
    load codec path (attempt.found keys codec path disk) = .ok cfg := by
  obtain ⟨plan, planned, written, whole⟩ := saves
  have content := found_content planned written
  rw [if_neg (by omega), List.take_of_length_le (by omega)] at content
  exact load_of_content content (lawful.roundTrip cfg)

/-- What can be loaded once the file has been opened is what has been written. -/
theorem found_opened (lawful : codec.Lawful) (opens : attempt.Opens keys codec path disk)
    (loaded : load codec path (attempt.found keys codec path disk) = .ok cfg) :
    Saves keys codec path cfg disk attempt := by
  obtain ⟨plan, other, planned, written, opened⟩ := opens
  by_cases short : attempt.stop ≤ (savedBytes codec other).length
  · obtain ⟨reason, refused⟩ := torn_save_refused lawful planned written opened short
    rw [refused] at loaded
    cases loaded
  · have saves : Saves keys codec path other disk attempt := ⟨plan, planned, written, by omega⟩
    cases (found_saved lawful saves).symm.trans loaded
    exact saves

/-- What an attempt leaves to be loaded is what was there, or what it has written. -/
theorem found_loads (lawful : codec.Lawful)
    (loaded : load codec path (attempt.found keys codec path disk) = .ok cfg) :
    load codec path disk = .ok cfg ∨ Saves keys codec path cfg disk attempt := by
  by_cases opens : attempt.Opens keys codec path disk
  · exact .inr (found_opened lawful opens loaded)
  · rw [found_unopened opens] at loaded
    exact .inl loaded

/-- Wherever saves stop, a torn file is refused at the next start, and what is loaded after any
sequence of commands was there before or has been written whole by one of them. -/
theorem interrupted_saves_never_mislead (keys : Keys SecretKey) (codec : Codec) (lawful : codec.Lawful)
    (path : String) (disk : Disk) :
    (∀ (attempt : Attempt) (plan : Plan) (cfg : AppConfig),
      attempt.plan keys codec path disk = .ok plan → plan.written = some cfg →
      0 < attempt.stop → attempt.stop ≤ (savedBytes codec cfg).length →
      ∃ reason, load codec path (attempt.found keys codec path disk) = .error reason) ∧
    ∀ (attempts : List Attempt) (finish : Disk) (cfg : AppConfig),
      run (attemptStep keys codec path) disk attempts = some finish → load codec path finish = .ok cfg →
      load codec path disk = .ok cfg ∨
        Happened (attemptStep keys codec path) (Saves keys codec path cfg) disk attempts := by
  refine ⟨fun attempt plan cfg => torn_save_refused lawful, fun attempts finish cfg ran => ?_⟩
  refine run_preserves_history (fun past found => load codec path found = .ok cfg →
    load codec path disk = .ok cfg ∨
      Happened (attemptStep keys codec path) (Saves keys codec path cfg) disk past) ?_ .inl ran
  intro past before attempt after went ih stepped loaded
  cases stepped
  rcases found_loads lawful loaded with earlier | now
  · exact (ih earlier).imp_right fun happened => happened.later [attempt]
  · exact .inr (.now went now)

/-- A client that `save_sensitive` has written. -/
def savedDisk : Disk := some ⟨savedBytes plainJson.codec clientConfig, 0o600⟩

def refreshedConfig : AppConfig := clientConfig.withClientVersion "0.8.0"

theorem savedDisk_load : load plainJson.codec "config.json" savedDisk = .ok clientConfig :=
  load_of_content (by rw [savedDisk, Option.map_some]) (plainJson_lawful.roundTrip clientConfig)

theorem savedRefresh_plan (stop : ℕ) :
    (clientRefresh stop).plan pointKeys plainJson.codec "config.json" savedDisk =
      .ok (.saveSensitive refreshedConfig) := by
  have differ : VersionsDiffer clientProcess.clientVersion clientConfig :=
    ⟨(0, 7, 0), (0, 8, 0), by decide, by decide +kernel, by decide⟩
  have made : refreshUpdate pointKeys clientProcess.clientVersion clientConfig =
      .ok (pointSpki, { clientConfig.deviceIdentity with clientVersion := "0.8.0" }) := by decide
  obtain ⟨request, accepted⟩ := refreshRegistration_accepted differ made
    (clientProcess_enrollKey _ _ _)
  have planned : refresh pointKeys plainJson.codec "config.json" clientProcess savedDisk =
      .ok (.saveSensitive refreshedConfig) := refresh_of_accepted savedDisk_load accepted
  unfold Attempt.plan Operation.plan clientRefresh
  exact planned

/-- The refresh that gets to the end of its save. -/
def wholeRefresh : Attempt := clientRefresh ((savedBytes plainJson.codec refreshedConfig).length + 1)

theorem savedRefresh_saves {stop : ℕ} (whole : (savedBytes plainJson.codec refreshedConfig).length < stop) :
    Saves pointKeys plainJson.codec "config.json" refreshedConfig savedDisk (clientRefresh stop) :=
  ⟨.saveSensitive refreshedConfig, savedRefresh_plan stop, rfl, whole⟩

theorem wholeRefresh_saves :
    Saves pointKeys plainJson.codec "config.json" refreshedConfig savedDisk wholeRefresh :=
  savedRefresh_saves (Nat.lt_add_one _)

theorem savedRefresh_ran :
    run (attemptStep pointKeys plainJson.codec "config.json") savedDisk [wholeRefresh] =
      some (wholeRefresh.found pointKeys plainJson.codec "config.json" savedDisk) := rfl

theorem interrupted_saves_never_mislead_refresh :
    (∃ reason, load plainJson.codec "config.json"
      ((clientRefresh 1).found pointKeys plainJson.codec "config.json" savedDisk) = .error reason) ∧
    (load plainJson.codec "config.json" savedDisk = .ok refreshedConfig ∨
      Happened (attemptStep pointKeys plainJson.codec "config.json")
        (Saves pointKeys plainJson.codec "config.json" refreshedConfig) savedDisk [wholeRefresh]) := by
  obtain ⟨torn, loads⟩ :=
    interrupted_saves_never_mislead pointKeys plainJson.codec plainJson_lawful "config.json" savedDisk
  have filled : 0 < (savedBytes plainJson.codec refreshedConfig).length := by
    rw [List.length_pos_iff, savedBytes, Ne, encodeUtf8_eq_nil_iff]
    intro nothing
    have read := plainJson_lawful.roundTrip refreshedConfig
    rw [nothing] at read
    cases read
  exact ⟨torn _ _ _ (savedRefresh_plan 1) rfl Nat.one_pos filled,
    loads _ _ _ savedRefresh_ran (found_saved plainJson_lawful wholeRefresh_saves)⟩

end Interrupted

end Usque.Registration
