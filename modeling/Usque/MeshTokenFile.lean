import Usque.Lib.FileTree
import Usque.Mdm
import Usque.MeshToken

/-! The file of a Mesh node token (`api/mesh.rs`). The path is looked up twice, once to
check the file there and once to read it, so the check is about what is read only while
nobody makes the path lead elsewhere in between. -/
namespace Usque.Mesh

open FileTree Transition

/-! ## The reader -/

inductive Stage where
  | validating
  | opening
  | reading (file : FileId) (raw : Bytes)
  | ended (result : Except String MeshNodeToken)

section Reader

variable {DecodeError : Type} (engines : Engines DecodeError)
  (fromSlice : Bytes → Option Json.Value) (path : Path)

/-- What `validate_private_file` asks of the metadata. -/
def validatePrivateFile (found : Metadata) : Except String Unit :=
  if found.type ≠ .regular then
    .error ("Mesh node token path is not a regular file: " ++ path.display)
  else if found.mode &&& 0o077 ≠ 0 then
    .error ("Mesh node token file must not be accessible by group or others (use chmod 600 " ++
      path.display ++ ")")
  else .ok ()

/-- What is made of a file that has been read to its end. -/
def parseFile (raw : Bytes) : Except String MeshNodeToken :=
  match text raw with
  | none => .error ("failed to read Mesh node token file " ++ path.display)
  | some encoded => parse engines fromSlice (Mdm.trim encoded)

def pending : Stage → Option Call
  | .validating => some (.metadata path true)
  | .opening => some (.openFile path false)
  | .reading file raw => some (.read file raw.length none)
  | .ended _ => none

def resume : Stage → Reply → Stage
  | .validating, .metadata found =>
    match validatePrivateFile path found with
    | .ok () => .opening
    | .error reason => .ended (.error reason)
  | .validating, _ => .ended (.error ("failed to inspect Mesh node token file " ++ path.display))
  | .opening, .opened file => .reading file []
  | .opening, _ => .ended (.error ("failed to read Mesh node token file " ++ path.display))
  | .reading file raw, .chunk bytes =>
    if bytes = [] then .ended (parseFile engines fromSlice path raw)
    else .reading file (raw ++ bytes)
  | .reading _ _, _ => .ended (.error ("failed to read Mesh node token file " ++ path.display))
  | .ended result, _ => .ended result

/-- `MeshNodeToken::read`. -/
def reader : Reader Stage := ⟨pending path, resume engines fromSlice path⟩

def start (fs : FileSystem) : State Stage := ⟨fs, .validating, []⟩

end Reader

/-! ## The check and the reads -/

/-- At the time of a check the path led to `file`, a regular file without access for group
or others. -/
def CheckedPrivate (path : Path) (log : List Entry) (file : FileId) : Prop :=
  ∃ check ∈ log, check.call = .metadata path true ∧ check.fs.resolve path true = some file ∧
    file.type = .regular ∧ check.fs.mode file &&& 0o077 = 0

/-- Nothing is read but what has been checked. -/
def ReadsChecked (path : Path) (log : List Entry) : Prop :=
  ∀ entry ∈ log, ∀ file offset limit, entry.call = .read file offset limit →
    CheckedPrivate path log file

/-- While the path waits to be opened, no other process makes it lead elsewhere. -/
def Undisturbed (path : Path) (s : State Stage) (label : Label) : Prop :=
  ∀ fs, label = .other fs → s.stage = .opening → fs.resolve path true = s.fs.resolve path true

section

variable {DecodeError : Type} {engines : Engines DecodeError}
  {fromSlice : Bytes → Option Json.Value} {path : Path} {log more : List Entry} {entry : Entry}
  {file : FileId} {fs : FileSystem} {s next : State Stage} {label : Label} {labels : List Label}

theorem CheckedPrivate.append (checked : CheckedPrivate path log file) :
    CheckedPrivate path (log ++ more) file := by
  obtain ⟨check, member, found⟩ := checked
  exact ⟨check, List.mem_append_left _ member, found⟩

theorem ReadsChecked.append (checked : ReadsChecked path log)
    (last : ∀ file offset limit, entry.call = .read file offset limit → CheckedPrivate path log file) :
    ReadsChecked path (log ++ [entry]) := by
  intro other member file offset limit reads
  rcases List.mem_append.mp member with early | late
  · exact (checked other early file offset limit reads).append
  · cases List.mem_singleton.mp late
    exact (last file offset limit reads).append

theorem validatePrivateFile_eq_ok_iff {found : Metadata} :
    validatePrivateFile path found = .ok () ↔ found.type = .regular ∧ found.mode &&& 0o077 = 0 := by
  unfold validatePrivateFile
  by_cases regular : found.type = .regular
  · by_cases closed : found.mode &&& 0o077 = 0
    · simp [regular, closed]
    · simp [regular, closed]
  · simp [regular]

/-- What is known at each stage. -/
def Standing (engines : Engines DecodeError) (fromSlice : Bytes → Option Json.Value) (path : Path)
    (fs : FileSystem) (log : List Entry) : Stage → Prop
  | .validating => log = []
  | .opening => ∃ file, CheckedPrivate path log file ∧ fs.resolve path true = some file
  | .reading file raw => CheckedPrivate path log file ∧
      ∃ before reads, log = before ++ reads ∧ Reads file raw reads
  | .ended (.ok token) => ∃ file raw before reads, CheckedPrivate path log file ∧
      log = before ++ reads ∧ Reads file raw reads ∧
      parseFile engines fromSlice path raw = .ok token
  | .ended (.error _) => True

/-- A reply from a tree in which the path still leads to the checked file keeps the
reader at that file. -/
theorem standing_reply {stage : Stage} {call : Call} {reply : Reply} (checked : ReadsChecked path log)
    (standing : Standing engines fromSlice path fs log stage) (waiting : pending path stage = some call)
    (answered : fs.Answers call reply) :
    ReadsChecked path (log ++ [⟨call, fs, reply⟩]) ∧
      Standing engines fromSlice path fs (log ++ [⟨call, fs, reply⟩])
        (resume engines fromSlice path stage reply) := by
  cases stage with
  | validating =>
    cases waiting
    refine ⟨checked.append (by intro _ _ _ other; cases other), ?_⟩
    cases reply with
    | metadata found =>
      obtain ⟨file, resolved, rfl⟩ := Option.map_eq_some_iff.mp answered
      simp only [resume]
      cases valid : validatePrivateFile path (fs.metadata file) with
      | error reason => trivial
      | ok done =>
        obtain ⟨regular, closed⟩ := validatePrivateFile_eq_ok_iff.mp valid
        exact ⟨file, ⟨_, List.mem_append_right _ (List.mem_singleton_self _), rfl, resolved, regular, closed⟩,
          resolved⟩
    | failed => trivial
    | opened file => trivial
    | chunk bytes => trivial
  | opening =>
    cases waiting
    refine ⟨checked.append (by intro _ _ _ other; cases other), ?_⟩
    cases reply with
    | opened file =>
      obtain ⟨found, private_, leads⟩ := standing
      have same : found = file := Option.some.inj (leads.symm.trans (openFile_resolves answered).1)
      subst same
      exact ⟨private_.append, _, [], (List.append_nil _).symm, .nil⟩
    | failed => trivial
    | metadata found => trivial
    | chunk bytes => trivial
  | reading file raw =>
    cases waiting
    obtain ⟨private_, before, reads, rfl, read⟩ := standing
    refine ⟨checked.append fun other offset limit same => ?_, ?_⟩
    · cases same
      exact private_
    · cases reply with
      | chunk bytes =>
        have further := read.read answered
        simp only [resume]
        split
        · rename_i none
          subst none
          rw [List.append_nil] at further
          cases parsed : parseFile engines fromSlice path raw with
          | error reason => trivial
          | ok token =>
            exact ⟨file, raw, before, _, private_.append, List.append_assoc .., further, parsed⟩
        · exact ⟨private_.append, before, _, List.append_assoc .., further⟩
      | failed => trivial
      | metadata found => trivial
      | opened other => trivial
  | ended result => cases waiting

theorem standing_next (checked : ReadsChecked path s.log)
    (standing : Standing engines fromSlice path s.fs s.log s.stage)
    (undisturbed : Undisturbed path s label)
    (stepped : (reader engines fromSlice path).step s label = some next) :
    ReadsChecked path next.log ∧ Standing engines fromSlice path next.fs next.log next.stage := by
  rcases step_cases stepped with ⟨fs, rfl, rfl⟩ | ⟨call, reply, rfl, waiting, answered, rfl⟩
  · refine ⟨checked, ?_⟩
    cases stage : s.stage with
    | opening =>
      rw [stage] at standing
      obtain ⟨file, found, resolved⟩ := standing
      exact ⟨file, found, (undisturbed fs rfl stage).trans resolved⟩
    | validating => rwa [stage] at standing
    | reading file raw => rwa [stage] at standing
    | ended result =>
      rw [stage] at standing
      cases result <;> exact standing
  · exact standing_reply checked standing waiting answered

/-- As long as nobody makes the path lead elsewhere between the check and the opening, the
file that is read is the one that has been checked, and a token is parsed from the text of
that file. -/
theorem token_read_from_checked_file {DecodeError : Type} (engines : Engines DecodeError)
    (fromSlice : Bytes → Option Json.Value) (path : Path) (fs : FileSystem) (labels : List Label)
    (s : State Stage)
    (undisturbed : Along (reader engines fromSlice path).step (Undisturbed path) (start fs) labels)
    (ran : run (reader engines fromSlice path).step (start fs) labels = some s) :
    ReadsChecked path s.log ∧ ∀ token, s.stage = .ended (.ok token) →
      ∃ file raw before reads, CheckedPrivate path s.log file ∧ s.log = before ++ reads ∧
        Reads file raw reads ∧ parseFile engines fromSlice path raw = .ok token := by
  have held : ReadsChecked path s.log ∧ Standing engines fromSlice path s.fs s.log s.stage := by
    refine run_preserves_along
      (fun s => ReadsChecked path s.log ∧ Standing engines fromSlice path s.fs s.log s.stage) ?_ ?_
      undisturbed ran
    · intro s label next before met stepped
      exact standing_next before.1 before.2 met stepped
    · exact ⟨fun _ member => (List.not_mem_nil member).elim, rfl⟩
  refine ⟨held.1, fun token ended => ?_⟩
  have standing := held.2
  rw [ended] at standing
  exact standing

end

/-! ## A path that is relinked -/

theorem dropWhile_whitespace {text : List Char} (plain : ∀ c ∈ text, Mdm.isWhitespace c = false) :
    text.dropWhile Mdm.isWhitespace = text := by
  cases text with
  | nil => rfl
  | cons c rest =>
    rw [List.dropWhile_cons_of_neg]
    simp [plain c]

theorem trim_eq_self {text : String} (plain : ∀ c ∈ text.toList, Mdm.isWhitespace c = false) :
    Mdm.trim text = text := by
  unfold Mdm.trim List.rdropWhile
  rw [dropWhile_whitespace plain, dropWhile_whitespace (fun c member => plain c (List.mem_reverse.mp member)),
    List.reverse_reverse, String.ofList_toList]

/-- An encoding has no white space around it. -/
theorem trim_encode (variant : Variant) (bytes : Bytes) :
    Mdm.trim (variant.encode bytes) = variant.encode bytes := by
  have plain : ∀ variant : Variant, ∀ i, Mdm.isWhitespace (variant.alphabet.char i) = false := by
    intro variant
    cases variant <;> decide
  apply trim_eq_self
  intro c member
  rw [Variant.encode, String.toList_ofList] at member
  rcases Base64.mem_encode member with rfl | ⟨i, rfl⟩
  · decide
  · exact plain variant i

def tokenPath : Path := ⟨"/token", true, ["token"]⟩

/-- The administrator's token. -/
def ownToken : FileId := ⟨.regular, 1⟩

/-- A file that everyone may write to. -/
def plantedToken : FileId := ⟨.regular, 2⟩

def plantedLink : FileId := ⟨.symlink, 3⟩

def plantedSecret : String := Variant.standard.encode (List.replicate 32 0)

def plantedTag : String := "0123456789abcdef0123456789abcdef"

def plantedTunnel : String := "01234567-89ab-cdef-0123-456789abcdef"

def plantedJson : String :=
  "\x7b\"a\":\"" ++ plantedTag ++ "\",\"t\":\"" ++ plantedTunnel ++ "\",\"s\":\"" ++ plantedSecret ++ "\"\x7d"

def plantedPayload : Bytes := plantedJson.toByteArray.data.toList

def plantedText : String := Variant.standard.encode plantedPayload

def plantedBytes : Bytes := plantedText.toByteArray.data.toList

/-- serde_json on the planted payload. -/
def plantedFromSlice (text : Bytes) : Option Json.Value :=
  if text = plantedPayload then
    some (.object [("a", .string plantedTag), ("t", .string plantedTunnel), ("s", .string plantedSecret)])
  else none

/-- The tree with `leads` as the file that the path names. -/
def treeOf (leads : FileId) (plantedMode : UInt32) : FileSystem where
  root := ⟨.directory, 0⟩
  workingDirectory := ⟨.directory, 0⟩
  entries _ := [("token", leads), ("planted", plantedToken)]
  target _ := ⟨"planted", false, ["planted"]⟩
  content file := if file = plantedToken then plantedBytes else []
  mode file := if file = plantedToken then plantedMode else 0o600
  uid _ := 1001

/-- A text that passes every check is parsed. -/
theorem parse_of_valid {DecodeError : Type} {engines : Engines DecodeError}
    {fromSlice : Bytes → Option Json.Value} {encoded : String} {decoded secret : Bytes}
    {payload : TokenPayload} (filled : encoded ≠ "") (decodes : decodeToken engines encoded = .ok decoded)
    (read : (fromSlice decoded).bind TokenPayload.read = some payload)
    (tag : isAccountTag payload.accountTag = true) (tunnel : isUuidLike payload.tunnelId = true)
    (secretDecodes : decodeToken engines payload.tunnelSecret = .ok secret) (long : 32 ≤ secret.length) :
    parse engines fromSlice encoded = .ok ⟨encoded, payload.accountTag, payload.tunnelId⟩ := by
  unfold parse
  rw [if_neg filled, decodes]
  dsimp only
  rw [read]
  dsimp only
  rw [if_neg (by simp [tag]), if_neg (by simp [tunnel]), secretDecodes]
  dsimp only
  rw [if_neg (Nat.not_lt.mpr long)]

theorem parseFile_of_text {DecodeError : Type} {engines : Engines DecodeError}
    {fromSlice : Bytes → Option Json.Value} {path : Path} {raw : Bytes} {encoded : String}
    (decoded : text raw = some encoded) (trimmed : Mdm.trim encoded = encoded) :
    parseFile engines fromSlice path raw = parse engines fromSlice encoded := by
  unfold parseFile
  rw [decoded]
  dsimp only
  rw [trimmed]

theorem decodeToken_encode (bytes : Bytes) :
    decodeToken strictEngines (Variant.standard.encode bytes) = .ok bytes := by
  unfold decodeToken
  rw [(strictEngines_strict .standard _ bytes).mpr rfl]
  rfl

theorem plantedText_ne_empty : plantedText ≠ "" := by
  have json : plantedJson ≠ "" := by
    unfold plantedJson
    simp [String.append_eq_empty_iff]
  intro empty
  have none := congrArg String.toList empty
  rw [plantedText, Variant.encode, String.toList_ofList, String.toList_empty,
    Base64.encode_eq_nil_iff] at none
  have blank : text [] = some "" := text_toByteArray ""
  have back : text plantedPayload = some plantedJson := text_toByteArray plantedJson
  rw [none, blank] at back
  exact json (Option.some.inj back).symm

theorem plantedBytes_text : text plantedBytes = some plantedText := text_toByteArray plantedText

theorem plantedPayload_read : (plantedFromSlice plantedPayload).bind TokenPayload.read =
    some ⟨plantedTag, plantedTunnel, plantedSecret⟩ := by
  rw [plantedFromSlice, if_pos rfl]
  rfl

theorem plantedFile_parsed :
    parseFile strictEngines plantedFromSlice tokenPath plantedBytes =
      .ok ⟨plantedText, plantedTag, plantedTunnel⟩ := by
  rw [parseFile_of_text plantedBytes_text (trim_encode _ _)]
  exact parse_of_valid plantedText_ne_empty (decodeToken_encode _) plantedPayload_read
    (by decide) (by decide +kernel) (decodeToken_encode _) (by simp)

theorem treeOf_planted (leads : FileId) (mode : UInt32) : (treeOf leads mode).content plantedToken = plantedBytes := by
  simp [treeOf]

def relinked : List Label :=
  [.reply (.metadata ((treeOf ownToken 0o666).metadata ownToken)), .other (treeOf plantedLink 0o666),
    .reply (.opened plantedToken), .reply (.chunk plantedBytes), .reply (.chunk [])]

def relinkedLog : List Entry :=
  [⟨.metadata tokenPath true, treeOf ownToken 0o666, .metadata ((treeOf ownToken 0o666).metadata ownToken)⟩,
    ⟨.openFile tokenPath false, treeOf plantedLink 0o666, .opened plantedToken⟩,
    ⟨.read plantedToken 0 none, treeOf plantedLink 0o666, .chunk plantedBytes⟩,
    ⟨.read plantedToken plantedBytes.length none, treeOf plantedLink 0o666, .chunk []⟩]

theorem planted_delivered (leads : FileId) (mode : UInt32) :
    (treeOf leads mode).Delivers plantedToken 0 none plantedBytes := by
  refine ⟨nofun, ?_, fun empty => ?_⟩
  · rw [treeOf_planted]
    exact List.prefix_rfl
  · rw [treeOf_planted, empty]
    exact Nat.le_refl 0

theorem planted_ends (leads : FileId) (mode : UInt32) :
    (treeOf leads mode).Delivers plantedToken plantedBytes.length none [] := by
  refine ⟨nofun, List.nil_prefix, fun _ => ?_⟩
  rw [treeOf_planted]

theorem plantedBytes_ne_nil : plantedBytes ≠ [] := by
  intro empty
  have blank : text [] = some "" := text_toByteArray ""
  have back := plantedBytes_text
  rw [empty, blank] at back
  exact plantedText_ne_empty (Option.some.inj back).symm

theorem planted_read : (reader strictEngines plantedFromSlice tokenPath).resume
    (.reading plantedToken []) (.chunk plantedBytes) = .reading plantedToken plantedBytes := by
  simp [reader, resume, plantedBytes_ne_nil]

theorem planted_ended : (reader strictEngines plantedFromSlice tokenPath).resume
    (.reading plantedToken plantedBytes) (.chunk []) =
      .ended (.ok ⟨plantedText, plantedTag, plantedTunnel⟩) := by
  simp only [reader, resume, if_pos, plantedFile_parsed]

/-- The token of a file that everyone may write to is taken: the path has led to the
administrator's file until the check. -/
theorem relinked_token_taken :
    ∃ s, run (reader strictEngines plantedFromSlice tokenPath).step (start (treeOf ownToken 0o666)) relinked =
        some s ∧
      s.stage = .ended (.ok ⟨plantedText, plantedTag, plantedTunnel⟩) ∧ ¬ ReadsChecked tokenPath s.log := by
  have own : (treeOf ownToken 0o666).resolve tokenPath true = some ownToken := by rfl
  have planted : (treeOf plantedLink 0o666).openFile tokenPath false = some plantedToken := by rfl
  let r := reader strictEngines plantedFromSlice tokenPath
  have checked : r.step (start (treeOf ownToken 0o666))
      (.reply (.metadata ((treeOf ownToken 0o666).metadata ownToken))) =
        some ⟨treeOf ownToken 0o666, .opening, relinkedLog.take 1⟩ :=
    step_reply rfl (congrArg _ own) rfl
  have moved : r.step ⟨treeOf ownToken 0o666, .opening, relinkedLog.take 1⟩
      (.other (treeOf plantedLink 0o666)) =
        some ⟨treeOf plantedLink 0o666, .opening, relinkedLog.take 1⟩ := rfl
  have opened : r.step ⟨treeOf plantedLink 0o666, .opening, relinkedLog.take 1⟩
      (.reply (.opened plantedToken)) =
        some ⟨treeOf plantedLink 0o666, .reading plantedToken [], relinkedLog.take 2⟩ :=
    step_reply rfl planted rfl
  have read : r.step ⟨treeOf plantedLink 0o666, .reading plantedToken [], relinkedLog.take 2⟩
      (.reply (.chunk plantedBytes)) =
        some ⟨treeOf plantedLink 0o666, .reading plantedToken plantedBytes, relinkedLog.take 3⟩ :=
    step_reply rfl (planted_delivered _ _) planted_read
  have ended : r.step ⟨treeOf plantedLink 0o666, .reading plantedToken plantedBytes, relinkedLog.take 3⟩
      (.reply (.chunk [])) =
        some ⟨treeOf plantedLink 0o666, .ended (.ok ⟨plantedText, plantedTag, plantedTunnel⟩),
          relinkedLog⟩ :=
    step_reply rfl (planted_ends _ _) planted_ended
  have ran := run_cons_iff.mpr ⟨_, checked, run_cons_iff.mpr ⟨_, moved, run_cons_iff.mpr ⟨_, opened,
    run_cons_iff.mpr ⟨_, read, run_cons_iff.mpr ⟨_, ended, run_nil⟩⟩⟩⟩⟩
  refine ⟨_, ran, rfl, fun held => ?_⟩
  have reads : ⟨.read plantedToken 0 none, treeOf plantedLink 0o666, .chunk plantedBytes⟩ ∈ relinkedLog := by
    simp [relinkedLog]
  obtain ⟨check, member, looked, resolved, -⟩ := held _ reads plantedToken 0 none rfl
  -- The one check of the log has met the administrator's file.
  simp only [relinkedLog, List.mem_cons, List.not_mem_nil, or_false] at member
  rcases member with rfl | rfl | rfl | rfl
  · have other := Option.some.inj (own.symm.trans resolved)
    cases other
  · cases looked
  · cases looked
  · cases looked

/-- The tree in which nobody else may use the file of that token. -/
def closedTree : FileSystem := treeOf plantedToken 0o600

def closedLog : List Entry :=
  [⟨.metadata tokenPath true, closedTree, .metadata (closedTree.metadata plantedToken)⟩,
    ⟨.openFile tokenPath false, closedTree, .opened plantedToken⟩,
    ⟨.read plantedToken 0 none, closedTree, .chunk plantedBytes⟩,
    ⟨.read plantedToken plantedBytes.length none, treeOf ownToken 0o666, .chunk []⟩]

def closed : List Label :=
  [.reply (.metadata (closedTree.metadata plantedToken)), .reply (.opened plantedToken),
    .reply (.chunk plantedBytes), .other (treeOf ownToken 0o666), .reply (.chunk [])]

/-- A reply is no step of another process. -/
theorem undisturbed_reply {path : Path} {s : State Stage} {reply : Reply} :
    Undisturbed path s (.reply reply) := by
  intro fs other
  cases other

/-- A path that is relinked behind the opening does not matter. -/
theorem token_read_from_checked_file_small : ReadsChecked tokenPath closedLog ∧
    ∃ file raw before reads, CheckedPrivate tokenPath closedLog file ∧ closedLog = before ++ reads ∧
      Reads file raw reads ∧ parseFile strictEngines plantedFromSlice tokenPath raw =
        .ok ⟨plantedText, plantedTag, plantedTunnel⟩ := by
  have leads : closedTree.resolve tokenPath true = some plantedToken := by rfl
  have opens : closedTree.openFile tokenPath false = some plantedToken := by rfl
  let r := reader strictEngines plantedFromSlice tokenPath
  have checked : r.step (start closedTree) (.reply (.metadata (closedTree.metadata plantedToken))) =
      some ⟨closedTree, .opening, closedLog.take 1⟩ := step_reply rfl (congrArg _ leads) rfl
  have opened : r.step ⟨closedTree, .opening, closedLog.take 1⟩ (.reply (.opened plantedToken)) =
      some ⟨closedTree, .reading plantedToken [], closedLog.take 2⟩ := step_reply rfl opens rfl
  have read : r.step ⟨closedTree, .reading plantedToken [], closedLog.take 2⟩
      (.reply (.chunk plantedBytes)) =
        some ⟨closedTree, .reading plantedToken plantedBytes, closedLog.take 3⟩ :=
    step_reply rfl (planted_delivered _ _) planted_read
  have moved : r.step ⟨closedTree, .reading plantedToken plantedBytes, closedLog.take 3⟩
      (.other (treeOf ownToken 0o666)) =
        some ⟨treeOf ownToken 0o666, .reading plantedToken plantedBytes, closedLog.take 3⟩ := rfl
  have ended : r.step ⟨treeOf ownToken 0o666, .reading plantedToken plantedBytes, closedLog.take 3⟩
      (.reply (.chunk [])) =
        some ⟨treeOf ownToken 0o666, .ended (.ok ⟨plantedText, plantedTag, plantedTunnel⟩), closedLog⟩ :=
    step_reply rfl (planted_ends _ _) planted_ended
  have ran := run_cons_iff.mpr ⟨_, checked, run_cons_iff.mpr ⟨_, opened, run_cons_iff.mpr ⟨_, read,
    run_cons_iff.mpr ⟨_, moved, run_cons_iff.mpr ⟨_, ended, run_nil⟩⟩⟩⟩⟩
  have undisturbed : Along r.step (Undisturbed tokenPath) (start closedTree) closed :=
    .cons undisturbed_reply checked (.cons undisturbed_reply opened (.cons undisturbed_reply read
      (.cons (fun _ _ waiting => nomatch waiting) moved (.cons undisturbed_reply ended trivial))))
  have kept := token_read_from_checked_file strictEngines plantedFromSlice tokenPath closedTree closed
    _ undisturbed ran
  exact ⟨kept.1, kept.2 _ rfl⟩

end Usque.Mesh
