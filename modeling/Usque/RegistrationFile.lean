import Usque.Lib.FileTree
import Usque.Mdm
import Usque.Packet

/-! The private files of a registration (`commands.rs`). The path is looked up twice, but
everything that matters is asked of the descriptor the second lookup has opened: no other
process can change what that one refers to. -/
namespace Usque.Registration

open FileTree Transition

/-! ## The reader -/

inductive FileStage where
  | inspecting
  | opening
  | checking (file : FileId)
  | reading (file : FileId) (raw : Bytes)
  | ended (result : Except String String)

section Reader

variable (path : Path) (description : String) (effectiveUid : UInt32)

/-- What is asked of the open file. -/
def checkOpened (found : Metadata) : Except String Unit :=
  if found.type ≠ .regular then .error (description ++ " path is not a regular file")
  else if found.len > 64 * 1024 then .error (description ++ " file exceeds 64 KiB")
  else if found.uid ≠ effectiveUid then
    .error (description ++ " file must be owned by the current effective user")
  else if found.mode &&& 0o077 ≠ 0 then
    .error (description ++ " file must not be accessible by group or others (use chmod 600 " ++
      path.display ++ ")")
  else .ok ()

/-- What is made of the bytes that `read_to_string` has got. -/
def trimmedText (raw : Bytes) : Except String String :=
  match text raw with
  | none => .error ("failed to read " ++ description ++ " file " ++ path.display)
  | some value =>
    if value.utf8ByteSize > 64 * 1024 then .error (description ++ " file exceeds 64 KiB")
    else if Mdm.trim value = "" then .error (description ++ " file is empty")
    else .ok (Mdm.trim value)

def FileStage.pending : FileStage → Option Call
  | .inspecting => some (.metadata path false)
  | .opening => some (.openFile path true)
  | .checking file => some (.fileMetadata file)
  | .reading file raw => some (.read file raw.length (some (64 * 1024 + 1 - raw.length)))
  | .ended _ => none

def FileStage.resume : FileStage → Reply → FileStage
  | .inspecting, .metadata found =>
    if found.type = .symlink ∨ found.type ≠ .regular then
      .ended (.error (description ++ " path is not a non-symlink regular file: " ++ path.display))
    else .opening
  | .inspecting, _ => .ended (.error ("failed to inspect " ++ description ++ " file " ++ path.display))
  | .opening, .opened file => .checking file
  | .opening, _ => .ended (.error ("failed to open " ++ description ++ " file " ++ path.display))
  | .checking file, .metadata found =>
    match checkOpened path description effectiveUid found with
    | .ok () => .reading file []
    | .error reason => .ended (.error reason)
  | .checking _, _ =>
    .ended (.error ("failed to inspect open " ++ description ++ " file " ++ path.display))
  | .reading file raw, .chunk bytes =>
    -- `take` ends the file behind its limit without another call
    if bytes = [] ∨ (raw ++ bytes).length = 64 * 1024 + 1 then
      .ended (trimmedText path description (raw ++ bytes))
    else .reading file (raw ++ bytes)
  | .reading _ _, _ => .ended (.error ("failed to read " ++ description ++ " file " ++ path.display))
  | .ended result, _ => .ended result

/-- `read_private_registration_text`, behind the check of the path itself. -/
def fileReader : Reader FileStage :=
  ⟨FileStage.pending path, FileStage.resume path description effectiveUid⟩

def startReading (fs : FileSystem) : State FileStage where
  fs := fs
  stage :=
    if path.absolute then .inspecting
    else .ended (.error (description ++ " file path must be absolute: " ++ path.display))
  log := []

end Reader

/-! ## What has been read -/

/-- `file` has been opened without following a symlink, and found open to its owner, the
effective user, alone. -/
structure OpenedPrivately (path : Path) (effectiveUid : UInt32) (file : FileId)
    (opened checked : Entry) : Prop where
  call : opened.call = .openFile path true
  reply : opened.reply = .opened file
  resolved : opened.fs.resolve path false = some file
  inspected : checked.call = .fileMetadata file
  regular : file.type = .regular
  owned : checked.fs.uid file = effectiveUid
  closed : checked.fs.mode file &&& 0o077 = 0

/-- `result` is the text of one private file, read from its start until nothing was left. -/
def ReadPrivately (path : Path) (effectiveUid : UInt32) (log : List Entry) (result : String) : Prop :=
  ∃ file inspected opened checked reads raw value last,
    log = inspected :: opened :: checked :: (reads ++ [last]) ∧
    OpenedPrivately path effectiveUid file opened checked ∧
    Reads file raw (reads ++ [last]) ∧ raw.length ≤ 64 * 1024 ∧
    (last.fs.content file).length ≤ raw.length ∧
    ((∀ entry ∈ reads, entry.fs.content file <+: last.fs.content file) → last.fs.content file = raw) ∧
    text raw = some value ∧ result = Mdm.trim value ∧ result ≠ ""

variable {path : Path} {description : String} {effectiveUid : UInt32} {fs : FileSystem}
  {log : List Entry} {file : FileId} {raw bytes : Bytes} {result : String}

theorem checkOpened_eq_ok_iff {found : Metadata} :
    checkOpened path description effectiveUid found = .ok () ↔
      found.type = .regular ∧ found.len ≤ 64 * 1024 ∧ found.uid = effectiveUid ∧
        found.mode &&& 0o077 = 0 := by
  unfold checkOpened
  by_cases regular : found.type = .regular
  · by_cases long : found.len > 64 * 1024
    · simp [regular, long, Nat.not_le.mpr long]
    · by_cases owned : found.uid = effectiveUid
      · by_cases closed : found.mode &&& 0o077 = 0
        · simp [regular, owned, closed, long, Nat.not_lt.mp long]
        · simp [regular, long, owned, closed]
      · simp [regular, long, owned]
  · simp [regular]

theorem trimmedText_eq_ok_iff :
    trimmedText path description raw = .ok result ↔
      ∃ value, text raw = some value ∧ raw.length ≤ 64 * 1024 ∧ result = Mdm.trim value ∧
        result ≠ "" := by
  unfold trimmedText
  cases decoded : text raw with
  | none => simp
  | some value =>
    simp only [text_size decoded, Option.some.injEq, exists_eq_left']
    by_cases long : raw.length > 64 * 1024
    · simp [long, Nat.not_le.mpr long]
    · by_cases empty : Mdm.trim value = ""
      · simp [long, empty]
      · simp only [if_neg long, if_neg empty, Except.ok.injEq]
        constructor
        · rintro rfl
          exact ⟨Nat.not_lt.mp long, rfl, empty⟩
        · rintro ⟨-, same, -⟩
          exact same.symm

/-- What is known at each stage. -/
def FileStanding (path : Path) (effectiveUid : UInt32) (log : List Entry) : FileStage → Prop
  | .inspecting => path.absolute = true ∧ log = []
  | .opening => path.absolute = true ∧ ∃ inspected, log = [inspected]
  | .checking file => path.absolute = true ∧ ∃ inspected opened, log = [inspected, opened] ∧
      opened.call = .openFile path true ∧ opened.reply = .opened file ∧
      opened.fs.resolve path false = some file
  | .reading file raw => path.absolute = true ∧ ∃ inspected opened checked reads,
      log = inspected :: opened :: checked :: reads ∧
      OpenedPrivately path effectiveUid file opened checked ∧ Reads file raw reads
  | .ended (.ok result) => path.absolute = true ∧ ReadPrivately path effectiveUid log result
  | .ended (.error _) => True

/-- The end of the file has been seen, and the text is that of what has been read. -/
theorem readPrivately_of_end {inspected opened checked : Entry} {reads : List Entry} {limit : Option ℕ}
    (private_ : OpenedPrivately path effectiveUid file opened checked) (read : Reads file raw reads)
    (delivered : fs.Delivers file raw.length limit [])
    (trimmed : trimmedText path description raw = .ok result) :
    ReadPrivately path effectiveUid
      (inspected :: opened :: checked :: reads ++ [⟨.read file raw.length limit, fs, .chunk []⟩]) result := by
  obtain ⟨value, decoded, short, same, filled⟩ := trimmedText_eq_ok_iff.mp trimmed
  have whole := delivers_nil delivered private_.regular
  have last := read.read delivered
  rw [List.append_nil] at last
  refine ⟨file, inspected, opened, checked, reads, raw, value, _, rfl, private_, last, short, whole, ?_,
    decoded, same, filled⟩
  intro grown
  have front : raw <+: fs.content file := read.isPrefix private_.regular grown
  exact (front.eq_of_length_le whole).symm

theorem fileStanding_reply {stage : FileStage} {call : Call} {reply : Reply}
    (standing : FileStanding path effectiveUid log stage) (waiting : stage.pending path = some call)
    (answered : fs.Answers call reply) :
    FileStanding path effectiveUid (log ++ [⟨call, fs, reply⟩])
      (stage.resume path description effectiveUid reply) := by
  cases stage with
  | inspecting =>
    cases waiting
    obtain ⟨absolute, rfl⟩ := standing
    cases reply with
    | metadata found =>
      simp only [FileStage.resume]
      split
      · trivial
      · exact ⟨absolute, _, rfl⟩
    | failed => trivial
    | opened file => trivial
    | chunk bytes => trivial
  | opening =>
    cases waiting
    obtain ⟨absolute, inspected, rfl⟩ := standing
    cases reply with
    | opened file => exact ⟨absolute, inspected, _, rfl, rfl, rfl, (openFile_resolves answered).1⟩
    | failed => trivial
    | metadata found => trivial
    | chunk bytes => trivial
  | checking file =>
    cases waiting
    obtain ⟨absolute, inspected, opened, rfl, asked, given, resolved⟩ := standing
    cases reply with
    | metadata found =>
      simp only [FileStage.resume]
      cases valid : checkOpened path description effectiveUid found with
      | error reason => trivial
      | ok done =>
        cases answered
        obtain ⟨regular, -, owned, closed⟩ := checkOpened_eq_ok_iff.mp valid
        exact ⟨absolute, inspected, opened, _, [], rfl,
          ⟨asked, given, resolved, rfl, regular, owned, closed⟩, .nil⟩
    | failed => trivial
    | opened other => trivial
    | chunk bytes => trivial
  | reading file raw =>
    cases waiting
    obtain ⟨absolute, inspected, opened, checked, reads, rfl, private_, read⟩ := standing
    cases reply with
    | chunk bytes =>
      simp only [FileStage.resume]
      split
      · rename_i last
        cases trimmed : trimmedText path description (raw ++ bytes) with
        | error reason => trivial
        | ok result =>
          refine ⟨absolute, ?_⟩
          rcases last with rfl | full
          · rw [List.append_nil] at trimmed
            exact readPrivately_of_end private_ read answered trimmed
          · -- a file longer than the limit is refused, not cut
            obtain ⟨-, -, short, -⟩ := trimmedText_eq_ok_iff.mp trimmed
            omega
      · exact ⟨absolute, inspected, opened, checked, _, rfl, private_, read.read answered⟩
    | failed => trivial
    | metadata found => trivial
    | opened other => trivial
  | ended result => cases waiting

/-- A text that is returned has been read, whatever other processes do to the path and the
file meanwhile, from one open private file to its end. -/
theorem private_text_read (path : Path) (description : String) (effectiveUid : UInt32) (fs : FileSystem)
    (labels : List Label) (s : State FileStage) (result : String)
    (ran : run (fileReader path description effectiveUid).step (startReading path description fs) labels =
      some s) (ended : s.stage = .ended (.ok result)) :
    path.absolute = true ∧ ReadPrivately path effectiveUid s.log result := by
  have standing : FileStanding path effectiveUid s.log s.stage := by
    refine run_preserves_log (fun stage log => FileStanding path effectiveUid log stage) ?_ ?_ ran
    · intro stage log call fs reply before waiting answered
      exact fileStanding_reply before waiting answered
    · unfold startReading
      dsimp only
      split
      · rename_i absolute
        exact ⟨absolute, rfl⟩
      · trivial
  rw [ended] at standing
  exact standing

/-! ## A file that grows -/

def jwtPath : Path := ⟨"/jwt", true, ["jwt"]⟩

def jwtFile : FileId := ⟨.regular, 1⟩

/-- The tree with `leads` as the file that the path names and `content` in the JWT's own. -/
def jwtTree (leads : FileId) (content : Bytes) : FileSystem where
  root := ⟨.directory, 0⟩
  workingDirectory := ⟨.directory, 0⟩
  entries _ := [("jwt", leads)]
  target _ := jwtPath
  content file := if file = jwtFile then content else []
  mode _ := 0o600
  uid _ := 1001

/-- While the file is read, it grows by a letter and the path becomes a symlink. -/
def growing : List Label :=
  [.reply (.metadata ⟨.regular, 1, 0o600, 1001⟩), .reply (.opened jwtFile),
    .reply (.metadata ⟨.regular, 1, 0o600, 1001⟩), .reply (.chunk [97]),
    .other (jwtTree ⟨.symlink, 2⟩ [97, 98]), .reply (.chunk [98]), .reply (.chunk [])]

def grownLog : List Entry :=
  [⟨.metadata jwtPath false, jwtTree jwtFile [97], .metadata ⟨.regular, 1, 0o600, 1001⟩⟩,
    ⟨.openFile jwtPath true, jwtTree jwtFile [97], .opened jwtFile⟩,
    ⟨.fileMetadata jwtFile, jwtTree jwtFile [97], .metadata ⟨.regular, 1, 0o600, 1001⟩⟩,
    ⟨.read jwtFile 0 (some 65537), jwtTree jwtFile [97], .chunk [97]⟩,
    ⟨.read jwtFile 1 (some 65536), jwtTree ⟨.symlink, 2⟩ [97, 98], .chunk [98]⟩,
    ⟨.read jwtFile 2 (some 65535), jwtTree ⟨.symlink, 2⟩ [97, 98], .chunk []⟩]

theorem private_text_read_grown :
    jwtPath.absolute = true ∧ ReadPrivately jwtPath 1001 grownLog "ab" :=
  private_text_read jwtPath "registration JWT" 1001 (jwtTree jwtFile [97]) growing
    ⟨jwtTree ⟨.symlink, 2⟩ [97, 98], .ended (.ok "ab"), grownLog⟩ "ab" rfl rfl

end Usque.Registration
