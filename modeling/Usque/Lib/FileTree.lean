import Mathlib.Data.List.Infix
import Usque.Lib.Transition

/-! A file tree shared with other processes. What a file is belongs to its identity and
stays; what it holds, whose it is and which names lead to it may change at every moment.
A reader makes one call after the other and knows of the tree what the replies say. -/
namespace FileTree

inductive FileType where
  | regular
  | directory
  | symlink
  | special
  deriving DecidableEq

/-- A file, whatever names lead to it. -/
structure FileId where
  type : FileType
  number : ℕ
  deriving DecidableEq

structure Path where
  display : String
  absolute : Bool
  names : List String
  deriving DecidableEq

structure FileSystem where
  root : FileId
  workingDirectory : FileId
  entries : FileId → List (String × FileId)
  target : FileId → Path
  content : FileId → List UInt8
  mode : FileId → UInt32
  uid : FileId → UInt32

structure Metadata where
  type : FileType
  len : ℕ
  mode : UInt32
  uid : UInt32
  deriving DecidableEq

/-! ## Names -/

namespace FileSystem

variable (fs : FileSystem)

def entry (here : FileId) (name : String) : Option FileId :=
  if here.type = .directory then (fs.entries here).lookup name else none

/-- Follows names down from `here`. A symlink on the way goes on at its target, by `jump`;
one at the end does so only where it is to be followed. -/
def walk (follow : Bool) (jump : FileId → List String → Option FileId) :
    FileId → List String → Option FileId
  | here, [] => some here
  | here, name :: rest =>
    match fs.entry here name with
    | none => none
    | some next =>
      if next.type = .symlink ∧ (rest ≠ [] ∨ follow) then
        jump (if (fs.target next).absolute then fs.root else here) ((fs.target next).names ++ rest)
      else walk follow jump next rest

def walkLinks (follow : Bool) : ℕ → FileId → List String → Option FileId
  | 0 => fs.walk follow fun _ _ => none
  | links + 1 => fs.walk follow (walkLinks follow links)

/-- The file at a path, over at most 40 symlinks. -/
def resolve (path : Path) (follow : Bool) : Option FileId :=
  fs.walkLinks follow 40 (if path.absolute then fs.root else fs.workingDirectory) path.names

def metadata (file : FileId) : Metadata :=
  ⟨file.type, (fs.content file).length, fs.mode file, fs.uid file⟩

/-- Opening a path; a symlink itself is never opened. -/
def openFile (path : Path) (noFollow : Bool) : Option FileId :=
  (fs.resolve path !noFollow).filter fun file => file.type ≠ .symlink

/-- `bytes` is what a read at `offset` may deliver: some of what is there, and nothing at
the end alone. -/
def Delivers (file : FileId) (offset : ℕ) (limit : Option ℕ) (bytes : List UInt8) : Prop :=
  (∀ most ∈ limit, bytes.length ≤ most) ∧
    match file.type with
    | .regular => bytes <+: (fs.content file).drop offset ∧
        (bytes = [] → (fs.content file).length ≤ offset)
    | .special => True
    | .directory | .symlink => False

end FileSystem

/-! ## Calls -/

inductive Call where
  /-- `stat`, or `lstat` where a symlink is not followed. -/
  | metadata (path : Path) (follow : Bool)
  | openFile (path : Path) (noFollow : Bool)
  /-- `fstat` -/
  | fileMetadata (file : FileId)
  | read (file : FileId) (offset : ℕ) (limit : Option ℕ)
  deriving DecidableEq

inductive Reply where
  | failed
  | metadata (found : Metadata)
  | opened (file : FileId)
  | chunk (bytes : List UInt8)
  deriving DecidableEq

/-- The replies a call may get; every call may fail for reasons of its own. -/
def FileSystem.Answers (fs : FileSystem) : Call → Reply → Prop
  | _, .failed => True
  | .metadata path follow, .metadata found => (fs.resolve path follow).map fs.metadata = some found
  | .openFile path noFollow, .opened file => fs.openFile path noFollow = some file
  | .fileMetadata file, .metadata found => fs.metadata file = found
  | .read file offset limit, .chunk bytes => fs.Delivers file offset limit bytes
  | _, _ => False

instance (fs : FileSystem) (file : FileId) (offset : ℕ) (limit : Option ℕ) (bytes : List UInt8) :
    Decidable (fs.Delivers file offset limit bytes) := by
  unfold FileSystem.Delivers
  cases file.type <;> infer_instance

instance (fs : FileSystem) (call : Call) (reply : Reply) : Decidable (fs.Answers call reply) := by
  unfold FileSystem.Answers
  split <;> infer_instance

/-- The file that is opened is the one the path leads to. -/
theorem openFile_resolves {fs : FileSystem} {path : Path} {noFollow : Bool} {file : FileId}
    (opened : fs.openFile path noFollow = some file) :
    fs.resolve path (!noFollow) = some file ∧ file.type ≠ .symlink := by
  simpa [FileSystem.openFile, Option.filter_eq_some_iff] using opened

/-! ## Readers among other processes -/

/-- A program by its stages: the call each one waits for, and how it goes on from the
reply. -/
structure Reader (Stage : Type u) where
  pending : Stage → Option Call
  resume : Stage → Reply → Stage

/-- A call with what it has met. -/
structure Entry where
  call : Call
  fs : FileSystem
  reply : Reply

structure State (Stage : Type u) where
  fs : FileSystem
  stage : Stage
  log : List Entry

inductive Label where
  /-- Another process has made the tree what it is now. -/
  | other (fs : FileSystem)
  | reply (reply : Reply)

section Runs

variable {Stage : Type u} {reader : Reader Stage} {s next final : State Stage} {label : Label}
  {labels : List Label}

def Reader.step (reader : Reader Stage) (s : State Stage) : Label → Option (State Stage)
  | .other fs => some { s with fs := fs }
  | .reply reply =>
    match reader.pending s.stage with
    | none => none
    | some call =>
      if s.fs.Answers call reply then
        some { s with stage := reader.resume s.stage reply, log := s.log ++ [⟨call, s.fs, reply⟩] }
      else none

theorem step_cases (stepped : reader.step s label = some next) :
    (∃ fs, label = .other fs ∧ next = { s with fs := fs }) ∨
    ∃ call reply, label = .reply reply ∧ reader.pending s.stage = some call ∧
      s.fs.Answers call reply ∧
      next = ⟨s.fs, reader.resume s.stage reply, s.log ++ [⟨call, s.fs, reply⟩]⟩ := by
  cases label with
  | other fs =>
    cases stepped
    exact .inl ⟨fs, rfl, rfl⟩
  | reply reply =>
    simp only [Reader.step] at stepped
    split at stepped
    · cases stepped
    · rename_i call waiting
      split at stepped
      · rename_i answered
        cases stepped
        exact .inr ⟨call, reply, rfl, waiting, answered, rfl⟩
      · cases stepped

theorem step_reply {fs : FileSystem} {stage after : Stage} {log : List Entry} {call : Call} {reply : Reply}
    (waiting : reader.pending stage = some call) (answered : fs.Answers call reply)
    (resumed : reader.resume stage reply = after) :
    reader.step ⟨fs, stage, log⟩ (.reply reply) = some ⟨fs, after, log ++ [⟨call, fs, reply⟩]⟩ := by
  simp only [Reader.step, waiting, if_pos answered, resumed]

/-- What every reply preserves, whatever tree it comes from, holds after every run. -/
theorem run_preserves_log (inv : Stage → List Entry → Prop)
    (preserved : ∀ stage log call fs reply, inv stage log → reader.pending stage = some call →
      fs.Answers call reply → inv (reader.resume stage reply) (log ++ [⟨call, fs, reply⟩]))
    (start : inv s.stage s.log) (ran : Transition.run reader.step s labels = some final) :
    inv final.stage final.log := by
  refine Transition.run_preserves (fun s => inv s.stage s.log) ?_ start ran
  intro s label next held stepped
  rcases step_cases stepped with ⟨fs, -, rfl⟩ | ⟨call, reply, -, waiting, answered, rfl⟩
  · exact held
  · exact preserved s.stage s.log call s.fs reply held waiting answered

end Runs

/-! ## Reading a file -/

/-- The entries are reads of `file`, one behind the other from its start, and have
delivered `raw`. -/
inductive Reads (file : FileId) : List UInt8 → List Entry → Prop where
  | nil : Reads file [] []
  | read {raw bytes : List UInt8} {log : List Entry} {fs : FileSystem} {limit : Option ℕ}
      (before : Reads file raw log) (delivered : fs.Delivers file raw.length limit bytes) :
      Reads file (raw ++ bytes) (log ++ [⟨.read file raw.length limit, fs, .chunk bytes⟩])

section Reads

variable {file : FileId} {raw content : List UInt8} {log : List Entry}

/-- Of a file that only grows a prefix has been read. -/
theorem Reads.isPrefix (reads : Reads file raw log) (regular : file.type = .regular)
    (grown : ∀ entry ∈ log, entry.fs.content file <+: content) : raw <+: content := by
  induction reads with
  | nil => exact List.nil_prefix
  | @read raw bytes log fs limit before delivered ih =>
    have front := ih fun entry member => grown entry (List.mem_append_left _ member)
    have held : fs.content file <+: content := grown _ (List.mem_append_right _ (List.mem_singleton_self _))
    have chunk : bytes <+: content.drop raw.length := by
      simp only [FileSystem.Delivers, regular] at delivered
      exact List.IsPrefix.trans delivered.2.1 (List.IsPrefix.drop held raw.length)
    obtain ⟨rest, rfl⟩ := front
    rw [List.drop_left] at chunk
    exact (List.prefix_append_right_inj raw).mpr chunk

/-- The text that the bytes of a file encode. -/
def text (raw : List UInt8) : Option String := String.fromUTF8? ⟨raw.toArray⟩

theorem text_toByteArray (value : String) : text value.toByteArray.data.toList = some value := by
  unfold text String.fromUTF8?
  rw [Array.toArray_toList, dif_pos value.isValidUTF8]
  rfl

theorem text_size {value : String} (decoded : text raw = some value) :
    value.utf8ByteSize = raw.length := by
  unfold text String.fromUTF8? at decoded
  split at decoded
  · cases decoded
    rfl
  · cases decoded

/-- A read delivers nothing only at the end of its file. -/
theorem delivers_nil {fs : FileSystem} {offset : ℕ} {limit : Option ℕ}
    (delivered : fs.Delivers file offset limit []) (regular : file.type = .regular) :
    (fs.content file).length ≤ offset := by
  simp only [FileSystem.Delivers, regular] at delivered
  exact delivered.2.2 trivial

end Reads

end FileTree
