import Mathlib.Data.List.DropRight
import Usque.Lib.Markup

/-! The MDM document with the service token (`mdm.rs`). The tokenizer is the stream of
its events, each with the piece of the document it was read from; `unescape` resolves
the entities of a text. -/
namespace Usque

structure ServiceTokenEnrollment where
  organization : String
  clientId : String
  clientSecret : String
  deriving DecidableEq

namespace Mdm

inductive XmlEvent where
  | decl
  | comment
  | docType
  | start (name : String)
  | empty (name : String)
  /-- `Event::End`. -/
  | close (name : String)
  | text (content : String)
  /-- `CData`, `PI` and `GeneralRef`. -/
  | other
  /-- `read_event` answers an error. -/
  | malformed
  deriving DecidableEq

structure Token where
  event : XmlEvent
  source : String
  deriving DecidableEq

def shape (token : Token) : Markup.Shape String :=
  match token.event with
  | .start name => .opens name
  | .close name => .closes name
  | .malformed => .broken
  | .decl | .comment | .docType | .empty _ | .text _ | .other => .leaf

/-- The piece of the document that tokens were read from. -/
def source (tokens : List Token) : String := String.join (tokens.map (·.source))

/-- `reader.read_to_end(name)`, behind the start tag: one balanced subtree. -/
def readToEnd (name : String) (tokens : List Token) : Option (List Token × List Token) :=
  (Markup.close shape name [] tokens).map fun (inner, _, rest) => (inner, rest)

/-- `reader.read_text(name)`: the markup of the subtree, as it is written. -/
def readText (name : String) (tokens : List Token) : Option (String × List Token) :=
  (readToEnd name tokens).map fun (inner, rest) => (source inner, rest)

/-! ## Texts -/

/-- `char::is_whitespace`: the Unicode property White_Space. -/
def isWhitespace (c : Char) : Bool :=
  (9 ≤ c.val && c.val ≤ 13) || c.val == 0x20 || c.val == 0x85 || c.val == 0xA0 ||
    c.val == 0x1680 || (0x2000 ≤ c.val && c.val ≤ 0x200A) || c.val == 0x2028 || c.val == 0x2029 ||
    c.val == 0x202F || c.val == 0x205F || c.val == 0x3000

/-- `str::trim`. -/
def trim (text : String) : String :=
  String.ofList ((text.toList.dropWhile isWhitespace).rdropWhile isWhitespace)

/-- `u8::is_ascii_whitespace`. -/
def isAsciiWhitespace (c : Char) : Bool :=
  c == ' ' || c == '\t' || c == '\n' || c == '\r' || c.val == 12

def isRequiredKey (key : String) : Bool :=
  key == "organization" || key == "auth_client_id" || key == "auth_client_secret"

def setOnce (slot : Option String) (value key : String) : Except String (Option String) :=
  if slot.isSome then .error ("MDM key '" ++ key ++ "' is duplicated") else .ok (some value)

def required (value : Option String) (key : String) : Except String String :=
  match value with
  | none => .error ("MDM key '" ++ key ++ "' is required")
  | some value =>
    if trim value = "" then .error ("MDM key '" ++ key ++ "' must not be empty") else .ok value

def validateOrganization (value : String) : Except String Unit :=
  if value.utf8ByteSize > 63 ∨ value.toList.head? = some '-' ∨ value.toList.getLast? = some '-' ∨
      ¬ value.toList.all fun c => c.isAlphanum || c == '-' then
    .error "MDM organization must be a single valid Cloudflare Zero Trust team-name label"
  else .ok ()

def validateLine (name value : String) (maxLen : ℕ) : Except String Unit :=
  if value.utf8ByteSize > maxLen then
    .error ("MDM " ++ name ++ " exceeds " ++ toString maxLen ++ " bytes")
  else if '\r' ∈ value.toList ∨ '\n' ∈ value.toList then
    .error ("MDM " ++ name ++ " must contain exactly one line")
  else .ok ()

/-- `str::ends_with`. -/
def endsWith (value suffix : String) : Bool := suffix.toList.isSuffixOf value.toList

/-! ## The reading loop -/

structure Slots where
  organization : Option String := none
  clientId : Option String := none
  clientSecret : Option String := none
  deriving DecidableEq

/-- The variables of the loop. -/
structure Progress where
  rootOpen : Bool := false
  rootClosed : Bool := false
  pendingKey : Option String := none
  slots : Slots := {}
  deriving DecidableEq

/-- Keeps the value of a required key; any other value is dropped. -/
def Slots.record (slots : Slots) (key value : String) : Except String Slots :=
  if key = "organization" then
    (setOnce slots.organization value key).map fun slot => { slots with organization := slot }
  else if key = "auth_client_id" then
    (setOnce slots.clientId value key).map fun slot => { slots with clientId := slot }
  else if key = "auth_client_secret" then
    (setOnce slots.clientSecret value key).map fun slot => { slots with clientSecret := slot }
  else .ok slots

def mustBeString (key : String) : String := "MDM key '" ++ key ++ "' must have a <string> value"

section Reader

variable (unescape : String → Option String)

/-- Behind the start tag of a `<key>`. -/
def readKey (s : Progress) (rest : List Token) : Except String (Progress × List Token) :=
  if s.pendingKey.isSome then .error "MDM key has no value"
  else match readText "key" rest with
    | none => .error "failed to read MDM key"
    | some (text, rest) =>
      match unescape text with
      | none => .error "failed to decode MDM key entities"
      | some key => .ok ({ s with pendingKey := some (trim key) }, rest)

/-- Behind any other start tag. -/
def readValue (s : Progress) (name : String) (rest : List Token) :
    Except String (Progress × List Token) :=
  match s.pendingKey with
  | none => .error "MDM value has no preceding key"
  | some key =>
    let s := { s with pendingKey := none }
    if name ≠ "string" then
      match readToEnd name rest with
      | none => .error "failed to skip unsupported MDM value"
      | some (_, rest) => if isRequiredKey key then .error (mustBeString key) else .ok (s, rest)
    else match readText "string" rest with
      | none => .error "failed to read MDM string value"
      | some (text, rest) =>
        match unescape text with
        | none => .error "failed to decode MDM string entities"
        | some value => (s.slots.record key value).map fun slots => ({ s with slots := slots }, rest)

/-- One turn of the loop: the event that was read, and what is left of the stream. -/
def turn (s : Progress) (token : Token) (rest : List Token) :
    Except String (Progress × List Token) :=
  match token.event with
  | .malformed => .error "failed to parse MDM XML"
  | .decl | .comment => .ok (s, rest)
  | .docType => .error "MDM XML document types are not allowed"
  | .start name =>
    if !s.rootOpen && !s.rootClosed then
      if name ≠ "dict" then .error "MDM XML root element must be <dict>"
      else .ok ({ s with rootOpen := true }, rest)
    else if s.rootOpen then
      if name = "key" then readKey unescape s rest else readValue unescape s name rest
    else .error "unsupported nested MDM XML structure"
  | .empty _ =>
    if s.rootOpen then
      match s.pendingKey with
      | none => .error "MDM value has no preceding key"
      | some key =>
        if isRequiredKey key then .error (mustBeString key)
        else .ok ({ s with pendingKey := none }, rest)
    else .error "unsupported nested MDM XML structure"
  | .close name =>
    if s.rootOpen && name == "dict" then
      if s.pendingKey.isSome then .error "MDM key has no value"
      else .ok ({ s with rootOpen := false, rootClosed := true }, rest)
    else .error "unsupported nested MDM XML structure"
  | .text content =>
    if content.toList.all isAsciiWhitespace then .ok (s, rest)
    else .error "unexpected text outside MDM values"
  | .other => .error "unsupported MDM XML event"

end Reader

theorem readToEnd_eq_some_iff {name : String} {tokens inner rest : List Token} :
    readToEnd name tokens = some (inner, rest) ↔
      ∃ closing, tokens = inner ++ closing :: rest ∧ Markup.Forest shape inner ∧
        shape closing = .closes name := by
  simp only [readToEnd, Option.map_eq_some_iff, Prod.exists, Markup.close_eq_some_iff, Prod.mk.injEq]
  constructor
  · rintro ⟨inner, closing, rest, found, rfl, rfl⟩
    exact ⟨closing, found⟩
  · rintro ⟨closing, found⟩
    exact ⟨inner, closing, rest, found, rfl, rfl⟩

theorem readText_eq_some_iff {name text : String} {tokens rest : List Token} :
    readText name tokens = some (text, rest) ↔
      ∃ inner closing, tokens = inner ++ closing :: rest ∧ Markup.Forest shape inner ∧
        shape closing = .closes name ∧ text = source inner := by
  simp only [readText, Option.map_eq_some_iff, Prod.exists, readToEnd_eq_some_iff, Prod.mk.injEq]
  constructor
  · rintro ⟨inner, rest, ⟨closing, split, inside, closed⟩, rfl, rfl⟩
    exact ⟨inner, closing, split, inside, closed, rfl⟩
  · rintro ⟨inner, closing, split, inside, closed, rfl⟩
    exact ⟨inner, rest, ⟨closing, split, inside, closed⟩, rfl, rfl⟩

/-- Declarations, comments and whitespace. -/
def isMisc (token : Token) : Bool :=
  match token.event with
  | .decl | .comment => true
  | .text content => content.toList.all isAsciiWhitespace
  | .docType | .start _ | .empty _ | .close _ | .other | .malformed => false

/-- What a turn can do without an error. -/
inductive Turned (s : Progress) (token : Token) (rest : List Token) (next : Progress)
    (left : List Token) : Prop where
  | misc (skipped : isMisc token = true) (same : next = s) (behind : left = rest)
  | root (opened : token.event = .start "dict") (unopened : s.rootOpen = false)
      (unclosed : s.rootClosed = false) (same : next = { s with rootOpen := true })
      (behind : left = rest)
  | key (key : String) (inner : List Token) (closing : Token) (opened : token.event = .start "key")
      (inside : s.rootOpen = true) (idle : s.pendingKey = none)
      (split : rest = inner ++ closing :: left) (forest : Markup.Forest shape inner)
      (closed : shape closing = .closes "key") (same : next = { s with pendingKey := some key })
  | element (name key : String) (inner : List Token) (closing : Token) (slots : Slots)
      (opened : token.event = .start name) (other : name ≠ "key") (inside : s.rootOpen = true)
      (pending : s.pendingKey = some key) (split : rest = inner ++ closing :: left)
      (forest : Markup.Forest shape inner) (closed : shape closing = .closes name)
      (same : next = { s with pendingKey := none, slots := slots })
  | selfClosing (name key : String) (empty : token.event = .empty name) (inside : s.rootOpen = true)
      (pending : s.pendingKey = some key) (same : next = { s with pendingKey := none })
      (behind : left = rest)
  | finished (closed : token.event = .close "dict") (inside : s.rootOpen = true)
      (idle : s.pendingKey = none) (same : next = { s with rootOpen := false, rootClosed := true })
      (behind : left = rest)

section Turns

variable {unescape : String → Option String} {s next : Progress} {token : Token}
  {rest left : List Token} {name : String}

private theorem readKey_turned (opened : token.event = .start "key") (inside : s.rootOpen = true)
    (read : readKey unescape s rest = .ok (next, left)) : Turned s token rest next left := by
  unfold readKey at read
  split at read
  · cases read
  · rename_i idle
    split at read
    · cases read
    · rename_i text after found
      obtain ⟨inner, closing, split, forest, closed, -⟩ := readText_eq_some_iff.mp found
      split at read
      · cases read
      · cases read
        have none : s.pendingKey = none := by simpa using idle
        exact .key _ inner closing opened inside none split forest closed rfl

private theorem readValue_turned (opened : token.event = .start name) (other : name ≠ "key")
    (inside : s.rootOpen = true) (read : readValue unescape s name rest = .ok (next, left)) :
    Turned s token rest next left := by
  unfold readValue at read
  split at read
  · cases read
  · rename_i key pending
    dsimp only at read
    split at read
    · split at read
      · cases read
      · rename_i inner after found
        obtain ⟨closing, split, forest, closed⟩ := readToEnd_eq_some_iff.mp found
        split at read
        · cases read
        · cases read
          exact .element name key inner closing s.slots opened other inside pending split forest
            closed rfl
    · rename_i string
      split at read
      · cases read
      · rename_i text after found
        obtain ⟨inner, closing, split, forest, closed, -⟩ := readText_eq_some_iff.mp found
        split at read
        · cases read
        · rename_i value decoded
          have named : name = "string" := not_not.mp string
          subst named
          cases recorded : s.slots.record key value with
          | error message => rw [recorded] at read; cases read
          | ok slots =>
            rw [recorded] at read
            cases read
            exact .element "string" key inner closing slots opened other inside pending split
              forest closed rfl

theorem turn_turned (turned : turn unescape s token rest = .ok (next, left)) :
    Turned s token rest next left := by
  unfold turn at turned
  cases event : token.event with
  | decl | comment =>
    rw [event] at turned
    cases turned
    exact .misc (by simp [isMisc, event]) rfl rfl
  | docType | other | malformed => rw [event] at turned; cases turned
  | text content =>
    simp only [event] at turned
    split at turned
    · rename_i blank
      cases turned
      exact .misc (by simpa [isMisc, event] using blank) rfl rfl
    · cases turned
  | start name =>
    simp only [event] at turned
    split at turned
    · rename_i unopened
      simp only [Bool.and_eq_true, Bool.not_eq_true'] at unopened
      split at turned
      · cases turned
      · rename_i dict
        cases turned
        exact .root (by rw [event, not_not.mp dict]) unopened.1 unopened.2 rfl rfl
    · split at turned
      · rename_i inside
        split at turned
        · rename_i key
          exact readKey_turned (by rw [event, key]) inside turned
        · rename_i other
          exact readValue_turned event other inside turned
      · cases turned
  | empty name =>
    simp only [event] at turned
    split at turned
    · rename_i inside
      split at turned
      · cases turned
      · rename_i key pending
        split at turned
        · cases turned
        · cases turned
          exact .selfClosing name key event inside pending rfl rfl
    · cases turned
  | close name =>
    simp only [event] at turned
    split at turned
    · rename_i inside
      simp only [Bool.and_eq_true, beq_iff_eq] at inside
      split at turned
      · cases turned
      · rename_i idle
        cases turned
        exact .finished (by rw [event, inside.2]) inside.1 (by simpa using idle) rfl rfl
    · cases turned

/-- The stream a turn leaves is never longer than the one it found. -/
theorem turn_rest (turned : turn unescape s token rest = .ok (next, left)) :
    left.length ≤ rest.length := by
  cases turn_turned turned with
  | misc _ _ behind | root _ _ _ _ behind | selfClosing _ _ _ _ _ _ behind
  | finished _ _ _ _ behind => exact le_of_eq (congrArg List.length behind)
  | key key inner closing opened inside idle split =>
    rw [split, List.length_append, List.length_cons]
    omega
  | element name key inner closing slots opened other inside pending split =>
    rw [split, List.length_append, List.length_cons]
    omega

end Turns

/-- The loop, to the end of the stream. -/
def parse (unescape : String → Option String) (s : Progress) : List Token → Except String Progress
  | [] => .ok s
  | token :: rest =>
    match turned : turn unescape s token rest with
    | .error message => .error message
    | .ok (next, left) =>
      have := turn_rest turned
      parse unescape next left
termination_by tokens => tokens.length

theorem parse_nil (unescape : String → Option String) (s : Progress) :
    parse unescape s [] = .ok s := by
  rw [parse]

theorem parse_cons (unescape : String → Option String) (s : Progress) (token : Token)
    (rest : List Token) :
    parse unescape s (token :: rest) =
      (turn unescape s token rest).bind fun (next, left) => parse unescape next left := by
  rw [parse]
  split
  · rename_i message turned
    rw [turned]
    rfl
  · rename_i next left turned
    conv_rhs => rw [turned]
    rfl

/-- The checks behind the loop. -/
def Slots.enroll (slots : Slots) : Except String ServiceTokenEnrollment := do
  let organization ← required slots.organization "organization"
  let clientId ← required slots.clientId "auth_client_id"
  let clientSecret ← required slots.clientSecret "auth_client_secret"
  validateOrganization organization
  validateLine "auth_client_id" clientId 512
  validateLine "auth_client_secret" clientSecret 4096
  if !endsWith clientId ".access" then
    .error "MDM auth_client_id is not a Cloudflare Access service-token client ID"
  else .ok ⟨organization, clientId, clientSecret⟩

def fromMdmXml (unescape : String → Option String) (xml : List Token) :
    Except String ServiceTokenEnrollment := do
  let s ← parse unescape {} xml
  if s.rootOpen || !s.rootClosed then .error "MDM XML does not contain a complete <dict>"
  else s.slots.enroll

end Mdm
end Usque
