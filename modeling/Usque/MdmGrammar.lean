import Mathlib.Data.List.Perm.Basic
import Usque.Lib.Fallible
import Usque.Mdm

/-! The language of MDM documents. A document is one `<dict>` of key and value pairs
with nothing but declarations, comments and whitespace around them; the parser accepts
exactly the documents whose three required values are there once and valid. -/
namespace Usque.Mdm

open Fallible

/-! ## Documents -/

inductive Value where
  | selfClosing (tag : Token)
  | element (tag : Token) (content : List Token) (ending : Token)

/-- A key element and the value behind it, with what stands in front of either. -/
structure Entry where
  lead : List Token
  keyTag : Token
  keyText : List Token
  keyEnd : Token
  gap : List Token
  value : Value

structure Document where
  prolog : List Token
  opening : Token
  entries : List Entry
  tail : List Token
  closing : Token
  epilog : List Token

def Value.tokens : Value → List Token
  | .selfClosing tag => [tag]
  | .element tag content ending => tag :: content ++ [ending]

def Entry.tokens (e : Entry) : List Token :=
  e.lead ++ e.keyTag :: e.keyText ++ e.keyEnd :: e.gap ++ e.value.tokens

def Document.tokens (doc : Document) : List Token :=
  doc.prolog ++ doc.opening :: doc.entries.flatMap Entry.tokens ++ doc.tail ++
    doc.closing :: doc.epilog

/-- Any other element with its subtree, or any self-closing element. -/
def Value.WellFormed : Value → Prop
  | .selfClosing tag => ∃ name, tag.event = .empty name
  | .element tag content ending => ∃ name, tag.event = .start name ∧ name ≠ "key" ∧
      Markup.Forest shape content ∧ ending.event = .close name

structure Entry.WellFormed (e : Entry) : Prop where
  lead : ∀ token ∈ e.lead, isMisc token = true
  opened : e.keyTag.event = .start "key"
  text : Markup.Forest shape e.keyText
  closed : e.keyEnd.event = .close "key"
  gap : ∀ token ∈ e.gap, isMisc token = true
  value : e.value.WellFormed

structure Document.WellFormed (doc : Document) : Prop where
  prolog : ∀ token ∈ doc.prolog, isMisc token = true
  opened : doc.opening.event = .start "dict"
  entries : ∀ e ∈ doc.entries, e.WellFormed
  tail : ∀ token ∈ doc.tail, isMisc token = true
  closed : doc.closing.event = .close "dict"
  epilog : ∀ token ∈ doc.epilog, isMisc token = true

section Meaning

variable (unescape : String → Option String)

/-- The markup inside a `<string>` value. -/
def Value.text : Value → Option String
  | .selfClosing _ => none
  | .element tag content _ =>
    if tag.event = .start "string" then some (source content) else none

def Entry.key (e : Entry) : Option String := (unescape (source e.keyText)).map trim

/-- Its key text, and its string text where it has one, unescape. -/
def Entry.Readable (e : Entry) : Prop :=
  (unescape (source e.keyText)).isSome ∧ ∀ text ∈ e.value.text, (unescape text).isSome

/-- The values under one key, none for a value that is not a string. -/
def valuesOf (entries : List Entry) (name : String) : List (Option String) :=
  (entries.filter fun e => e.key unescape == some name).map fun e => e.value.text.bind unescape

/-- The pairs under the required keys, as far as the parser looks at them. -/
def requiredPairs (entries : List Entry) : List (Option String × Option String) :=
  (entries.filter fun e => (e.key unescape).any isRequiredKey).map fun e =>
    (e.key unescape, e.value.text.bind unescape)

end Meaning

/-! ## Every accepted stream is a document -/

section Accepted

theorem shape_closes_iff {token : Token} {name : String} :
    shape token = .closes name ↔ token.event = .close name := by
  unfold shape
  cases token.event <;> simp

theorem misc_cons {token : Token} {tokens : List Token} (skipped : isMisc token = true)
    (rest : ∀ other ∈ tokens, isMisc other = true) :
    ∀ other ∈ token :: tokens, isMisc other = true := by
  intro other member
  rcases List.mem_cons.mp member with rfl | behind
  · exact skipped
  · exact rest other behind

/-- What is left of a document inside its root, in front of a key or of the end. -/
def Body (tokens : List Token) : Prop :=
  ∃ (entries : List Entry) (tail : List Token) (closing : Token) (epilog : List Token),
    tokens = entries.flatMap Entry.tokens ++ tail ++ closing :: epilog ∧
    (∀ e ∈ entries, e.WellFormed) ∧ (∀ token ∈ tail, isMisc token = true) ∧
    closing.event = .close "dict" ∧ ∀ token ∈ epilog, isMisc token = true

/-- What is left behind a key. -/
def Valued (tokens : List Token) : Prop :=
  ∃ (gap : List Token) (value : Value) (rest : List Token), tokens = gap ++ value.tokens ++ rest ∧
    (∀ token ∈ gap, isMisc token = true) ∧ value.WellFormed ∧ Body rest

/-- What is left in front of the root. -/
def Rooted (tokens : List Token) : Prop :=
  ∃ (prolog : List Token) (opening : Token) (rest : List Token), tokens = prolog ++ opening :: rest ∧
    (∀ token ∈ prolog, isMisc token = true) ∧ opening.event = .start "dict" ∧ Body rest

theorem Body.misc {token : Token} {tokens : List Token} (skipped : isMisc token = true)
    (body : Body tokens) : Body (token :: tokens) := by
  obtain ⟨entries, tail, closing, epilog, rfl, formed, blank, closed, behind⟩ := body
  cases entries with
  | nil =>
    exact ⟨[], token :: tail, closing, epilog, rfl, formed, misc_cons skipped blank, closed, behind⟩
  | cons e rest =>
    -- the token goes in front of the first key
    refine ⟨{ e with lead := token :: e.lead } :: rest, tail, closing, epilog, by simp [Entry.tokens],
      ?_, blank, closed, behind⟩
    intro other member
    rcases List.mem_cons.mp member with rfl | later
    · obtain ⟨lead, opened, text, keyClosed, gap, value⟩ := formed e List.mem_cons_self
      exact ⟨misc_cons skipped lead, opened, text, keyClosed, gap, value⟩
    · exact formed other (List.mem_cons_of_mem e later)

theorem Valued.misc {token : Token} {tokens : List Token} (skipped : isMisc token = true)
    (valued : Valued tokens) : Valued (token :: tokens) := by
  obtain ⟨gap, value, rest, rfl, blank, formed, body⟩ := valued
  exact ⟨token :: gap, value, rest, rfl, misc_cons skipped blank, formed, body⟩

theorem Rooted.misc {token : Token} {tokens : List Token} (skipped : isMisc token = true)
    (rooted : Rooted tokens) : Rooted (token :: tokens) := by
  obtain ⟨prolog, opening, rest, rfl, blank, opened, body⟩ := rooted
  exact ⟨token :: prolog, opening, rest, rfl, misc_cons skipped blank, opened, body⟩

/-- A key and what is left behind it make the body one pair longer. -/
theorem Valued.key {tag ending : Token} {inner tokens : List Token}
    (opened : tag.event = .start "key") (forest : Markup.Forest shape inner)
    (closed : ending.event = .close "key") (valued : Valued tokens) :
    Body (tag :: inner ++ ending :: tokens) := by
  obtain ⟨gap, value, rest, rfl, blank, formed, body⟩ := valued
  obtain ⟨entries, tail, closing, epilog, rfl, others, behind⟩ := body
  refine ⟨⟨[], tag, inner, ending, gap, value⟩ :: entries, tail, closing, epilog, ?_, ?_, behind⟩
  · simp [Entry.tokens]
  · intro e member
    rcases List.mem_cons.mp member with rfl | later
    · exact ⟨List.forall_mem_nil _, opened, forest, closed, blank, formed⟩
    · exact others e later

/-- What has to be left of the stream where the loop stands. -/
def Left (s : Progress) (tokens : List Token) : Prop :=
  if s.rootOpen then (if s.pendingKey.isSome then Valued tokens else Body tokens)
  else if s.rootClosed then ∀ token ∈ tokens, isMisc token = true
  else Rooted tokens

variable {s next : Progress} {token : Token} {rest left : List Token}

/-- A turn reads one piece of the document. -/
theorem turned_left (turned : Turned s token rest next left)
    (outside : s.rootOpen = false → s.pendingKey = none) (behind : Left next left) :
    Left s (token :: rest) := by
  cases turned with
  | misc skipped same split =>
    subst same split
    unfold Left at behind ⊢
    split
    · rename_i inside
      rw [if_pos inside] at behind
      split
      · rename_i pending
        rw [if_pos pending] at behind
        exact behind.misc skipped
      · rename_i idle
        rw [if_neg idle] at behind
        exact behind.misc skipped
    · rename_i unopened
      rw [if_neg unopened] at behind
      split
      · rename_i closed
        rw [if_pos closed] at behind
        exact misc_cons skipped behind
      · rename_i unclosed
        rw [if_neg unclosed] at behind
        exact behind.misc skipped
  | root opened unopened unclosed same split =>
    subst same split
    simp only [Left, if_true, outside unopened] at behind
    simp only [Left, unopened, unclosed]
    exact ⟨[], token, left, rfl, List.forall_mem_nil _, opened, behind⟩
  | key key inner closing opened inside idle split forest closed same =>
    subst same split
    simp only [Left, inside, if_true] at behind
    simp only [Left, inside, idle, if_true]
    exact Valued.key opened forest (shape_closes_iff.mp closed) behind
  | element name key inner closing slots opened other inside pending split forest closed same =>
    subst same split
    simp only [Left, inside, if_true] at behind
    simp only [Left, inside, pending, if_true]
    exact ⟨[], .element token inner closing, left, by simp [Value.tokens], List.forall_mem_nil _,
      ⟨name, opened, other, forest, shape_closes_iff.mp closed⟩, behind⟩
  | selfClosing name key empty inside pending same split =>
    subst same split
    simp only [Left, inside, if_true] at behind
    simp only [Left, inside, pending, if_true]
    exact ⟨[], .selfClosing token, left, rfl, List.forall_mem_nil _, ⟨name, empty⟩, behind⟩
  | finished closed inside idle same split =>
    subst same split
    simp only [Left, if_true] at behind
    simp only [Left, inside, idle, if_true]
    exact ⟨[], [], token, left, rfl, List.forall_mem_nil _, List.forall_mem_nil _, closed, behind⟩

theorem turned_outside (turned : Turned s token rest next left)
    (outside : s.rootOpen = false → s.pendingKey = none) :
    next.rootOpen = false → next.pendingKey = none := by
  intro unopened
  cases turned with
  | misc skipped same split => subst same; exact outside unopened
  | root opened _ _ same split => subst same; cases unopened
  | key key inner closing opened inside idle split forest closed same =>
    subst same
    rw [inside] at unopened
    cases unopened
  | element name key inner closing slots opened other inside pending split forest closed same =>
    subst same; rfl
  | selfClosing name key empty inside pending same split => subst same; rfl
  | finished closed inside idle same split => subst same; exact idle

/-- The loop ends behind the root only where the stream was the rest of a document. -/
theorem parse_left {unescape : String → Option String} {tokens : List Token} {finish : Progress}
    (outside : s.rootOpen = false → s.pendingKey = none)
    (parsed : parse unescape s tokens = .ok finish) (unopened : finish.rootOpen = false)
    (closed : finish.rootClosed = true) : Left s tokens := by
  induction s, tokens using parse.induct unescape with
  | case1 s =>
    rw [parse_nil] at parsed
    cases parsed
    simp [Left, unopened, closed]
  | case2 s token rest message turned =>
    rw [parse_cons, turned] at parsed
    cases parsed
  | case3 s token rest next left turned shorter ih =>
    rw [parse_cons, turned] at parsed
    have piece := turn_turned turned
    exact turned_left piece outside (ih (turned_outside piece outside) parsed)

end Accepted

/-! ## What the parser makes of a document -/

section Stored

variable (unescape : String → Option String)

/-- What a value does to the slots, under a key. -/
def Value.store (key : String) (slots : Slots) : Value → Except String Slots
  | .selfClosing _ => if isRequiredKey key then .error (mustBeString key) else .ok slots
  | .element tag content _ =>
    if tag.event = .start "string" then
      match unescape (source content) with
      | none => .error "failed to decode MDM string entities"
      | some value => slots.record key value
    else if isRequiredKey key then .error (mustBeString key) else .ok slots

def Entry.store (slots : Slots) (e : Entry) : Except String Slots :=
  match unescape (source e.keyText) with
  | none => .error "failed to decode MDM key entities"
  | some key => e.value.store unescape (trim key) slots

def storeAll : Slots → List Entry → Except String Slots
  | slots, [] => .ok slots
  | slots, e :: rest => (e.store unescape slots).bind fun slots => storeAll slots rest

variable {unescape} {s : Progress} {tokens : List Token}

theorem turn_misc {token : Token} (skipped : isMisc token = true) (rest : List Token) :
    turn unescape s token rest = .ok (s, rest) := by
  cases event : token.event with
  | decl | comment => simp only [turn, event]
  | text content =>
    have blank : content.toList.all isAsciiWhitespace = true := by
      simpa only [isMisc, event] using skipped
    simp only [turn, event, blank, if_true]
  | docType | start | empty | close | other | malformed =>
    simp only [isMisc, event] at skipped
    cases skipped

theorem parse_misc {gap : List Token} (blank : ∀ token ∈ gap, isMisc token = true)
    (tail : List Token) : parse unescape s (gap ++ tail) = parse unescape s tail := by
  induction gap with
  | nil => rfl
  | cons token rest ih =>
    rw [List.cons_append, parse_cons, turn_misc (blank token List.mem_cons_self)]
    exact ih fun other member => blank other (List.mem_cons_of_mem token member)

theorem readText_of_forest {inner tail : List Token} {closing : Token} {name : String}
    (forest : Markup.Forest shape inner) (closed : closing.event = .close name) :
    readText name (inner ++ closing :: tail) = some (source inner, tail) :=
  readText_eq_some_iff.mpr ⟨inner, closing, rfl, forest, shape_closes_iff.mpr closed, rfl⟩

theorem readToEnd_of_forest {inner tail : List Token} {closing : Token} {name : String}
    (forest : Markup.Forest shape inner) (closed : closing.event = .close name) :
    readToEnd name (inner ++ closing :: tail) = some (inner, tail) :=
  readToEnd_eq_some_iff.mpr ⟨closing, rfl, forest, shape_closes_iff.mpr closed⟩

theorem parse_value {key : String} {value : Value} (inside : s.rootOpen = true)
    (pending : s.pendingKey = some key) (formed : value.WellFormed) (tail : List Token) :
    parse unescape s (value.tokens ++ tail) =
      (value.store unescape key s.slots).bind fun slots =>
        parse unescape { s with pendingKey := none, slots := slots } tail := by
  cases value with
  | selfClosing tag =>
    obtain ⟨name, empty⟩ := formed
    simp only [Value.tokens, List.singleton_append, parse_cons, turn, empty, inside, pending,
      if_true, Value.store]
    by_cases needed : isRequiredKey key = true
    · rw [if_pos needed, if_pos needed]
      rfl
    · rw [if_neg needed, if_neg needed]
      rfl
  | element tag content ending =>
    obtain ⟨name, opened, other, forest, closed⟩ := formed
    simp only [Value.tokens, List.cons_append, List.append_assoc, List.nil_append, parse_cons,
      turn, opened, inside, Bool.not_true, Bool.false_and, Bool.false_eq_true, if_false, if_true,
      if_neg other, readValue, pending, Value.store, XmlEvent.start.injEq]
    by_cases string : name = "string"
    · subst string
      simp only [ne_eq, not_true, if_false, if_true, readText_of_forest forest closed]
      cases unescape (source content) with
      | none => rfl
      | some value =>
        dsimp only
        cases s.slots.record key value <;> rfl
    · simp only [ne_eq, string, not_false_eq_true, if_true, if_false,
        readToEnd_of_forest forest closed]
      by_cases needed : isRequiredKey key = true
      · rw [if_pos needed, if_pos needed]
        rfl
      · rw [if_neg needed, if_neg needed]
        rfl

theorem parse_entry {e : Entry} (inside : s.rootOpen = true) (idle : s.pendingKey = none)
    (formed : e.WellFormed) (tail : List Token) :
    parse unescape s (e.tokens ++ tail) =
      (e.store unescape s.slots).bind fun slots => parse unescape { s with slots := slots } tail := by
  have split : e.tokens ++ tail = e.lead ++ (e.keyTag :: (e.keyText ++ e.keyEnd ::
      (e.gap ++ (e.value.tokens ++ tail)))) := by simp [Entry.tokens]
  obtain ⟨rootOpen, rootClosed, pendingKey, slots⟩ := s
  cases inside
  cases idle
  rw [split, parse_misc formed.lead, parse_cons]
  simp only [turn, formed.opened, Bool.not_true, Bool.false_and, Bool.false_eq_true, if_false,
    if_true, readKey, Option.isSome_none, readText_of_forest formed.text formed.closed, Entry.store]
  cases unescape (source e.keyText) with
  | none => rfl
  | some key =>
    show parse unescape ⟨true, rootClosed, some (trim key), slots⟩ _ = _
    rw [parse_misc formed.gap]
    exact parse_value rfl rfl formed.value tail

theorem parse_entries {entries : List Entry} (inside : s.rootOpen = true)
    (idle : s.pendingKey = none) (formed : ∀ e ∈ entries, e.WellFormed) (tail : List Token) :
    parse unescape s (entries.flatMap Entry.tokens ++ tail) =
      (storeAll unescape s.slots entries).bind fun slots =>
        parse unescape { s with slots := slots } tail := by
  induction entries generalizing s with
  | nil => rfl
  | cons e rest ih =>
    rw [List.flatMap_cons, List.append_assoc, parse_entry inside idle (formed e List.mem_cons_self),
      storeAll]
    cases e.store unescape s.slots with
    | error message => rfl
    | ok slots =>
      exact ih (s := { s with slots := slots }) inside idle
        fun other member => formed other (List.mem_cons_of_mem e member)

/-- A well-formed document is read to its end, entry by entry. -/
theorem parse_document {doc : Document} (formed : doc.WellFormed) :
    parse unescape {} doc.tokens =
      (storeAll unescape {} doc.entries).map fun slots =>
        { rootOpen := false, rootClosed := true, pendingKey := none, slots := slots } := by
  have split : doc.tokens = doc.prolog ++ (doc.opening :: (doc.entries.flatMap Entry.tokens ++
      (doc.tail ++ (doc.closing :: (doc.epilog ++ []))))) := by simp [Document.tokens]
  rw [split, parse_misc formed.prolog, parse_cons]
  simp only [turn, formed.opened, Bool.not_false, Bool.and_self, if_true, ne_eq, not_true, if_false]
  show parse unescape { rootOpen := true } _ = _
  rw [parse_entries rfl rfl formed.entries]
  cases storeAll unescape {} doc.entries with
  | error message => rfl
  | ok slots =>
    show parse unescape { rootOpen := true, slots := slots } _ = _
    rw [parse_misc formed.tail, parse_cons]
    simp only [turn, formed.closed, beq_self_eq_true, Bool.and_self, if_true, Option.isSome_none,
      Bool.false_eq_true, if_false]
    show parse unescape { rootOpen := false, rootClosed := true, slots := slots } _ = _
    rw [parse_misc formed.epilog, parse_nil]
    rfl

end Stored

/-! ## Which documents are accepted -/

def Slots.get (slots : Slots) (name : String) : Option String :=
  if name = "organization" then slots.organization
  else if name = "auth_client_id" then slots.clientId
  else if name = "auth_client_secret" then slots.clientSecret
  else none

theorem isRequiredKey_iff {name : String} :
    isRequiredKey name = true ↔
      name = "organization" ∨ name = "auth_client_id" ∨ name = "auth_client_secret" := by
  simp [isRequiredKey, or_assoc]

theorem Slots.ext_get {a b : Slots} (same : ∀ name, isRequiredKey name = true → a.get name = b.get name) :
    a = b := by
  obtain ⟨organization, clientId, clientSecret⟩ := a
  obtain ⟨otherOrganization, otherId, otherSecret⟩ := b
  have first := same "organization" (by decide)
  have second := same "auth_client_id" (by decide)
  have third := same "auth_client_secret" (by decide)
  simp only [get, if_true, String.reduceEq, if_false] at first second third
  rw [first, second, third]

/-- The slot of `key` is free before and holds `value` afterwards; the others stay. -/
def Fills (slots next : Slots) (key value : String) : Prop :=
  slots.get key = none ∧ next.get key = some value ∧
    ∀ name, isRequiredKey name = true → name ≠ key → next.get name = slots.get name

theorem setOnce_eq_ok_iff {slot next : Option String} {value key : String} :
    setOnce slot value key = .ok next ↔ slot = none ∧ next = some value := by
  unfold setOnce
  cases slot with
  | none => simp [eq_comm]
  | some old => simp

def Slots.set (slots : Slots) (name : String) (slot : Option String) : Slots :=
  if name = "organization" then { slots with organization := slot }
  else if name = "auth_client_id" then { slots with clientId := slot }
  else if name = "auth_client_secret" then { slots with clientSecret := slot }
  else slots

theorem record_required {slots : Slots} {key value : String} (needed : isRequiredKey key = true) :
    slots.record key value = (setOnce (slots.get key) value key).map (slots.set key) := by
  obtain rfl | rfl | rfl := isRequiredKey_iff.mp needed <;>
    simp only [Slots.record, Slots.get, if_true, String.reduceEq, if_false] <;> congr 1

theorem record_optional {slots : Slots} {key value : String} (optional : isRequiredKey key = false) :
    slots.record key value = .ok slots := by
  simp only [isRequiredKey, Bool.or_eq_false_iff, beq_eq_false_iff_ne, ne_eq] at optional
  obtain ⟨⟨first, second⟩, third⟩ := optional
  simp only [Slots.record, first, second, third, if_false]

theorem get_set_same {slots : Slots} {key : String} (slot : Option String)
    (needed : isRequiredKey key = true) : (slots.set key slot).get key = slot := by
  obtain rfl | rfl | rfl := isRequiredKey_iff.mp needed <;>
    simp only [Slots.set, Slots.get, if_true, String.reduceEq, if_false]

theorem get_set_other {slots : Slots} {key name : String} (slot : Option String)
    (other : name ≠ key) : (slots.set key slot).get name = slots.get name := by
  unfold Slots.set
  split
  · rename_i first
    subst first
    simp only [Slots.get, other, if_false]
  · split
    · rename_i second
      subst second
      simp only [Slots.get, other, if_false]
    · split
      · rename_i third
        subst third
        simp only [Slots.get, other, if_false]
      · rfl

theorem record_eq_ok_iff {slots next : Slots} {key value : String}
    (needed : isRequiredKey key = true) :
    slots.record key value = .ok next ↔ Fills slots next key value := by
  rw [record_required needed]
  constructor
  · intro recorded
    cases stored : setOnce (slots.get key) value key with
    | error message => rw [stored] at recorded; cases recorded
    | ok slot =>
      rw [stored] at recorded
      cases recorded
      obtain ⟨free, rfl⟩ := setOnce_eq_ok_iff.mp stored
      exact ⟨free, get_set_same _ needed, fun name _ other => get_set_other _ other⟩
  · rintro ⟨free, filled, kept⟩
    rw [setOnce_eq_ok_iff.mpr ⟨free, rfl⟩]
    refine congrArg Except.ok (Slots.ext_get fun name required => ?_)
    by_cases same : name = key
    · rw [same, get_set_same _ needed, filled]
    · rw [get_set_other _ same, kept name required same]

section Counted

variable {unescape : String → Option String} {slots next : Slots} {e : Entry}

/-- A value that is no string is refused under a required key. -/
private theorem textless_eq_ok_iff {key : String} :
    (if isRequiredKey key then (.error (mustBeString key) : Except String Slots) else .ok slots) =
        .ok next ↔ isRequiredKey key = false ∧ next = slots := by
  cases isRequiredKey key with
  | true => simp
  | false => simp [eq_comm]

theorem value_store_eq_ok_iff {key : String} {value : Value} :
    value.store unescape key slots = .ok next ↔
      (∀ text ∈ value.text, (unescape text).isSome) ∧
        if isRequiredKey key then
          ∃ content, value.text.bind unescape = some content ∧ Fills slots next key content
        else next = slots := by
  -- a value without a text cannot be told from a self-closing one
  have textless (none : value.text = none) :
      (isRequiredKey key = false ∧ next = slots) ↔
        (∀ text ∈ value.text, (unescape text).isSome) ∧
          if isRequiredKey key then
            ∃ content, value.text.bind unescape = some content ∧ Fills slots next key content
          else next = slots := by
    rw [none]
    cases isRequiredKey key <;> simp
  cases value with
  | selfClosing tag => exact textless_eq_ok_iff.trans (textless rfl)
  | element tag content ending =>
    by_cases string : tag.event = .start "string"
    · simp only [Value.store, Value.text, if_pos string, Option.bind_some, Option.mem_some,
        forall_eq']
      cases unescape (source content) with
      | none => simp
      | some text =>
        by_cases needed : isRequiredKey key = true
        · simp [record_eq_ok_iff needed, needed]
        · simp [record_optional (Bool.eq_false_iff.mpr needed), needed, eq_comm]
    · rw [Value.store, if_neg string]
      exact textless_eq_ok_iff.trans (textless (if_neg string))

/-- An entry is taken when it can be read and, under a required key, holds a string for
a free slot. -/
theorem store_eq_ok_iff :
    e.store unescape slots = .ok next ↔
      e.Readable unescape ∧ ∃ key, e.key unescape = some key ∧
        if isRequiredKey key then
          ∃ value, e.value.text.bind unescape = some value ∧ Fills slots next key value
        else next = slots := by
  unfold Entry.store Entry.Readable Entry.key
  cases unescape (source e.keyText) with
  | none => simp
  | some key => simp [value_store_eq_ok_iff]

theorem valuesOf_cons {key : String} (keyed : e.key unescape = some key) (entries : List Entry)
    (name : String) :
    valuesOf unescape (e :: entries) name =
      if key = name then e.value.text.bind unescape :: valuesOf unescape entries name
      else valuesOf unescape entries name := by
  simp only [valuesOf, List.filter_cons, keyed, beq_iff_eq, Option.some.injEq]
  split <;> rfl

/-- All entries are taken when they can be read and every required slot is filled at
most once, by a string. -/
theorem storeAll_eq_ok_iff {entries : List Entry} :
    storeAll unescape slots entries = .ok next ↔
      (∀ e ∈ entries, e.Readable unescape) ∧
        ∀ name, isRequiredKey name = true →
          (valuesOf unescape entries name = [] ∧ next.get name = slots.get name) ∨
          (slots.get name = none ∧ ∃ value, valuesOf unescape entries name = [some value] ∧
            next.get name = some value) := by
  induction entries generalizing slots with
  | nil =>
    constructor
    · intro stored
      cases stored
      exact ⟨List.forall_mem_nil _, fun name _ => .inl ⟨rfl, rfl⟩⟩
    · rintro ⟨-, unfilled⟩
      refine congrArg Except.ok (Slots.ext_get fun name needed => ?_)
      rcases unfilled name needed with ⟨-, same⟩ | ⟨-, value, filled, -⟩
      · exact same.symm
      · cases filled
  | cons e rest ih =>
    have split : storeAll unescape slots (e :: rest) = .ok next ↔
        ∃ middle, e.store unescape slots = .ok middle ∧
          storeAll unescape middle rest = .ok next := by
      rw [storeAll]
      cases e.store unescape slots with
      | error message => simp [Except.bind]
      | ok middle => simp [Except.bind]
    rw [split, List.forall_mem_cons]
    constructor
    · rintro ⟨middle, stored, storedRest⟩
      obtain ⟨readable, key, keyed, taken⟩ := store_eq_ok_iff.mp stored
      obtain ⟨others, filled⟩ := ih.mp storedRest
      refine ⟨⟨readable, others⟩, fun name needed => ?_⟩
      rw [valuesOf_cons keyed]
      by_cases same : key = name
      · subst same
        rw [if_pos needed] at taken
        obtain ⟨value, text, free, full, -⟩ := taken
        rcases filled key needed with ⟨none, kept⟩ | ⟨unfilled, -⟩
        · rw [if_pos rfl, none, text]
          exact .inr ⟨free, value, rfl, kept.trans full⟩
        · rw [full] at unfilled
          cases unfilled
      · rw [if_neg same]
        have kept : middle.get name = slots.get name := by
          by_cases required : isRequiredKey key = true
          · rw [if_pos required] at taken
            obtain ⟨value, -, -, -, kept⟩ := taken
            exact kept name needed fun other => same other.symm
          · rw [if_neg required] at taken
            rw [taken]
        rw [← kept]
        exact filled name needed
    · rintro ⟨⟨readable, others⟩, filled⟩
      obtain ⟨key, keyed⟩ : ∃ key, e.key unescape = some key := by
        obtain ⟨key, decoded⟩ := Option.isSome_iff_exists.mp readable.1
        exact ⟨trim key, by rw [Entry.key, decoded]; rfl⟩
      simp only [valuesOf_cons keyed] at filled
      by_cases required : isRequiredKey key = true
      · -- the entry fills its slot, so no later one may
        have here := filled key required
        rw [if_pos rfl] at here
        rcases here with ⟨absent, -⟩ | ⟨free, value, single, full⟩
        · cases absent
        · obtain ⟨text, none⟩ := List.cons.inj single
          have fills : Fills slots (slots.set key (some value)) key value :=
            ⟨free, get_set_same _ required, fun name _ other => get_set_other _ other⟩
          refine ⟨slots.set key (some value), store_eq_ok_iff.mpr ⟨readable, key, keyed, ?_⟩,
            ih.mpr ⟨others, fun name needed => ?_⟩⟩
          · rw [if_pos required]
            exact ⟨value, text, fills⟩
          · by_cases same : key = name
            · subst same
              exact .inl ⟨none, full.trans (get_set_same _ required).symm⟩
            · have there := filled name needed
              rw [if_neg same] at there
              rwa [get_set_other _ fun other => same other.symm]
      · refine ⟨slots, store_eq_ok_iff.mpr ⟨readable, key, keyed, ?_⟩,
          ih.mpr ⟨others, fun name needed => ?_⟩⟩
        · rw [if_neg required]
        · have other : key ≠ name := by
            rintro rfl
            exact required needed
          have there := filled name needed
          rwa [if_neg other] at there

end Counted

/-- The checks behind the loop pass. -/
structure Valid (token : ServiceTokenEnrollment) : Prop where
  organizationFilled : trim token.organization ≠ ""
  clientIdFilled : trim token.clientId ≠ ""
  clientSecretFilled : trim token.clientSecret ≠ ""
  organization : validateOrganization token.organization = .ok ()
  clientId : validateLine "auth_client_id" token.clientId 512 = .ok ()
  clientSecret : validateLine "auth_client_secret" token.clientSecret 4096 = .ok ()
  access : endsWith token.clientId ".access" = true

theorem required_eq_ok_iff {value : Option String} {key filled : String} :
    required value key = .ok filled ↔ value = some filled ∧ trim filled ≠ "" := by
  unfold required
  cases value with
  | none => simp
  | some content =>
    dsimp only
    split
    · rename_i blank
      constructor
      · intro failed
        cases failed
      · rintro ⟨same, filled⟩
        exact absurd (Option.some.inj same ▸ blank) filled
    · rename_i filled
      constructor
      · intro same
        cases same
        exact ⟨rfl, filled⟩
      · rintro ⟨same, -⟩
        rw [Option.some.inj same]

theorem enroll_eq_ok_iff {slots : Slots} {token : ServiceTokenEnrollment} :
    slots.enroll = .ok token ↔ slots.organization = some token.organization ∧
      slots.clientId = some token.clientId ∧ slots.clientSecret = some token.clientSecret ∧
      Valid token := by
  constructor
  · intro enrolled
    obtain ⟨organization, first, enrolled⟩ := bind_eq_ok_iff.mp enrolled
    obtain ⟨clientId, second, enrolled⟩ := bind_eq_ok_iff.mp enrolled
    obtain ⟨clientSecret, third, enrolled⟩ := bind_eq_ok_iff.mp enrolled
    obtain ⟨⟨⟩, label, enrolled⟩ := bind_eq_ok_iff.mp enrolled
    obtain ⟨⟨⟩, idLine, enrolled⟩ := bind_eq_ok_iff.mp enrolled
    obtain ⟨⟨⟩, secretLine, enrolled⟩ := bind_eq_ok_iff.mp enrolled
    split at enrolled
    · cases enrolled
    rename_i access
    cases enrolled
    obtain ⟨first, organizationFilled⟩ := required_eq_ok_iff.mp first
    obtain ⟨second, clientIdFilled⟩ := required_eq_ok_iff.mp second
    obtain ⟨third, clientSecretFilled⟩ := required_eq_ok_iff.mp third
    refine ⟨first, second, third, organizationFilled, clientIdFilled, clientSecretFilled, label,
      idLine, secretLine, by simpa using access⟩
  · rintro ⟨first, second, third, valid⟩
    have present {slot : Option String} {value key : String} (held : slot = some value)
        (filled : trim value ≠ "") : required slot key = .ok value :=
      required_eq_ok_iff.mpr ⟨held, filled⟩
    refine bind_eq_ok_iff.mpr ⟨_, present first valid.organizationFilled, ?_⟩
    refine bind_eq_ok_iff.mpr ⟨_, present second valid.clientIdFilled, ?_⟩
    refine bind_eq_ok_iff.mpr ⟨_, present third valid.clientSecretFilled, ?_⟩
    refine bind_eq_ok_iff.mpr ⟨_, valid.organization, ?_⟩
    refine bind_eq_ok_iff.mpr ⟨_, valid.clientId, ?_⟩
    refine bind_eq_ok_iff.mpr ⟨_, valid.clientSecret, ?_⟩
    rw [if_neg (by simp [valid.access])]

/-- The document holds every required value once, and nothing in it is unreadable. -/
structure Document.Holds (unescape : String → Option String) (doc : Document)
    (token : ServiceTokenEnrollment) : Prop where
  readable : ∀ e ∈ doc.entries, e.Readable unescape
  organization : valuesOf unescape doc.entries "organization" = [some token.organization]
  clientId : valuesOf unescape doc.entries "auth_client_id" = [some token.clientId]
  clientSecret : valuesOf unescape doc.entries "auth_client_secret" = [some token.clientSecret]
  valid : Valid token

section Grammar

variable {unescape : String → Option String}

/-- The slots are those of the token exactly where each value is there once. -/
private theorem storeAll_holds_iff {doc : Document} {token : ServiceTokenEnrollment} :
    (∃ slots, storeAll unescape {} doc.entries = .ok slots ∧ slots.enroll = .ok token) ↔
      doc.Holds unescape token := by
  -- a slot that is filled was filled by the one value under its key
  have single {slots : Slots} {name value : String} (filled : slots.get name = some value)
      (counted : (valuesOf unescape doc.entries name = [] ∧
          slots.get name = ({} : Slots).get name) ∨
        (({} : Slots).get name = none ∧ ∃ value, valuesOf unescape doc.entries name = [some value] ∧
          slots.get name = some value)) : valuesOf unescape doc.entries name = [some value] := by
    rcases counted with ⟨-, same⟩ | ⟨-, other, only, same⟩
    · rw [filled] at same
      simp [Slots.get] at same
    · rw [filled] at same
      rw [only, Option.some.inj same]
  constructor
  · rintro ⟨slots, stored, enrolled⟩
    obtain ⟨readable, counted⟩ := storeAll_eq_ok_iff.mp stored
    obtain ⟨first, second, third, valid⟩ := enroll_eq_ok_iff.mp enrolled
    exact ⟨readable, single first (counted "organization" (by decide)),
      single second (counted "auth_client_id" (by decide)),
      single third (counted "auth_client_secret" (by decide)), valid⟩
  · intro holds
    refine ⟨⟨some token.organization, some token.clientId, some token.clientSecret⟩,
      storeAll_eq_ok_iff.mpr ⟨holds.readable, fun name needed => ?_⟩,
      enroll_eq_ok_iff.mpr ⟨rfl, rfl, rfl, holds.valid⟩⟩
    obtain rfl | rfl | rfl := isRequiredKey_iff.mp needed
    · exact .inr ⟨rfl, _, holds.organization, rfl⟩
    · exact .inr ⟨rfl, _, holds.clientId, rfl⟩
    · exact .inr ⟨rfl, _, holds.clientSecret, rfl⟩

theorem document_eq_ok_iff {doc : Document} {token : ServiceTokenEnrollment}
    (formed : doc.WellFormed) :
    fromMdmXml unescape doc.tokens = .ok token ↔ doc.Holds unescape token := by
  rw [← storeAll_holds_iff]
  unfold fromMdmXml
  rw [parse_document formed]
  cases storeAll unescape {} doc.entries with
  | error message => simp [Except.map, bind, Except.bind]
  | ok slots => simp [Except.map, bind, Except.bind]

/-- An accepted stream is a well-formed document. -/
theorem accepted_document {xml : List Token} {token : ServiceTokenEnrollment}
    (accepted : fromMdmXml unescape xml = .ok token) :
    ∃ doc : Document, doc.WellFormed ∧ doc.tokens = xml := by
  obtain ⟨finish, parsed, accepted⟩ := bind_eq_ok_iff.mp accepted
  split at accepted
  · cases accepted
  rename_i complete
  have ended : finish.rootOpen = false ∧ finish.rootClosed = true := by simpa using complete
  obtain ⟨prolog, opening, rest, rfl, blank, opened, body⟩ :=
    parse_left (fun _ => rfl) parsed ended.1 ended.2
  obtain ⟨entries, tail, closing, epilog, rfl, formed, tailBlank, closed, epilogBlank⟩ := body
  exact ⟨⟨prolog, opening, entries, tail, closing, epilog⟩,
    ⟨blank, opened, formed, tailBlank, closed, epilogBlank⟩, by simp [Document.tokens]⟩

theorem accepted_valid {xml : List Token} {token : ServiceTokenEnrollment}
    (accepted : fromMdmXml unescape xml = .ok token) : Valid token := by
  obtain ⟨doc, formed, rfl⟩ := accepted_document accepted
  exact ((document_eq_ok_iff formed).mp accepted).valid

/-- The values under a required key are read off the required pairs. -/
theorem valuesOf_requiredPairs {entries : List Entry} {name : String}
    (needed : isRequiredKey name = true) :
    valuesOf unescape entries name =
      ((requiredPairs unescape entries).filter fun pair => pair.1 == some name).map Prod.snd := by
  simp only [valuesOf, requiredPairs, List.filter_map, List.map_map, List.filter_filter]
  congr 1
  apply List.filter_congr
  intro e _
  by_cases here : e.key unescape = some name <;> simp [here, needed]

/-- The parser accepts exactly the documents that hold the three values, and answers
these; the order of the pairs and pairs under other keys play no part in it. -/
theorem mdm_document_grammar (unescape : String → Option String) :
    (∀ xml token, fromMdmXml unescape xml = .ok token ↔
      ∃ doc : Document, doc.WellFormed ∧ doc.tokens = xml ∧ doc.Holds unescape token) ∧
    (∀ doc other : Document, ∀ token, fromMdmXml unescape doc.tokens = .ok token →
      doc.WellFormed → other.WellFormed → (∀ e ∈ other.entries, e.Readable unescape) →
      (requiredPairs unescape doc.entries).Perm (requiredPairs unescape other.entries) →
      fromMdmXml unescape other.tokens = .ok token) := by
  constructor
  · intro xml token
    constructor
    · intro accepted
      obtain ⟨doc, formed, rfl⟩ := accepted_document accepted
      exact ⟨doc, formed, rfl, (document_eq_ok_iff formed).mp accepted⟩
    · rintro ⟨doc, formed, rfl, holds⟩
      exact (document_eq_ok_iff formed).mpr holds
  · intro doc other token accepted formed otherFormed readable same
    have holds := (document_eq_ok_iff formed).mp accepted
    have moved {name value : String} (needed : isRequiredKey name = true)
        (single : valuesOf unescape doc.entries name = [some value]) :
        valuesOf unescape other.entries name = [some value] := by
      rw [valuesOf_requiredPairs needed] at single ⊢
      have perm := (same.filter fun pair => pair.1 == some name).map Prod.snd
      rw [single] at perm
      exact List.perm_singleton.mp perm.symm
    exact (document_eq_ok_iff otherFormed).mpr ⟨readable, moved (by decide) holds.organization,
      moved (by decide) holds.clientId, moved (by decide) holds.clientSecret, holds.valid⟩

/-- A pair without anything around it. -/
def plainEntry (key : String) (value : String) : Entry where
  lead := []
  keyTag := ⟨.start "key", "<key>"⟩
  keyText := [⟨.text key, key⟩]
  keyEnd := ⟨.close "key", "</key>"⟩
  gap := []
  value := .element ⟨.start "string", "<string>"⟩ [⟨.text value, value⟩] ⟨.close "string", "</string>"⟩

def plainDocument (entries : List Entry) : Document :=
  ⟨[], ⟨.start "dict", "<dict>"⟩, entries, [], ⟨.close "dict", "</dict>"⟩, []⟩

theorem plainDocument_wellFormed {pairs : List (String × String)} :
    (plainDocument (pairs.map fun pair => plainEntry pair.1 pair.2)).WellFormed where
  prolog := List.forall_mem_nil _
  opened := rfl
  entries := by
    intro e member
    obtain ⟨pair, -, rfl⟩ := List.mem_map.mp member
    exact ⟨List.forall_mem_nil _, rfl, .leaf rfl .nil, rfl, List.forall_mem_nil _,
      "string", rfl, by decide, .leaf rfl .nil, rfl⟩
  tail := List.forall_mem_nil _
  closed := rfl
  epilog := List.forall_mem_nil _

def smallPairs : List (String × String) :=
  [("auth_client_id", "example.access"), ("auth_client_secret", "secret"), ("auto_connect", "1"),
    ("organization", "example-team")]

def smallEnrollment : ServiceTokenEnrollment := ⟨"example-team", "example.access", "secret"⟩

theorem smallDocument_holds :
    (plainDocument (smallPairs.map fun pair => plainEntry pair.1 pair.2)).Holds some smallEnrollment := by
  refine ⟨?_, by decide, by decide +kernel, by decide +kernel, ?_⟩
  · intro e member
    exact ⟨rfl, fun text _ => rfl⟩
  · constructor <;> decide

/-- A document with one pair more than it needs. -/
theorem mdm_document_grammar_small :
    ∃ xml, fromMdmXml some xml = .ok ⟨"example-team", "example.access", "secret"⟩ :=
  ⟨_, ((mdm_document_grammar some).1 _ _).mpr ⟨plainDocument (smallPairs.map fun pair =>
    plainEntry pair.1 pair.2), plainDocument_wellFormed, rfl, smallDocument_holds⟩⟩

end Grammar

end Usque.Mdm
