import Usque.Lib.References
import Usque.MdmGrammar

/-! The text of an MDM credential beside the text that XML gives its element. The parser
unescapes the source between the tags; where that source holds markup, the markup becomes
part of the credential. -/
namespace Usque.Mdm

open References (expand)

/-! ## What quick-xml promises -/

/-- quick-xml's `unescape`: every `&name;` is replaced by what it stands for, and nothing
else is. No name holds an angle bracket. -/
structure Unescapes (unescape : String → Option String) (resolve : List Char → Option (List Char)) :
    Prop where
  reads : ∀ text, unescape text = (expand resolve '&' ';' none text.toList).map String.ofList
  names : ∀ name text, resolve name = some text → '<' ∉ name ∧ '>' ∉ name

/-- The piece of the document that an event is read from. A text ends in front of markup
and of a reference. -/
def Token.Written (token : Token) : Prop :=
  match token.event with
  | .text _ => '<' ∉ token.source.toList ∧ '&' ∉ token.source.toList
  | .comment => ∃ inside, token.source = "<!--" ++ inside ++ "-->"
  | .other =>
    (∃ inside, token.source = "<![CDATA[" ++ inside ++ "]]>") ∨
      (∃ inside, token.source = "<?" ++ inside ++ "?>") ∨
      ∃ name : String, token.source = "&" ++ name ++ ";" ∧ '&' ∉ name.toList ∧ ';' ∉ name.toList
  | .decl | .docType | .start _ | .empty _ | .close _ | .malformed => True

/-! ## The text that XML gives an element -/

/-- What stands inside a CDATA section, taken literally. -/
def cdataContent (source : List Char) : Option (List Char) :=
  if "<![CDATA[".toList.isPrefixOf source then some ((source.drop 9).rdrop 3) else none

section Meaning

variable (unescape : String → Option String)

/-- What an event adds to the character data around it; none for an event that character
data cannot hold, a child element among them. -/
def Token.characterData (token : Token) : Option String :=
  match token.event with
  | .text _ => unescape token.source
  | .comment => some ""
  | .other =>
    match cdataContent token.source.toList with
    | some content => some (String.ofList content)
    | none => if token.source.toList.head? = some '&' then unescape token.source else some ""
  | .decl | .docType | .start _ | .empty _ | .close _ | .malformed => none

/-- The character data of an element. Line ends are as they are written: a value that is
accepted holds none. -/
def characterData : List Token → Option String
  | [] => some ""
  | token :: rest =>
    (token.characterData unescape).bind fun text => (characterData rest).map (text ++ ·)

end Meaning

/-- A text or a reference. -/
def Token.isPlain (token : Token) : Bool :=
  match token.event with
  | .text _ => true
  | .other => token.source.toList.head? == some '&'
  | .decl | .comment | .docType | .start _ | .empty _ | .close _ | .malformed => false

/-- The tag of a child element. -/
def Token.isChild (token : Token) : Bool :=
  match token.event with
  | .start _ | .empty _ => true
  | .decl | .comment | .docType | .close _ | .text _ | .other | .malformed => false

/-- What stands between the tags of a `<string>`. -/
def Value.content : Value → Option (List Token)
  | .selfClosing _ => none
  | .element tag content _ => if tag.event = .start "string" then some content else none

/-- The credential that is read from a required key. -/
def credential (token : ServiceTokenEnrollment) (key : String) : Option String :=
  if key = "organization" then some token.organization
  else if key = "auth_client_id" then some token.clientId
  else if key = "auth_client_secret" then some token.clientSecret
  else none

/-- Every credential is the character data of its `<string>`, so no markup is part of one,
and no `<string>` has child elements. -/
structure Document.HoldsXmlText (unescape : String → Option String) (doc : Document)
    (token : ServiceTokenEnrollment) : Prop where
  text : ∀ e ∈ doc.entries, ∀ key, e.key unescape = some key → isRequiredKey key = true →
    e.value.content.bind (characterData unescape) = credential token key
  childless : ∀ e ∈ doc.entries, ∀ content, e.value.content = some content →
    ∀ piece ∈ content, piece.isChild = false

/-- The `<string>` elements of the required keys hold texts and references only, and no
`<string>` has child elements. -/
structure Document.PlainStrings (unescape : String → Option String) (doc : Document) : Prop where
  plain : ∀ e ∈ doc.entries, ∀ key, e.key unescape = some key → isRequiredKey key = true →
    ∀ content, e.value.content = some content → ∀ piece ∈ content, piece.isPlain = true
  childless : ∀ e ∈ doc.entries, ∀ content, e.value.content = some content →
    ∀ piece ∈ content, piece.isChild = false

/-! ## One piece of the source -/

section Pieces

variable {unescape : String → Option String} {resolve : List Char → Option (List Char)}
  {piece : Token} {content : List Token}

theorem Unescapes.foreign_open (unescapes : Unescapes unescape resolve) :
    References.Foreign resolve '&' ';' '<' :=
  ⟨fun name text known => (unescapes.names name text known).1, nofun, nofun⟩

theorem Unescapes.foreign_close (unescapes : Unescapes unescape resolve) :
    References.Foreign resolve '&' ';' '>' :=
  ⟨fun name text known => (unescapes.names name text known).2, nofun, nofun⟩

theorem source_cons (piece : Token) (rest : List Token) :
    (source (piece :: rest)).toList = piece.source.toList ++ (source rest).toList := by
  simp [source]

theorem Unescapes.eq_some_iff (unescapes : Unescapes unescape resolve) {text value : String} :
    unescape text = some value ↔ expand resolve '&' ';' none text.toList = some value.toList := by
  rw [unescapes.reads, Option.map_eq_some_iff]
  constructor
  · rintro ⟨chars, read, rfl⟩
    rw [read, String.toList_ofList]
  · intro read
    exact ⟨_, read, String.ofList_toList⟩

theorem cdataContent_cdata (inside : String) :
    cdataContent ("<![CDATA[" ++ inside ++ "]]>").toList = some inside.toList := by
  have front : "<![CDATA[".toList.isPrefixOf ("<![CDATA[" ++ inside ++ "]]>").toList = true := by
    simp only [String.toList_append, List.append_assoc, List.isPrefixOf_iff_prefix]
    exact List.prefix_append _ _
  rw [cdataContent, if_pos front]
  simp [List.rdrop]

theorem cdataContent_none {source : List Char} (apart : ¬ "<![CDATA[".toList <+: source) :
    cdataContent source = none := by
  rw [← List.isPrefixOf_iff_prefix, Bool.not_eq_true] at apart
  rw [cdataContent, apart]
  rfl

/-- A text or a reference is unescaped on its own, and that is its character data. -/
theorem plain_piece (resolve : List Char → Option (List Char)) (written : piece.Written)
    (plain : piece.isPlain = true) :
    piece.characterData unescape = unescape piece.source ∧
      ∀ rest, expand resolve '&' ';' none (piece.source.toList ++ rest) =
        (expand resolve '&' ';' none piece.source.toList).bind fun text =>
          (expand resolve '&' ';' none rest).map (text ++ ·) := by
  unfold Token.Written at written
  cases event : piece.event with
  | text content =>
    rw [event] at written
    refine ⟨by simp only [Token.characterData, event], ?_⟩
    intro rest
    have alone : expand resolve '&' ';' none (piece.source.toList ++ []) =
        some (piece.source.toList ++ []) := References.expand_plain written.2 []
    rw [List.append_nil] at alone
    rw [References.expand_plain written.2, alone, Option.bind_some]
  | other =>
    rw [event] at written
    have starts : piece.source.toList.head? = some '&' := by
      simpa only [Token.isPlain, event, beq_iff_eq] using plain
    rcases written with ⟨inside, shape⟩ | ⟨inside, shape⟩ | ⟨name, shape, unopened, unclosed⟩
    · rw [shape] at starts
      simp at starts
    · rw [shape] at starts
      simp at starts
    · have chars : piece.source.toList = '&' :: (name.toList ++ [';']) := by simp [shape]
      have noSection : cdataContent piece.source.toList = none := by
        rw [chars]
        refine cdataContent_none ?_
        intro opens
        exact absurd (List.cons_prefix_cons.mp opens).1 nofun
      refine ⟨by simp only [Token.characterData, event, noSection, starts, if_true], ?_⟩
      intro rest
      have replaced (rest : List Char) :
          expand resolve '&' ';' none (piece.source.toList ++ rest) =
            (resolve name.toList).bind fun text =>
              (expand resolve '&' ';' none rest).map (text ++ ·) := by
        rw [chars, List.cons_append, List.append_assoc, List.singleton_append]
        exact References.expand_reference unopened unclosed rest
      have alone := replaced []
      rw [List.append_nil] at alone
      rw [replaced, alone]
      cases resolve name.toList <;> simp [expand]
  | decl | comment | docType | start name | empty name | close name | malformed =>
    simp only [Token.isPlain, event] at plain
    cases plain

theorem getLast?_ends {front tail : String} {last : Char} (ends : tail.toList.getLast? = some last) :
    (front ++ tail).toList.getLast? = some last := by
  rw [String.toList_append, List.getLast?_append, ends, Option.some_or]

/-- Markup begins with a bracket that its character data does not have, and ends with one. -/
theorem marked_piece {text : String} (written : piece.Written) (marked : piece.isPlain = false)
    (data : piece.characterData unescape = some text) :
    piece.source.toList.getLast? = some '>' ∧
      text.toList.count '<' + 1 ≤ piece.source.toList.count '<' := by
  -- where there is no character data, the opening bracket alone is enough
  have delimited (opens : piece.source.toList.head? = some '<')
      (closes : piece.source.toList.getLast? = some '>') :
      piece.source.toList.getLast? = some '>' ∧
        "".toList.count '<' + 1 ≤ piece.source.toList.count '<' := by
    refine ⟨closes, ?_⟩
    have first : '<' ∈ piece.source.toList := List.mem_of_mem_head? opens
    exact List.count_pos_iff.mpr first
  unfold Token.Written at written
  cases event : piece.event with
  | comment =>
    rw [event] at written
    obtain ⟨inside, shape⟩ := written
    simp only [Token.characterData, event] at data
    cases data
    exact delimited (by simp [shape]) (shape ▸ getLast?_ends rfl)
  | other =>
    rw [event] at written
    rcases written with ⟨inside, shape⟩ | ⟨inside, shape⟩ | ⟨name, shape, -, -⟩
    · simp only [Token.characterData, event, shape, cdataContent_cdata, Option.some.injEq] at data
      subst data
      have chars : piece.source.toList = "<![CDATA[".toList ++ (inside.toList ++ "]]>".toList) := by
        simp [shape]
      have opening : "<![CDATA[".toList.count '<' = 1 := rfl
      refine ⟨shape ▸ getLast?_ends rfl, ?_⟩
      rw [chars, List.count_append, List.count_append, String.toList_ofList, opening]
      omega
    · have noSection : cdataContent piece.source.toList = none := by
        refine cdataContent_none ?_
        intro opens
        rw [shape, String.toList_append, String.toList_append, List.append_assoc] at opens
        have second := (List.cons_prefix_cons.mp (List.cons_prefix_cons.mp opens).2).1
        exact absurd second nofun
      have silent : piece.source.toList.head? ≠ some '&' := by
        rw [shape]
        simp
      simp only [Token.characterData, event, noSection, if_neg silent] at data
      cases data
      exact delimited (by simp [shape]) (shape ▸ getLast?_ends rfl)
    · simp only [Token.isPlain, event, shape] at marked
      simp at marked
  | text content =>
    simp only [Token.isPlain, event] at marked
    cases marked
  | decl | docType | start name | empty name | close name | malformed =>
    simp only [Token.characterData, event] at data
    cases data

/-! ## The content of an element -/

/-- Texts and references are unescaped to their character data. -/
theorem plain_content (unescapes : Unescapes unescape resolve)
    (written : ∀ piece ∈ content, piece.Written) (plain : ∀ piece ∈ content, piece.isPlain = true) :
    characterData unescape content = unescape (source content) := by
  induction content with
  | nil =>
    rw [unescapes.reads]
    rfl
  | cons piece rest ih =>
    obtain ⟨writtenHere, writtenRest⟩ := List.forall_mem_cons.mp written
    obtain ⟨plainHere, plainRest⟩ := List.forall_mem_cons.mp plain
    obtain ⟨data, splits⟩ := plain_piece resolve writtenHere plainHere
    rw [characterData, data, ih writtenRest plainRest, unescapes.reads, unescapes.reads,
      unescapes.reads, source_cons, splits]
    cases expand resolve '&' ';' none piece.source.toList with
    | none => rfl
    | some text =>
      cases expand resolve '&' ';' none (source rest).toList with
      | none => rfl
      | some more => simp [String.ofList_append]

/-- Every piece of markup leaves at least one bracket more in the unescaped source than in
the character data. -/
theorem marked_content (unescapes : Unescapes unescape resolve) {value : List Char} {data : String}
    (written : ∀ piece ∈ content, piece.Written)
    (read : expand resolve '&' ';' none (source content).toList = some value)
    (held : characterData unescape content = some data) :
    data.toList.count '<' + content.countP (fun piece => !piece.isPlain) ≤ value.count '<' := by
  induction content generalizing value data with
  | nil =>
    cases held
    exact Nat.zero_le _
  | cons piece rest ih =>
    obtain ⟨writtenHere, writtenRest⟩ := List.forall_mem_cons.mp written
    obtain ⟨text, here, held⟩ := Option.bind_eq_some_iff.mp held
    obtain ⟨more, behind, rfl⟩ := Option.map_eq_some_iff.mp held
    rw [source_cons] at read
    rw [String.toList_append, List.count_append]
    by_cases plain : piece.isPlain = true
    · obtain ⟨same, splits⟩ := plain_piece resolve writtenHere plain
      rw [same, unescapes.eq_some_iff] at here
      rw [splits, here, Option.bind_some] at read
      obtain ⟨tail, readTail, rfl⟩ := Option.map_eq_some_iff.mp read
      have later := ih writtenRest readTail behind
      rw [List.countP_cons_of_neg (by simp [plain]), List.count_append]
      omega
    · have marked : piece.isPlain = false := by simpa using plain
      obtain ⟨ends, counted⟩ := marked_piece writtenHere marked here
      obtain ⟨front, tail, readFront, readTail, rfl⟩ :=
        References.expand_split unescapes.foreign_close ends read
      have kept := References.count_le_expand unescapes.foreign_open readFront
      have later := ih writtenRest readTail behind
      rw [List.countP_cons_of_pos (by simp [marked]), List.count_append]
      omega

/-- The unescaped source is the character data exactly where there is no markup. -/
theorem content_text_iff (unescapes : Unescapes unescape resolve) {value : String}
    (written : ∀ piece ∈ content, piece.Written) (read : unescape (source content) = some value) :
    characterData unescape content = some value ↔ ∀ piece ∈ content, piece.isPlain = true := by
  constructor
  · intro held piece member
    have counted := marked_content unescapes written (unescapes.eq_some_iff.mp read) held
    have none : content.countP (fun piece => !piece.isPlain) = 0 := by omega
    simpa using List.countP_eq_zero.mp none piece member
  · intro plain
    rw [plain_content unescapes written plain, read]

end Pieces

/-! ## Accepted documents -/

section Documents

variable {unescape : String → Option String} {resolve : List Char → Option (List Char)}
  {doc : Document} {token : ServiceTokenEnrollment} {e : Entry}

theorem text_eq_content (value : Value) : value.text = value.content.map source := by
  cases value with
  | selfClosing tag => rfl
  | element tag content ending =>
    by_cases string : tag.event = .start "string"
    · simp only [Value.text, Value.content, if_pos string, Option.map_some]
    · simp only [Value.text, Value.content, if_neg string, Option.map_none]

/-- The one entry under a required key holds the credential, unescaped from its source. -/
theorem credential_read (holds : doc.Holds unescape token) (member : e ∈ doc.entries) {key : String}
    (keyed : e.key unescape = some key) (needed : isRequiredKey key = true) :
    ∃ content value, e.value.content = some content ∧ unescape (source content) = some value ∧
      credential token key = some value := by
  have single : ∃ value, credential token key = some value ∧
      valuesOf unescape doc.entries key = [some value] := by
    obtain rfl | rfl | rfl := isRequiredKey_iff.mp needed
    · exact ⟨_, rfl, holds.organization⟩
    · exact ⟨_, rfl, holds.clientId⟩
    · exact ⟨_, rfl, holds.clientSecret⟩
  obtain ⟨value, known, only⟩ := single
  have here : e.value.text.bind unescape ∈ valuesOf unescape doc.entries key :=
    List.mem_map.mpr ⟨e, List.mem_filter.mpr ⟨member, by simp [keyed]⟩, rfl⟩
  rw [only, List.mem_singleton, text_eq_content] at here
  obtain ⟨text, found, read⟩ := Option.bind_eq_some_iff.mp here
  obtain ⟨content, held, rfl⟩ := Option.map_eq_some_iff.mp found
  exact ⟨content, value, held, read, known⟩

theorem content_written (written : ∀ piece ∈ doc.tokens, piece.Written) (member : e ∈ doc.entries)
    {content : List Token} (held : e.value.content = some content) :
    ∀ piece ∈ content, piece.Written := by
  intro piece inside
  refine written piece ?_
  have inValue : piece ∈ e.value.tokens := by
    cases value : e.value with
    | selfClosing tag =>
      rw [value] at held
      cases held
    | element tag inner ending =>
      rw [value, Value.content] at held
      split at held
      · cases held
        simp [Value.tokens, inside]
      · cases held
  have inEntry : piece ∈ e.tokens := by simp [Entry.tokens, inValue]
  have inEntries : piece ∈ doc.entries.flatMap Entry.tokens :=
    List.mem_flatMap.mpr ⟨e, member, inEntry⟩
  simp only [Document.tokens, List.mem_append, List.mem_cons]
  exact .inl (.inl (.inr (.inr inEntries)))

end Documents

/-- Of an accepted document the credentials are the XML text, and no `<string>` has child
elements, exactly where the required values are texts and references and no other
`<string>` has child elements. -/
theorem credentials_are_text_iff {unescape : String → Option String}
    {resolve : List Char → Option (List Char)} (unescapes : Unescapes unescape resolve)
    {xml : List Token} (written : ∀ piece ∈ xml, piece.Written) {token : ServiceTokenEnrollment}
    (accepted : fromMdmXml unescape xml = .ok token) :
    (∃ doc : Document, doc.WellFormed ∧ doc.tokens = xml) ∧
      ∀ doc : Document, doc.WellFormed → doc.tokens = xml →
        (doc.HoldsXmlText unescape token ↔ doc.PlainStrings unescape) := by
  refine ⟨accepted_document accepted, ?_⟩
  rintro doc formed rfl
  have holds := (document_eq_ok_iff formed).mp accepted
  constructor
  · rintro ⟨text, childless⟩
    refine ⟨?_, childless⟩
    intro e member key keyed needed content held
    obtain ⟨found, value, same, read, known⟩ := credential_read holds member keyed needed
    cases held.symm.trans same
    have data := text e member key keyed needed
    rw [held, Option.bind_some, known] at data
    exact (content_text_iff unescapes (content_written written member held) read).mp data
  · rintro ⟨plain, childless⟩
    refine ⟨?_, childless⟩
    intro e member key keyed needed
    obtain ⟨content, value, held, read, known⟩ := credential_read holds member keyed needed
    rw [held, Option.bind_some, known]
    exact (content_text_iff unescapes (content_written written member held) read).mpr
      (plain e member key keyed needed content held)

/-! ## Small documents -/

def predefinedEntities : List (List Char × List Char) :=
  [("amp".toList, ['&']), ("lt".toList, ['<']), ("gt".toList, ['>']),
    ("apos".toList, [Char.ofNat 39]), ("quot".toList, [Char.ofNat 34])]

def predefined (name : List Char) : Option (List Char) :=
  (predefinedEntities.find? fun entity => entity.1 == name).map Prod.snd

def unescapePredefined (text : String) : Option String :=
  (expand predefined '&' ';' none text.toList).map String.ofList

theorem unescapePredefined_unescapes : Unescapes unescapePredefined predefined where
  reads := fun _ => rfl
  names := by
    intro name text known
    obtain ⟨entity, found, -⟩ := Option.map_eq_some_iff.mp known
    have unbracketed : ∀ entity ∈ predefinedEntities, '<' ∉ entity.1 ∧ '>' ∉ entity.1 := by decide
    have same : entity.1 = name := by simpa using List.find?_some found
    exact same ▸ unbracketed entity (List.mem_of_find?_eq_some found)

def textToken (text : String) : Token := ⟨.text text, text⟩

/-- The pair of a required key, with this content in its `<string>`. -/
def contentEntry (key : String) (content : List Token) : Entry :=
  { plainEntry key "" with
    value := .element ⟨.start "string", "<string>"⟩ content ⟨.close "string", "</string>"⟩ }

/-- A document that is complete but for its client secret. -/
def secretDocument (secret : List Token) : Document :=
  plainDocument [contentEntry "organization" [textToken "example-team"],
    contentEntry "auth_client_id" [textToken "example.access"],
    contentEntry "auth_client_secret" secret]

theorem secretDocument_wellFormed {secret : List Token} (forest : Markup.Forest shape secret) :
    (secretDocument secret).WellFormed where
  prolog := List.forall_mem_nil _
  opened := rfl
  entries := by
    have entry (key : String) {content : List Token} (inside : Markup.Forest shape content) :
        (contentEntry key content).WellFormed :=
      ⟨List.forall_mem_nil _, rfl, .leaf rfl .nil, rfl, List.forall_mem_nil _,
        "string", rfl, by decide, inside, rfl⟩
    intro e member
    simp only [secretDocument, plainDocument, List.mem_cons, List.not_mem_nil, or_false] at member
    rcases member with rfl | rfl | rfl
    · exact entry _ (.leaf rfl .nil)
    · exact entry _ (.leaf rfl .nil)
    · exact entry _ forest
  tail := List.forall_mem_nil _
  closed := rfl
  epilog := List.forall_mem_nil _

private theorem contentEntry_key (content : List Token) :
    (contentEntry "organization" content).key unescapePredefined = some "organization" ∧
      (contentEntry "auth_client_id" content).key unescapePredefined = some "auth_client_id" ∧
      (contentEntry "auth_client_secret" content).key unescapePredefined =
        some "auth_client_secret" := by
  have keys : ∀ key ∈ ["organization", "auth_client_id", "auth_client_secret"],
      (plainEntry key "").key unescapePredefined = some key := by decide
  exact ⟨keys _ (by simp), keys _ (by simp), keys _ (by simp)⟩

private theorem contentEntry_readable {key name : String} {content : List Token} {value : String}
    (keyed : (contentEntry key content).key unescapePredefined = some name)
    (read : unescapePredefined (source content) = some value) :
    (contentEntry key content).Readable unescapePredefined := by
  obtain ⟨text, decoded, -⟩ := Option.map_eq_some_iff.mp keyed
  refine ⟨Option.isSome_iff_exists.mpr ⟨text, decoded⟩, ?_⟩
  intro other same
  cases same
  exact Option.isSome_iff_exists.mpr ⟨value, read⟩

/-- This content makes a client secret of this value. -/
def MakesSecret (secret : List Token) (value : String) : Prop :=
  unescapePredefined (source secret) = some value ∧ trim value ≠ "" ∧
    validateLine "auth_client_secret" value 4096 = .ok ()

instance (secret : List Token) (value : String) : Decidable (MakesSecret secret value) :=
  inferInstanceAs (Decidable (_ ∧ _ ∧ _))

theorem secretDocument_accepted {secret : List Token} {value : String}
    (forest : Markup.Forest shape secret) (makes : MakesSecret secret value) :
    fromMdmXml unescapePredefined (secretDocument secret).tokens =
      .ok ⟨"example-team", "example.access", value⟩ := by
  obtain ⟨read, filled, line⟩ := makes
  refine (document_eq_ok_iff (secretDocument_wellFormed forest)).mpr ?_
  obtain ⟨team, client⟩ :
      unescapePredefined (source [textToken "example-team"]) = some "example-team" ∧
        unescapePredefined (source [textToken "example.access"]) = some "example.access" := by
    decide
  obtain ⟨first, -, -⟩ := contentEntry_key [textToken "example-team"]
  obtain ⟨-, second, -⟩ := contentEntry_key [textToken "example.access"]
  obtain ⟨-, -, third⟩ := contentEntry_key secret
  have small := smallDocument_holds.valid
  have values (name : String) :
      valuesOf unescapePredefined (secretDocument secret).entries name =
        (if "organization" = name then [some "example-team"] else []) ++
          (if "auth_client_id" = name then [some "example.access"] else []) ++
          (if "auth_client_secret" = name then [some value] else []) := by
    have text (key : String) {content : List Token} {value : String}
        (read : unescapePredefined (source content) = some value) :
        (contentEntry key content).value.text.bind unescapePredefined = some value := read
    simp only [secretDocument, plainDocument, valuesOf_cons first, valuesOf_cons second,
      valuesOf_cons third, text _ team, text _ client, text _ read]
    split <;> split <;> split <;> rfl
  refine ⟨?_, (values _).trans (by simp), (values _).trans (by simp), (values _).trans (by simp), ?_⟩
  · intro e member
    simp only [secretDocument, plainDocument, List.mem_cons, List.not_mem_nil, or_false] at member
    rcases member with rfl | rfl | rfl
    · exact contentEntry_readable first team
    · exact contentEntry_readable second client
    · exact contentEntry_readable third read
  · exact ⟨small.organizationFilled, small.clientIdFilled, filled, small.organization,
      small.clientId, line, small.access⟩

private theorem contentEntry_written {key : String} {content : List Token}
    (keyWritten : (textToken key).Written) (written : ∀ piece ∈ content, piece.Written) :
    ∀ piece ∈ (contentEntry key content).tokens, piece.Written := by
  intro piece member
  simp only [contentEntry, plainEntry, Entry.tokens, Value.tokens, List.nil_append, List.cons_append,
    List.mem_cons, List.mem_append, List.not_mem_nil, or_false] at member
  rcases member with rfl | rfl | rfl | rfl | inside | rfl
  · trivial
  · exact keyWritten
  · trivial
  · trivial
  · exact written piece inside
  · trivial

theorem secretDocument_written {secret : List Token} (written : ∀ piece ∈ secret, piece.Written) :
    ∀ piece ∈ (secretDocument secret).tokens, piece.Written := by
  have alone {text : String} (plain : (textToken text).Written) :
      ∀ piece ∈ [textToken text], piece.Written := by
    intro piece member
    exact List.mem_singleton.mp member ▸ plain
  have label : ∀ text ∈ ["organization", "example-team", "auth_client_id", "example.access",
      "auth_client_secret"], (textToken text).Written := by
    simp [Token.Written, textToken]
  intro piece member
  simp only [secretDocument, plainDocument, Document.tokens, List.flatMap_cons, List.flatMap_nil,
    List.nil_append, List.append_nil, List.mem_append, List.mem_cons, List.not_mem_nil,
    or_false] at member
  rcases member with (rfl | first | second | third) | rfl
  · trivial
  · exact contentEntry_written (label _ (by simp)) (alone (label _ (by simp))) piece first
  · exact contentEntry_written (label _ (by simp)) (alone (label _ (by simp))) piece second
  · exact contentEntry_written (label _ (by simp)) written piece third
  · trivial

theorem Token.isPlain_childless {piece : Token} (plain : piece.isPlain = true) :
    piece.isChild = false := by
  unfold Token.isPlain at plain
  unfold Token.isChild
  cases event : piece.event <;> simp only [event] at plain ⊢
  all_goals cases plain

theorem secretDocument_plain {unescape : String → Option String} {secret : List Token}
    (plain : ∀ piece ∈ secret, piece.isPlain = true) :
    (secretDocument secret).PlainStrings unescape := by
  have all : ∀ e ∈ (secretDocument secret).entries, ∀ content, e.value.content = some content →
      ∀ piece ∈ content, piece.isPlain = true := by
    have alone (text : String) : ∀ piece ∈ [textToken text], piece.isPlain = true := by
      intro piece member
      rw [List.mem_singleton.mp member]
      rfl
    intro e member content held
    simp only [secretDocument, plainDocument, List.mem_cons, List.not_mem_nil, or_false] at member
    rcases member with rfl | rfl | rfl
    · cases held
      exact alone _
    · cases held
      exact alone _
    · cases held
      exact plain
  exact ⟨fun e member _ _ _ => all e member, fun e member content held piece inside =>
    Token.isPlain_childless (all e member content held piece inside)⟩

def entitySecret : List Token := [textToken "secret", ⟨.other, "&amp;"⟩, textToken "value"]

/-- A secret of texts and a reference is the text that XML gives it. -/
theorem credentials_are_text_for_an_entity :
    ∃ token, fromMdmXml unescapePredefined (secretDocument entitySecret).tokens = .ok token ∧
      token.clientSecret = "secret&value" ∧
      (secretDocument entitySecret).HoldsXmlText unescapePredefined token := by
  have forest : Markup.Forest shape entitySecret := .leaf rfl (.leaf rfl (.leaf rfl .nil))
  have accepted : fromMdmXml unescapePredefined (secretDocument entitySecret).tokens =
      .ok ⟨"example-team", "example.access", "secret&value"⟩ :=
    secretDocument_accepted forest (by decide)
  have written : ∀ piece ∈ entitySecret, piece.Written := by
    intro piece member
    simp only [entitySecret, List.mem_cons, List.not_mem_nil, or_false] at member
    rcases member with rfl | rfl | rfl
    · simp [Token.Written, textToken]
    · exact .inr (.inr ⟨"amp", rfl, by simp, by simp⟩)
    · simp [Token.Written, textToken]
  have text := credentials_are_text_iff unescapePredefined_unescapes
    (secretDocument_written written) accepted
  have plain : ∀ piece ∈ entitySecret, piece.isPlain = true := by decide
  exact ⟨_, accepted, rfl, (text.2 _ (secretDocument_wellFormed forest) rfl).mpr
    (secretDocument_plain plain)⟩

def cdataSecret : List Token := [⟨.other, "<![CDATA[secret]]>"⟩]

def childSecret : List Token := [textToken "secret", ⟨.empty "b", "<b/>"⟩]

/-- A CDATA section becomes part of the secret with its delimiters, and a child element with
its tag. -/
theorem credentials_hold_markup :
    ((secretDocument cdataSecret).WellFormed ∧
      (∀ piece ∈ (secretDocument cdataSecret).tokens, piece.Written) ∧
      ∃ token, fromMdmXml unescapePredefined (secretDocument cdataSecret).tokens = .ok token ∧
        token.clientSecret = "<![CDATA[secret]]>" ∧
        characterData unescapePredefined cdataSecret = some "secret" ∧
        ¬ (secretDocument cdataSecret).HoldsXmlText unescapePredefined token) ∧
      (secretDocument childSecret).WellFormed ∧
      (∀ piece ∈ (secretDocument childSecret).tokens, piece.Written) ∧
      ∃ token, fromMdmXml unescapePredefined (secretDocument childSecret).tokens = .ok token ∧
        token.clientSecret = "secret<b/>" ∧
        ¬ (secretDocument childSecret).HoldsXmlText unescapePredefined token := by
  have third (secret : List Token) : contentEntry "auth_client_secret" secret ∈
      (secretDocument secret).entries := by simp [secretDocument, plainDocument]
  constructor
  · have forest : Markup.Forest shape cdataSecret := .leaf rfl .nil
    have accepted : fromMdmXml unescapePredefined (secretDocument cdataSecret).tokens =
        .ok ⟨"example-team", "example.access", "<![CDATA[secret]]>"⟩ :=
      secretDocument_accepted forest (by decide)
    have written : ∀ piece ∈ cdataSecret, piece.Written := by
      intro piece member
      rw [List.mem_singleton.mp member]
      exact .inl ⟨"secret", rfl⟩
    have data : characterData unescapePredefined cdataSecret = some "secret" := by decide
    refine ⟨secretDocument_wellFormed forest, secretDocument_written written, _, accepted, rfl, data,
      ?_⟩
    intro holds
    have read := holds.text _ (third cdataSecret) _ (contentEntry_key cdataSecret).2.2 (by decide)
    have same : some "secret" = some "<![CDATA[secret]]>" := data.symm.trans read
    exact absurd same (by decide)
  · have forest : Markup.Forest shape childSecret := .leaf rfl (.leaf rfl .nil)
    have accepted : fromMdmXml unescapePredefined (secretDocument childSecret).tokens =
        .ok ⟨"example-team", "example.access", "secret<b/>"⟩ :=
      secretDocument_accepted forest (by decide)
    have written : ∀ piece ∈ childSecret, piece.Written := by
      intro piece member
      simp only [childSecret, List.mem_cons, List.not_mem_nil, or_false] at member
      rcases member with rfl | rfl
      · simp [Token.Written, textToken]
      · trivial
    refine ⟨secretDocument_wellFormed forest, secretDocument_written written, _, accepted, rfl, ?_⟩
    intro holds
    have alone := holds.childless _ (third childSecret) childSecret rfl ⟨.empty "b", "<b/>"⟩
      (by decide)
    exact absurd alone (by decide)

end Usque.Mdm
