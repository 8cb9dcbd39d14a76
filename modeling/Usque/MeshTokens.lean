import Usque.MeshTokenFile

/-! What a Mesh node token is. A file holds one exactly if its text, less the white space
around it, spells in Base64 a record that names an account and a tunnel in their written
forms and spells a secret long enough; and the token names this account and this tunnel,
whichever of the spellings the file has. -/
namespace Usque.Mesh

open FileTree Transition

/-! ## Names in their written forms -/

def HexDigits (count : ℕ) (text : List Char) : Prop :=
  text.length = count ∧ ∀ c ∈ text, isAsciiHexDigit c = true

/-- Hexadecimal digits in groups of eight, four, four, four and twelve. -/
def UuidText (text : List Char) : Prop :=
  ∃ first second third fourth fifth, HexDigits 8 first ∧ HexDigits 4 second ∧ HexDigits 4 third ∧
    HexDigits 4 fourth ∧ HexDigits 12 fifth ∧
    text = first ++ '-' :: (second ++ '-' :: (third ++ '-' :: (fourth ++ '-' :: fifth)))

theorem hexDigit_size {c : Char} (digit : isAsciiHexDigit c = true) : c.utf8Size = 1 := by
  have bound : c.val.toNat ≤ 127 := by
    simp only [isAsciiHexDigit, Char.isDigit, Bool.or_eq_true, Bool.and_eq_true, decide_eq_true_eq,
      ge_iff_le, Char.le_def, UInt32.le_iff_toNat_le] at digit
    change ((48 ≤ c.val.toNat ∧ c.val.toNat ≤ 57) ∨ (97 ≤ c.val.toNat ∧ c.val.toNat ≤ 102)) ∨
      (65 ≤ c.val.toNat ∧ c.val.toNat ≤ 70) at digit
    omega
  unfold Char.utf8Size
  exact if_pos (UInt32.le_iff_toNat_le.mpr bound)

/-- A text of one-byte characters is as long as its bytes. -/
theorem size_of_single {text : List Char} (single : ∀ c ∈ text, c.utf8Size = 1) :
    (String.ofList text).utf8ByteSize = text.length := by
  induction text with
  | nil => rfl
  | cons c rest ih =>
    obtain ⟨first, later⟩ := List.forall_mem_cons.mp single
    rw [String.ofList_cons, String.utf8ByteSize_append, String.utf8ByteSize_singleton, first, ih later,
      List.length_cons, Nat.add_comm]

theorem isAccountTag_iff (value : String) :
    isAccountTag value = true ↔ HexDigits 32 value.toList := by
  have size (digits : ∀ c ∈ value.toList, isAsciiHexDigit c = true) :
      value.utf8ByteSize = value.toList.length := by
    have counted := size_of_single fun c member => hexDigit_size (digits c member)
    rwa [String.ofList_toList] at counted
  rw [isAccountTag, Bool.and_eq_true, decide_eq_true_eq, List.all_eq_true, HexDigits]
  constructor
  · rintro ⟨bytes, digits⟩
    exact ⟨(size digits).symm.trans bytes, digits⟩
  · rintro ⟨length, digits⟩
    exact ⟨(size digits).trans length, digits⟩

/-- What is asked of a character at its place. -/
def uuidChar (entry : Char × ℕ) : Bool :=
  if entry.2 = 8 ∨ entry.2 = 13 ∨ entry.2 = 18 ∨ entry.2 = 23 then entry.1 == '-'
  else isAsciiHexDigit entry.1

/-- Away from the hyphens, digits are asked for. -/
theorem uuid_group {text : List Char} {start : ℕ}
    (away : ∀ place, start ≤ place → place < start + text.length →
      place ≠ 8 ∧ place ≠ 13 ∧ place ≠ 18 ∧ place ≠ 23) :
    (text.zipIdx start).all uuidChar = true ↔ ∀ c ∈ text, isAsciiHexDigit c = true := by
  induction text generalizing start with
  | nil => simp
  | cons c rest ih =>
    have here := away start le_rfl (by simp)
    have later : (rest.zipIdx (start + 1)).all uuidChar = true ↔ ∀ c ∈ rest, isAsciiHexDigit c = true :=
      ih fun place after inside => away place (by omega) (by rw [List.length_cons]; omega)
    rw [List.zipIdx_cons, List.all_cons, Bool.and_eq_true, later, List.forall_mem_cons]
    simp [uuidChar, here]

theorem uuid_hyphen {c : Char} {rest : List Char} {place : ℕ}
    (hyphen : place = 8 ∨ place = 13 ∨ place = 18 ∨ place = 23) :
    ((c :: rest).zipIdx place).all uuidChar = true ↔
      c = '-' ∧ (rest.zipIdx (place + 1)).all uuidChar = true := by
  rw [List.zipIdx_cons, List.all_cons, Bool.and_eq_true]
  simp [uuidChar, hyphen]

/-- A text is cut behind its first `count` characters. -/
theorem cut_at {text : List Char} {count : ℕ} (long : count < text.length) :
    ∃ group c rest, group.length = count ∧ text = group ++ c :: rest := by
  refine ⟨text.take count, text[count], text.drop (count + 1), ?_, ?_⟩
  · rw [List.length_take, Nat.min_eq_left long.le]
  · rw [List.getElem_cons_drop, List.take_append_drop]

/-- Five groups are asked about one by one. -/
theorem uuid_groups {a b c d e : List Char} {w x y z : Char} (la : a.length = 8)
    (lb : b.length = 4) (lc : c.length = 4) (ld : d.length = 4) (le : e.length = 12) :
    (a ++ w :: (b ++ x :: (c ++ y :: (d ++ z :: e)))).zipIdx.all uuidChar = true ↔
      (∀ digit ∈ a, isAsciiHexDigit digit = true) ∧ w = '-' ∧
      (∀ digit ∈ b, isAsciiHexDigit digit = true) ∧ x = '-' ∧
      (∀ digit ∈ c, isAsciiHexDigit digit = true) ∧ y = '-' ∧
      (∀ digit ∈ d, isAsciiHexDigit digit = true) ∧ z = '-' ∧
      ∀ digit ∈ e, isAsciiHexDigit digit = true := by
  have first : (a.zipIdx 0).all uuidChar = true ↔ _ := uuid_group fun place _ _ => by omega
  have second : (b.zipIdx 9).all uuidChar = true ↔ _ := uuid_group fun place _ _ => by omega
  have third : (c.zipIdx 14).all uuidChar = true ↔ _ := uuid_group fun place _ _ => by omega
  have fourth : (d.zipIdx 19).all uuidChar = true ↔ _ := uuid_group fun place _ _ => by omega
  have fifth : (e.zipIdx 24).all uuidChar = true ↔ _ := uuid_group fun place _ _ => by omega
  rw [List.zipIdx_append, List.all_append, Bool.and_eq_true, first, la, uuid_hyphen (by simp),
    List.zipIdx_append, List.all_append, Bool.and_eq_true, second, lb, uuid_hyphen (by simp),
    List.zipIdx_append, List.all_append, Bool.and_eq_true, third, lc, uuid_hyphen (by simp),
    List.zipIdx_append, List.all_append, Bool.and_eq_true, fourth, ld, uuid_hyphen (by simp), fifth]

theorem uuidChars_iff {text : List Char} (length : text.length = 36) :
    text.zipIdx.all uuidChar = true ↔ UuidText text := by
  constructor
  · intro chars
    obtain ⟨a, w, rest, la, rfl⟩ := cut_at (show 8 < text.length by omega)
    rw [List.length_append, List.length_cons] at length
    obtain ⟨b, x, rest, lb, rfl⟩ := cut_at (show 4 < rest.length by omega)
    rw [List.length_append, List.length_cons] at length
    obtain ⟨c, y, rest, lc, rfl⟩ := cut_at (show 4 < rest.length by omega)
    rw [List.length_append, List.length_cons] at length
    obtain ⟨d, z, e, ld, rfl⟩ := cut_at (show 4 < rest.length by omega)
    rw [List.length_append, List.length_cons] at length
    have le : e.length = 12 := by omega
    obtain ⟨first, rfl, second, rfl, third, rfl, fourth, rfl, fifth⟩ := (uuid_groups la lb lc ld le).mp chars
    exact ⟨a, b, c, d, e, ⟨la, first⟩, ⟨lb, second⟩, ⟨lc, third⟩, ⟨ld, fourth⟩, ⟨le, fifth⟩, rfl⟩
  · rintro ⟨a, b, c, d, e, ⟨la, first⟩, ⟨lb, second⟩, ⟨lc, third⟩, ⟨ld, fourth⟩, ⟨le, fifth⟩, rfl⟩
    exact (uuid_groups la lb lc ld le).mpr ⟨first, rfl, second, rfl, third, rfl, fourth, rfl, fifth⟩

theorem isUuidLike_iff (value : String) : isUuidLike value = true ↔ UuidText value.toList := by
  have same : isUuidLike value =
      (decide (value.utf8ByteSize = 36) && value.toList.zipIdx.all uuidChar) := rfl
  have size (chars : value.toList.zipIdx.all uuidChar = true) :
      value.utf8ByteSize = value.toList.length := by
    have single : ∀ c ∈ value.toList, c.utf8Size = 1 := by
      intro c member
      obtain ⟨place, found⟩ := List.mem_iff_getElem?.mp member
      have asked := List.all_eq_true.mp chars (c, place) (List.mem_zipIdx_iff_getElem?.mpr found)
      unfold uuidChar at asked
      split at asked
      · obtain rfl : c = '-' := beq_iff_eq.mp asked
        rfl
      · exact hexDigit_size asked
    have counted := size_of_single single
    rwa [String.ofList_toList] at counted
  rw [same, Bool.and_eq_true, decide_eq_true_eq]
  constructor
  · rintro ⟨bytes, chars⟩
    exact (uuidChars_iff ((size chars).symm.trans bytes)).mp chars
  · intro written
    have length : value.toList.length = 36 := by
      obtain ⟨a, b, c, d, e, ⟨la, -⟩, ⟨lb, -⟩, ⟨lc, -⟩, ⟨ld, -⟩, ⟨le, -⟩, same⟩ := written
      rw [same]
      simp [la, lb, lc, ld, le]
    have chars := (uuidChars_iff length).mpr written
    exact ⟨(size chars).trans length, chars⟩

/-! ## Records -/

/-- A record that names an account and a tunnel and spells the secret. -/
structure Names (value : Json.Value) (accountTag tunnelId : String) : Prop where
  record : value.isRecord 3 = true
  account : value.field 0 ["a", "account_tag"] = some (some (.string accountTag))
  tunnel : value.field 1 ["t", "tunnel_id"] = some (some (.string tunnelId))
  tag : HexDigits 32 accountTag.toList
  id : UuidText tunnelId.toList
  secret : ∃ (variant : Variant) (secret : Bytes), 32 ≤ secret.length ∧
    value.field 2 ["s", "tunnel_secret"] = some (some (.string (variant.encode secret)))

/-- The token is spelled by one of the variants, and the record behind it names its account
and its tunnel. -/
def Issued (fromSlice : Bytes → Option Json.Value) (token : MeshNodeToken) : Prop :=
  ∃ (variant : Variant) (payload : Bytes) (value : Json.Value),
    token.encoded = variant.encode payload ∧ payload ≠ [] ∧ fromSlice payload = some value ∧
      Names value token.accountTag token.tunnelId

theorem read_eq_some_iff {value : Json.Value} {payload : TokenPayload} :
    TokenPayload.read value = some payload ↔ value.isRecord 3 = true ∧
      value.field 0 ["a", "account_tag"] = some (some (.string payload.accountTag)) ∧
      value.field 1 ["t", "tunnel_id"] = some (some (.string payload.tunnelId)) ∧
      value.field 2 ["s", "tunnel_secret"] = some (some (.string payload.tunnelSecret)) := by
  have given (index : ℕ) (names : List String) (text : String) :
      value.readField index names none Json.Value.readString = some text ↔
        value.field index names = some (some (.string text)) := by
    rw [Json.readField_eq_some_iff (Option.some_ne_none text).symm]
    simp [Json.readString_eq_some_iff]
  unfold TokenPayload.read
  constructor
  · intro read
    simp only [Option.bind_eq_bind, Option.bind_eq_some_iff] at read
    obtain ⟨_, guarded, tag, tagRead, id, idRead, secret, secretRead, ended⟩ := read
    cases ended
    exact ⟨(Option.guard_eq_some' ()).mp guarded, (given _ _ _).mp tagRead, (given _ _ _).mp idRead,
      (given _ _ _).mp secretRead⟩
  · rintro ⟨record, tag, id, secret⟩
    simp only [record, (given _ _ _).mpr tag, (given _ _ _).mpr id, (given _ _ _).mpr secret]
    rfl

section

variable {DecodeError : Type} {engines : Engines DecodeError}
  {fromSlice : Bytes → Option Json.Value} {path : Path} {encoded : String} {raw : Bytes}
  {token : MeshNodeToken} {fs : FileSystem} {labels : List Label} {s : State Stage}

theorem decodeToken_eq_ok_iff (strict : Strict engines) {bytes : Bytes} :
    decodeToken engines encoded = .ok bytes ↔ ∃ variant : Variant, encoded = variant.encode bytes := by
  rw [← toOption_eq_some_iff, decodeToken_toOption, firstReading_eq_some_iff strict mem_all]

theorem encode_eq_empty_iff {variant : Variant} {bytes : Bytes} :
    variant.encode bytes = "" ↔ bytes = [] := by
  rw [← String.toList_inj, Variant.encode, String.toList_ofList, String.toList_empty,
    Base64.encode_eq_nil_iff]

/-- Exactly the texts that spell a token are parsed, each to the token it spells. -/
theorem parse_eq_ok_iff (strict : Strict engines) :
    parse engines fromSlice encoded = .ok token ↔ encoded = token.encoded ∧ Issued fromSlice token := by
  constructor
  · intro parsed
    unfold parse at parsed
    split at parsed
    · cases parsed
    rename_i filled
    split at parsed
    · cases parsed
    rename_i payload decoded
    split at parsed
    · cases parsed
    rename_i fields read
    split at parsed
    · cases parsed
    rename_i tag
    split at parsed
    · cases parsed
    rename_i id
    split at parsed
    · cases parsed
    rename_i secret secretDecoded
    split at parsed
    · cases parsed
    rename_i long
    cases parsed
    obtain ⟨variant, rfl⟩ := (decodeToken_eq_ok_iff strict).mp decoded
    obtain ⟨value, found, fieldsRead⟩ := Option.bind_eq_some_iff.mp read
    obtain ⟨record, account, tunnel, secretField⟩ := read_eq_some_iff.mp fieldsRead
    obtain ⟨other, spelled⟩ := (decodeToken_eq_ok_iff strict).mp secretDecoded
    rw [spelled] at secretField
    refine ⟨rfl, variant, payload, value, rfl, mt encode_eq_empty_iff.mpr filled, found, ?_⟩
    exact ⟨record, account, tunnel, (isAccountTag_iff _).mp (not_not.mp tag),
      (isUuidLike_iff _).mp (not_not.mp id), other, secret, Nat.not_lt.mp long, secretField⟩
  · rintro ⟨rfl, variant, payload, value, spelled, filled, found, names⟩
    obtain ⟨other, secret, long, secretField⟩ := names.secret
    have read : (fromSlice payload).bind TokenPayload.read =
        some ⟨token.accountTag, token.tunnelId, other.encode secret⟩ := by
      rw [found, Option.bind_some]
      exact read_eq_some_iff.mpr ⟨names.record, names.account, names.tunnel, secretField⟩
    exact parse_of_valid (spelled ▸ mt encode_eq_empty_iff.mp filled)
      ((decodeToken_eq_ok_iff strict).mpr ⟨variant, spelled⟩) read ((isAccountTag_iff _).mpr names.tag)
      ((isUuidLike_iff _).mpr names.id) ((decodeToken_eq_ok_iff strict).mpr ⟨other, rfl⟩) long

theorem parseFile_eq_ok_iff (strict : Strict engines) :
    parseFile engines fromSlice path raw = .ok token ↔
      Issued fromSlice token ∧ ∃ encoded, text raw = some encoded ∧ Mdm.trim encoded = token.encoded := by
  unfold parseFile
  cases decoded : text raw with
  | none => simp
  | some encoded =>
    dsimp only
    rw [parse_eq_ok_iff strict]
    constructor
    · rintro ⟨trimmed, issued⟩
      exact ⟨issued, encoded, rfl, trimmed⟩
    · rintro ⟨issued, other, same, trimmed⟩
      cases same
      exact ⟨trimmed, issued⟩

/-- The spelling of a token says nothing about it. -/
theorem issued_encode_iff {variant : Variant} {payload : Bytes} {accountTag tunnelId : String} :
    Issued fromSlice ⟨variant.encode payload, accountTag, tunnelId⟩ ↔
      payload ≠ [] ∧ ∃ value, fromSlice payload = some value ∧ Names value accountTag tunnelId := by
  constructor
  · rintro ⟨other, bytes, value, spelled, filled, found, names⟩
    cases encode_inj spelled
    exact ⟨filled, value, found, names⟩
  · rintro ⟨filled, value, found, names⟩
    exact ⟨variant, payload, value, rfl, filled, found, names⟩

/-! ## What a run returns -/

/-- A token comes from the text of what has been read last. -/
def FromReads (engines : Engines DecodeError) (fromSlice : Bytes → Option Json.Value) (path : Path)
    (log : List Entry) : Stage → Prop
  | .validating | .opening | .ended (.error _) => True
  | .reading file raw => ∃ before reads, log = before ++ reads ∧ Reads file raw reads
  | .ended (.ok token) => ∃ file raw before reads, log = before ++ reads ∧ Reads file raw reads ∧
      parseFile engines fromSlice path raw = .ok token

theorem fromReads_reply {log : List Entry} {stage : Stage} {call : Call} {reply : Reply}
    (before : FromReads engines fromSlice path log stage) (waiting : pending path stage = some call)
    (answered : fs.Answers call reply) :
    FromReads engines fromSlice path (log ++ [⟨call, fs, reply⟩])
      (resume engines fromSlice path stage reply) := by
  cases stage with
  | validating =>
    cases reply with
    | metadata found =>
      simp only [resume]
      cases validatePrivateFile path found <;> trivial
    | opened _ | chunk _ | failed => trivial
  | opening =>
    cases reply with
    | opened file => exact ⟨_, [], (List.append_nil _).symm, .nil⟩
    | metadata _ | chunk _ | failed => trivial
  | reading file raw =>
    cases waiting
    obtain ⟨before, reads, rfl, read⟩ := before
    cases reply with
    | chunk bytes =>
      have further := read.read answered
      simp only [resume]
      split
      · rename_i none
        subst none
        rw [List.append_nil] at further
        cases parsed : parseFile engines fromSlice path raw with
        | error reason => trivial
        | ok token => exact ⟨file, raw, before, _, List.append_assoc .., further, parsed⟩
      · exact ⟨before, _, List.append_assoc .., further⟩
    | metadata _ | opened _ | failed => trivial
  | ended result => cases waiting

end

/-- The texts that are parsed are those that spell an issued token, each to its token; whatever
other processes do, a run returns the token that the bytes it has read spell; and one payload
names one account and one tunnel in every spelling. -/
theorem mesh_tokens_are_issued {DecodeError : Type} (engines : Engines DecodeError)
    (strict : Strict engines) (fromSlice : Bytes → Option Json.Value) (path : Path) :
    (∀ raw token, parseFile engines fromSlice path raw = .ok token ↔
      Issued fromSlice token ∧ ∃ encoded, text raw = some encoded ∧ Mdm.trim encoded = token.encoded) ∧
    (∀ fs labels s token, run (reader engines fromSlice path).step (start fs) labels = some s →
      s.stage = .ended (.ok token) → Issued fromSlice token ∧
        ∃ file raw before reads encoded, s.log = before ++ reads ∧ Reads file raw reads ∧
          text raw = some encoded ∧ Mdm.trim encoded = token.encoded) ∧
    ∀ (first second : Variant) payload accountTag tunnelId,
      parse engines fromSlice (first.encode payload) =
          .ok ⟨first.encode payload, accountTag, tunnelId⟩ ↔
        parse engines fromSlice (second.encode payload) =
          .ok ⟨second.encode payload, accountTag, tunnelId⟩ := by
  refine ⟨fun raw token => parseFile_eq_ok_iff strict, fun fs labels s token ran ended => ?_, ?_⟩
  · have fresh : FromReads engines fromSlice path (start fs).log (start fs).stage := trivial
    have came := run_preserves_log (fun stage log => FromReads engines fromSlice path log stage)
      (fun _ _ _ _ _ before waiting answered => fromReads_reply before waiting answered) fresh ran
    rw [ended] at came
    obtain ⟨file, raw, before, reads, split, read, parsed⟩ := came
    obtain ⟨issued, encoded, decoded, trimmed⟩ := (parseFile_eq_ok_iff strict).mp parsed
    exact ⟨issued, file, raw, before, reads, encoded, split, read, decoded, trimmed⟩
  · intro first second payload accountTag tunnelId
    rw [parse_eq_ok_iff strict, parse_eq_ok_iff strict, issued_encode_iff, issued_encode_iff]
    simp

theorem mesh_tokens_are_issued_planted :
    Issued plantedFromSlice ⟨plantedText, plantedTag, plantedTunnel⟩ :=
  (((mesh_tokens_are_issued strictEngines strictEngines_strict plantedFromSlice tokenPath).1 _ _).mp
    plantedFile_parsed).1

end Usque.Mesh
