import Usque.Lib.Base64
import Usque.Lib.Json
import Usque.Packet

/-! Mesh node tokens (`api/mesh.rs`): a token is Base64 of a JSON record that holds, again
in Base64, the secret of the tunnel. The engines of the base64 crate and serde_json's
reading of a text are parameters. A text decodes in whichever of the four variants takes
it first, and that choice never shows. -/
namespace Usque.Mesh

/-- The engines of `general_purpose`. -/
inductive Variant where
  | standard
  | standardNoPad
  | urlSafe
  | urlSafeNoPad
  deriving DecidableEq

def Variant.all : List Variant := [.standard, .standardNoPad, .urlSafe, .urlSafeNoPad]

def Variant.alphabet : Variant → Base64.Alphabet
  | .standard | .standardNoPad => Base64.standard
  | .urlSafe | .urlSafeNoPad => Base64.urlSafe

def Variant.padded : Variant → Bool
  | .standard | .urlSafe => true
  | .standardNoPad | .urlSafeNoPad => false

/-- The RFC 4648 encoding of a variant. -/
def Variant.encode (variant : Variant) (bytes : Bytes) : String :=
  String.ofList (Base64.encode variant.alphabet variant.padded bytes)

/-- `Engine::decode` of each engine. -/
abbrev Engines (DecodeError : Type) := Variant → String → Except DecodeError Bytes

section Decoding

variable {DecodeError : Type} (engines : Engines DecodeError)

def decodeToken (value : String) : Except DecodeError Bytes :=
  (engines .standard value).orElseLazy fun _ =>
    (engines .standardNoPad value).orElseLazy fun _ =>
      (engines .urlSafe value).orElseLazy fun _ => engines .urlSafeNoPad value

/-! ## Tokens -/

structure MeshNodeToken where
  encoded : String
  accountTag : String
  tunnelId : String
  deriving DecidableEq

structure TokenPayload where
  accountTag : String
  tunnelId : String
  tunnelSecret : String
  deriving DecidableEq

/-- The derived deserializer, with the alias of every field. -/
def TokenPayload.read (value : Json.Value) : Option TokenPayload := do
  guard (value.isRecord 3)
  let accountTag ← value.readField 0 ["a", "account_tag"] none Json.Value.readString
  let tunnelId ← value.readField 1 ["t", "tunnel_id"] none Json.Value.readString
  let tunnelSecret ← value.readField 2 ["s", "tunnel_secret"] none Json.Value.readString
  pure ⟨accountTag, tunnelId, tunnelSecret⟩

/-- `u8::is_ascii_hexdigit`. -/
def isAsciiHexDigit (c : Char) : Bool :=
  c.isDigit || ('a' ≤ c && c ≤ 'f') || ('A' ≤ c && c ≤ 'F')

def isUuidLike (value : String) : Bool :=
  decide (value.utf8ByteSize = 36) && value.toList.zipIdx.all fun (c, index) =>
    if index = 8 ∨ index = 13 ∨ index = 18 ∨ index = 23 then c == '-' else isAsciiHexDigit c

def isAccountTag (value : String) : Bool :=
  decide (value.utf8ByteSize = 32) && value.toList.all isAsciiHexDigit

/-- `MeshNodeToken::parse`; `fromSlice` is how serde_json reads a text. -/
def parse (fromSlice : Bytes → Option Json.Value) (encoded : String) :
    Except String MeshNodeToken :=
  if encoded = "" then .error "Mesh node token is empty"
  else match decodeToken engines encoded with
    | .error _ => .error "Mesh node token is not valid Base64"
    | .ok decoded =>
      match (fromSlice decoded).bind TokenPayload.read with
      | none => .error "Mesh node token is not valid JSON"
      | some payload =>
        if ¬ isAccountTag payload.accountTag then
          .error "Mesh node token contains an invalid account tag"
        else if ¬ isUuidLike payload.tunnelId then
          .error "Mesh node token contains an invalid tunnel ID"
        else match decodeToken engines payload.tunnelSecret with
          | .error _ => .error "Mesh node token contains an invalid tunnel secret"
          | .ok secret =>
            if secret.length < 32 then
              .error "Mesh node tunnel secret is shorter than Cloudflare's documented minimum"
            else .ok ⟨encoded, payload.accountTag, payload.tunnelId⟩

end Decoding

/-! ## Four variants, one reading -/

/-- Every engine is the strict codec of its variant: canonical padding, and no bit set
behind the last byte. -/
def Strict {DecodeError : Type} (engines : Engines DecodeError) : Prop :=
  ∀ variant text bytes, engines variant text = .ok bytes ↔ text = variant.encode bytes

theorem compatible_alphabets (first second : Variant) :
    Base64.Compatible first.alphabet second.alphabet := by
  cases first <;> cases second <;>
    first
      | exact .refl _
      | exact Base64.standard_urlSafe
      | exact Base64.standard_urlSafe.symm

/-- Two variants never encode different bytes alike. -/
theorem encode_inj {first second : Variant} {bytes other : Bytes}
    (same : first.encode bytes = second.encode other) : bytes = other := by
  have texts := congrArg String.toList same
  simp only [Variant.encode, String.toList_ofList] at texts
  exact Base64.encode_inj (compatible_alphabets first second) texts

theorem mem_all (variant : Variant) : variant ∈ Variant.all := by
  cases variant <;> simp [Variant.all]

section Order

variable {DecodeError : Type} {engines : Engines DecodeError} {text : String} {bytes : Bytes}

/-- The first of some variants that takes a text. -/
def firstReading (engines : Engines DecodeError) (order : List Variant) (text : String) :
    Option Bytes :=
  order.findSome? fun variant => (engines variant text).toOption

theorem toOption_eq_some_iff {α : Type u} {ε : Type v} {result : Except ε α} {value : α} :
    result.toOption = some value ↔ result = .ok value := by
  cases result <;> simp [Except.toOption]

theorem decodeToken_toOption (engines : Engines DecodeError) (text : String) :
    (decodeToken engines text).toOption = firstReading engines Variant.all text := by
  simp only [decodeToken, firstReading, Variant.all, List.findSome?_cons, List.findSome?_nil]
  cases engines .standard text with
  | ok bytes => rfl
  | error _ =>
    cases engines .standardNoPad text with
    | ok bytes => rfl
    | error _ =>
      cases engines .urlSafe text with
      | ok bytes => rfl
      | error _ => cases engines .urlSafeNoPad text <;> rfl

/-- In whatever order the variants are tried, what comes out is the reading of one of them,
and no other has another. -/
theorem firstReading_eq_some_iff (strict : Strict engines) {order : List Variant}
    (whole : ∀ variant, variant ∈ order) :
    firstReading engines order text = some bytes ↔ ∃ variant : Variant, text = variant.encode bytes := by
  constructor
  · intro found
    obtain ⟨variant, -, taken⟩ := List.exists_of_findSome?_eq_some found
    exact ⟨variant, (strict variant text bytes).mp (toOption_eq_some_iff.mp taken)⟩
  · rintro ⟨variant, rfl⟩
    have taken := (strict variant (variant.encode bytes) bytes).mpr rfl
    cases found : firstReading engines order (variant.encode bytes) with
    | none =>
      have refused := List.findSome?_eq_none_iff.mp found variant (whole variant)
      rw [taken] at refused
      cases refused
    | some other =>
      obtain ⟨first, -, takenFirst⟩ := List.exists_of_findSome?_eq_some found
      have same := (strict first _ other).mp (toOption_eq_some_iff.mp takenFirst)
      rw [encode_inj same]

end Order

/-- Every encoding of some bytes decodes to them, nothing else decodes, and any other
order of the four decoders has the same results. -/
theorem token_decoding_unambiguous {DecodeError : Type} (engines : Engines DecodeError)
    (strict : Strict engines) :
    (∀ (variant : Variant) (bytes : Bytes),
      decodeToken engines (variant.encode bytes) = .ok bytes) ∧
    (∀ (text : String) (bytes : Bytes), decodeToken engines text = .ok bytes →
      ∃ variant : Variant, text = variant.encode bytes) ∧
    ∀ (order : List Variant) (text : String), order.Perm Variant.all →
      firstReading engines order text = (decodeToken engines text).toOption := by
  have reads (text : String) (bytes : Bytes) :
      decodeToken engines text = .ok bytes ↔ ∃ variant : Variant, text = variant.encode bytes := by
    rw [← toOption_eq_some_iff, decodeToken_toOption, firstReading_eq_some_iff strict mem_all]
  refine ⟨fun variant bytes => (reads _ _).mpr ⟨variant, rfl⟩, fun text bytes => (reads _ _).mp, ?_⟩
  intro order text permuted
  have whole : ∀ variant, variant ∈ order := fun variant => permuted.mem_iff.mpr (mem_all variant)
  apply Option.ext
  intro bytes
  rw [firstReading_eq_some_iff strict whole, toOption_eq_some_iff, reads]

/-- The four strict decoders. -/
def strictEngines : Engines Unit := fun variant text =>
  match Base64.decode variant.alphabet variant.padded text.toList with
  | some bytes => .ok bytes
  | none => .error ()

theorem strictEngines_strict : Strict strictEngines := by
  intro variant text bytes
  have lists : text = variant.encode bytes ↔
      text.toList = Base64.encode variant.alphabet variant.padded bytes := by
    rw [Variant.encode, ← String.toList_inj, String.toList_ofList]
  rw [lists, ← Base64.decode_eq_some_iff, strictEngines]
  cases Base64.decode variant.alphabet variant.padded text.toList <;> simp

/-- One byte of ones, which the URL-safe alphabet alone can write. -/
theorem token_decoding_unambiguous_ones :
    decodeToken strictEngines (Variant.urlSafeNoPad.encode [255]) = .ok [255] :=
  (token_decoding_unambiguous strictEngines strictEngines_strict).1 .urlSafeNoPad [255]

end Usque.Mesh
