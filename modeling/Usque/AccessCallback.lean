import Mathlib
import Usque.Access

/-! Who may answer an enrollment request. The request goes to the host of the
organization in lower case and the genuine callback comes back from there, while the
callback is compared with the name as the MDM document writes it: the two agree exactly
for names without an upper-case letter. -/
namespace Usque.Access

open Mdm

/-! ## Letters -/

theorem isLabelChar_toLower {c : Char} (label : isLabelChar c = true) :
    isLabelChar c.toLower = true := by
  by_cases upper : c.isUpper = true
  · have letter : c.isAlpha = true := by simp [Char.isAlpha, upper]
    simp [isLabelChar, Char.isAlphanum, letter]
  · rwa [Char.toLower_eq_of_not_isUpper upper]

theorem lowercase_accessHost (organization : String) :
    lowercase (accessHost organization) = accessHost (lowercase organization) := by
  apply String.toList_injective
  simp [lowercase, accessHost]

theorem lowercase_label {label : String} (valid : label.toList.all isLabelChar = true) :
    (lowercase label).toList.all isLabelChar = true := by
  simp only [lowercase, String.toList_ofList, List.all_map]
  apply List.all_eq_true.mpr
  intro c member
  exact isLabelChar_toLower (List.all_eq_true.mp valid c member)

/-- Lowercasing changes exactly the names with an upper-case letter. -/
theorem lowercase_eq_self_iff {text : String} :
    lowercase text = text ↔ ∀ c ∈ text.toList, c.isUpper = false := by
  constructor
  · intro same c member
    have mapped : text.toList.map Char.toLower = text.toList := by
      have := congrArg String.toList same
      simpa [lowercase] using this
    have fixed : c.toLower = c :=
      List.map_inj_left.mp (mapped.trans (List.map_id _).symm) c member
    rw [← fixed]
    exact c.isUpper_toLower_eq_false
  · intro none
    apply String.toList_injective
    simp only [lowercase, String.toList_ofList]
    have fixed : ∀ c ∈ text.toList, c.toLower = c := fun c member =>
      Char.toLower_eq_of_not_isUpper (Bool.eq_false_iff.mp (none c member))
    exact (List.map_congr_left fixed).trans (List.map_id' _)

/-! ## Tokens -/

theorem isTokenChar_bounds {c : Char} (valid : isTokenChar c = true) :
    45 ≤ c.val.toNat ∧ c.val.toNat ≤ 122 := by
  simp only [isTokenChar, Char.isAlphanum, Char.isAlpha, Char.isUpper, Char.isLower, Char.isDigit,
    Bool.or_eq_true, Bool.and_eq_true, decide_eq_true_eq, beq_iff_eq, ge_iff_le,
    UInt32.le_iff_toNat_le] at valid
  change (((((65 ≤ c.val.toNat ∧ c.val.toNat ≤ 90) ∨ (97 ≤ c.val.toNat ∧ c.val.toNat ≤ 122)) ∨
    (48 ≤ c.val.toNat ∧ c.val.toNat ≤ 57)) ∨ c = '-') ∨ c = '_') ∨ c = '.' at valid
  rcases valid with ((((upper | lower) | digit) | rfl) | rfl) | rfl
  · omega
  · omega
  · omega
  · decide
  · decide
  · decide

theorem isTokenChar_of_label {c : Char} (label : isLabelChar c = true) : isTokenChar c = true := by
  simp only [isLabelChar, isTokenChar, Bool.or_eq_true] at label ⊢
  exact .inl (.inl label)

theorem isVisible_of_isTokenChar {c : Char} (valid : isTokenChar c = true) :
    isVisible c = true := by
  obtain ⟨low, high⟩ := isTokenChar_bounds valid
  have fits : (32 : UInt32) ≤ c.val ∧ c.val < 127 := by
    rw [UInt32.le_iff_toNat_le, UInt32.lt_iff_toNat_lt]
    exact ⟨show 32 ≤ _ by omega, show _ < 127 by omega⟩
  simp [isVisible, fits.1, fits.2]

theorem toStr_callbackUrl {label token : String} (host : label.toList.all isLabelChar = true)
    (valid : token.toList.all isTokenChar = true) :
    toStr (callbackUrl (accessHost label) token) = some (callbackUrl (accessHost label) token) := by
  have hostVisible : label.toList.all isVisible = true := List.all_eq_true.mpr fun c member =>
    isVisible_of_isTokenChar (isTokenChar_of_label (List.all_eq_true.mp host c member))
  have tokenVisible : token.toList.all isVisible = true := List.all_eq_true.mpr fun c member =>
    isVisible_of_isTokenChar (List.all_eq_true.mp valid c member)
  have visible : (callbackUrl (accessHost label) token).toList.all isVisible = true := by
    unfold callbackUrl accessHost
    simp only [String.toList_append, List.all_append, hostVisible, tokenVisible]
    decide
  rw [toStr, if_pos visible]

theorem segment_chars {segment : String}
    (valid : ∀ c ∈ segment.toList, c.isAlphanum ∨ c = '-' ∨ c = '_') :
    segment.toList.all isTokenChar = true ∧ segment.toList.count '.' = 0 := by
  constructor
  · apply List.all_eq_true.mpr
    intro c member
    rcases valid c member with letter | rfl | rfl
    · simp [isTokenChar, letter]
    · decide
    · decide
  · apply List.count_eq_zero_of_not_mem
    intro dot
    rcases valid '.' dot with letter | hyphen | underscore
    · cases letter
    · cases hyphen
    · cases underscore

theorem dot_toList : ".".toList = ['.'] := rfl

theorem IsToken.chars {token : String} (isToken : IsToken token) :
    token.toList.all isTokenChar = true ∧ token.toList.count '.' = 2 ∧ token ≠ "" := by
  obtain ⟨header, payload, signature, rfl, segments⟩ := isToken
  obtain ⟨first, firstDots⟩ := segment_chars (segments header (by simp)).2
  obtain ⟨second, secondDots⟩ := segment_chars (segments payload (by simp)).2
  obtain ⟨third, thirdDots⟩ := segment_chars (segments signature (by simp)).2
  refine ⟨?_, ?_, ?_⟩
  · simp only [String.toList_append, List.all_append, first, second, third, Bool.and_true,
      Bool.true_and]
    decide
  · simp only [String.toList_append, List.count_append, firstDots, secondDots, thirdDots, dot_toList]
    rfl
  · intro empty
    have none := congrArg String.toList empty
    simp at none

/-- A genuine token is refused for its length only. -/
theorem IsToken.validToken {token : String} (isToken : IsToken token) :
    validToken token = decide (token.utf8ByteSize ≤ 64 * 1024) := by
  obtain ⟨chars, dots, filled⟩ := isToken.chars
  have oneLine {c : Char} (control : c.val.toNat < 45) : token.toList.contains c = false := by
    rw [List.contains_eq_mem, decide_eq_false_iff_not]
    intro member
    have bound := (isTokenChar_bounds (List.all_eq_true.mp chars c member)).1
    omega
  simp only [Access.validToken, dots, oneLine (c := '\r') (by decide), oneLine (c := '\n') (by decide)]
  by_cases long : token.utf8ByteSize > 64 * 1024
  · simp [long]
  · simp [filled, Nat.not_lt.mp long]

/-! ## The genuine callback -/

section Genuine

variable {parse : String → Option Url} {config : ServiceTokenEnrollment} {token : String} {url : Url}

/-- Everything about a genuine callback is as the code expects it, its host aside. -/
theorem parseCallback_genuine {label expected : String} (documented : Documented parse)
    (host : label.toList.all isLabelChar = true) (isToken : IsToken token) :
    parseCallback parse (callbackUrl (accessHost label) token) expected =
      if accessHost label = expected then
        if token.utf8ByteSize ≤ 64 * 1024 then .ok token
        else .error "Cloudflare Access returned an invalid enrollment JWT"
      else
        .error "Cloudflare Access returned an unexpected enrollment callback origin or path" := by
  have chars := isToken.chars.1
  simp only [parseCallback, toStr_callbackUrl host chars, documented.other label token host chars]
  rw [if_neg (by decide)]
  by_cases same : accessHost label = expected
  · rw [if_pos same, if_neg (by simp [same])]
    simp [isToken.validToken]
  · rw [if_neg same, if_pos (.inr (.inl (by simpa using same)))]

/-- The characters of an accepted organization. -/
theorem organization_label {organization : String}
    (valid : validateOrganization organization = .ok ()) :
    organization.toList.all isLabelChar = true := by
  unfold validateOrganization at valid
  split at valid
  · cases valid
  · rename_i passes
    simp only [not_or, not_not] at passes
    exact passes.2.2.2

/-- What the request of an organization and its genuine answer come to. -/
theorem acquire_genuine (documented : Documented parse)
    (valid : validateOrganization config.organization = .ok ())
    (sent : parse ("https://" ++ accessHost config.organization ++ "/warp") = some url)
    (isToken : IsToken token) :
    acquireServiceTokenJwt parse (genuine token) config =
      if lowercase config.organization = config.organization then
        if token.utf8ByteSize ≤ 64 * 1024 then .ok token
        else .error "Cloudflare Access returned an invalid enrollment JWT"
      else
        .error "Cloudflare Access returned an unexpected enrollment callback origin or path" := by
  have label := organization_label valid
  have host : url.host = some (accessHost (lowercase config.organization)) := by
    rw [documented.special _ url label sent, lowercase_accessHost]
  have answered : genuine token (serviceTokenRequest url config) =
      some ⟨302, some (callbackUrl (accessHost (lowercase config.organization)) token)⟩ := by
    rw [genuine, serviceTokenRequest, host]
    rfl
  have same : accessHost (lowercase config.organization) = accessHost config.organization ↔
      lowercase config.organization = config.organization := by
    unfold accessHost
    exact String.append_left_inj _
  simp only [acquireServiceTokenJwt, sent, answered]
  rw [if_neg (by decide), parseCallback_genuine documented (lowercase_label label) isToken]
  simp only [same]

/-- Every genuine callback of an enrollment is taken, whatever parses the URLs. -/
def CallbackAgrees (config : ServiceTokenEnrollment) (token : String) : Prop :=
  ∀ parse url, Documented parse →
    parse ("https://" ++ accessHost config.organization ++ "/warp") = some url →
    acquireServiceTokenJwt parse (genuine token) config = .ok token

end Genuine

/-! ## A parser of the two kinds of URL -/

def stripPrefix (front text : List Char) : Option (List Char) :=
  if front.isPrefixOf text then some (text.drop front.length) else none

theorem stripPrefix_append (front rest : List Char) : stripPrefix front (front ++ rest) = some rest := by
  unfold stripPrefix
  rw [if_pos (by simp), List.drop_left]

def parseSmall (text : String) : Option Url :=
  match stripPrefix "https://".toList text.toList with
  | some rest => some ⟨"https", some (lowercase (String.ofList (rest.takeWhile (· ≠ '/')))), none, "",
      none, String.ofList (rest.dropWhile (· ≠ '/')), [], none⟩
  | none =>
    match stripPrefix "com.cloudflare.warp://".toList text.toList with
    | none => none
    | some rest =>
      (stripPrefix "/auth?token=".toList (rest.dropWhile (· ≠ '/'))).map fun token =>
        ⟨"com.cloudflare.warp", some (String.ofList (rest.takeWhile (· ≠ '/'))), none, "", none, "/auth",
          [("token", String.ofList token)], none⟩

theorem parseSmall_https (rest : String) : ∃ url, parseSmall ("https://" ++ rest) = some url := by
  unfold parseSmall
  rw [String.toList_append, stripPrefix_append]
  exact ⟨_, rfl⟩

/-- A host ends at the first slash. -/
theorem host_split {label rest : List Char} (valid : label.all isLabelChar = true) :
    let host := label ++ ".cloudflareaccess.com".toList
    (host ++ '/' :: rest).takeWhile (· ≠ '/') = host ∧
      (host ++ '/' :: rest).dropWhile (· ≠ '/') = '/' :: rest := by
  intro host
  have slashless : ∀ c ∈ host, decide (c ≠ '/') = true := by
    intro c member
    rcases List.mem_append.mp member with front | back
    · have label := List.all_eq_true.mp valid c front
      rw [decide_eq_true_eq]
      rintro rfl
      cases label
    · have domain : ".cloudflareaccess.com".toList.all (fun c => decide (c ≠ '/')) = true := by
        decide
      exact List.all_eq_true.mp domain c back
  constructor
  · rw [List.takeWhile_append_of_pos slashless]
    simp
  · rw [List.dropWhile_append_of_pos slashless]
    simp

private theorem stripPrefix_https_warp (rest : List Char) :
    stripPrefix "https://".toList ("com.cloudflare.warp://".toList ++ rest) = none := by
  have heads : "https://".toList.head? = some 'h' ∧ "com.cloudflare.warp://".toList.head? = some 'c' := by
    decide
  cases https : "https://".toList with
  | nil => rw [https] at heads; cases heads.1
  | cons h _ =>
    cases warp : "com.cloudflare.warp://".toList with
    | nil => rw [warp] at heads; cases heads.2
    | cons c _ =>
      rw [https, warp] at heads
      cases heads.1
      cases heads.2
      rfl

private theorem authPath_toList : "/auth?token=".toList = '/' :: "auth?token=".toList := rfl

private theorem warpPath_toList : "/warp".toList = '/' :: "warp".toList := rfl

theorem parseSmall_documented : Documented parseSmall where
  special := by
    intro label url valid parsed
    have split : ("https://" ++ accessHost label ++ "/warp").toList =
        "https://".toList ++ ((label.toList ++ ".cloudflareaccess.com".toList) ++
          '/' :: "warp".toList) := by
      unfold accessHost
      rw [String.toList_append, String.toList_append, String.toList_append, warpPath_toList,
        List.append_assoc]
    unfold parseSmall at parsed
    rw [split, stripPrefix_append] at parsed
    cases parsed
    rw [(host_split valid).1, String.ofList_append]
    simp [accessHost]
  other := by
    intro label token valid _
    have split : (callbackUrl (accessHost label) token).toList =
        "com.cloudflare.warp://".toList ++ ((label.toList ++ ".cloudflareaccess.com".toList) ++
          '/' :: ("auth?token=".toList ++ token.toList)) := by
      unfold callbackUrl accessHost
      rw [String.toList_append, String.toList_append, String.toList_append, String.toList_append,
        authPath_toList]
      simp only [List.append_assoc, List.cons_append]
    unfold parseSmall
    rw [split, stripPrefix_https_warp, stripPrefix_append]
    dsimp only
    rw [(host_split valid).1, (host_split valid).2, ← List.cons_append, ← authPath_toList, stripPrefix_append, String.ofList_append]
    simp [accessHost]

/-! ## Which callbacks are taken -/

/-- The callback of an accepted organization is taken exactly when the organization is
written in lower case and the token is not too long. -/
theorem callbackAgrees_iff {config : ServiceTokenEnrollment} {token : String}
    (valid : validateOrganization config.organization = .ok ()) (isToken : IsToken token) :
    CallbackAgrees config token ↔
      (∀ c ∈ config.organization.toList, c.isUpper = false) ∧ token.utf8ByteSize ≤ 64 * 1024 := by
  rw [← lowercase_eq_self_iff]
  constructor
  · intro agrees
    obtain ⟨url, sent⟩ := parseSmall_https (accessHost config.organization ++ "/warp")
    rw [← String.append_assoc] at sent
    have taken := agrees parseSmall url parseSmall_documented sent
    rw [acquire_genuine parseSmall_documented valid sent isToken] at taken
    split at taken
    · rename_i same
      split at taken
      · rename_i short
        exact ⟨same, short⟩
      · cases taken
    · cases taken
  · rintro ⟨same, short⟩ parse url documented sent
    rw [acquire_genuine documented valid sent isToken, if_pos same, if_pos short]

/-- The genuine callback for an organization written in lower case yields its token, and
is refused as an invalid JWT where the token is longer than 64 KiB. -/
theorem genuine_callback_taken {unescape : String → Option String} {xml : List Token}
    {config : ServiceTokenEnrollment} {token : String} {parse : String → Option Url} {url : Url}
    (documented : Documented parse) (accepted : fromMdmXml unescape xml = .ok config)
    (lower : ∀ c ∈ config.organization.toList, c.isUpper = false) (isToken : IsToken token)
    (sent : parse ("https://" ++ accessHost config.organization ++ "/warp") = some url) :
    acquireServiceTokenJwt parse (genuine token) config =
      if token.utf8ByteSize ≤ 64 * 1024 then .ok token
      else .error "Cloudflare Access returned an invalid enrollment JWT" := by
  have valid := (accepted_valid accepted).organization
  rw [acquire_genuine documented valid sent isToken, if_pos (lowercase_eq_self_iff.mpr lower)]

def smallXml : List Token := (plainDocument (smallPairs.map fun pair => plainEntry pair.1 pair.2)).tokens

theorem smallXml_accepted : fromMdmXml some smallXml = .ok smallEnrollment :=
  (document_eq_ok_iff plainDocument_wellFormed).mpr smallDocument_holds

/-- A segment of one letter. -/
theorem letter_segment {letter : Char} (valid : letter.isAlphanum = true) :
    String.singleton letter ≠ "" ∧
      ∀ c ∈ (String.singleton letter).toList, c.isAlphanum ∨ c = '-' ∨ c = '_' := by
  constructor
  · exact String.singleton_ne_empty
  · intro c within
    have same : c = letter := by simpa using within
    exact .inl (same ▸ valid)

/-- A header of `size` letters with a short payload and signature. -/
def tokenOf (size : ℕ) : String := String.ofList (List.replicate size 'a') ++ "." ++ "b" ++ "." ++ "c"

theorem tokenOf_isToken {size : ℕ} (filled : 0 < size) : IsToken (tokenOf size) := by
  refine ⟨String.ofList (List.replicate size 'a'), "b", "c", rfl, ?_⟩
  intro segment member
  simp only [List.mem_cons, List.not_mem_nil, or_false] at member
  rcases member with rfl | rfl | rfl
  · constructor
    · intro empty
      have none := congrArg String.toList empty
      simp at none
      omega
    · intro c within
      rw [String.toList_ofList] at within
      rw [List.eq_of_mem_replicate within]
      exact .inl rfl
  · rw [show "b" = String.singleton 'b' from rfl]
    exact letter_segment rfl
  · rw [show "c" = String.singleton 'c' from rfl]
    exact letter_segment rfl

theorem tokenOf_size (size : ℕ) : (tokenOf size).utf8ByteSize = size + 4 := by
  have letters (count : ℕ) :
      (String.ofList (List.replicate count 'a')).utf8ByteSize = count := by
    induction count with
    | zero => rfl
    | succ count ih =>
      rw [List.replicate_succ', String.ofList_append, String.utf8ByteSize_append, ih]
      rfl
  unfold tokenOf
  rw [String.utf8ByteSize_append, String.utf8ByteSize_append, String.utf8ByteSize_append,
    String.utf8ByteSize_append, letters]
  rfl

theorem smallEnrollment_lower : ∀ c ∈ smallEnrollment.organization.toList, c.isUpper = false := by
  have lower : smallEnrollment.organization.toList.all (fun c => !c.isUpper) = true := by decide
  simpa using List.all_eq_true.mp lower

theorem genuine_callback_taken_small :
    acquireServiceTokenJwt parseSmall (genuine "a.b.c") smallEnrollment = .ok "a.b.c" := by
  obtain ⟨url, sent⟩ := parseSmall_https (accessHost smallEnrollment.organization ++ "/warp")
  rw [← String.append_assoc] at sent
  have letters : tokenOf 1 = "a.b.c" := by decide
  have taken := genuine_callback_taken parseSmall_documented smallXml_accepted
    smallEnrollment_lower (tokenOf_isToken Nat.one_pos) sent
  rw [tokenOf_size, if_pos (by decide), letters] at taken
  exact taken

/-- Not every token of three segments comes through: a header of 64 KiB is too long. -/
theorem long_token_refused :
    fromMdmXml some smallXml = .ok smallEnrollment ∧ IsToken (tokenOf 65536) ∧
      ¬ CallbackAgrees smallEnrollment (tokenOf 65536) := by
  refine ⟨smallXml_accepted, tokenOf_isToken (by decide), fun agrees => ?_⟩
  have short := ((callbackAgrees_iff (by decide) (tokenOf_isToken (by decide))).mp agrees).2
  rw [tokenOf_size] at short
  omega

end Usque.Access
