import Usque.AccessCallback

/-! Which redirects `parse_callback` takes. The origin of the callback is checked part by
part and its query for a single token; the token itself is handed on unread, so all that
is asked of it is a length, one line and the two dots of a JWT. -/
namespace Usque.Access

/-- The redirect is the WARP callback of `expectedHost` and carries `token` and no other. -/
def IsCallback (parse : String → Option Url) (location expectedHost token : String) : Prop :=
  ∃ text callback, toStr location = some text ∧ parse text = some callback ∧
    callback.scheme = "com.cloudflare.warp" ∧ callback.host = some expectedHost ∧
    callback.port = none ∧ callback.username = "" ∧ callback.password = none ∧
    callback.path = "/auth" ∧ callback.fragment = none ∧
    callback.queryPairs.filter (fun pair => pair.1 == "token") = [("token", token)]

/-- Three segments between two dots, of any other characters and as short as none. -/
def ThreeSegments (token : String) : Prop :=
  ∃ header payload signature : String, token = header ++ "." ++ payload ++ "." ++ signature ∧
    ∀ segment ∈ [header, payload, signature], '.' ∉ segment.toList

/-! ## Segments -/

/-- One more occurrence of a letter is one more cut. -/
theorem count_succ_iff {letter : Char} {text : List Char} {count : ℕ} :
    text.count letter = count + 1 ↔
      ∃ front rest, text = front ++ letter :: rest ∧ letter ∉ front ∧ rest.count letter = count := by
  constructor
  · intro counted
    have member : letter ∈ text := List.count_pos_iff.mp (by omega)
    obtain ⟨front, rest, rfl, absent⟩ := List.eq_append_cons_of_mem member
    rw [List.count_append, List.count_cons_self, List.count_eq_zero.mpr absent] at counted
    exact ⟨front, rest, rfl, absent, by omega⟩
  · rintro ⟨front, rest, rfl, absent, counted⟩
    rw [List.count_append, List.count_cons_self, List.count_eq_zero.mpr absent, counted]
    omega

theorem count_dots_iff {token : String} : token.toList.count '.' = 2 ↔ ThreeSegments token := by
  constructor
  · intro counted
    obtain ⟨header, rest, first, headerDotless, counted⟩ := count_succ_iff.mp counted
    obtain ⟨payload, signature, rfl, payloadDotless, counted⟩ := count_succ_iff.mp counted
    have signatureDotless := List.count_eq_zero.mp counted
    refine ⟨.ofList header, .ofList payload, .ofList signature, ?_, ?_⟩
    · apply String.toList_injective
      simp [first, dot_toList]
    · simp [headerDotless, payloadDotless, signatureDotless]
  · rintro ⟨header, payload, signature, rfl, dotless⟩
    simp only [List.mem_cons, List.not_mem_nil, or_false, forall_eq_or_imp, forall_eq] at dotless
    simp [dot_toList, List.count_eq_zero.mpr dotless.1, List.count_eq_zero.mpr dotless.2.1,
      List.count_eq_zero.mpr dotless.2.2]

theorem ThreeSegments.ne_empty {token : String} (segments : ThreeSegments token) : token ≠ "" := by
  rintro rfl
  have counted := count_dots_iff.mpr segments
  simp at counted

theorem validToken_iff {token : String} :
    validToken token = true ↔ token.utf8ByteSize ≤ 64 * 1024 ∧ '\r' ∉ token.toList ∧
      '\n' ∉ token.toList ∧ ThreeSegments token := by
  rw [← count_dots_iff]
  constructor
  · intro valid
    simp [validToken] at valid
    exact ⟨by omega, valid.1.2.1, valid.1.2.2, by omega⟩
  · rintro ⟨short, noReturn, noFeed, dots⟩
    have filled := (count_dots_iff.mp dots).ne_empty
    simp [validToken, short, noReturn, noFeed, dots, filled]

/-! ## Acceptance -/

/-- The token parameters of a query as the code collects them. -/
theorem tokens_eq_singleton_iff {pairs : List (String × String)} {token : String} :
    (pairs.filter fun pair => pair.1 == "token").map Prod.snd = [token] ↔
      pairs.filter (fun pair => pair.1 == "token") = [("token", token)] := by
  constructor
  · intro only
    obtain ⟨pair, kept, rfl⟩ := List.map_eq_singleton_iff.mp only
    have named : pair ∈ pairs.filter fun pair => pair.1 == "token" := by simp [kept]
    have key : pair.1 = "token" := by simpa using (List.mem_filter.mp named).2
    rw [kept, ← key]
  · intro only
    rw [only]
    rfl

/-- A redirect is taken for a token exactly if it is the callback of the expected host
with that token alone, of at most 64 KiB on one line in three segments. -/
theorem parseCallback_eq_ok_iff {parse : String → Option Url} {location expectedHost token : String} :
    parseCallback parse location expectedHost = .ok token ↔
      IsCallback parse location expectedHost token ∧ token.utf8ByteSize ≤ 64 * 1024 ∧
        '\r' ∉ token.toList ∧ '\n' ∉ token.toList ∧ ThreeSegments token := by
  rw [← validToken_iff]
  constructor
  · intro taken
    -- Every check that fails ends with an error: one branch is left at each.
    unfold parseCallback at taken
    split at taken
    · cases taken
    rename_i text read
    split at taken
    · cases taken
    rename_i callback parsed
    split at taken
    · cases taken
    split at taken
    · cases taken
    rename_i origin
    simp only [not_or, not_not] at origin
    obtain ⟨scheme, host, port, username, password, path, fragment⟩ := origin
    split at taken
    · cases taken
    rename_i first others collected
    split at taken
    · cases taken
    rename_i alone
    rw [not_not.mp alone] at collected
    split at taken
    · rename_i valid
      cases taken
      exact ⟨⟨text, callback, read, parsed, scheme, host, port, username, password, path, fragment,
        tokens_eq_singleton_iff.mp collected⟩, valid⟩
    · cases taken
  · rintro ⟨⟨text, callback, read, parsed, scheme, host, port, username, password, path, fragment,
      only⟩, valid⟩
    have collected := tokens_eq_singleton_iff.mpr only
    simp [parseCallback, read, parsed, scheme, host, port, username, password, path, fragment,
      collected, valid]

/-- Two dots alone pass for a JWT, although no segment of one is empty. -/
theorem empty_segments_taken :
    ¬ ∀ location expectedHost token, parseCallback parseSmall location expectedHost = .ok token ↔
      IsCallback parseSmall location expectedHost token ∧ token.utf8ByteSize ≤ 64 * 1024 ∧
        IsToken token := by
  intro exact
  have host : "example".toList.all isLabelChar = true := by decide
  have dots : "..".toList.all isTokenChar = true := by decide
  have taken : parseCallback parseSmall (callbackUrl (accessHost "example") "..") (accessHost "example") =
      .ok ".." := by
    have valid : validToken ".." = true := by decide
    simp [parseCallback, toStr_callbackUrl host dots, parseSmall_documented.other _ _ host dots, valid]
  obtain ⟨-, -, header, payload, signature, parts, segments⟩ := (exact _ _ _).mp taken
  obtain ⟨filled, -⟩ := segments header (by simp)
  have sizes := congrArg (fun text => text.toList.length) parts
  have whole : "..".toList.length = 2 := rfl
  simp only [String.toList_append, List.length_append, dot_toList, whole, List.length_singleton] at sizes
  have none : header.toList.length = 0 := by omega
  exact filled (String.toList_eq_nil_iff.mp (List.length_eq_zero_iff.mp none))

/-- Nor are the characters of a segment looked at. -/
theorem other_characters_taken :
    ¬ ∀ location expectedHost token, parseCallback parseSmall location expectedHost = .ok token →
      token.toList.all isTokenChar = true := by
  intro plain
  have taken : parseCallback parseSmall (callbackUrl (accessHost "example") "!.*.$")
      (accessHost "example") = .ok "!.*.$" := by decide +kernel
  have signs : "!.*.$".toList.all isTokenChar = false := by decide
  exact absurd (plain _ _ _ taken) (Bool.eq_false_iff.mp signs)

end Usque.Access
