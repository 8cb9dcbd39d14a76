import Usque.MdmGrammar

/-! The enrollment JWT of a service token (`api/access.rs`): one request to the Access
host of the organization, answered by a redirect to the WARP callback. URLs are parsed
by the url crate, which is a parameter here with what it documents about the two kinds
of URL that occur. -/
namespace Usque.Access

open Mdm

/-- A parsed URL, by the accessors the code calls. -/
structure Url where
  scheme : String
  host : Option String
  port : Option ℕ
  username : String
  password : Option String
  path : String
  queryPairs : List (String × String)
  fragment : Option String
  deriving DecidableEq

/-- `service_token_request`. -/
structure Request where
  url : Url
  headers : List (String × String)
  deriving DecidableEq

/-- The answer, with its `Location` header, one character a byte. -/
structure Response where
  status : ℕ
  location : Option String
  deriving DecidableEq

def serviceTokenRequest (url : Url) (config : ServiceTokenEnrollment) : Request :=
  ⟨url, [("CF-Access-Client-Id", config.clientId), ("CF-Access-Client-Secret", config.clientSecret)]⟩

def isVisible (c : Char) : Bool := c == '\t' || (32 ≤ c.val && c.val < 127)

/-- `HeaderValue::to_str`. -/
def toStr (value : String) : Option String := if value.toList.all isVisible then some value else none

section Calls

variable (parse : String → Option Url)

/-- Whether `token` passes for a JWT: three segments on one line. -/
def validToken (token : String) : Bool :=
  !(token == "" || decide (token.utf8ByteSize > 64 * 1024) ||
    (token.toList.contains '\r' || token.toList.contains '\n') ||
    token.toList.count '.' + 1 != 3)

def parseCallback (location expectedHost : String) : Except String String :=
  match toStr location with
  | none => .error "Cloudflare Access returned a non-UTF-8 Location header"
  | some location =>
    match parse location with
    | none => .error "failed to parse Cloudflare Access enrollment callback URL"
    | some callback =>
      if callback.scheme = "http" ∨ callback.scheme = "https" then
        .error ("Cloudflare Access did not accept the service token; verify that the MDM token " ++
          "is selected by a Service Auth Device Enrollment policy")
      else if callback.scheme ≠ "com.cloudflare.warp" ∨ callback.host ≠ some expectedHost ∨
          callback.port ≠ none ∨ callback.username ≠ "" ∨ callback.password ≠ none ∨
          callback.path ≠ "/auth" ∨ callback.fragment ≠ none then
        .error "Cloudflare Access returned an unexpected enrollment callback origin or path"
      else match (callback.queryPairs.filter fun pair => pair.1 == "token").map Prod.snd with
        | [] => .error "Cloudflare Access enrollment callback has no token parameter"
        | token :: others =>
          if others ≠ [] then .error "Cloudflare Access callback has multiple token parameters"
          else if validToken token then .ok token
          else .error "Cloudflare Access returned an invalid enrollment JWT"

/-- The host the request is addressed to, as the code writes it. -/
def accessHost (organization : String) : String := organization ++ ".cloudflareaccess.com"

/-- `send` is the service: none when the request fails. -/
def acquireServiceTokenJwt (send : Request → Option Response) (config : ServiceTokenEnrollment) :
    Except String String :=
  let host := accessHost config.organization
  match parse ("https://" ++ host ++ "/warp") with
  | none => .error "failed to construct Cloudflare Access enrollment URL"
  | some url =>
    match send (serviceTokenRequest url config) with
    | none => .error "failed to request Cloudflare Access enrollment JWT"
    | some response =>
      if ¬ (300 ≤ response.status ∧ response.status < 400) then
        .error ("Cloudflare Access enrollment returned " ++ toString response.status ++
          "; expected a WARP callback redirect")
      else match response.location with
        | none => .error "Cloudflare Access enrollment redirect has no Location header"
        | some location => parseCallback parse location host

end Calls

/-! ## What the url crate documents -/

def lowercase (text : String) : String := String.ofList (text.toList.map Char.toLower)

/-- A DNS label, as the characters of an accepted organization. -/
def isLabelChar (c : Char) : Bool := c.isAlphanum || c == '-'

/-- The characters of a base64url token with its separators. -/
def isTokenChar (c : Char) : Bool := c.isAlphanum || c == '-' || c == '_' || c == '.'

def callbackUrl (host token : String) : String :=
  "com.cloudflare.warp://" ++ host ++ "/auth?token=" ++ token

/-- Hosts of `https` URLs are lowercased; a scheme that is not special keeps its host as
it is written, and what needs no escaping is not changed. -/
structure Documented (parse : String → Option Url) : Prop where
  special : ∀ label url, label.toList.all isLabelChar = true →
    parse ("https://" ++ accessHost label ++ "/warp") = some url →
    url.host = some (lowercase (accessHost label))
  other : ∀ label token, label.toList.all isLabelChar = true → token.toList.all isTokenChar = true →
    parse (callbackUrl (accessHost label) token) =
      some ⟨"com.cloudflare.warp", some (accessHost label), none, "", none, "/auth",
        [("token", token)], none⟩

/-- The genuine service: it redirects to the callback on the host it was asked at. -/
def genuine (token : String) (request : Request) : Option Response :=
  request.url.host.map fun host => ⟨302, some (callbackUrl host token)⟩

/-- Three non-empty base64url segments. -/
def IsToken (token : String) : Prop :=
  ∃ header payload signature : String, token = header ++ "." ++ payload ++ "." ++ signature ∧
    ∀ segment ∈ [header, payload, signature], segment ≠ "" ∧
      ∀ c ∈ segment.toList, c.isAlphanum ∨ c = '-' ∨ c = '_'

end Usque.Access
