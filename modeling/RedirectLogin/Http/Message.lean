import RedirectLogin.Http.Status
import RedirectLogin.Token
import RedirectLogin.Url.Parser

/-!
# Requests and replies

A request names its URL by text; `Request.prepare` makes the checks that come before anything is
sent. What then comes back is a `Reply`: a response with any status, or the reason why there is
none.
-/

set_option autoImplicit false

namespace RedirectLogin

/-- Why a request has no usable response. The first four are found before anything is sent. -/
inductive TransportError where
  | badUrl (problem : UrlProblem)
  /-- A header value holds a character that it may not hold. -/
  | badHeader
  /-- The URL is for something other than the web, or names no host. -/
  | badScheme (url : String)
  /-- The URL's host cannot be written into a request. -/
  | badAddress (url : String)
  /-- Connecting or the exchange itself failed, for the reasons given from the outside in. -/
  | sending (url : String) (causes : List String)
  /-- The body is not the expected JSON. -/
  | decoding
  deriving DecidableEq, Repr

namespace TransportError

def message : TransportError → String
  | .badUrl _ | .badHeader => "builder error"
  | .badScheme url | .badAddress url => "builder error for url (" ++ url ++ ")"
  | .sending url _ => "error sending request for url (" ++ url ++ ")"
  | .decoding => "error decoding response body"

/-- What the message leaves out, from the outside in. -/
def causes : TransportError → List String
  | .badUrl problem => [problem.message]
  | .badHeader => ["failed to parse header value"]
  | .badScheme _ => ["URL scheme is not allowed"]
  | .badAddress _ => ["Parsed Url is not a valid Uri"]
  | .sending _ causes => causes
  | .decoding => []

end TransportError

/-- Characters that a method may be written with. -/
def Http.isMethodChar (c : Char) : Bool :=
  ('a' ≤ c && c ≤ 'z') || ('A' ≤ c && c ≤ 'Z') || ('0' ≤ c && c ≤ '9') ||
    "!#$%&'*+-.^_\x60|~".toList.contains c

/-- Whether a text is the name of a method. -/
def Http.isMethod (s : String) : Bool :=
  !s.isEmpty && s.toList.all isMethodChar

structure Request where
  method : String
  url : String
  bearer : Option String
  /-- Whether the answer is asked for as JSON. -/
  acceptsJson : Bool
  /-- A JSON body as text. -/
  body : Option String
  deriving DecidableEq, Repr

structure Response where
  status : Nat
  body : List UInt8
  deriving DecidableEq, Repr

/-- The body as text; what is not UTF-8 becomes U+FFFD. -/
def Response.text (r : Response) : String :=
  String.ofList (Text.decodeLossy r.body)

/-- The body decoded as JSON. -/
def Response.json {α : Type} (read : Json.Decoder α) (r : Response) : Except TransportError α :=
  match Json.decodeBytes read r.body with
  | .ok a => .ok a
  | .error _ => .error .decoding

abbrev Reply := Except TransportError Response

namespace Request

/-- Header values may hold tabs and everything but controls. -/
def isHeaderValue (s : String) : Bool :=
  (Text.bytes s).all (fun b => b = 9 || (32 ≤ b && b ≠ 127))

def authorization? (r : Request) : Option String :=
  r.bearer.map ("Bearer " ++ ·)

/-- Whether a part of the user information is text once decoded. -/
def isDecodable (part : String) : Bool :=
  (Text.decode? (Percent.decode (Text.bytes part))).isSome

/-- User name and password leave the URL before it is sent or shown. -/
def withoutUserinfo (u : Url) : Url :=
  match u.authority with
  | none => u
  | some a =>
    if isDecodable a.username && (!a.username.isEmpty || a.password.any isDecodable) then
      { u with authority := some { a with username := "", password := none } }
    else u

/-- Characters that a request line can carry in its authority. -/
def isAuthorityChar (c : Char) : Bool :=
  ('a' ≤ c && c ≤ 'z') || ('A' ≤ c && c ≤ 'Z') || ('0' ≤ c && c ≤ '9') ||
    "!$&'()*+,-.:;=@[]_~%".toList.contains c

/-- The URL that a request goes to, or the reason why it cannot be built. -/
def prepare (r : Request) : Except TransportError Url :=
  match Url.parse r.url with
  | .error problem => .error (.badUrl problem)
  | .ok u =>
    if u.host.isNone then .error (.badScheme u.text)
    else if !(r.authorization?.all isHeaderValue) then .error .badHeader
    else
      let u := withoutUserinfo u
      if !u.isWeb then .error (.badScheme u.text)
      else if !((u.authority.map Authority.text).getD "").toList.all isAuthorityChar then
        .error (.badAddress u.text)
      else .ok u

end Request

end RedirectLogin
