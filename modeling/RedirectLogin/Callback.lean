import RedirectLogin.Failure
import RedirectLogin.Token
import RedirectLogin.Url.Parser

/-!
# Redirects back to the application

The same redirect can arrive in three ways: as a link the system opens, as a navigation of an
embedded browser, or as a request to the loopback listener. Whatever the way, its origin is
checked against a closed list before any parameter is looked at.

Principal results: `ofPairs_error` — a provider error is never masked by a token that came along;
`covers_iff` — an origin matches by scheme and host alone, without regard to ASCII case.
-/

set_option autoImplicit false

namespace RedirectLogin

/-- A trusted pair of scheme and host. Ports and paths take no part in the match. -/
structure AllowedOrigin where
  scheme : String
  host : String
  deriving DecidableEq, Repr

/-- Equality up to the case of ASCII letters. -/
def equalFold (a b : String) : Bool :=
  a.toList.map Domain.lowerAscii = b.toList.map Domain.lowerAscii

namespace AllowedOrigin

def covers (o : AllowedOrigin) (u : Url) : Bool :=
  match u.hostText? with
  | none => false
  | some host => equalFold o.scheme u.scheme && equalFold o.host host

theorem covers_iff {o : AllowedOrigin} {u : Url} :
    o.covers u = true ↔
      ∃ host, u.hostText? = some host ∧ equalFold o.scheme u.scheme = true ∧
        equalFold o.host host = true := by
  unfold covers
  split <;> simp_all

def toJson (o : AllowedOrigin) : Json :=
  .object [("scheme", .string o.scheme), ("host", .string o.host)]

/-- An origin while its fields are being read. -/
structure Draft where
  scheme : Option String
  host : Option String

def fields : List (Json.Field Draft) :=
  [⟨"scheme", false, fun j d => do .ok { d with scheme := some (← Json.asString j) }⟩,
   ⟨"host", false, fun j d => do .ok { d with host := some (← Json.asString j) }⟩]

def decoder : Json.Decoder AllowedOrigin := fun j => do
  let d ← Json.readRecord .text "struct AllowedOrigin" fields ⟨none, none⟩ j
  let scheme ← Json.required "scheme" d.scheme
  let host ← Json.required "host" d.host
  .ok ⟨scheme, host⟩

end AllowedOrigin

/-- How a redirect reached the application. -/
inductive Transport where
  | deepLink
  | navigation
  | loopback
  deriving DecidableEq, Repr

def Transport.label : Transport → String
  | .deepLink => "deep_link"
  | .navigation => "navigation"
  | .loopback => "loopback"

def Transport.ofLabel? (label : String) : Option Transport :=
  [.deepLink, .navigation, .loopback].find? (fun t => t.label == label)

structure CallbackEvent where
  transport : Transport
  uri : String
  deriving DecidableEq, Repr

/-- What a redirect says: a token or an error, never both. -/
inductive CallbackResult where
  | token (access : AccessToken) (refresh : Option RefreshToken)
  | error (code : String) (description : Option String)
  deriving DecidableEq

namespace CallbackResult

/-- A result as a log shows it. -/
def redacted : CallbackResult → String
  | .token access refresh =>
    "Token \x7b token: " ++ access.redacted ++
      ", refresh_token: " ++ redactedOption refresh ++ " \x7d"
  | .error code description =>
    "Error \x7b code: " ++ Text.quoted code ++ ", description: " ++
      (match description with
        | none => "None"
        | some d => "Some(" ++ Text.quoted d ++ ")") ++ " \x7d"

/-- The first value under that name that is not blank. -/
def valueOf? (pairs : List (String × String)) (name : String) : Option String :=
  (pairs.find? (fun p => p.1 == name && !Text.isBlankText p.2)).map (·.2)

/-- What the decoded pairs of a redirect say, by what is found under each name. -/
def ofPairs (pairs : List (String × String)) : Except SessionError CallbackResult :=
  match valueOf? pairs "error" with
  | some code => .ok (.error code (valueOf? pairs "error_description"))
  | none =>
    match (valueOf? pairs "token").bind AccessToken.ofString? with
    | some access =>
      .ok (.token access ((valueOf? pairs "refresh_token").bind RefreshToken.ofString?))
    | none => .error .malformedCallback

theorem ofPairs_error {pairs : List (String × String)} {code : String}
    (h : valueOf? pairs "error" = some code) :
    ofPairs pairs = .ok (.error code (valueOf? pairs "error_description")) := by
  simp [ofPairs, h]

end CallbackResult

/-- The values that a redirect may say something with, as they are collected. -/
structure CallbackParameters where
  token : Option String
  refreshToken : Option String
  error : Option String
  errorDescription : Option String
  deriving DecidableEq, Repr

namespace CallbackParameters

def empty : CallbackParameters := ⟨none, none, none, none⟩

/-- Take a decoded pair in. A blank value does not count, other names mean nothing here, and a value
that is there stays. -/
def take (p : CallbackParameters) (pair : String × String) : CallbackParameters :=
  if Text.isBlankText pair.2 then p
  else
    match pair.1 with
    | "token" => { p with token := p.token.or (some pair.2) }
    | "refresh_token" => { p with refreshToken := p.refreshToken.or (some pair.2) }
    | "error" => { p with error := p.error.or (some pair.2) }
    | "error_description" => { p with errorDescription := p.errorDescription.or (some pair.2) }
    | _ => p

/-- Take all pairs in, from left to right. -/
def collect (pairs : List (String × String)) : CallbackParameters :=
  pairs.foldl take empty

/-- What the values say. A provider's error is never masked by a token that came along. -/
def result (p : CallbackParameters) : Except SessionError CallbackResult :=
  match p.error with
  | some code => .ok (.error code p.errorDescription)
  | none =>
    match p.token.bind AccessToken.ofString? with
    | some access => .ok (.token access (p.refreshToken.bind RefreshToken.ofString?))
    | none => .error .malformedCallback

end CallbackParameters

/-- Query values come before fragment values. -/
def CallbackResult.ofUrl (u : Url) : Except SessionError CallbackResult :=
  (CallbackParameters.collect (u.queryPairs ++ u.fragmentPairs)).result

/-- Reads redirects against a closed list of origins. -/
structure CallbackReceiver where
  allowList : List AllowedOrigin
  deriving DecidableEq, Repr

namespace CallbackReceiver

def trusts (r : CallbackReceiver) (u : Url) : Bool :=
  r.allowList.any (fun o => o.covers u)

/-- Scheme and host only: the query may carry a token and is never shown. -/
def describeOrigin (u : Url) : String :=
  u.scheme ++ "://" ++ u.hostText?.getD ""

/-- The URL of a redirect, blanks around it aside. -/
def urlOf? (uri : String) : Option Url :=
  Url.parse? (Text.trim uri)

/-- Read a redirect, however it came. -/
def parse (r : CallbackReceiver) (uri : String) : Except SessionError CallbackResult :=
  match urlOf? uri with
  | none => .error .malformedCallback
  | some u =>
    if r.trusts u then CallbackResult.ofUrl u
    else .error (.untrustedOrigin (describeOrigin u))

/-- Whether a navigation goes to an ordinary web page and should simply load. -/
def isPlainNavigation (r : CallbackReceiver) (uri : String) : Bool :=
  (urlOf? uri).any (fun u => u.isWeb && !r.trusts u)

/-- Handle an event; `none` is a navigation that is no callback. -/
def receive (r : CallbackReceiver) (event : CallbackEvent) :
    Except SessionError (Option CallbackResult) :=
  if event.transport = .navigation ∧ r.isPlainNavigation event.uri then .ok none
  else (r.parse event.uri).map some

end CallbackReceiver

end RedirectLogin
