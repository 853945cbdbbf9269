import RedirectLogin.Json.Decode

/-!
# What can go wrong with a session

`SessionError` lists the causes with their payload, `ErrorKind` the causes alone. Before an error
crosses into a user interface it is flattened into an `AuthFailure`: its kind, and the code of the
identity provider if that is what failed. No other payload goes there.
-/

set_option autoImplicit false

namespace RedirectLogin

inductive SessionError where
  | untrustedOrigin (origin : String)
  | malformedCallback
  | providerError (code : String) (description : Option String)
  | sessionExpired
  | storageFailure (reason : String)
  | alreadyAuthenticated
  | loginTimedOut
  | network (reason : String)
  deriving DecidableEq, Repr

inductive ErrorKind where
  | untrustedOrigin
  | malformedCallback
  | providerError
  | sessionExpired
  | storageFailure
  | alreadyAuthenticated
  | loginTimedOut
  | network
  deriving DecidableEq, Repr

namespace ErrorKind

/-- The name in JSON. -/
def key : ErrorKind → String
  | .untrustedOrigin => "untrusted_origin"
  | .malformedCallback => "malformed_callback"
  | .providerError => "provider_error"
  | .sessionExpired => "session_expired"
  | .storageFailure => "storage_failure"
  | .alreadyAuthenticated => "already_authenticated"
  | .loginTimedOut => "login_timed_out"
  | .network => "network"

/-- The name in messages. -/
def label : ErrorKind → String
  | .untrustedOrigin => "UntrustedOrigin"
  | .malformedCallback => "MalformedCallback"
  | .providerError => "ProviderError"
  | .sessionExpired => "SessionExpired"
  | .storageFailure => "StorageFailure"
  | .alreadyAuthenticated => "AlreadyAuthenticated"
  | .loginTimedOut => "LoginTimedOut"
  | .network => "Network"

def all : List ErrorKind :=
  [.untrustedOrigin, .malformedCallback, .providerError, .sessionExpired, .storageFailure,
   .alreadyAuthenticated, .loginTimedOut, .network]

def variants : List (String × ErrorKind) :=
  all.map (fun k => (k.key, k))

def ofKey? (s : String) : Option ErrorKind :=
  all.find? (fun k => k.key == s)

def decoder (origin : Json.Origin) : Json.Decoder ErrorKind :=
  Json.asVariant origin variants

end ErrorKind

namespace SessionError

def message : SessionError → String
  | .untrustedOrigin origin => "Callback origin is not on the allow-list: " ++ origin
  | .malformedCallback => "Callback carried neither a token nor an error"
  | .providerError code _ => "Identity provider reported an error: " ++ code
  | .sessionExpired => "Session expired - please log in again"
  | .storageFailure reason => "Secure storage failure: " ++ reason
  | .alreadyAuthenticated => "Already authenticated - log out first"
  | .loginTimedOut => "Login timed out waiting for the provider callback"
  | .network reason => "Network error: " ++ reason

def kind : SessionError → ErrorKind
  | .untrustedOrigin _ => .untrustedOrigin
  | .malformedCallback => .malformedCallback
  | .providerError _ _ => .providerError
  | .sessionExpired => .sessionExpired
  | .storageFailure _ => .storageFailure
  | .alreadyAuthenticated => .alreadyAuthenticated
  | .loginTimedOut => .loginTimedOut
  | .network _ => .network

/-- The error of a kind, with the payload that kind takes. -/
def ofKind (kind : ErrorKind) (detail : String) (description : Option String) : SessionError :=
  match kind with
  | .untrustedOrigin => .untrustedOrigin detail
  | .malformedCallback => .malformedCallback
  | .providerError => .providerError detail description
  | .sessionExpired => .sessionExpired
  | .storageFailure => .storageFailure detail
  | .alreadyAuthenticated => .alreadyAuthenticated
  | .loginTimedOut => .loginTimedOut
  | .network => .network detail

/-- The code the identity provider gave, the one payload a user interface may show. -/
def code? : SessionError → Option String
  | .providerError code _ => some code
  | _ => none

/-- Whether only a new login helps. -/
def requiresLogin : SessionError → Bool
  | .sessionExpired | .malformedCallback | .providerError _ _ | .loginTimedOut => true
  | _ => false

end SessionError

/-- An error as a user interface sees it. -/
structure AuthFailure where
  kind : ErrorKind
  code : Option String
  deriving DecidableEq, Repr

namespace AuthFailure

def ofError (e : SessionError) : AuthFailure :=
  ⟨e.kind, e.code?⟩

def toJson (f : AuthFailure) : Json :=
  .object [("kind", .string f.kind.key), ("code", Json.ofOption .string f.code)]

/-- A failure while its fields are being read. -/
structure Draft where
  kind : Option ErrorKind
  code : Option (Option String)

def fields (origin : Json.Origin) : List (Json.Field Draft) :=
  [⟨"kind", false, fun j d => do .ok { d with kind := some (← ErrorKind.decoder origin j) }⟩,
   ⟨"code", false, fun j d => do .ok { d with code := some (← Json.asOptional Json.asString j) }⟩]

def decoder (origin : Json.Origin) : Json.Decoder AuthFailure := fun j => do
  let d ← Json.readRecord origin "struct AuthFailure" (fields origin) ⟨none, none⟩ j
  let kind ← Json.required "kind" d.kind
  .ok ⟨kind, d.code.join⟩

end AuthFailure

end RedirectLogin
