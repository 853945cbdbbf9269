import RedirectLogin.Callback

/-!
# Configuration

Where the backend is, which identity provider to use, which redirect origins to trust besides the
application's own, and where tokens are kept. The file is a JSON object; a missing field takes its
default, so an empty object is a complete configuration.

Principal results: `allowList_head` — the application's own origin is always trusted, first of all.
-/

set_option autoImplicit false

namespace RedirectLogin

/-- Where tokens are kept. -/
inductive StorageBackend where
  | keyring
  | vault
  deriving DecidableEq, Repr

namespace StorageBackend

def key : StorageBackend → String
  | .keyring => "keyring"
  | .vault => "vault"

def decoder : Json.Decoder StorageBackend :=
  Json.asVariant .text [("keyring", .keyring), ("vault", .vault)]

end StorageBackend

/-- What is fixed when the application is built: the scheme that the backend redirects to, which is
none of those that URLs have rules of their own for. -/
class Application where
  scheme : String
  startsWithLetter : scheme.toList.head?.any Url.isLetter = true
  isScheme : scheme.toList.all Url.isSchemeChar = true
  isPlain : Url.SchemeKind.ofScheme (scheme.toList.map Domain.lowerAscii) = .other

/-- The scheme of a build that does not say otherwise. -/
instance Application.authlink : Application where
  scheme := "authlink"
  startsWithLetter := by decide
  isScheme := by decide
  isPlain := by decide

/-- The scheme the backend redirects to. -/
def appScheme [app : Application] : String := app.scheme

/-- The host of the application's own redirect. -/
def callbackHost : String := "auth"

/-- The name of the application's directories. -/
def appName : String := "authlink"

structure Config where
  backendUrl : String
  apiBasePath : String
  provider : String
  allowedOrigins : List AllowedOrigin
  loginTimeoutSecs : Nat
  requestTimeoutSecs : Nat
  /-- Whether the backend invalidates a refresh token once it is used. -/
  rotateRefreshTokens : Bool
  refreshPath : String
  revokePath : String
  validatePath : String
  storage : StorageBackend
  keyringAccount : String
  vaultPath : Option String
  deriving DecidableEq, Repr

namespace Config

def default : Config where
  backendUrl := "http://localhost:8080"
  apiBasePath := "/api"
  provider := "kakao"
  allowedOrigins := []
  loginTimeoutSecs := 600
  requestTimeoutSecs := 30
  rotateRefreshTokens := true
  refreshPath := "/api/auth/refresh"
  revokePath := "/api/auth/logout"
  validatePath := "/api/auth/validate-token"
  storage := .keyring
  keyringAccount := "session"
  vaultPath := none

def toJson (c : Config) : Json :=
  .object
    [("backend_url", .string c.backendUrl),
     ("api_base_path", .string c.apiBasePath),
     ("provider", .string c.provider),
     ("allowed_origins", .array (c.allowedOrigins.map AllowedOrigin.toJson)),
     ("login_timeout_secs", .nat c.loginTimeoutSecs),
     ("request_timeout_secs", .nat c.requestTimeoutSecs),
     ("rotate_refresh_tokens", .bool c.rotateRefreshTokens),
     ("refresh_path", .string c.refreshPath),
     ("revoke_path", .string c.revokePath),
     ("validate_path", .string c.validatePath),
     ("storage", .string c.storage.key),
     ("keyring_account", .string c.keyringAccount),
     ("vault_path", Json.ofOption .string c.vaultPath)]

/-- A field that reads with `read` and stores with `put`; all fields of a configuration have
defaults. -/
def field {α : Type} (name : String) (read : Json.Decoder α) (put : α → Config → Config) :
    Json.Field Config :=
  ⟨name, true, fun j c => do .ok (put (← read j) c)⟩

/-- Whole seconds of 64 bits. -/
def asSeconds : Json.Decoder Nat :=
  Json.asNatural UInt64.size "u64"

def fields : List (Json.Field Config) :=
  [field "backend_url" Json.asString (fun v c => { c with backendUrl := v }),
   field "api_base_path" Json.asString (fun v c => { c with apiBasePath := v }),
   field "provider" Json.asString (fun v c => { c with provider := v }),
   field "allowed_origins" (Json.asList AllowedOrigin.decoder)
     (fun v c => { c with allowedOrigins := v }),
   field "login_timeout_secs" asSeconds (fun v c => { c with loginTimeoutSecs := v }),
   field "request_timeout_secs" asSeconds (fun v c => { c with requestTimeoutSecs := v }),
   field "rotate_refresh_tokens" Json.asBool (fun v c => { c with rotateRefreshTokens := v }),
   field "refresh_path" Json.asString (fun v c => { c with refreshPath := v }),
   field "revoke_path" Json.asString (fun v c => { c with revokePath := v }),
   field "validate_path" Json.asString (fun v c => { c with validatePath := v }),
   field "storage" StorageBackend.decoder (fun v c => { c with storage := v }),
   field "keyring_account" Json.asString (fun v c => { c with keyringAccount := v }),
   field "vault_path" (Json.asOptional (Json.asStringOf "path string"))
     (fun v c => { c with vaultPath := v })]

def decoder : Json.Decoder Config :=
  Json.readRecord .text "struct Config" fields default

/-- The configuration a text holds. -/
def ofText (text : String) : Except Json.Problem Config :=
  Json.decode decoder text

/-- The text of a configuration file. -/
def fileText (c : Config) : String :=
  c.toJson.pretty

def appOrigin [Application] : AllowedOrigin :=
  ⟨appScheme, callbackHost⟩

/-- Add an origin unless it is there already. -/
def addOrigin (origins : List AllowedOrigin) (o : AllowedOrigin) : List AllowedOrigin :=
  if origins.contains o then origins else origins ++ [o]

/-- The application's own origin, then the configured ones without repeats. -/
def allowList [Application] (c : Config) : List AllowedOrigin :=
  c.allowedOrigins.foldl addOrigin [appOrigin]

theorem foldl_addOrigin_head (os : List AllowedOrigin) (o : AllowedOrigin)
    (rest : List AllowedOrigin) :
    (os.foldl addOrigin (o :: rest)).head? = some o := by
  induction os generalizing rest with
  | nil => rfl
  | cons p os ih =>
    simp only [List.foldl_cons, addOrigin]
    split
    · exact ih rest
    · exact ih (rest ++ [p])

theorem allowList_head [Application] (c : Config) : c.allowList.head? = some appOrigin :=
  foldl_addOrigin_head _ _ _

/-- A text without the slashes at its end. -/
def withoutEndSlashes (s : String) : String :=
  String.ofList (Text.trimEndWhile (· = '/') s.toList)

def backendRoot (c : Config) : String :=
  withoutEndSlashes c.backendUrl

def apiBaseUrl (c : Config) : String :=
  c.backendRoot ++ c.apiBasePath

/-- The origin of the loopback listener. -/
def loopbackOrigin : AllowedOrigin :=
  ⟨"http", "127.0.0.1"⟩

/-- Trust redirects to the loopback listener. -/
def trustLoopback (c : Config) : Config :=
  { c with allowedOrigins := addOrigin c.allowedOrigins loopbackOrigin }

end Config

end RedirectLogin
