import RedirectLogin.Api.Error
import RedirectLogin.Config

/-!
# The backend's token endpoints

Where a login starts, and the requests that refresh, revoke and validate tokens: what is sent, and
what the answers mean. Nothing here sends; the caller does, and hands the reply back.
-/

set_option autoImplicit false

namespace RedirectLogin

/-- The locations of the endpoints. -/
structure Backend where
  root : String
  refreshPath : String
  revokePath : String
  validatePath : String
  deriving DecidableEq, Repr

/-- The body of a successful refresh. -/
structure RefreshResponse where
  access : String
  refresh : Option String
  expiresIn : Option Int
  deriving DecidableEq, Repr

/-- Why a refresh did not yield a token. -/
inductive RefreshFailure where
  /-- The backend refused the refresh token: any status from 400 to 499. -/
  | rejected (status : Nat)
  /-- No usable answer came. -/
  | transient (reason : String)
  deriving DecidableEq, Repr

namespace RefreshResponse

/-- A response while its fields are being read. -/
structure Draft where
  access : Option String
  refresh : Option String
  expiresIn : Option Int

def fields : List (Json.Field Draft) :=
  [⟨"access_token", false, fun j d => do .ok { d with access := some (← Json.asString j) }⟩,
   ⟨"refresh_token", true,
     fun j d => do .ok { d with refresh := ← Json.asOptional Json.asString j }⟩,
   ⟨"expires_in", true,
      fun j d => do .ok { d with expiresIn := ← Json.asOptional Json.asInteger j }⟩]

def decoder : Json.Decoder RefreshResponse := fun j => do
  let d ← Json.readRecord .text "struct RefreshResponse" fields ⟨none, none, none⟩ j
  let access ← Json.required "access_token" d.access
  .ok ⟨access, d.refresh, d.expiresIn⟩

end RefreshResponse

namespace Backend

def ofConfig (c : Config) : Backend where
  root := c.backendRoot
  refreshPath := c.refreshPath
  revokePath := c.revokePath
  validatePath := c.validatePath

/-- The page a login through `provider` starts on; `redirect?` asks the backend to come back to
another place than the application's own scheme. -/
def loginUrl (b : Backend) (provider : String) (redirect? : Option String) :
    Except SessionError Url :=
  match Url.parse (b.root ++ "/oauth2/auth/" ++ provider) with
  | .error e => .error (.network ("Invalid backend URL: " ++ e.message))
  | .ok u =>
    match redirect? with
    | none => .ok u
    | some redirect => .ok (u.addPair "redirect_uri" redirect)

def refreshRequest (b : Backend) (token : RefreshToken) : Request where
  method := "POST"
  url := b.root ++ b.refreshPath
  bearer := none
  acceptsJson := false
  body := some (Json.compact (.object [("refreshToken", .string token.value)]))

def readRefresh : Reply → Except RefreshFailure RefreshResponse
  | .error e => .error (.transient e.message)
  | .ok r =>
    if Http.isClientError r.status then .error (.rejected r.status)
    else if !Http.isSuccess r.status then
      .error (.transient ("refresh returned " ++ Http.statusText r.status))
    else
      match r.json RefreshResponse.decoder with
      | .ok response => .ok response
      | .error e => .error (.transient ("invalid refresh response: " ++ e.message))

def revokeRequest (b : Backend) (token : AccessToken) : Request where
  method := "POST"
  url := b.root ++ b.revokePath
  bearer := some token.value
  acceptsJson := false
  body := none

def readRevoke : Reply → Except ApiError Unit
  | .error e => .error (.network e)
  | .ok r => if Http.isSuccess r.status then .ok () else .error (.ofResponse r)

def validateRequest (b : Backend) (token : AccessToken) : Request where
  method := "POST"
  url := b.root ++ b.validatePath
  bearer := some token.value
  acceptsJson := false
  body := none

def readValidate : Reply → Except ApiError Bool
  | .error e => .error (.network e)
  | .ok r =>
    if Http.isSuccess r.status then .ok true
    else if r.status = 401 ∨ r.status = 403 then .ok false
    else .error (.ofResponse r)

end Backend

end RedirectLogin
