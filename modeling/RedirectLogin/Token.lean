import RedirectLogin.Json.Decode
import RedirectLogin.Text.Blank
import RedirectLogin.Time.Timestamp

/-!
# Tokens

Access and refresh tokens are opaque texts that are not blank; the types carry that fact. A token
set is what a session holds and a store keeps. Descriptions for logs (`redacted`) show the length
of a token and nothing else of it.
-/

set_option autoImplicit false

namespace RedirectLogin

/-- A bearer credential. -/
structure AccessToken where
  value : String
  nonblank : Text.isBlankText value = false
  deriving DecidableEq

/-- A credential that buys a new access token. -/
structure RefreshToken where
  value : String
  nonblank : Text.isBlankText value = false
  deriving DecidableEq

/-- What a message calls a token of either kind. -/
def redactedAs (kind value : String) : String :=
  kind ++ "(<redacted " ++ toString value.utf8ByteSize ++ " chars>)"

namespace AccessToken

/-- The token of that text, unless it is blank. -/
def ofString? (value : String) : Option AccessToken :=
  if h : Text.isBlankText value = false then some ⟨value, h⟩ else none

def emptyMessage : String := "AccessToken must not be empty"

def redacted (t : AccessToken) : String :=
  redactedAs "AccessToken" t.value

def toJson (t : AccessToken) : Json :=
  .string t.value

def decoder : Json.Decoder AccessToken := fun j => do
  match ofString? (← Json.asString j) with
  | some t => .ok t
  | none => .error (.refused emptyMessage)

theorem ofString?_value (t : AccessToken) : ofString? t.value = some t := by
  simp [ofString?, t.nonblank]

end AccessToken

namespace RefreshToken

/-- The token of that text, unless it is blank. -/
def ofString? (value : String) : Option RefreshToken :=
  if h : Text.isBlankText value = false then some ⟨value, h⟩ else none

def emptyMessage : String := "RefreshToken must not be empty"

def redacted (t : RefreshToken) : String :=
  redactedAs "RefreshToken" t.value

def toJson (t : RefreshToken) : Json :=
  .string t.value

def decoder : Json.Decoder RefreshToken := fun j => do
  match ofString? (← Json.asString j) with
  | some t => .ok t
  | none => .error (.refused emptyMessage)

theorem ofString?_value (t : RefreshToken) : ofString? t.value = some t := by
  simp [ofString?, t.nonblank]

end RefreshToken

/-- A refresh token that may be missing, as a message shows it. -/
def redactedOption : Option RefreshToken → String
  | none => "None"
  | some t => "Some(" ++ t.redacted ++ ")"

namespace Timestamp

def toJson (t : Timestamp) : Json :=
  .string t.text

def decoder : Json.Decoder Timestamp := fun j => do
  match parse? (← Json.asStringOf "an RFC 3339 formatted date and time string" j) with
  | some t => .ok t
  | none => .error .badTimestamp

end Timestamp

/-- The credentials of a session. -/
structure TokenSet where
  access : AccessToken
  refresh : Option RefreshToken
  savedAt : Timestamp
  deriving DecidableEq

namespace TokenSet

def canRefresh (t : TokenSet) : Bool :=
  t.refresh.isSome

def redacted (t : TokenSet) : String :=
  "TokenSet \x7b access_token: " ++ t.access.redacted ++ ", refresh_token: " ++
    redactedOption t.refresh ++ ", saved_at: " ++ t.savedAt.text ++ " \x7d"

def toJson (t : TokenSet) : Json :=
  .object
    [("access_token", t.access.toJson),
     ("refresh_token", Json.ofOption RefreshToken.toJson t.refresh),
     ("saved_at", t.savedAt.toJson)]

/-- A token set while its fields are being read. -/
structure Draft where
  access : Option AccessToken
  refresh : Option (Option RefreshToken)
  savedAt : Option Timestamp

def fields : List (Json.Field Draft) :=
  [⟨"access_token", false, fun j d => do .ok { d with access := some (← AccessToken.decoder j) }⟩,
   ⟨"refresh_token", false,
     fun j d => do .ok { d with refresh := some (← Json.asOptional RefreshToken.decoder j) }⟩,
   ⟨"saved_at", false, fun j d => do .ok { d with savedAt := some (← Timestamp.decoder j) }⟩]

/-- The refresh token may be missing, the other two fields may not. -/
def decoder : Json.Decoder TokenSet := fun j => do
  let d ← Json.readRecord .text "struct TokenSet" fields ⟨none, none, none⟩ j
  let access ← Json.required "access_token" d.access
  let savedAt ← Json.required "saved_at" d.savedAt
  .ok ⟨access, d.refresh.join, savedAt⟩

/-- The text a store keeps. -/
def record (t : TokenSet) : String :=
  t.toJson.compact

def ofRecord (text : String) : Except Json.Problem TokenSet :=
  Json.decode decoder text

end TokenSet

end RedirectLogin
