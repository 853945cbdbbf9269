import RedirectLogin.Failure
import RedirectLogin.Token
import RedirectLogin.Url.Basic

/-!
# Sessions

The five states of a session. Tokens exist only in the two states that may hold them, so an
authenticated session always has a token. `SessionStatus` is the view without tokens that user
interfaces and logs get; it is also a JSON format with reader and writer.
-/

set_option autoImplicit false

namespace RedirectLogin

/-- A login that was started and waits for its redirect. -/
structure PendingLogin where
  provider : String
  loginUrl : Url
  startedAt : Timestamp
  deriving DecidableEq

/-- A pending login is stale once more than `timeout` nanoseconds have passed. -/
def PendingLogin.isStale (p : PendingLogin) (now : Timestamp) (timeout : Int) : Bool :=
  timeout < now.since p.startedAt

inductive Session where
  | unauthenticated
  | loginPending (login : PendingLogin)
  | authenticated (tokens : TokenSet)
  | refreshPending (tokens : TokenSet)
  | failed (error : SessionError)
  deriving DecidableEq

/-- The token-free view of a session. -/
inductive SessionStatus where
  | unauthenticated
  | loginPending (provider : String)
  | authenticated (canRefresh : Bool)
  | refreshPending
  | failed (failure : AuthFailure)
  deriving DecidableEq, Repr

namespace Session

/-- The session at start, from what the store held. -/
def ofStored : Option TokenSet → Session
  | some tokens => .authenticated tokens
  | none => .unauthenticated

def tokens? : Session → Option TokenSet
  | .authenticated tokens | .refreshPending tokens => some tokens
  | _ => none

def accessToken? (s : Session) : Option AccessToken :=
  s.tokens?.map TokenSet.access

def error? : Session → Option SessionError
  | .failed e => some e
  | _ => none

def pending? : Session → Option PendingLogin
  | .loginPending login => some login
  | _ => none

/-- Whether a pending login has become stale. -/
def isStale (s : Session) (now : Timestamp) (timeout : Int) : Bool :=
  s.pending?.any (fun login => login.isStale now timeout)

/-- Give up a pending login that has become stale. -/
def expire (s : Session) (now : Timestamp) (timeout : Int) : Session :=
  if s.isStale now timeout then .unauthenticated else s

def status : Session → SessionStatus
  | .unauthenticated => .unauthenticated
  | .loginPending login => .loginPending login.provider
  | .authenticated tokens => .authenticated tokens.canRefresh
  | .refreshPending _ => .refreshPending
  | .failed e => .failed (.ofError e)

end Session

namespace SessionStatus

def label : SessionStatus → String
  | .unauthenticated => "Unauthenticated"
  | .loginPending _ => "LoginPending"
  | .authenticated _ => "Authenticated"
  | .refreshPending => "RefreshPending"
  | .failed _ => "Error"

def toJson : SessionStatus → Json
  | .unauthenticated => .object [("state", .string "unauthenticated")]
  | .loginPending provider =>
    .object [("state", .string "login_pending"), ("provider", .string provider)]
  | .authenticated canRefresh =>
    .object [("state", .string "authenticated"), ("can_refresh", .bool canRefresh)]
  | .refreshPending => .object [("state", .string "refresh_pending")]
  | .failed failure => .object [("state", .string "error"), ("error", failure.toJson)]

/-- The values of the tag `state`. -/
inductive Tag where
  | unauthenticated
  | loginPending
  | authenticated
  | refreshPending
  | failed
  deriving DecidableEq, Repr

def tags : List (String × Tag) :=
  [("unauthenticated", .unauthenticated), ("login_pending", .loginPending),
   ("authenticated", .authenticated), ("refresh_pending", .refreshPending), ("error", .failed)]

def readTag : Json.Decoder Tag := fun o => do
  Json.variant tags (← Json.asStringOf "variant identifier" o)

/-- A part that is kept aside until the tag is known must be a document in itself; the object or
array it stands in takes one level of nesting. -/
def keepAside (o : Json.Outline) : Except Json.Problem Json.Outline :=
  if (o.value? (Json.maxDepth - 1)).isSome then .ok o else .error .malformed

/-- The tag and the other members of an object. A repeated or wrong tag is reported where it
stands. -/
def splitTag : Option Tag → List (Option String × Json.Outline) →
    Except Json.Problem (Option Tag × List (Option String × Json.Outline))
  | tag, [] => .ok (tag, [])
  | tag, (key, o) :: rest => do
    if (← Json.keyOf key) = "state" then
      if tag.isSome then .error (.repeated "state")
      else
        let t ← readTag o
        splitTag (some t) rest
    else
      let kept ← keepAside o
      let (t, members) ← splitTag tag rest
      .ok (t, (key, kept) :: members)

/-- The one field of a variant. -/
def readField {α : Type} (name shape : String) (read : Json.Decoder α) (content : Json.Outline) :
    Except Json.Problem α := do
  let field : Json.Field (Option α) := ⟨name, false, fun o _ => do .ok (some (← read o))⟩
  let record := "struct variant SessionStatus::" ++ shape
  Json.required name (← Json.readRecord .kept record [field] none content)

/-- The variant without fields: any object will do, an array must be empty. -/
def readUnit : Json.Decoder Unit
  | .array [] => .ok ()
  | .array items => .error (.wrongLength items.length "0 elements in sequence")
  | _ => .ok ()

def readContent : Tag → Json.Decoder SessionStatus
  | .unauthenticated, o => do
    readUnit o
    .ok .unauthenticated
  | .loginPending, o => do
    .ok (.loginPending (← readField "provider" "LoginPending" Json.asString o))
  | .authenticated, o => do
    .ok (.authenticated (← readField "can_refresh" "Authenticated" Json.asBool o))
  | .refreshPending, o => do
    readUnit o
    .ok .refreshPending
  | .failed, o => do .ok (.failed (← readField "error" "Error" (AuthFailure.decoder .kept) o))

/-- The tag may stand anywhere in an object; in an array it comes first. -/
def decoder : Json.Decoder SessionStatus
  | .object members => do
    let (tag, rest) ← splitTag none members
    readContent (← Json.required "state" tag) (.object rest)
  | .array [] => .error (.missing "state")
  | .array (o :: rest) => do
    let tag ← readTag o
    readContent tag (.array (← rest.mapM keepAside))
  | o => Json.expected "internally tagged enum SessionStatus" o

end SessionStatus

end RedirectLogin
