import RedirectLogin.Api.Backend
import RedirectLogin.Session
import RedirectLogin.Store.Basic

/-!
# The coordinator

The one writer of a session and its store. Everything it does to them is done in sections, each of
which runs on its own from start to end; requests to the backend are sent between sections, never
within one. This module holds the sections, as functions on `Coordinator.State`.

A refresh takes two of them: `beginRefresh` decides whether the backend has to be asked and marks
the session, `endRefresh` takes in the backend's answer. What happens if other sections run between
the two is the subject of `Coordinator.Flight`.

Principal results: `handleCallback_untrusted` — a redirect from an origin that is not trusted
changes nothing; `consume_ignored` — nor does one that nobody waits for.
-/

set_option autoImplicit false

namespace RedirectLogin

/-- What a redirect did to the session. -/
inductive LoginOutcome where
  /-- The tokens are stored and the session is authenticated. -/
  | authenticated
  /-- No login was pending. -/
  | ignored
  /-- An ordinary navigation, which should load. -/
  | notCallback
  deriving DecidableEq, Repr

structure Coordinator (σ : Type) where
  store : TokenStore σ
  backend : Backend
  receiver : CallbackReceiver
  provider : String
  /-- How long a login may take, in nanoseconds. -/
  loginTimeout : Int
  rotateRefreshTokens : Bool

namespace Coordinator

variable {σ : Type}

/-- A login may never take longer than a year. -/
def maxLoginTimeoutSecs : Nat := 365 * 24 * 60 * 60

def ofConfig [Application] (c : Config) (store : TokenStore σ) : Coordinator σ where
  store := store
  backend := .ofConfig c
  receiver := ⟨c.allowList⟩
  provider := c.provider
  loginTimeout := (min c.loginTimeoutSecs maxLoginTimeoutSecs : Nat) * 1000000000
  rotateRefreshTokens := c.rotateRefreshTokens

/-- The session, and what the store works on. -/
structure State (σ : Type) where
  session : Session
  stored : σ

/-- The session that the store's content gives. -/
def start (c : Coordinator σ) (stored : σ) : State σ :=
  match attemptTwice c.store.load stored with
  | (.ok tokens, stored) => ⟨.ofStored tokens, stored⟩
  | (.error e, stored) => ⟨.failed e, stored⟩

/-- Give up a login that took too long. -/
def expireLogin (c : Coordinator σ) (now : Timestamp) (s : State σ) : State σ :=
  { s with session := s.session.expire now c.loginTimeout }

def status (c : Coordinator σ) (now : Timestamp) (s : State σ) : SessionStatus × State σ :=
  let s := c.expireLogin now s
  (s.session.status, s)

/-- Start a new login, whatever the session is now. -/
def startLogin (c : Coordinator σ) (redirect? : Option String) (now : Timestamp) (s : State σ) :
    Except SessionError Url × State σ :=
  match c.backend.loginUrl c.provider redirect? with
  | .error e => (.error e, s)
  | .ok url => (.ok url, { s with session := .loginPending ⟨c.provider, url, now⟩ })

/-- The URL to open for a login. A login that is pending already is not started again. -/
def beginLogin (c : Coordinator σ) (redirect? : Option String) (now : Timestamp) (s : State σ) :
    Except SessionError Url × State σ :=
  let s := c.expireLogin now s
  match s.session with
  | .loginPending login => (.ok login.loginUrl, s)
  | .authenticated _ | .refreshPending _ => (.error .alreadyAuthenticated, s)
  | .failed _ | .unauthenticated => c.startLogin redirect? now s

/-- Keep tokens, and be authenticated with them. A failure of the store ends in that error. -/
def keepTokens (c : Coordinator σ) (tokens : TokenSet) (s : State σ) :
    Except SessionError Unit × State σ :=
  match attemptTwice (c.store.save tokens) s.stored with
  | (.ok (), stored) => (.ok (), ⟨.authenticated tokens, stored⟩)
  | (.error e, stored) => (.error e, ⟨.failed e, stored⟩)

/-- Forget the tokens. A failure of the store ends in that error. -/
def forgetTokens (c : Coordinator σ) (s : State σ) : Except SessionError Unit × State σ :=
  match attemptTwice c.store.clear s.stored with
  | (.ok (), stored) => (.ok (), ⟨.unauthenticated, stored⟩)
  | (.error e, stored) => (.error e, ⟨.failed e, stored⟩)

/-- Take in what the redirect of the pending login says. -/
def finishLogin (c : Coordinator σ) (result : Except SessionError CallbackResult) (now : Timestamp)
    (s : State σ) : Except SessionError LoginOutcome × State σ :=
  match result with
  | .ok (.token access refresh) =>
    let (kept, s) := c.keepTokens ⟨access, refresh, now⟩ s
    (kept.map (fun _ => .authenticated), s)
  | .ok (.error code description) =>
    let e := SessionError.providerError code description
    (.error e, { s with session := .failed e })
  | .error e => (.error e, { s with session := .failed e })

/-- Take in a redirect that was read, unless no login is pending. -/
def consume (c : Coordinator σ) (result : Except SessionError CallbackResult) (now : Timestamp)
    (s : State σ) : Except SessionError LoginOutcome × State σ :=
  let s := c.expireLogin now s
  match s.session.pending? with
  | none => (.ok .ignored, s)
  | some _ => c.finishLogin result now s

/-- Handle a redirect. One from an untrusted origin must not end a login that is pending. -/
def handleCallback (c : Coordinator σ) (event : CallbackEvent) (now : Timestamp) (s : State σ) :
    Except SessionError LoginOutcome × State σ :=
  match c.receiver.receive event with
  | .ok none => (.ok .notCallback, s)
  | .ok (some result) => c.consume (.ok result) now s
  | .error (.untrustedOrigin origin) => (.error (.untrustedOrigin origin), s)
  | .error e => c.consume (.error e) now s

theorem handleCallback_untrusted (c : Coordinator σ) {event : CallbackEvent} {origin : String}
    (now : Timestamp) (s : State σ)
    (h : c.receiver.receive event = .error (.untrustedOrigin origin)) :
    c.handleCallback event now s = (.error (.untrustedOrigin origin), s) := by
  simp [handleCallback, h]

theorem consume_ignored (c : Coordinator σ) (result : Except SessionError CallbackResult)
    (now : Timestamp) (s : State σ) (h : (c.expireLogin now s).session.pending? = none) :
    c.consume result now s = (.ok .ignored, c.expireLogin now s) := by
  simp [consume, h]

/-- Leave an error behind. -/
def retry (s : State σ) : SessionStatus × State σ :=
  let s := if s.session.error?.isSome then { s with session := .unauthenticated } else s
  (s.session.status, s)

/-- Log out, and hand over the token that the backend should revoke. -/
def logOut (c : Coordinator σ) (s : State σ) : Except SessionError (Option AccessToken) × State σ :=
  let token := s.session.accessToken?
  let (forgotten, s) := c.forgetTokens s
  (forgotten.map (fun _ => token), s)

/-- The token that the store holds. -/
def currentToken (c : Coordinator σ) (s : State σ) :
    Except SessionError (Option AccessToken) × State σ :=
  let (loaded, stored) := attemptTwice c.store.load s.stored
  (loaded.map (fun tokens => tokens.map TokenSet.access), { s with stored := stored })

/-- How a refresh begins: with its result, or with a refresh token to send. -/
inductive RefreshStart where
  | finished (result : Except SessionError AccessToken)
  | request (token : RefreshToken)

/-- End a session that the backend no longer accepts. -/
def endSession (c : Coordinator σ) (s : State σ) : Except SessionError AccessToken × State σ :=
  match c.forgetTokens s with
  | (.ok (), s) => (.error .sessionExpired, s)
  | (.error e, s) => (.error e, s)

/-- The first section of a refresh: `stale` is the token that was refused. If the session has
another one by now, that is the answer. -/
def beginRefresh (c : Coordinator σ) (stale : AccessToken) (s : State σ) : RefreshStart × State σ :=
  match s.session with
  | .authenticated tokens =>
    if tokens.access ≠ stale then (.finished (.ok tokens.access), s)
    else
      match tokens.refresh with
      | some refresh => (.request refresh, { s with session := .refreshPending tokens })
      | none =>
        let (result, s) := c.endSession s
        (.finished result, s)
  | _ => (.finished (.error .sessionExpired), s)

/-- The tokens after a successful refresh. Without rotation an old refresh token stays good. -/
def refreshedTokens (c : Coordinator σ) (previous : TokenSet) (access : AccessToken)
    (response : RefreshResponse) (now : Timestamp) : TokenSet where
  access := access
  refresh :=
    match response.refresh.bind RefreshToken.ofString? with
    | some rotated => some rotated
    | none => if c.rotateRefreshTokens then none else previous.refresh
  savedAt := now

/-- Take in the backend's answer while the refresh of `previous` is pending. -/
def finishRefresh (c : Coordinator σ) (previous : TokenSet)
    (outcome : Except RefreshFailure RefreshResponse) (now : Timestamp) (s : State σ) :
    Except SessionError AccessToken × State σ :=
  match outcome with
  | .ok response =>
    match AccessToken.ofString? response.access with
    | none => c.endSession s
    | some access =>
      let (kept, s) := c.keepTokens (c.refreshedTokens previous access response now) s
      (kept.map (fun _ => access), s)
  | .error (.rejected _) => c.endSession s
  | .error (.transient reason) =>
    if c.rotateRefreshTokens then c.endSession s
    else (.error (.network reason), { s with session := .authenticated previous })

/-- The second section of a refresh. An answer that nobody waits for any more is dropped. -/
def endRefresh (c : Coordinator σ) (outcome : Except RefreshFailure RefreshResponse)
    (now : Timestamp) (s : State σ) : Except SessionError AccessToken × State σ :=
  match s.session with
  | .refreshPending previous => c.finishRefresh previous outcome now s
  | _ => (.error .sessionExpired, s)

end Coordinator

end RedirectLogin
