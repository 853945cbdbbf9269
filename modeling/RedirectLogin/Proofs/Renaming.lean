import Mathlib.Logic.Function.Basic
import RedirectLogin.Api.Backend
import RedirectLogin.Session
import RedirectLogin.Store.Register

/-!
# Other names for tokens

A renaming gives every token another name, different tokens different ones. Sessions, redirects and
answers of the backend are renamed with the tokens in them; a string that is blank is no token, so
an answer may be blank in any way where the other one is. Two stores correspond if they fail alike
and one holds the other's tokens under other names.

Of a token a log shows its length and nothing else.

Principal results: `access_inj` — renamed tokens are equal just if the tokens are; `status_session`
— no status depends on names; `Operates.attemptTwice` — nor does what an operation on a store comes
to; `Register.stores` — registers with the same planned failures correspond; `redacted_eq_of_length`
— what a log shows.
-/

set_option autoImplicit false

namespace RedirectLogin

/-- Other names for the texts of tokens: different ones for different texts, and never a blank one.
-/
structure TokenRenaming where
  name : String → String
  injective : Function.Injective name
  nonblank : ∀ text, Text.isBlankText text = false → Text.isBlankText (name text) = false

namespace TokenRenaming

variable (ρ : TokenRenaming)

def access (t : AccessToken) : AccessToken :=
  ⟨ρ.name t.value, ρ.nonblank t.value t.nonblank⟩

def refresh (t : RefreshToken) : RefreshToken :=
  ⟨ρ.name t.value, ρ.nonblank t.value t.nonblank⟩

def tokens (t : TokenSet) : TokenSet :=
  ⟨ρ.access t.access, t.refresh.map ρ.refresh, t.savedAt⟩

def redirect : CallbackResult → CallbackResult
  | .token access refresh => .token (ρ.access access) (refresh.map ρ.refresh)
  | .error code description => .error code description

def session : Session → Session
  | .authenticated tokens => .authenticated (ρ.tokens tokens)
  | .refreshPending tokens => .refreshPending (ρ.tokens tokens)
  | .unauthenticated => .unauthenticated
  | .loginPending login => .loginPending login
  | .failed e => .failed e

/-- Renaming tells tokens apart that are different, and no others. -/
theorem access_inj {t u : AccessToken} : ρ.access t = ρ.access u ↔ t = u := by
  refine ⟨fun h => ?_, congrArg _⟩
  obtain ⟨value, hvalue⟩ := t
  obtain ⟨other, hother⟩ := u
  obtain rfl : value = other := ρ.injective (congrArg AccessToken.value h)
  rfl

theorem status_session (s : Session) : (ρ.session s).status = s.status := by
  cases s <;> simp [session, Session.status, TokenSet.canRefresh, tokens]

theorem pending?_session (s : Session) : (ρ.session s).pending? = s.pending? := by
  cases s <;> rfl

theorem error?_session (s : Session) : (ρ.session s).error? = s.error? := by
  cases s <;> rfl

theorem accessToken?_session (s : Session) :
    (ρ.session s).accessToken? = s.accessToken?.map ρ.access := by
  cases s <;> rfl

theorem expire_session (s : Session) (now : Timestamp) (timeout : Int) :
    (ρ.session s).expire now timeout = ρ.session (s.expire now timeout) := by
  have hstale : (ρ.session s).isStale now timeout = s.isStale now timeout := by
    rw [Session.isStale, Session.isStale, pending?_session]
  unfold Session.expire
  rw [hstale]
  split <;> rfl

theorem session_ofStored (found : Option TokenSet) :
    Session.ofStored (found.map ρ.tokens) = ρ.session (.ofStored found) := by
  cases found <;> rfl

/-- A string in an answer, renamed if it is a token. -/
def text (s : String) : String :=
  if Text.isBlankText s then s else ρ.name s

/-- An answer of the backend with the tokens renamed that are in it. -/
def response (r : RefreshResponse) : RefreshResponse :=
  ⟨ρ.text r.access, r.refresh.map ρ.text, r.expiresIn⟩

theorem accessToken_text (s : String) :
    AccessToken.ofString? (ρ.text s) = (AccessToken.ofString? s).map ρ.access := by
  cases hblank : Text.isBlankText s with
  | true => simp [text, AccessToken.ofString?, hblank]
  | false => simp [text, AccessToken.ofString?, hblank, ρ.nonblank s hblank, access]

theorem refreshToken_text (s : String) :
    RefreshToken.ofString? (ρ.text s) = (RefreshToken.ofString? s).map ρ.refresh := by
  cases hblank : Text.isBlankText s with
  | true => simp [text, RefreshToken.ofString?, hblank]
  | false => simp [text, RefreshToken.ofString?, hblank, ρ.nonblank s hblank, refresh]

/-- An answer of the backend that carries the same tokens under other names. -/
structure Responds (response response' : RefreshResponse) : Prop where
  access : AccessToken.ofString? response'.access =
    (AccessToken.ofString? response.access).map ρ.access
  refresh : response'.refresh.bind RefreshToken.ofString? =
    (response.refresh.bind RefreshToken.ofString?).map ρ.refresh

theorem responds_response (r : RefreshResponse) : ρ.Responds r (ρ.response r) where
  access := ρ.accessToken_text r.access
  refresh := by
    cases hrefresh : r.refresh with
    | none => simp [response, hrefresh]
    | some value => simp [response, hrefresh, ρ.refreshToken_text value]

/-- Answers of the same kind: the same failure, or the same tokens under other names. -/
inductive Answers : Except RefreshFailure RefreshResponse → Except RefreshFailure RefreshResponse →
    Prop
  | ok {response response' : RefreshResponse} (h : ρ.Responds response response') :
      Answers (.ok response) (.ok response')
  | error (failure : RefreshFailure) : Answers (.error failure) (.error failure)

/-- Names that begin with a text of their own. -/
def prefixed (front : String) (h : Text.isBlankText front = false) : TokenRenaming where
  name s := front ++ s
  injective s t heq := String.append_right_inj front |>.1 heq
  nonblank s _ := by
    rw [Text.isBlankText, String.toList_append, List.all_append]
    rw [Text.isBlankText] at h
    rw [h, Bool.false_and]

/-- Two operations on stores that fail in the same way and find the same, one of them with what `f`
makes of it. -/
def Operates {σ τ α β : Type} (R : σ → τ → Prop) (f : α → β)
    (operation : σ → Except StoreError α × σ) (operation' : τ → Except StoreError β × τ) : Prop :=
  ∀ x x', R x x' →
    ∃ y', operation' x' = ((operation x).1.map f, y') ∧ R (operation x).2 y'

/-- Two stores with the same failures, one of which holds the other's tokens under other names. -/
structure Stores {σ τ : Type} (R : σ → τ → Prop) (store : TokenStore σ) (store' : TokenStore τ) :
    Prop where
  save : ∀ tokens, Operates R id (store.save tokens) (store'.save (ρ.tokens tokens))
  load : Operates R (Option.map ρ.tokens) store.load store'.load
  clear : Operates R id store.clear store'.clear

variable {ρ}

/-- What fails once fails once, and what fails twice fails with the same error. -/
theorem Operates.attemptTwice {σ τ α β : Type} {R : σ → τ → Prop} {f : α → β}
    {operation : σ → Except StoreError α × σ} {operation' : τ → Except StoreError β × τ}
    (h : Operates R f operation operation') {x : σ} {x' : τ} (hx : R x x') :
    ∃ result y y', attemptTwice operation x = (result, y) ∧
      attemptTwice operation' x' = (result.map f, y') ∧ R y y' := by
  obtain ⟨y', hfirst', hafter⟩ := h x x' hx
  unfold RedirectLogin.attemptTwice
  rw [hfirst']
  cases hfirst : operation x with
  | mk found y =>
    rw [hfirst] at hafter
    cases found with
    | ok a => exact ⟨.ok a, y, y', rfl, rfl, hafter⟩
    | error e =>
      obtain ⟨z', hsecond', hend⟩ := h y y' hafter
      simp only [Except.map, hsecond']
      cases hsecond : operation y with
      | mk found z =>
        rw [hsecond] at hend
        cases found with
        | ok a => exact ⟨.ok a, z, z', rfl, rfl, hend⟩
        | error e => exact ⟨.error e.toSessionError, z, z', rfl, rfl, hend⟩

end TokenRenaming

namespace Register

/-- Registers with the same planned failures and the same content under other names. -/
structure Renamed (ρ : TokenRenaming) (r r' : Register) : Prop where
  content : r'.content = r.content.map ρ.tokens
  failures : r'.failures = r.failures

/-- **Registers fail as planned**, whatever the names of the tokens they hold. -/
theorem stores (ρ : TokenRenaming) : ρ.Stores (Renamed ρ) store store where
  save tokens r r' h := by
    simp only [store, save, attempt, h.failures]
    cases r.failures.headD false
    · exact ⟨_, rfl, rfl, rfl⟩
    · exact ⟨_, rfl, h.content, rfl⟩
  load r r' h := by
    simp only [store, load, attempt, h.failures]
    cases r.failures.headD false
    · exact ⟨_, Prod.ext (congrArg Except.ok h.content) rfl, h.content, rfl⟩
    · exact ⟨_, rfl, h.content, rfl⟩
  clear r r' h := by
    simp only [store, clear, attempt, h.failures]
    cases r.failures.headD false
    · exact ⟨_, rfl, rfl, rfl⟩
    · exact ⟨_, rfl, h.content, rfl⟩

end Register

/-! ## What a log shows -/

theorem AccessToken.redacted_eq_of_length {t u : AccessToken}
    (h : t.value.utf8ByteSize = u.value.utf8ByteSize) : t.redacted = u.redacted := by
  rw [redacted, redacted, redactedAs, redactedAs, h]

theorem RefreshToken.redacted_eq_of_length {t u : RefreshToken}
    (h : t.value.utf8ByteSize = u.value.utf8ByteSize) : t.redacted = u.redacted := by
  rw [redacted, redacted, redactedAs, redactedAs, h]

/-- The length of a token that may be missing. -/
def RefreshToken.length? (t : Option RefreshToken) : Option Nat :=
  t.map fun t => t.value.utf8ByteSize

theorem redactedOption_eq_of_length {t u : Option RefreshToken}
    (h : RefreshToken.length? t = RefreshToken.length? u) : redactedOption t = redactedOption u := by
  cases t with
  | none =>
    cases u with
    | none => rfl
    | some u => cases h
  | some t =>
    cases u with
    | none => cases h
    | some u => rw [redactedOption, redactedOption, t.redacted_eq_of_length (Option.some.inj h)]

theorem TokenSet.redacted_eq_of_length {t u : TokenSet}
    (haccess : t.access.value.utf8ByteSize = u.access.value.utf8ByteSize)
    (hrefresh : RefreshToken.length? t.refresh = RefreshToken.length? u.refresh)
    (hsavedAt : t.savedAt = u.savedAt) : t.redacted = u.redacted := by
  have hshownAccess := AccessToken.redacted_eq_of_length haccess
  have hshownRefresh := redactedOption_eq_of_length hrefresh
  unfold redacted
  rw [hshownAccess, hshownRefresh, hsavedAt]

theorem CallbackResult.redacted_token_eq_of_length {t u : AccessToken} {r q : Option RefreshToken}
    (haccess : t.value.utf8ByteSize = u.value.utf8ByteSize)
    (hrefresh : RefreshToken.length? r = RefreshToken.length? q) :
    (CallbackResult.token t r).redacted = (CallbackResult.token u q).redacted := by
  have hshownAccess := AccessToken.redacted_eq_of_length haccess
  have hshownRefresh := redactedOption_eq_of_length hrefresh
  unfold redacted
  simp only [hshownAccess, hshownRefresh]

end RedirectLogin
