import RedirectLogin.Coordinator.Live
import RedirectLogin.Proofs.Callback
import RedirectLogin.Proofs.Coordinator.Events
import RedirectLogin.Proofs.Store.Register

/-!
# The life of a session

What a session may become in one section, with the reason for it. A login starts where there are no
tokens, and ends with tokens, with an error, or by taking too long. Tokens are marked while the
backend is asked for new ones, and afterwards they are replaced, put back as they were, or gone.
Tokens are gone only after the store has forgotten them. From everywhere there is one more way: to
the failure of a save or a clear that was attempted twice.

`Edge` is that diagram. It is exact: every edge is taken when its conditions hold, and nothing else
changes a session.

Principal results: `Edge.taken`, `run_edge` — sections and edges agree; `step_state` — an event
changes session and store by the section it runs, if it runs one; `changes_are_edges` — so every
change of a session is an edge, for every event in every state.
-/

set_option autoImplicit false

namespace RedirectLogin.Coordinator

variable {σ : Type} {c : Coordinator σ} {s : State σ}

/-- A section, with all that it is given. -/
inductive Section where
  | operation (operation : Operation) (now : Timestamp)
  | beginRefresh (stale : AccessToken)
  | endRefresh (outcome : Except RefreshFailure RefreshResponse) (now : Timestamp)

/-- Session and store after a section. -/
def Section.run (c : Coordinator σ) (s : State σ) : Section → State σ
  | .operation task now => (task.run c now s).2
  | .beginRefresh stale => (c.beginRefresh stale s).2
  | .endRefresh outcome now => (c.endRefresh outcome now s).2

/-! ## The diagram -/

/-- Sections that give up a stale login without another one taking its place. -/
inductive GivesUp (c : Coordinator σ) : Section → Timestamp → Prop where
  | status (now : Timestamp) : GivesUp c (.operation .status now) now
  | beginLogin (redirect? : Option String) (now : Timestamp) (e : SessionError)
      (hurl : c.backend.loginUrl c.provider redirect? = .error e) :
      GivesUp c (.operation (.beginLogin redirect?) now) now
  | handleCallback (event : CallbackEvent) (now : Timestamp)
      (result : Except SessionError CallbackResult) (htells : c.receiver.Tells event result) :
      GivesUp c (.operation (.handleCallback event) now) now

/-- There are no tokens, and no login is pending that could still be completed. -/
inductive MayLogIn (c : Coordinator σ) (now : Timestamp) : Session → Prop where
  | unauthenticated : MayLogIn c now .unauthenticated
  | failed (e : SessionError) : MayLogIn c now (.failed e)
  | stale (old : PendingLogin) (hstale : old.isStale now c.loginTimeout = true) :
      MayLogIn c now (.loginPending old)

/-- An answer of the backend that ends the session. -/
inductive Ends (c : Coordinator σ) : Except RefreshFailure RefreshResponse → Prop where
  | blank (response : RefreshResponse) (h : AccessToken.ofString? response.access = none) :
      Ends c (.ok response)
  | rejected (status : Nat) : Ends c (.error (.rejected status))
  | consumed (reason : String) (h : c.rotateRefreshTokens = true) :
      Ends c (.error (.transient reason))

/-- The section has tokens to save: from the redirect of a login that is still good, or from the
answer to a refresh. -/
inductive Saves (c : Coordinator σ) (s : State σ) : Section → TokenSet → Prop where
  | login (login : PendingLogin) (event : CallbackEvent) (access : AccessToken)
      (refresh : Option RefreshToken) (now : Timestamp) (h : s.session = .loginPending login)
      (hgood : login.isStale now c.loginTimeout = false)
      (hreceive : c.receiver.receive event = .ok (some (.token access refresh))) :
      Saves c s (.operation (.handleCallback event) now) ⟨access, refresh, now⟩
  | refresh (previous : TokenSet) (response : RefreshResponse) (access : AccessToken)
      (now : Timestamp) (h : s.session = .refreshPending previous)
      (haccess : AccessToken.ofString? response.access = some access) :
      Saves c s (.endRefresh (.ok response) now) (c.refreshedTokens previous access response now)

/-- The section has the store forget its tokens. -/
inductive Forgets (c : Coordinator σ) (s : State σ) : Section → Prop where
  | logOut (now : Timestamp) : Forgets c s (.operation .logOut now)
  | refused (tokens : TokenSet) (h : s.session = .authenticated tokens)
      (hnone : tokens.refresh = none) : Forgets c s (.beginRefresh tokens.access)
  | ended (previous : TokenSet) (outcome : Except RefreshFailure RefreshResponse)
      (now : Timestamp) (h : s.session = .refreshPending previous) (hends : Ends c outcome) :
      Forgets c s (.endRefresh outcome now)

/-- Both attempts of an operation on the store fail; `e` is why the second one does. -/
def FailsTwice (operation : σ → Except StoreError Unit × σ) (stored : σ) (e : StoreError) : Prop :=
  ∃ first between after, operation stored = (.error first, between) ∧
    operation between = (.error e, after)

/-- How a section may change a session, and when it does. -/
inductive Edge (c : Coordinator σ) (s : State σ) : Section → Session → Prop where
  /-- From no session, from an error, or from a login that took too long. -/
  | start (redirect? : Option String) (now : Timestamp) (url : Url) (h : MayLogIn c now s.session)
      (hurl : c.backend.loginUrl c.provider redirect? = .ok url) :
      Edge c s (.operation (.beginLogin redirect?) now) (.loginPending ⟨c.provider, url, now⟩)
  | timeOut (sec : Section) (login : PendingLogin) (now : Timestamp)
      (h : s.session = .loginPending login) (hstale : login.isStale now c.loginTimeout = true)
      (hgives : GivesUp c sec now) : Edge c s sec .unauthenticated
  | refuse (login : PendingLogin) (event : CallbackEvent) (code : String)
      (description : Option String) (now : Timestamp) (h : s.session = .loginPending login)
      (hgood : login.isStale now c.loginTimeout = false)
      (hreceive : c.receiver.receive event = .ok (some (.error code description))) :
      Edge c s (.operation (.handleCallback event) now) (.failed (.providerError code description))
  | malformed (login : PendingLogin) (event : CallbackEvent) (now : Timestamp)
      (h : s.session = .loginPending login) (hgood : login.isStale now c.loginTimeout = false)
      (hreceive : c.receiver.receive event = .error .malformedCallback) :
      Edge c s (.operation (.handleCallback event) now) (.failed .malformedCallback)
  /-- From a login to its tokens, or from tokens that are being refreshed to new ones. -/
  | save (sec : Section) (tokens : TokenSet) (stored : σ) (hsaves : Saves c s sec tokens)
      (hsave : attemptTwice (c.store.save tokens) s.stored = (.ok (), stored)) :
      Edge c s sec (.authenticated tokens)
  | mark (tokens : TokenSet) (refresh : RefreshToken) (h : s.session = .authenticated tokens)
      (hrefresh : tokens.refresh = some refresh) :
      Edge c s (.beginRefresh tokens.access) (.refreshPending tokens)
  | restore (previous : TokenSet) (reason : String) (now : Timestamp)
      (h : s.session = .refreshPending previous) (hrotate : c.rotateRefreshTokens = false) :
      Edge c s (.endRefresh (.error (.transient reason)) now) (.authenticated previous)
  | forget (sec : Section) (stored : σ) (hforgets : Forgets c s sec)
      (hclear : attemptTwice c.store.clear s.stored = (.ok (), stored)) :
      Edge c s sec .unauthenticated
  | retry (e : SessionError) (now : Timestamp) (h : s.session = .failed e) :
      Edge c s (.operation .retry now) .unauthenticated
  | failSave (sec : Section) (tokens : TokenSet) (e : StoreError) (hsaves : Saves c s sec tokens)
      (hfails : FailsTwice (c.store.save tokens) s.stored e) :
      Edge c s sec (.failed (.storageFailure e.message))
  | failClear (sec : Section) (e : StoreError) (hforgets : Forgets c s sec)
      (hfails : FailsTwice c.store.clear s.stored e) :
      Edge c s sec (.failed (.storageFailure e.message))

/-! ## Sections follow the diagram -/

/-- The session is left as it is, or it changes along an edge. -/
def Follows (c : Coordinator σ) (s : State σ) (sec : Section) (session : Session) : Prop :=
  session = s.session ∨ Edge c s sec session

theorem attemptTwice_fails {operation : σ → Except StoreError Unit × σ} {stored after : σ}
    {e : SessionError} (h : attemptTwice operation stored = (.error e, after)) :
    ∃ e', FailsTwice operation stored e' ∧ e = .storageFailure e'.message := by
  obtain ⟨first, between, second, hfirst, hsecond, rfl⟩ := attemptTwice_error h
  exact ⟨second, ⟨first, between, after, hfirst, hsecond⟩, rfl⟩

theorem FailsTwice.attemptTwice {operation : σ → Except StoreError Unit × σ} {stored : σ}
    {e : StoreError} (h : FailsTwice operation stored e) :
    ∃ after, RedirectLogin.attemptTwice operation stored =
      (.error (.storageFailure e.message), after) := by
  obtain ⟨first, between, after, hfirst, hsecond⟩ := h
  refine ⟨after, ?_⟩
  simp only [RedirectLogin.attemptTwice, hfirst, hsecond]
  rfl

/-- What does not fail twice succeeds. -/
theorem attemptTwice_works {operation : σ → Except StoreError Unit × σ} {stored : σ}
    (h : ∀ e, ¬ FailsTwice operation stored e) :
    ∃ after, RedirectLogin.attemptTwice operation stored = (.ok (), after) := by
  cases hresult : RedirectLogin.attemptTwice operation stored with
  | mk result after =>
    cases result with
    | ok _ => exact ⟨after, rfl⟩
    | error e =>
      obtain ⟨e', hfails, _⟩ := attemptTwice_fails hresult
      exact absurd hfails (h e')

/-- Without a planned failure the next save to a register does not fail twice. -/
theorem register_save_works {r : Register} (tokens : TokenSet)
    (h : r.failures.headD false = false) (e : StoreError) :
    ¬ FailsTwice (Register.store.save tokens) r e := by
  rintro ⟨first, between, after, hfirst, _⟩
  have hsaved := (Register.save_succeeds tokens h).1
  rw [show Register.save tokens r = _ from hfirst] at hsaved
  cases hsaved

theorem keepTokens_follows {sec : Section} {tokens : TokenSet} (h : Saves c s sec tokens) :
    Edge c s sec (c.keepTokens tokens s).2.session := by
  unfold keepTokens
  split
  · rename_i stored hsave
    exact .save sec tokens stored h hsave
  · rename_i stored hsave
    obtain ⟨e, hfails, rfl⟩ := attemptTwice_fails hsave
    exact .failSave sec tokens e h hfails

theorem forgetTokens_follows {sec : Section} (h : Forgets c s sec) :
    Edge c s sec (c.forgetTokens s).2.session := by
  unfold forgetTokens
  split
  · rename_i stored hclear
    exact .forget sec stored h hclear
  · rename_i stored hclear
    obtain ⟨e, hfails, rfl⟩ := attemptTwice_fails hclear
    exact .failClear sec e h hfails

theorem endSession_follows {sec : Section} (h : Forgets c s sec) :
    Edge c s sec (c.endSession s).2.session := by
  rw [endSession_state]
  exact forgetTokens_follows h

theorem expireLogin_follows {sec : Section} {now : Timestamp} (h : GivesUp c sec now) :
    Follows c s sec (c.expireLogin now s).session := by
  rcases expireLogin_cases c now s with ⟨hs, _⟩ | ⟨login, hlogin, hstale, hs⟩
  · rw [hs]
    exact Or.inl rfl
  · rw [hs]
    exact Or.inr (.timeOut sec login now hlogin hstale h)

/-- Where a login may start, giving up a stale one leaves a session that starts it. -/
theorem beginLogin_of_mayLogIn {redirect? : Option String} {now : Timestamp}
    (h : MayLogIn c now s.session) :
    c.beginLogin redirect? now s = c.startLogin redirect? now (c.expireLogin now s) := by
  rcases expireLogin_cases c now s with ⟨hs, hgood⟩ | ⟨login, hlogin, hstale, hs⟩
  · unfold beginLogin
    rw [hs]
    cases hsession : s.session with
    | unauthenticated => simp only [hsession]
    | failed e => simp only [hsession]
    | loginPending login =>
      have hstale : login.isStale now c.loginTimeout = true := by
        rw [hsession] at h
        cases h
        assumption
      rw [hgood login hsession] at hstale
      cases hstale
    | authenticated tokens => rw [hsession] at h; cases h
    | refreshPending tokens => rw [hsession] at h; cases h
  · simp only [beginLogin, hs]

theorem beginLogin_follows (c : Coordinator σ) (redirect? : Option String) (now : Timestamp)
    (s : State σ) :
    Follows c s (.operation (.beginLogin redirect?) now) (c.beginLogin redirect? now s).2.session := by
  have hstart : MayLogIn c now s.session →
      Follows c s (.operation (.beginLogin redirect?) now)
        (c.beginLogin redirect? now s).2.session := by
    intro h
    rw [beginLogin_of_mayLogIn h]
    unfold startLogin
    split
    · rename_i e hurl
      exact expireLogin_follows (.beginLogin redirect? now e hurl)
    · rename_i url hurl
      exact Or.inr (.start redirect? now url h hurl)
  cases hsession : s.session with
  | unauthenticated => exact hstart (hsession ▸ .unauthenticated)
  | failed e => exact hstart (hsession ▸ .failed e)
  | loginPending login =>
    cases hstale : login.isStale now c.loginTimeout with
    | true => exact hstart (hsession ▸ .stale login hstale)
    | false =>
      left
      simp [beginLogin, expireLogin, Session.expire, Session.isStale, Session.pending?, hsession,
        hstale]
  | authenticated tokens =>
    left
    simp [beginLogin, expireLogin, Session.expire, Session.isStale, Session.pending?, hsession]
  | refreshPending tokens =>
    left
    simp [beginLogin, expireLogin, Session.expire, Session.isStale, Session.pending?, hsession]

/-- A redirect that tells a login nothing changes nothing; any other is taken in. -/
theorem handleCallback_reads (c : Coordinator σ) (event : CallbackEvent) (now : Timestamp)
    (s : State σ) :
    (c.handleCallback event now s).2 = s ∧
        ((c.handleCallback event now s).1 = .ok .notCallback ∨
          ∃ origin, (c.handleCallback event now s).1 = .error (.untrustedOrigin origin)) ∨
      ∃ result, c.receiver.Tells event result ∧
        c.handleCallback event now s = c.consume result now s := by
  unfold handleCallback
  split
  · exact Or.inl ⟨rfl, Or.inl rfl⟩
  · rename_i result hreceive
    exact Or.inr ⟨.ok result, .result hreceive, rfl⟩
  · rename_i origin _
    exact Or.inl ⟨rfl, Or.inr ⟨origin, rfl⟩⟩
  · rename_i e hother hreceive
    rcases CallbackReceiver.receive_error hreceive with rfl | ⟨origin, rfl⟩
    · exact Or.inr ⟨_, .malformed hreceive, rfl⟩
    · exact absurd rfl (hother origin)

theorem handleCallback_of_tells {event : CallbackEvent} {result : Except SessionError CallbackResult}
    (h : c.receiver.Tells event result) (now : Timestamp) (s : State σ) :
    c.handleCallback event now s = c.consume result now s := by
  cases h with
  | result h => simp only [handleCallback, h]
  | malformed h => simp only [handleCallback, h]

/-- What is taken in goes to a login that is pending and still good; otherwise it is ignored. -/
theorem consume_eq (c : Coordinator σ) (result : Except SessionError CallbackResult)
    (now : Timestamp) (s : State σ) :
    (∃ login, s.session = .loginPending login ∧ login.isStale now c.loginTimeout = false ∧
        c.consume result now s = c.finishLogin result now s) ∨
      (∀ login, s.session = .loginPending login → login.isStale now c.loginTimeout = true) ∧
        c.consume result now s = (.ok .ignored, c.expireLogin now s) := by
  rcases expireLogin_cases c now s with ⟨hs, hgood⟩ | ⟨login, hlogin, hstale, hs⟩
  · cases hsession : s.session with
    | loginPending login =>
      refine Or.inl ⟨login, rfl, hgood login hsession, ?_⟩
      simp only [consume, hs, hsession, Session.pending?]
    | _ =>
      refine Or.inr ⟨fun _ h => (by cases h), ?_⟩
      exact consume_ignored c result now s (by rw [hs, hsession]; rfl)
  · refine Or.inr ⟨fun login' h => ?_, consume_ignored c result now s (by rw [hs]; rfl)⟩
    rw [hlogin] at h
    cases h
    exact hstale

theorem handleCallback_follows (c : Coordinator σ) (event : CallbackEvent) (now : Timestamp)
    (s : State σ) :
    Follows c s (.operation (.handleCallback event) now) (c.handleCallback event now s).2.session := by
  rcases handleCallback_reads c event now s with ⟨h, _⟩ | ⟨result, htells, h⟩
  · rw [h]
    exact Or.inl rfl
  · rw [h]
    rcases consume_eq c result now s with ⟨login, hlogin, hgood, htaken⟩ | ⟨_, hignored⟩
    · rw [htaken]
      right
      cases htells with
      | @result found hreceive =>
        cases found with
        | token access refresh =>
          exact keepTokens_follows (.login login event access refresh now hlogin hgood hreceive)
        | error code description =>
          exact .refuse login event code description now hlogin hgood hreceive
      | malformed hreceive => exact .malformed login event now hlogin hgood hreceive
    · rw [hignored]
      exact expireLogin_follows (.handleCallback event now result htells)

theorem operation_follows (c : Coordinator σ) (operation : Operation) (now : Timestamp)
    (s : State σ) : Follows c s (.operation operation now) (operation.run c now s).2.session := by
  cases operation with
  | status => exact expireLogin_follows (.status now)
  | beginLogin redirect? => exact beginLogin_follows c redirect? now s
  | handleCallback event => exact handleCallback_follows c event now s
  | retry =>
    cases hsession : s.session with
    | failed e =>
      right
      have h : (Operation.retry.run c now s).2.session = .unauthenticated := by
        simp [Operation.run, Coordinator.retry, hsession, Session.error?]
      rw [h]
      exact .retry e now hsession
    | _ => exact Or.inl (by simp [Operation.run, Coordinator.retry, hsession, Session.error?])
  | logOut => exact Or.inr (forgetTokens_follows (.logOut now))
  | currentToken => exact Or.inl rfl

theorem beginRefresh_follows (c : Coordinator σ) (stale : AccessToken) (s : State σ) :
    Follows c s (.beginRefresh stale) (c.beginRefresh stale s).2.session := by
  unfold beginRefresh
  split
  · rename_i tokens hsession
    split
    · exact Or.inl rfl
    · rename_i haccess
      have haccess : tokens.access = stale := by simpa using haccess
      subst haccess
      split
      · rename_i refresh hrefresh
        exact Or.inr (.mark tokens refresh hsession hrefresh)
      · rename_i hnone
        exact Or.inr (endSession_follows (.refused tokens hsession hnone))
  · exact Or.inl rfl

theorem endRefresh_follows (c : Coordinator σ) (outcome : Except RefreshFailure RefreshResponse)
    (now : Timestamp) (s : State σ) :
    Follows c s (.endRefresh outcome now) (c.endRefresh outcome now s).2.session := by
  unfold endRefresh
  split
  · rename_i previous hsession
    right
    unfold finishRefresh
    split
    · rename_i response
      split
      · rename_i hblank
        exact endSession_follows (.ended previous _ now hsession (.blank response hblank))
      · rename_i access haccess
        exact keepTokens_follows (.refresh previous response access now hsession haccess)
    · rename_i status
      exact endSession_follows (.ended previous _ now hsession (.rejected status))
    · rename_i reason
      split
      · rename_i hrotate
        exact endSession_follows (.ended previous _ now hsession (.consumed reason hrotate))
      · rename_i hrotate
        exact .restore previous reason now hsession (by simpa using hrotate)
  · exact Or.inl rfl

/-- **A section leaves the session as it is, or takes it along an edge.** -/
theorem run_edge (c : Coordinator σ) (sec : Section) (s : State σ) :
    (sec.run c s).session = s.session ∨ Edge c s sec (sec.run c s).session := by
  cases sec with
  | operation operation now => exact operation_follows c operation now s
  | beginRefresh stale => exact beginRefresh_follows c stale s
  | endRefresh outcome now => exact endRefresh_follows c outcome now s

/-! ## Every edge is taken -/

theorem expireLogin_of_stale {login : PendingLogin} {now : Timestamp}
    (h : s.session = .loginPending login) (hstale : login.isStale now c.loginTimeout = true) :
    c.expireLogin now s = ⟨.unauthenticated, s.stored⟩ := by
  rcases expireLogin_cases c now s with ⟨_, hgood⟩ | ⟨_, _, _, hs⟩
  · rw [hgood login h] at hstale
    cases hstale
  · exact hs

theorem consume_of_good {login : PendingLogin} {now : Timestamp}
    (result : Except SessionError CallbackResult) (h : s.session = .loginPending login)
    (hgood : login.isStale now c.loginTimeout = false) :
    c.consume result now s = c.finishLogin result now s := by
  rcases consume_eq c result now s with ⟨_, _, _, heq⟩ | ⟨hstale, _⟩
  · exact heq
  · rw [hstale login h] at hgood
    cases hgood

/-- A section with tokens to save does what saving them does. -/
theorem Saves.run {sec : Section} {tokens : TokenSet} (h : Saves c s sec tokens) :
    sec.run c s = (c.keepTokens tokens s).2 := by
  cases h with
  | login login event access refresh now h hgood hreceive =>
    simp only [Section.run, Operation.run, handleCallback_of_tells (.result hreceive),
      consume_of_good _ h hgood, finishLogin]
  | refresh previous response access now h haccess =>
    simp only [Section.run, endRefresh, h, finishRefresh, haccess]

/-- A section that has tokens forgotten does what forgetting them does. -/
theorem Forgets.run {sec : Section} (h : Forgets c s sec) :
    sec.run c s = (c.forgetTokens s).2 := by
  cases h with
  | logOut now => rfl
  | refused tokens h hnone =>
    rw [← endSession_state]
    simp only [Section.run, beginRefresh, h, ne_eq, not_true_eq_false, if_false, hnone]
  | ended previous outcome now h hends =>
    rw [← endSession_state]
    cases hends with
    | blank response hblank => simp only [Section.run, endRefresh, h, finishRefresh, hblank]
    | rejected status => simp only [Section.run, endRefresh, h, finishRefresh]
    | consumed reason hrotate =>
      simp only [Section.run, endRefresh, h, finishRefresh, hrotate, if_true]

theorem GivesUp.run {sec : Section} {login : PendingLogin} {now : Timestamp}
    (hgives : GivesUp c sec now) (h : s.session = .loginPending login)
    (hstale : login.isStale now c.loginTimeout = true) :
    sec.run c s = ⟨.unauthenticated, s.stored⟩ := by
  rw [← expireLogin_of_stale h hstale]
  cases hgives with
  | status => rfl
  | beginLogin redirect? now e hurl =>
    have hmay : MayLogIn c now s.session := by
      rw [h]
      exact .stale login hstale
    simp only [Section.run, Operation.run, beginLogin_of_mayLogIn hmay, startLogin, hurl]
  | handleCallback event now result htells =>
    have hignored : c.consume result now s = (.ok .ignored, c.expireLogin now s) :=
      consume_ignored c result now s (by rw [expireLogin_of_stale h hstale]; rfl)
    simp only [Section.run, Operation.run, handleCallback_of_tells htells, hignored]

/-- **Every edge is taken when its conditions hold.** -/
theorem Edge.taken {sec : Section} {session : Session} (h : Edge c s sec session) :
    (sec.run c s).session = session := by
  cases h with
  | start redirect? now url h hurl =>
    simp only [Section.run, Operation.run, beginLogin_of_mayLogIn h, startLogin, hurl]
  | timeOut _ login now h hstale hgives => rw [hgives.run h hstale]
  | refuse login event code description now h hgood hreceive =>
    simp only [Section.run, Operation.run, handleCallback_of_tells (.result hreceive),
      consume_of_good _ h hgood, finishLogin]
  | malformed login event now h hgood hreceive =>
    simp only [Section.run, Operation.run, handleCallback_of_tells (.malformed hreceive),
      consume_of_good _ h hgood, finishLogin]
  | save _ tokens stored hsaves hsave => simp only [hsaves.run, keepTokens, hsave]
  | mark tokens refresh h hrefresh =>
    simp only [Section.run, beginRefresh, h, ne_eq, not_true_eq_false, if_false, hrefresh]
  | restore previous reason now h hrotate =>
    simp [Section.run, endRefresh, h, finishRefresh, hrotate]
  | forget _ stored hforgets hclear => simp only [hforgets.run, forgetTokens, hclear]
  | retry e now h =>
    simp [Section.run, Operation.run, Coordinator.retry, h, Session.error?]
  | failSave _ tokens e hsaves hfails =>
    obtain ⟨after, hsave⟩ := hfails.attemptTwice
    simp only [hsaves.run, keepTokens, hsave]
  | failClear _ e hforgets hfails =>
    obtain ⟨after, hclear⟩ := hfails.attemptTwice
    simp only [hforgets.run, forgetTokens, hclear]

/-! ## Events -/

namespace Machine

variable {m : Machine σ}

/-- The section that an event runs, if it runs one. -/
def section? (m : Machine σ) : Event → Option Section
  | .operation operation now => some (.operation operation now)
  | .begin i =>
    match m.flights[i]? with
    | some ⟨stale, _, .waiting, _⟩ => some (.beginRefresh stale)
    | _ => none
  | .finish i outcome now =>
    match m.flights[i]? with
    | some ⟨_, _, .requesting, _⟩ => some (.endRefresh outcome now)
    | _ => none
  | _ => none

/-- **An event changes session and store by the section it runs**, if it runs one. -/
theorem step_state (c : Coordinator σ) (m : Machine σ) (e : Event) :
    (m.step c e).state = (m.section? e).elim m.state (Section.run c m.state) := by
  cases e with
  | call stale => simp [step, section?]
  | observe k => simp [step, section?]
  | leave k => simp [step, section?]
  | cancel k => simp [step, section?]
  | operation operation now => rfl
  | begin i =>
    simp only [step, begin, section?]
    rcases m.flights[i]? with _ | ⟨stale, sent, phase, observed⟩
    · rfl
    · cases phase <;> rfl
  | finish i outcome now =>
    simp only [step, finish, section?]
    rcases m.flights[i]? with _ | ⟨stale, sent, phase, observed⟩
    · rfl
    · cases phase <;> rfl

end Machine

/-! ## Questions -/

theorem isSessionValid_session (client : Client σ) (l : Live σ) :
    (client.isSessionValid l).2.session = l.session := rfl

theorem validateRemote_session (client : Client σ) (l : Live σ) :
    (client.validateRemote l).2.session = l.session := by
  have hread : (client.currentToken l).2.session = l.session := rfl
  unfold Client.validateRemote
  split
  · rename_i h; rw [h] at hread; exact hread
  · rename_i h; rw [h] at hread; exact hread
  · rename_i h; rw [h] at hread; exact hread

/-- **Every change of a session is an edge of the diagram, and every edge is a change that is
made.** An event changes the session along the edge of the section it runs, at whatever time,
whatever the backend answers and whichever attempts on the store fail; to ask whether a session is
valid, here or at the backend, changes none. -/
theorem changes_are_edges (c : Coordinator σ) :
    (∀ (m : Machine σ) (e : Event), (m.step c e).state.session = m.state.session ∨
      ∃ sec, m.section? e = some sec ∧ Edge c m.state sec (m.step c e).state.session) ∧
    (∀ (s : State σ) (sec : Section) (session : Session), Edge c s sec session →
      (sec.run c s).session = session) ∧
    ∀ (server : Server) (l : Live σ),
      (Client.isSessionValid ⟨c, server⟩ l).2.session = l.session ∧
        (Client.validateRemote ⟨c, server⟩ l).2.session = l.session := by
  refine ⟨fun m e => ?_, fun s sec session h => h.taken, fun server l => ?_⟩
  · rw [Machine.step_state]
    cases hsec : m.section? e with
    | none => exact Or.inl rfl
    | some sec =>
      rcases run_edge c sec m.state with h | h
      · exact Or.inl h
      · exact Or.inr ⟨sec, rfl, h⟩
  · exact ⟨isSessionValid_session _ l, validateRemote_session _ l⟩

end RedirectLogin.Coordinator
