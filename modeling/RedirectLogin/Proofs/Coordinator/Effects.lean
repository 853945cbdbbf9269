import RedirectLogin.Proofs.Coordinator.Events

/-!
# What an event does to the session

Tokens enter a session that is running with a redirect that completes a login, or with an answer to
a refresh. They are marked when their refresh token is sent to the backend, and only without
rotation can marked tokens come back. Other events leave the session as it is, end it, or start a
login. `Transition` says what a section does to session and store; here the event that does it is
added, with what it receives and what it sends.

Principal results: `handleCallback_cases`, `endRefresh_cases` — what the two sections that save
tokens answer, and what they leave behind; `step_effect` — every event has one of these effects;
`posts?_eq_some_iff` — when a refresh token is sent.
-/

set_option autoImplicit false

namespace RedirectLogin.Coordinator

variable {σ : Type} {c : Coordinator σ} {s : State σ}

/-- The session is left as it is, or it ends. -/
def KeptOrEnded (s t : State σ) : Prop :=
  t.session = s.session ∨ t.session = .unauthenticated ∨ ∃ e, t.session = .failed e

/-- A login of that description begins: if another one was pending, it was stale. -/
def StartsLogin (c : Coordinator σ) (s : State σ) (redirect? : Option String) (now : Timestamp)
    (login : PendingLogin) : Prop :=
  (∀ old, s.session = .loginPending old → old.isStale now c.loginTimeout = true) ∧
    (c.beginLogin redirect? now s).2.session = .loginPending login

theorem expireLogin_keptOrEnded (c : Coordinator σ) (now : Timestamp) (s : State σ) :
    KeptOrEnded s (c.expireLogin now s) := by
  rcases expireLogin_cases c now s with ⟨h, _⟩ | ⟨_, _, _, h⟩
  · exact Or.inl (by rw [h])
  · exact Or.inr (Or.inl (by rw [h]))

/-- Taking in a redirect for the pending login saves its tokens and says so, or ends in an error. -/
theorem finishLogin_cases (c : Coordinator σ) (result : Except SessionError CallbackResult)
    (now : Timestamp) (s : State σ) :
    (∃ tokens stored, attemptTwice (c.store.save tokens) s.stored = (.ok (), stored) ∧
        c.finishLogin result now s = (.ok .authenticated, ⟨.authenticated tokens, stored⟩)) ∨
      ∃ e, (c.finishLogin result now s).1 = .error e ∧
        (c.finishLogin result now s).2.session = .failed e := by
  unfold finishLogin keepTokens
  split
  · simp only
    split
    · rename_i stored hsave
      exact Or.inl ⟨_, stored, hsave, rfl⟩
    · exact Or.inr ⟨_, rfl, rfl⟩
  · exact Or.inr ⟨_, rfl, rfl⟩
  · exact Or.inr ⟨_, rfl, rfl⟩

/-- **A redirect brings tokens exactly if it is answered so**, and then for a login that was
pending. Otherwise it leaves the session as it is, or ends it. -/
theorem handleCallback_cases (c : Coordinator σ) (event : CallbackEvent) (now : Timestamp)
    (s : State σ) :
    (∃ login tokens stored, s.session = .loginPending login ∧
        attemptTwice (c.store.save tokens) s.stored = (.ok (), stored) ∧
        c.handleCallback event now s = (.ok .authenticated, ⟨.authenticated tokens, stored⟩)) ∨
      (c.handleCallback event now s).1 ≠ .ok .authenticated ∧
        KeptOrEnded s (c.handleCallback event now s).2 := by
  have hconsume : ∀ result,
      (∃ login tokens stored, s.session = .loginPending login ∧
        attemptTwice (c.store.save tokens) s.stored = (.ok (), stored) ∧
        c.consume result now s = (.ok .authenticated, ⟨.authenticated tokens, stored⟩)) ∨
      (c.consume result now s).1 ≠ .ok .authenticated ∧
        KeptOrEnded s (c.consume result now s).2 := by
    intro result
    cases hpending : (c.expireLogin now s).session.pending? with
    | none =>
      rw [consume_ignored c result now s hpending]
      exact Or.inr ⟨by simp, expireLogin_keptOrEnded c now s⟩
    | some login =>
      have hlogin : (c.expireLogin now s).session = .loginPending login := by
        cases hs : (c.expireLogin now s).session <;> rw [hs] at hpending <;> cases hpending
        rfl
      have hrun : c.consume result now s = c.finishLogin result now s := by
        unfold consume
        simp only [hpending]
        rw [expireLogin_pending hlogin]
      rw [expireLogin_pending hlogin] at hlogin
      rw [hrun]
      rcases finishLogin_cases c result now s with ⟨tokens, stored, hsave, h⟩ | ⟨e, herror, h⟩
      · exact Or.inl ⟨login, tokens, stored, hlogin, hsave, h⟩
      · exact Or.inr ⟨by rw [herror]; simp, Or.inr (Or.inr ⟨e, h⟩)⟩
  unfold handleCallback
  split
  · exact Or.inr ⟨by simp, Or.inl rfl⟩
  · exact hconsume _
  · exact Or.inr ⟨by simp, Or.inl rfl⟩
  · exact hconsume _

theorem forgetTokens_keptOrEnded (c : Coordinator σ) (s : State σ) :
    KeptOrEnded s (c.forgetTokens s).2 := by
  unfold forgetTokens
  split
  · exact Or.inr (Or.inl rfl)
  · rename_i e _ _
    exact Or.inr (Or.inr ⟨e, rfl⟩)

/-- Ending a session yields no token, and leaves none. -/
theorem endSession_cases (c : Coordinator σ) (s : State σ) :
    ∃ e, (c.endSession s).1 = .error e ∧ KeptOrEnded s (c.endSession s).2 := by
  have herror : ∃ e, (c.endSession s).1 = .error e := by
    unfold endSession
    split
    · exact ⟨_, rfl⟩
    · exact ⟨_, rfl⟩
  obtain ⟨e, herror⟩ := herror
  exact ⟨e, herror, by rw [endSession_state]; exact forgetTokens_keptOrEnded c s⟩

/-- **An answer brings tokens exactly if the refresh succeeds.** Otherwise the session is left as it
is, or ends, and only without rotation do the old tokens come back. -/
theorem endRefresh_cases (c : Coordinator σ) (outcome : Except RefreshFailure RefreshResponse)
    (now : Timestamp) (s : State σ) :
    (∃ previous tokens stored, s.session = .refreshPending previous ∧
        attemptTwice (c.store.save tokens) s.stored = (.ok (), stored) ∧
        c.endRefresh outcome now s = (.ok tokens.access, ⟨.authenticated tokens, stored⟩)) ∨
      ∃ e, (c.endRefresh outcome now s).1 = .error e ∧
        (KeptOrEnded s (c.endRefresh outcome now s).2 ∨
          c.rotateRefreshTokens = false ∧ ∃ previous, s.session = .refreshPending previous ∧
            (c.endRefresh outcome now s).2.session = .authenticated previous) := by
  obtain ⟨e, herror, hended⟩ := endSession_cases c s
  unfold endRefresh
  split
  · rename_i previous hsession
    unfold finishRefresh keepTokens
    split
    · split
      · exact Or.inr ⟨e, herror, Or.inl hended⟩
      · rename_i access _
        simp only
        split
        · rename_i stored hsave
          exact Or.inl ⟨previous, _, stored, hsession, hsave, rfl⟩
        · rename_i e _ _
          exact Or.inr ⟨e, rfl, Or.inl (Or.inr (Or.inr ⟨e, rfl⟩))⟩
    · exact Or.inr ⟨e, herror, Or.inl hended⟩
    · split
      · exact Or.inr ⟨e, herror, Or.inl hended⟩
      · rename_i hrotate
        exact Or.inr ⟨_, rfl, Or.inr ⟨by simpa using hrotate, previous, hsession, rfl⟩⟩
  · exact Or.inr ⟨_, rfl, Or.inl (Or.inl rfl)⟩

/-- The first section of a refresh keeps the session or ends it, or it marks the session and asks
for its refresh token to be sent. -/
theorem beginRefresh_tokens (c : Coordinator σ) (stale : AccessToken) (s : State σ) :
    ((∃ result, (c.beginRefresh stale s).1 = .finished result) ∧
        KeptOrEnded s (c.beginRefresh stale s).2) ∨
      ∃ tokens refresh, s.session = .authenticated tokens ∧ tokens.refresh = some refresh ∧
        c.beginRefresh stale s = (.request refresh, ⟨.refreshPending tokens, s.stored⟩) := by
  obtain ⟨_, _, hended⟩ := endSession_cases c s
  unfold beginRefresh
  split
  · rename_i tokens hsession
    split
    · exact Or.inl ⟨⟨_, rfl⟩, Or.inl rfl⟩
    · split
      · rename_i refresh hrefresh
        exact Or.inr ⟨tokens, refresh, hsession, hrefresh, rfl⟩
      · exact Or.inl ⟨⟨_, rfl⟩, hended⟩
  · exact Or.inl ⟨⟨_, rfl⟩, Or.inl rfl⟩

/-- A request for a login starts one, or leaves the session as it is, or gives up a stale one. -/
theorem beginLogin_cases (c : Coordinator σ) (redirect? : Option String) (now : Timestamp)
    (s : State σ) :
    (∃ login, StartsLogin c s redirect? now login) ∨
      KeptOrEnded s (c.beginLogin redirect? now s).2 := by
  have hexpire := expireLogin_keptOrEnded c now s
  have hstart : (c.expireLogin now s).session.pending? = none →
      (c.beginLogin redirect? now s).2 = (c.startLogin redirect? now (c.expireLogin now s)).2 →
      (∃ login, StartsLogin c s redirect? now login) ∨
        KeptOrEnded s (c.beginLogin redirect? now s).2 := by
    intro hpending hrun
    have hstale : ∀ old, s.session = .loginPending old →
        old.isStale now c.loginTimeout = true := by
      intro old hold
      rcases expireLogin_cases c now s with ⟨hs, _⟩ | ⟨login, hlogin, hstale, _⟩
      · rw [hs, hold] at hpending; cases hpending
      · rw [hold] at hlogin; cases hlogin
        exact hstale
    cases hurl : c.backend.loginUrl c.provider redirect? with
    | error e =>
      right
      rw [hrun, startLogin, hurl]
      exact hexpire
    | ok url =>
      left
      refine ⟨⟨c.provider, url, now⟩, hstale, ?_⟩
      rw [hrun, startLogin, hurl]
  cases hs : (c.expireLogin now s).session with
  | loginPending login => exact Or.inr (by simp only [beginLogin, hs]; exact hexpire)
  | authenticated tokens => exact Or.inr (by simp only [beginLogin, hs]; exact hexpire)
  | refreshPending tokens => exact Or.inr (by simp only [beginLogin, hs]; exact hexpire)
  | failed e => exact hstart (by rw [hs]; rfl) (by simp only [beginLogin, hs])
  | unauthenticated => exact hstart (by rw [hs]; rfl) (by simp only [beginLogin, hs])

theorem retry_keptOrEnded (s : State σ) : KeptOrEnded s (Coordinator.retry s).2 := by
  obtain ⟨session, stored⟩ := s
  cases session with
  | failed e => exact Or.inr (Or.inl rfl)
  | _ => exact Or.inl rfl

namespace Machine

variable {m : Machine σ} {e : Event} {tokens : TokenSet}

/-- The token set that enters the session with an event: from a redirect that completes a login, or
from the answer to a refresh. -/
def received? (c : Coordinator σ) (m : Machine σ) : Event → Option TokenSet
  | .operation (.handleCallback event) now =>
    match c.handleCallback event now m.state with
    | (.ok .authenticated, s) => s.session.tokens?
    | _ => none
  | .finish i outcome now =>
    match m.flights[i]?.map Flight.phase with
    | some .requesting =>
      match c.endRefresh outcome now m.state with
      | (.ok _, s) => s.session.tokens?
      | (.error _, _) => none
    | _ => none
  | _ => none

/-- The refresh token that an event sends to the backend. -/
def posts? (c : Coordinator σ) (m : Machine σ) : Event → Option RefreshToken
  | .begin i =>
    match m.flights[i]? with
    | none => none
    | some f =>
      match f.phase, (c.beginRefresh f.stale m.state).1 with
      | .waiting, .request token => some token
      | _, _ => none
  | _ => none

/-- The refresh tokens that a run sends to the backend, in their order. -/
def posted (c : Coordinator σ) (m : Machine σ) : List Event → List RefreshToken
  | [] => []
  | e :: es => (m.posts? c e).toList ++ posted c (m.step c e) es

/-- What an event does to the session. -/
inductive Effect (c : Coordinator σ) (m : Machine σ) (e : Event) : Prop where
  | redirect (login : PendingLogin) (tokens : TokenSet) (event : CallbackEvent) (now : Timestamp)
      (he : e = .operation (.handleCallback event) now)
      (hsession : m.state.session = .loginPending login)
      (hanswer : (c.handleCallback event now m.state).1 = .ok .authenticated)
      (hafter : (m.step c e).state.session = .authenticated tokens)
      (hreceived : m.received? c e = some tokens) (hposts : m.posts? c e = none)
  | answer (previous tokens : TokenSet) (hsession : m.state.session = .refreshPending previous)
      (hafter : (m.step c e).state.session = .authenticated tokens)
      (hreceived : m.received? c e = some tokens) (hposts : m.posts? c e = none)
  | mark (tokens : TokenSet) (refresh : RefreshToken)
      (hsession : m.state.session = .authenticated tokens)
      (hrefresh : tokens.refresh = some refresh)
      (hafter : (m.step c e).state.session = .refreshPending tokens)
      (hreceived : m.received? c e = none) (hposts : m.posts? c e = some refresh)
  | restore (previous : TokenSet) (hrotate : c.rotateRefreshTokens = false)
      (hsession : m.state.session = .refreshPending previous)
      (hafter : (m.step c e).state.session = .authenticated previous)
      (hreceived : m.received? c e = none) (hposts : m.posts? c e = none)
  | login (login : PendingLogin) (redirect? : Option String) (now : Timestamp)
      (he : e = .operation (.beginLogin redirect?) now)
      (hstarts : StartsLogin c m.state redirect? now login) (hreceived : m.received? c e = none)
      (hposts : m.posts? c e = none)
  | nothing (h : KeptOrEnded m.state (m.step c e).state) (hreceived : m.received? c e = none)
      (hposts : m.posts? c e = none)

/-- The first section of a flight brings no tokens, but may mark those that are there. -/
theorem begin_effect (c : Coordinator σ) (m : Machine σ) (i : Nat) : Effect c m (.begin i) := by
  have hidle : m.begin c i = m → m.posts? c (.begin i) = none → Effect c m (.begin i) :=
    fun h hposts => .nothing (Or.inl (congrArg (fun m => m.state.session) h)) rfl hposts
  cases hf : m.flights[i]? with
  | none => exact hidle (by simp only [begin, hf]) (by simp only [posts?, hf])
  | some f =>
    cases hphase : f.phase with
    | waiting =>
      have hstate : (m.step c (.begin i)).state = (c.beginRefresh f.stale m.state).2 := by
        simp only [step, begin, hf, hphase]
      rcases beginRefresh_tokens c f.stale m.state with
        ⟨⟨result, hresult⟩, h⟩ | ⟨tokens, refresh, hsession, hrefresh, hbegin⟩
      · exact .nothing (hstate ▸ h) rfl (by simp only [posts?, hf, hphase, hresult])
      · refine .mark tokens refresh hsession hrefresh ?_ rfl ?_
        · rw [hstate, hbegin]
        · simp only [posts?, hf, hphase, hbegin]
    | requesting =>
      exact hidle (by simp only [begin, hf, hphase]) (by simp only [posts?, hf, hphase])
    | finished r =>
      exact hidle (by simp only [begin, hf, hphase]) (by simp only [posts?, hf, hphase])

/-- The second section of a flight brings tokens if the refresh succeeds. -/
theorem finish_effect (c : Coordinator σ) (m : Machine σ) (i : Nat)
    (outcome : Except RefreshFailure RefreshResponse) (now : Timestamp) :
    Effect c m (.finish i outcome now) := by
  have hidle : (∀ f, m.flights[i]? = some f → f.phase ≠ .requesting) →
      Effect c m (.finish i outcome now) := by
    intro hnone
    refine .nothing (Or.inl ?_) ?_ rfl
    · simp only [step, finish]
      split
      · rename_i f hf
        split
        · rename_i hphase
          exact absurd hphase (hnone f hf)
        · rfl
      · rfl
    · simp only [received?]
      split
      · rename_i h
        obtain ⟨f, hf, hphase⟩ := Option.map_eq_some_iff.1 h
        exact absurd hphase (hnone f hf)
      · rfl
  cases hf : m.flights[i]? with
  | none => exact hidle (fun f h => by rw [hf] at h; cases h)
  | some f =>
    cases hphase : f.phase with
    | requesting =>
      have hstate : (m.step c (.finish i outcome now)).state =
          (c.endRefresh outcome now m.state).2 := by
        simp only [step, finish, hf, hphase]
      rcases endRefresh_cases c outcome now m.state with
        ⟨previous, tokens, stored, hsession, _, hend⟩ | ⟨e, herror, hrest⟩
      · refine .answer previous tokens hsession (by rw [hstate, hend]) ?_ rfl
        simp [received?, hf, hphase, hend, Session.tokens?]
      · have hreceived : m.received? c (.finish i outcome now) = none := by
          cases hend : c.endRefresh outcome now m.state with
          | mk result state =>
            rw [hend] at herror
            subst herror
            simp [received?, hf, hphase, hend]
        rcases hrest with h | ⟨hrotate, previous, hsession, hafter⟩
        · exact .nothing (hstate ▸ h) hreceived rfl
        · exact .restore previous hrotate hsession (hstate ▸ hafter) hreceived rfl
    | waiting => exact hidle (fun g h => by rw [hf] at h; cases h; rw [hphase]; simp)
    | finished r => exact hidle (fun g h => by rw [hf] at h; cases h; rw [hphase]; simp)

/-- A redirect brings tokens if it completes a login. -/
theorem handleCallback_effect (c : Coordinator σ) (m : Machine σ) (event : CallbackEvent)
    (now : Timestamp) : Effect c m (.operation (.handleCallback event) now) := by
  have hstate : (m.step c (.operation (.handleCallback event) now)).state =
      (c.handleCallback event now m.state).2 := rfl
  rcases handleCallback_cases c event now m.state with
    ⟨login, tokens, stored, hsession, _, hanswer⟩ | ⟨hanswer, h⟩
  · refine .redirect login tokens event now rfl hsession (by rw [hanswer])
      (by rw [hstate, hanswer]) ?_ rfl
    simp [received?, hanswer, Session.tokens?]
  · refine .nothing (hstate ▸ h) ?_ rfl
    simp only [received?]
    split
    · rename_i s hrun
      rw [hrun] at hanswer
      exact absurd rfl hanswer
    · rfl

/-- Any other operation brings no tokens, but may start a login. -/
theorem operation_effect (c : Coordinator σ) (m : Machine σ) (operation : Operation)
    (now : Timestamp) : Effect c m (.operation operation now) := by
  cases operation with
  | status => exact .nothing (expireLogin_keptOrEnded c now m.state) rfl rfl
  | beginLogin redirect? =>
    rcases beginLogin_cases c redirect? now m.state with ⟨login, hstarts⟩ | h
    · exact .login login redirect? now rfl hstarts rfl rfl
    · exact .nothing h rfl rfl
  | handleCallback event => exact handleCallback_effect c m event now
  | retry => exact .nothing (retry_keptOrEnded m.state) rfl rfl
  | logOut => exact .nothing (forgetTokens_keptOrEnded c m.state) rfl rfl
  | currentToken => exact .nothing (Or.inl rfl) rfl rfl

/-- **Every event has one of these effects on the session.** -/
theorem step_effect (c : Coordinator σ) (m : Machine σ) (e : Event) : Effect c m e := by
  cases e with
  | call stale => exact .nothing (Or.inl (by simp [step])) rfl rfl
  | begin i => exact begin_effect c m i
  | finish i outcome now => exact finish_effect c m i outcome now
  | observe k => exact .nothing (Or.inl (by simp [step])) rfl rfl
  | leave k => exact .nothing (Or.inl (by simp [step])) rfl rfl
  | cancel k => exact .nothing (Or.inl (by simp [step])) rfl rfl
  | operation operation now => exact operation_effect c m operation now

/-- **A refresh token is posted exactly if the tokens of an authenticated session are marked.** -/
theorem posts?_eq_some_iff {token : RefreshToken} :
    m.posts? c e = some token ↔ ∃ tokens, m.state.session = .authenticated tokens ∧
      tokens.refresh = some token ∧ (m.step c e).state.session = .refreshPending tokens := by
  constructor
  · intro h
    cases step_effect c m e with
    | mark tokens refresh hsession hrefresh hafter hreceived hposts =>
      rw [hposts] at h
      cases h
      exact ⟨tokens, hsession, hrefresh, hafter⟩
    | _ =>
      rename_i hposts
      rw [hposts] at h
      cases h
  · rintro ⟨tokens, hsession, hrefresh, hafter⟩
    cases step_effect c m e with
    | mark marked refresh hmarked hsent _ _ hposts =>
      rw [hsession] at hmarked
      cases hmarked
      rw [hposts, ← hsent, hrefresh]
    | redirect _ _ _ _ _ hother => rw [hsession] at hother; cases hother
    | answer _ _ hother => rw [hsession] at hother; cases hother
    | restore _ _ hother => rw [hsession] at hother; cases hother
    | login login redirect? now he hstarts =>
      subst he
      cases hafter.symm.trans hstarts.2
    | nothing hkept =>
      rcases hkept with h | h | ⟨_, h⟩
      · rw [hafter, hsession] at h; cases h
      · rw [hafter] at h; cases h
      · rw [hafter] at h; cases h

/-- Nothing is posted by an event that leaves session and store as they are. -/
theorem posts?_eq_none (h : (m.step c e).state = m.state) : m.posts? c e = none := by
  cases hposts : m.posts? c e with
  | none => rfl
  | some token =>
    obtain ⟨tokens, hsession, _, hafter⟩ := posts?_eq_some_iff.1 hposts
    rw [h, hsession] at hafter
    cases hafter

end Machine

end RedirectLogin.Coordinator
