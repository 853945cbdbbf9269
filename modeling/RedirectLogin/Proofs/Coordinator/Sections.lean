import RedirectLogin.Coordinator.Flight

/-!
# What a section does

`Transition` lists once and for all what one section may do to a session and its store, with the
attempts on the store that each case takes. Every section is one transition, except that the first
section of a refresh may also mark the session. Invariants of sessions are proved case by case of
`Transition`, never by opening a section again.

Principal results: `run_transition`, `beginRefresh_cases` and `endRefresh_transition` — what the
sections of a coordinator do; `endRefresh_finished` — no refresh is pending after a second section.
-/

set_option autoImplicit false

namespace RedirectLogin.Coordinator

variable {σ : Type} {c : Coordinator σ} {s : State σ}

/-- What a section may do, marking the session for a refresh apart. -/
inductive Transition (c : Coordinator σ) (s : State σ) : State σ → Prop where
  | stay : Transition c s s
  | read (found : Except SessionError (Option TokenSet)) (stored : σ)
      (h : attemptTwice c.store.load s.stored = (found, stored)) :
      Transition c s ⟨s.session, stored⟩
  | timeOut (login : PendingLogin) (now : Timestamp) (h : s.session = .loginPending login)
      (hstale : login.isStale now c.loginTimeout = true) :
      Transition c s ⟨.unauthenticated, s.stored⟩
  | startLogin (login : PendingLogin) (h : s.session.tokens? = none)
      (hold : ∀ old, s.session = .loginPending old →
        old.isStale login.startedAt c.loginTimeout = true) :
      Transition c s ⟨.loginPending login, s.stored⟩
  | refuseLogin (login : PendingLogin) (e : SessionError) (h : s.session = .loginPending login) :
      Transition c s ⟨.failed e, s.stored⟩
  | finishLogin (login : PendingLogin) (tokens : TokenSet) (stored : σ)
      (h : s.session = .loginPending login)
      (hsave : attemptTwice (c.store.save tokens) s.stored = (.ok (), stored)) :
      Transition c s ⟨.authenticated tokens, stored⟩
  | finishRefresh (previous tokens : TokenSet) (stored : σ)
      (h : s.session = .refreshPending previous)
      (hsave : attemptTwice (c.store.save tokens) s.stored = (.ok (), stored)) :
      Transition c s ⟨.authenticated tokens, stored⟩
  | failSave (tokens : TokenSet) (e : SessionError) (stored : σ)
      (hsave : attemptTwice (c.store.save tokens) s.stored = (.error e, stored)) :
      Transition c s ⟨.failed e, stored⟩
  | forget (stored : σ) (hclear : attemptTwice c.store.clear s.stored = (.ok (), stored)) :
      Transition c s ⟨.unauthenticated, stored⟩
  | failClear (e : SessionError) (stored : σ)
      (hclear : attemptTwice c.store.clear s.stored = (.error e, stored)) :
      Transition c s ⟨.failed e, stored⟩
  | retry (e : SessionError) (h : s.session = .failed e) :
      Transition c s ⟨.unauthenticated, s.stored⟩
  | restore (previous : TokenSet) (h : s.session = .refreshPending previous) :
      Transition c s ⟨.authenticated previous, s.stored⟩

/-- A session starts from what the store holds, or with the failure to read it. -/
theorem start_cases (c : Coordinator σ) (stored : σ) :
    (∃ found t, attemptTwice c.store.load stored = (.ok found, t) ∧
        c.start stored = ⟨.ofStored found, t⟩) ∨
      ∃ e t, attemptTwice c.store.load stored = (.error e, t) ∧
        c.start stored = ⟨.failed e, t⟩ := by
  unfold start
  split
  · rename_i found t hload
    exact Or.inl ⟨found, t, hload, rfl⟩
  · rename_i e t hload
    exact Or.inr ⟨e, t, hload, rfl⟩

/-- A session starts with one request to load. -/
theorem start_stored (c : Coordinator σ) (stored : σ) :
    (c.start stored).stored = (attemptTwice c.store.load stored).2 := by
  rcases start_cases c stored with ⟨found, t, hload, hstart⟩ | ⟨e, t, hload, hstart⟩ <;>
    rw [hstart, hload]

theorem keepTokens_stored (c : Coordinator σ) (tokens : TokenSet) (s : State σ) :
    (c.keepTokens tokens s).2.stored = (attemptTwice (c.store.save tokens) s.stored).2 := by
  unfold keepTokens
  split <;> rename_i hsave <;> rw [hsave]

theorem forgetTokens_stored (c : Coordinator σ) (s : State σ) :
    (c.forgetTokens s).2.stored = (attemptTwice c.store.clear s.stored).2 := by
  unfold forgetTokens
  split <;> rename_i hclear <;> rw [hclear]

/-! ## Section by section -/

theorem expireLogin_cases (c : Coordinator σ) (now : Timestamp) (s : State σ) :
    (c.expireLogin now s = s ∧
        ∀ login, s.session = .loginPending login → login.isStale now c.loginTimeout = false) ∨
      ∃ login, s.session = .loginPending login ∧ login.isStale now c.loginTimeout = true ∧
        c.expireLogin now s = ⟨.unauthenticated, s.stored⟩ := by
  obtain ⟨session, stored⟩ := s
  cases session with
  | loginPending login =>
    cases hstale : login.isStale now c.loginTimeout with
    | true =>
      refine Or.inr ⟨login, rfl, hstale, ?_⟩
      simp [expireLogin, Session.expire, Session.isStale, Session.pending?, hstale]
    | false =>
      refine Or.inl ⟨?_, fun old h => by cases h; exact hstale⟩
      simp [expireLogin, Session.expire, Session.isStale, Session.pending?, hstale]
  | unauthenticated => exact Or.inl ⟨rfl, fun _ h => by cases h⟩
  | authenticated tokens => exact Or.inl ⟨rfl, fun _ h => by cases h⟩
  | refreshPending tokens => exact Or.inl ⟨rfl, fun _ h => by cases h⟩
  | failed e => exact Or.inl ⟨rfl, fun _ h => by cases h⟩

theorem expireLogin_transition (c : Coordinator σ) (now : Timestamp) (s : State σ) :
    Transition c s (c.expireLogin now s) := by
  rcases expireLogin_cases c now s with ⟨h, _⟩ | ⟨login, hlogin, hstale, h⟩
  · rw [h]; exact .stay
  · rw [h]; exact .timeOut login now hlogin hstale

/-- A login that was not given up by now is still the one it was. -/
theorem expireLogin_pending {now : Timestamp} {login : PendingLogin}
    (h : (c.expireLogin now s).session = .loginPending login) : c.expireLogin now s = s := by
  rcases expireLogin_cases c now s with ⟨hs, _⟩ | ⟨_, _, _, hs⟩
  · exact hs
  · rw [hs] at h; cases h

theorem beginLogin_transition (c : Coordinator σ) (redirect? : Option String) (now : Timestamp)
    (s : State σ) : Transition c s (c.beginLogin redirect? now s).2 := by
  have hexpire := expireLogin_transition c now s
  -- A new login needs a session without tokens, and takes the place of a stale login at most.
  have hstart : (c.expireLogin now s).session.tokens? = none →
      (c.expireLogin now s).session.pending? = none →
      Transition c s (c.startLogin redirect? now (c.expireLogin now s)).2 := by
    intro htokens hpending
    unfold startLogin
    split
    · exact hexpire
    · rename_i url _
      rcases expireLogin_cases c now s with ⟨hs, _⟩ | ⟨login, hlogin, hstale, hs⟩
      · rw [hs] at htokens hpending ⊢
        refine .startLogin ⟨c.provider, url, now⟩ htokens (fun old hold => ?_)
        rw [hold] at hpending; cases hpending
      · rw [hs]
        refine .startLogin ⟨c.provider, url, now⟩ (by rw [hlogin]; rfl) (fun old hold => ?_)
        rw [hlogin] at hold; cases hold
        exact hstale
  unfold beginLogin
  simp only
  split
  · exact hexpire
  · exact hexpire
  · exact hexpire
  · rename_i h
    exact hstart (by rw [h]; rfl) (by rw [h]; rfl)
  · rename_i h
    exact hstart (by rw [h]; rfl) (by rw [h]; rfl)

theorem finishLogin_transition (c : Coordinator σ) (result : Except SessionError CallbackResult)
    (now : Timestamp) {login : PendingLogin} (h : s.session = .loginPending login) :
    Transition c s (c.finishLogin result now s).2 := by
  unfold finishLogin keepTokens
  split
  · simp only
    split
    · rename_i hsave
      exact .finishLogin login _ _ h hsave
    · rename_i hsave
      exact .failSave _ _ _ hsave
  · exact .refuseLogin login _ h
  · exact .refuseLogin login _ h

theorem consume_transition (c : Coordinator σ) (result : Except SessionError CallbackResult)
    (now : Timestamp) (s : State σ) : Transition c s (c.consume result now s).2 := by
  unfold consume
  simp only
  split
  · exact expireLogin_transition c now s
  · rename_i login h
    have hlogin : (c.expireLogin now s).session = .loginPending login := by
      cases hs : (c.expireLogin now s).session <;> rw [hs] at h <;> cases h
      rfl
    have hsame := expireLogin_pending hlogin
    rw [hsame] at hlogin ⊢
    exact finishLogin_transition c result now hlogin

theorem handleCallback_transition (c : Coordinator σ) (event : CallbackEvent) (now : Timestamp)
    (s : State σ) : Transition c s (c.handleCallback event now s).2 := by
  unfold handleCallback
  split
  · exact .stay
  · exact consume_transition c _ now s
  · exact .stay
  · exact consume_transition c _ now s

theorem retry_transition (c : Coordinator σ) (s : State σ) :
    Transition c s (Coordinator.retry s).2 := by
  obtain ⟨session, stored⟩ := s
  cases session with
  | failed e => exact .retry e rfl
  | _ => exact .stay

theorem forgetTokens_transition (c : Coordinator σ) (s : State σ) :
    Transition c s (c.forgetTokens s).2 := by
  unfold forgetTokens
  split
  · rename_i hclear
    exact .forget _ hclear
  · rename_i hclear
    exact .failClear _ _ hclear

/-- **Every section that has nothing to do with flights is one transition.** -/
theorem run_transition (c : Coordinator σ) (operation : Operation) (now : Timestamp)
    (s : State σ) : Transition c s (operation.run c now s).2 := by
  cases operation with
  | status => exact expireLogin_transition c now s
  | beginLogin redirect? => exact beginLogin_transition c redirect? now s
  | handleCallback event => exact handleCallback_transition c event now s
  | retry => exact retry_transition c s
  | logOut => exact forgetTokens_transition c s
  | currentToken => exact .read _ _ rfl

/-! ## The two sections of a refresh -/

/-- Ending a session forgets its tokens, whatever that leads to. -/
theorem endSession_state (c : Coordinator σ) (s : State σ) :
    (c.endSession s).2 = (c.forgetTokens s).2 := by
  unfold endSession
  split
  · rename_i h; rw [h]
  · rename_i h; rw [h]

theorem endSession_transition (c : Coordinator σ) (s : State σ) :
    Transition c s (c.endSession s).2 := by
  rw [endSession_state]
  exact forgetTokens_transition c s

/-- The first section of a refresh is one transition and the end of the refresh, or it marks a
session that holds the refused token and sends its refresh token. -/
theorem beginRefresh_cases (c : Coordinator σ) (stale : AccessToken) (s : State σ) :
    (∃ result, (c.beginRefresh stale s).1 = .finished result ∧
        Transition c s (c.beginRefresh stale s).2) ∨
      ∃ tokens refresh, s.session = .authenticated tokens ∧ tokens.access = stale ∧
        tokens.refresh = some refresh ∧
        c.beginRefresh stale s = (.request refresh, ⟨.refreshPending tokens, s.stored⟩) := by
  unfold beginRefresh
  split
  · rename_i tokens hsession
    split
    · exact Or.inl ⟨_, rfl, .stay⟩
    · rename_i haccess
      split
      · rename_i refresh hrefresh
        exact Or.inr ⟨tokens, refresh, hsession, by simpa using haccess, hrefresh, rfl⟩
      · exact Or.inl ⟨_, rfl, endSession_transition c s⟩
  · exact Or.inl ⟨_, rfl, .stay⟩

theorem finishRefresh_transition (c : Coordinator σ) {previous : TokenSet}
    (outcome : Except RefreshFailure RefreshResponse) (now : Timestamp)
    (h : s.session = .refreshPending previous) :
    Transition c s (c.finishRefresh previous outcome now s).2 := by
  unfold finishRefresh keepTokens
  split
  · split
    · exact endSession_transition c s
    · simp only
      split
      · rename_i hsave
        exact .finishRefresh previous _ _ h hsave
      · rename_i hsave
        exact .failSave _ _ _ hsave
  · exact endSession_transition c s
  · split
    · exact endSession_transition c s
    · exact .restore previous h

theorem endRefresh_transition (c : Coordinator σ) (outcome : Except RefreshFailure RefreshResponse)
    (now : Timestamp) (s : State σ) : Transition c s (c.endRefresh outcome now s).2 := by
  unfold endRefresh
  split
  · rename_i previous h
    exact finishRefresh_transition c outcome now h
  · exact .stay

/-- The second section leaves no refresh pending, whatever the answer and the store. -/
theorem endRefresh_finished (c : Coordinator σ) (outcome : Except RefreshFailure RefreshResponse)
    (now : Timestamp) (s : State σ) (tokens : TokenSet) :
    (c.endRefresh outcome now s).2.session ≠ .refreshPending tokens := by
  have hforget : (c.forgetTokens s).2.session ≠ .refreshPending tokens := by
    unfold forgetTokens
    split <;> exact fun h => by cases h
  have hend : (c.endSession s).2.session ≠ .refreshPending tokens := by
    rw [endSession_state]
    exact hforget
  unfold endRefresh
  split
  · unfold finishRefresh keepTokens
    split
    · split
      · exact hend
      · simp only
        split <;> exact fun h => by cases h
    · exact hend
    · split
      · exact hend
      · exact fun h => by cases h
  · rename_i hother
    exact hother tokens

end RedirectLogin.Coordinator
