import Mathlib.Data.List.Induction
import RedirectLogin.Proofs.Api.Anonymous
import RedirectLogin.Proofs.Coordinator.Events
import RedirectLogin.Proofs.Store.Register

/-!
# Logged out

A session that is logged out should have nothing in its store. Most sections see to this: whoever
logs out or ends a session empties the store first. A store that fails may leave tokens behind in
the error state, and leaving that state does not look at the store. This is the one way for a
session to be logged out while its credentials are still stored and sent, and the theorem below
says so in both directions.

Principal results: `logged_out_iff` — along a run, logged out means without credentials exactly if
no storage failure is left over a store that still has tokens; `retry_keeps_credentials` — a run
that does leave one.
-/

set_option autoImplicit false

namespace RedirectLogin

/-- The session reports that nobody is logged in, and no error. -/
def Session.LoggedOut : Session → Prop
  | .unauthenticated | .loginPending _ => True
  | _ => False

namespace Coordinator

variable {σ : Type} {c : Coordinator σ} {s t : State σ} {content : σ → Option TokenSet}

/-- Nothing is stored, nothing can be read, and calls to the API send no credentials. -/
structure NoCredentials (c : Coordinator σ) (content : σ → Option TokenSet) (s : State σ) :
    Prop where
  empty : content s.stored = none
  token : ∀ found, (c.currentToken s).1 = .ok found → found = none
  requests : ∀ (api : ApiClient) (method path : String) (body : Option String),
    ((api.execute method path body).withToken (c.currentToken s).1).Anonymous

/-- The event takes a session out of an error. -/
def Event.LeavesError (c : Coordinator σ) : Event → Prop
  | .operation .retry _ => True
  | .operation (.beginLogin redirect?) _ =>
    ∃ url, c.backend.loginUrl c.provider redirect? = .ok url
  | _ => False

/-- The store is empty while the session is logged out, and in errors that the store has no part
in. -/
structure Emptied (content : σ → Option TokenSet) (s : State σ) : Prop where
  loggedOut : s.session.LoggedOut → content s.stored = none
  failed : ∀ e, s.session = .failed e → e.kind ≠ .storageFailure → content s.stored = none

/-- An empty store has no credentials to give. -/
theorem noCredentials_of_empty (hc : c.store.IsRegister content)
    (hempty : content s.stored = none) : NoCredentials c content s := by
  have htoken : ∀ found, (c.currentToken s).1 = .ok found → found = none := by
    intro found h
    unfold currentToken at h
    cases hload : attemptTwice c.store.load s.stored with
    | mk loaded stored =>
      rw [hload] at h
      cases loaded with
      | error e => cases h
      | ok tokens =>
        obtain ⟨htokens, _⟩ := hc.loaded hload
        rw [hempty] at htokens
        subst htokens
        cases h
        rfl
  refine ⟨hempty, htoken, fun api method path body => ?_⟩
  refine api.execute_anonymous method path body (fun token h => ?_)
  cases htoken (some token) h

/-! ## The ways out of an error -/

theorem expireLogin_failed (c : Coordinator σ) (now : Timestamp) {e : SessionError}
    (hs : s.session = .failed e) : c.expireLogin now s = s := by
  rcases expireLogin_cases c now s with ⟨h, _⟩ | ⟨login, hlogin, _, _⟩
  · exact h
  · rw [hs] at hlogin; cases hlogin

/-- A redirect changes nothing while there is an error. -/
theorem handleCallback_failed (c : Coordinator σ) (event : CallbackEvent) (now : Timestamp)
    {e : SessionError} (hs : s.session = .failed e) : (c.handleCallback event now s).2 = s := by
  have hconsume : ∀ result, (c.consume result now s).2 = s := by
    intro result
    have hexpire := expireLogin_failed c now hs
    rw [consume_ignored c result now s (by rw [hexpire, hs]; rfl), hexpire]
  unfold handleCallback
  split
  · rfl
  · exact hconsume _
  · rfl
  · exact hconsume _

/-- Whoever is logged out after an error has left the error behind, or has emptied the store. -/
theorem run_failed (hc : c.store.IsRegister content) (operation : Operation) (now : Timestamp)
    {e : SessionError} (hs : s.session = .failed e)
    (hout : (operation.run c now s).2.session.LoggedOut) :
    (Event.operation operation now).LeavesError c ∨
      content (operation.run c now s).2.stored = none := by
  cases operation with
  | status =>
    replace hout : (c.expireLogin now s).session.LoggedOut := hout
    rw [expireLogin_failed c now hs, hs] at hout
    cases hout
  | beginLogin redirect? =>
    replace hout : (c.beginLogin redirect? now s).2.session.LoggedOut := hout
    left
    simp only [beginLogin, expireLogin_failed c now hs, hs] at hout
    unfold startLogin at hout
    split at hout
    · rw [hs] at hout; cases hout
    · rename_i url hurl
      exact ⟨url, hurl⟩
  | handleCallback event =>
    replace hout : (c.handleCallback event now s).2.session.LoggedOut := hout
    rw [handleCallback_failed c event now hs, hs] at hout
    cases hout
  | retry => exact Or.inl trivial
  | logOut =>
    replace hout : (c.forgetTokens s).2.session.LoggedOut := hout
    right
    show content (c.forgetTokens s).2.stored = none
    unfold forgetTokens at hout ⊢
    split at hout
    · rename_i stored hclear
      exact hc.cleared hclear
    · cases hout
  | currentToken =>
    replace hout : s.session.LoggedOut := hout
    rw [hs] at hout
    cases hout

namespace Machine

variable {m m' : Machine σ} {event : Event}

theorem Move.of_failed (hc : c.store.IsRegister content) (h : Move c m event m')
    {e : SessionError} (hs : m.state.session = .failed e) (hout : m'.state.session.LoggedOut) :
    event.LeavesError c ∨ content m'.state.stored = none := by
  cases h with
  | settle i f result state hf hphase hbegin ht =>
    simp only [beginRefresh, hs, Prod.mk.injEq] at hbegin
    obtain ⟨_, rfl⟩ := hbegin
    rw [hs] at hout; cases hout
  | ask i f tokens refresh hf hphase hsession haccess hrefresh => cases hout
  | finish i f outcome now hf hphase =>
    simp only [endRefresh, hs] at hout
    cases hout
  | operate operation now => exact run_failed hc operation now hs hout
  | _ => rw [hs] at hout; cases hout

/-- Leaving an error leaves the store alone. -/
theorem step_leavesError {e : SessionError} (hs : m.state.session = .failed e)
    (h : event.LeavesError c) :
    (m.step c event).state.session.LoggedOut ∧
      (m.step c event).state.stored = m.state.stored := by
  unfold Event.LeavesError at h
  split at h
  · simp only [step, operate, Operation.run, retry, hs, Session.error?, Option.isSome_some,
      if_true]
    exact ⟨trivial, trivial⟩
  · rename_i redirect? now
    obtain ⟨url, hurl⟩ := h
    simp only [step, operate, Operation.run, beginLogin, expireLogin_failed c now hs, hs,
      startLogin, hurl]
    exact ⟨trivial, trivial⟩
  · cases h

end Machine

/-! ## Along a run -/

/-- A session with tokens says nothing about an empty store. -/
theorem emptied_of_tokens {tokens : TokenSet} (h : t.session.tokens? = some tokens) :
    Emptied content t := by
  refine ⟨fun hout => ?_, fun e hs => ?_⟩
  · cases hsession : t.session with
    | authenticated tokens => rw [hsession] at hout; cases hout
    | refreshPending tokens => rw [hsession] at hout; cases hout
    | _ => rw [hsession] at h; cases h
  · rw [hs] at h; cases h

/-- Nor does a storage failure. -/
theorem emptied_of_storageFailure {e : SessionError} (h : t.session = .failed e)
    (he : e.kind = .storageFailure) : Emptied content t := by
  refine ⟨fun hout => ?_, fun e' hs hkind => ?_⟩
  · rw [h] at hout; cases hout
  · rw [h] at hs; cases hs
    exact absurd he hkind

theorem start_emptied (hc : c.store.IsRegister content) (stored : σ) :
    Emptied content (c.start stored) := by
  rcases start_cases c stored with ⟨found, t, hload, h⟩ | ⟨e, t, hload, h⟩
  · rw [h]
    cases found with
    | none =>
      obtain ⟨hfound, hkeeps⟩ := hc.loaded hload
      exact ⟨fun _ => hkeeps.trans hfound.symm, fun e h => by cases h⟩
    | some tokens => exact emptied_of_tokens rfl
  · rw [h]
    exact emptied_of_storageFailure rfl (attemptTwice_error_kind hload)

/-- A section keeps the store empty, unless it leaves an error over a store that is not. -/
theorem Transition.emptied (hc : c.store.IsRegister content) (h : Transition c s t)
    (hs : Emptied content s)
    (hleave : ∀ e, s.session = .failed e → content s.stored ≠ none → t.session.LoggedOut →
      content t.stored = none) : Emptied content t := by
  -- Where the content is the old one, it can only be an error that hides what is stored.
  have hkeep : ∀ session : Session, session.LoggedOut → s.session.tokens? = none →
      t = ⟨session, s.stored⟩ → Emptied content t := by
    intro session hout htokens hsame
    subst hsame
    refine ⟨fun _ => ?_, fun e h => ?_⟩
    · cases hsession : s.session with
      | unauthenticated => exact hs.loggedOut (by rw [hsession]; trivial)
      | loginPending login => exact hs.loggedOut (by rw [hsession]; trivial)
      | failed e =>
        refine Classical.byContradiction fun hstored => ?_
        exact hstored (hleave e hsession hstored hout)
      | authenticated tokens => rw [hsession] at htokens; cases htokens
      | refreshPending tokens => rw [hsession] at htokens; cases htokens
    · replace h : session = .failed e := h
      rw [h] at hout
      cases hout
  cases h with
  | stay => exact hs
  | read found stored hload =>
    have hsame : content stored = content s.stored := hc.load_keeps hload
    exact ⟨fun h => hsame.trans (hs.loggedOut h), fun e h hk => hsame.trans (hs.failed e h hk)⟩
  | timeOut login now hlogin hstale =>
    exact hkeep .unauthenticated trivial (by rw [hlogin]; rfl) rfl
  | startLogin login htokens hold =>
    exact hkeep (.loginPending login) trivial htokens rfl
  | refuseLogin login e hlogin =>
    have hempty := hs.loggedOut (by rw [hlogin]; trivial)
    exact ⟨fun h => (by cases h), fun _ _ _ => hempty⟩
  | failSave tokens e stored hsave =>
    exact emptied_of_storageFailure rfl (attemptTwice_error_kind hsave)
  | forget stored hclear =>
    exact ⟨fun _ => hc.cleared hclear, fun e h => by cases h⟩
  | failClear e stored hclear =>
    exact emptied_of_storageFailure rfl (attemptTwice_error_kind hclear)
  | retry e hfailed =>
    exact hkeep .unauthenticated trivial (by rw [hfailed]; rfl) rfl
  | _ => exact emptied_of_tokens rfl

namespace Machine

variable {m m' : Machine σ} {event : Event}

theorem Move.emptied (hc : c.store.IsRegister content) (h : Move c m event m')
    (hm : Emptied content m.state)
    (hleave : ∀ e, m.state.session = .failed e → e.kind = .storageFailure →
      content m.state.stored ≠ none → ¬ event.LeavesError c) :
    Emptied content m'.state := by
  rcases h.state_cases with ht | ⟨i, f, tokens, refresh, _, _, _, _, _, _, hstate, _⟩
  · refine ht.emptied hc hm (fun e hs hstored hout => ?_)
    have hkind : e.kind = .storageFailure :=
      Classical.byContradiction fun hk => hstored (hm.failed e hs hk)
    rcases h.of_failed hc hs hout with hleaves | hempty
    · exact absurd hleaves (hleave e hs hkind hstored)
    · exact hempty
  · rw [hstate]
    exact emptied_of_tokens rfl

/-- **Logged out is without credentials, exactly unless a storage failure is forgotten.** Along a
run every logged-out session has an empty store, reads no token from it and calls the API without
credentials, if and only if no event of the run leaves a storage failure while the store still
has tokens. Which attempts on the store fail is left open. -/
theorem logged_out_iff (hc : c.store.IsRegister content) (stored : σ) (events : List Event) :
    (∀ before, before <+: events → (after c stored before).state.session.LoggedOut →
        NoCredentials c content (after c stored before).state) ↔
      ∀ before event e, before ++ [event] <+: events →
        (after c stored before).state.session = .failed e → e.kind = .storageFailure →
        content (after c stored before).state.stored ≠ none → ¬ event.LeavesError c := by
  constructor
  · intro h before event e hprefix hs hkind hstored hleaves
    obtain ⟨hout, hsame⟩ := step_leavesError hs hleaves
    rw [← after_concat] at hout hsame
    have hempty := (h _ hprefix hout).empty
    rw [hsame] at hempty
    exact hstored hempty
  · intro h before hprefix hout
    suffices Emptied content (after c stored before).state from
      noCredentials_of_empty hc (this.loggedOut hout)
    clear hout
    induction before using List.reverseRecOn with
    | nil => exact start_emptied hc stored
    | append_singleton es event ih =>
      have hes : es <+: events := (List.prefix_append es [event]).trans hprefix
      refine (after_concat_move c stored es event).emptied hc (ih hes) ?_
      exact fun e hs hkind hstored => h es event e hprefix hs hkind hstored

/-- Logging out fails at the store and is repeated, and nothing is left. -/
theorem repeated_log_out_leaves_nothing :
    let c := Coordinator.ofConfig .default Register.store
    let old : TokenSet := ⟨⟨"a1", by decide⟩, some ⟨"r1", by decide⟩, ⟨0, 0⟩⟩
    let r : Register := ⟨some old, [false, true, true], []⟩
    let events : List Event := [.operation .logOut ⟨60, 0⟩, .operation .logOut ⟨120, 0⟩]
    c.store.IsRegister Register.content ∧ (after c r events).state.session = .unauthenticated ∧
      ∀ before, before <+: events → (after c r before).state.session.LoggedOut →
        NoCredentials c Register.content (after c r before).state := by
  intro c old r events
  refine ⟨register_isRegister, by decide, ?_⟩
  refine (logged_out_iff (c := c) register_isRegister r events).2 ?_
  intro before event e hprefix _ _ _ hleaves
  have hevent : event ∈ events := hprefix.subset (by simp)
  simp only [events, List.mem_cons, List.not_mem_nil, or_false] at hevent
  rcases hevent with rfl | rfl
  · cases hleaves
  · cases hleaves

/-- **Credentials outlive an error.** The store cannot be read at the start, the error is left, and
the session is logged out over a store whose token every call to the API will send. -/
theorem retry_keeps_credentials :
    let c := Coordinator.ofConfig .default Register.store
    let old : TokenSet := ⟨⟨"a1", by decide⟩, some ⟨"r1", by decide⟩, ⟨0, 0⟩⟩
    let m := after c ⟨some old, [true, true], []⟩ [.operation .retry ⟨60, 0⟩]
    m.state.session = .unauthenticated ∧ m.state.stored.content = some old ∧
      (c.currentToken m.state).1 = .ok (some old.access) ∧
      ¬ (m.state.session.LoggedOut → NoCredentials c Register.content m.state) := by
  intro c old m
  have hsession : m.state.session = .unauthenticated := by decide
  have hstored : m.state.stored.content = some old := by decide
  refine ⟨hsession, hstored, rfl, fun h => ?_⟩
  have hempty := (h (by rw [hsession]; trivial)).empty
  rw [hstored] at hempty
  cases hempty

end Machine

end Coordinator

end RedirectLogin
