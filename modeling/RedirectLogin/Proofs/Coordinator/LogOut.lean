import RedirectLogin.Proofs.Coordinator.Effects
import RedirectLogin.Proofs.Coordinator.SingleFlight
import RedirectLogin.Proofs.Store.Register

/-!
# Logging out

Logging out empties the session and the store in one section, whatever is under way. What is under
way then may go on: callers wait, a refresh has asked the backend, a login page is open in a
browser. None of it brings tokens back. Tokens return with a login that was started later, and the
answer to a refresh that was out is dropped even if it arrives after that, when the new session is
itself waiting for a refresh.

One refresh may outlive a log-out, a task that was started before it and has not begun: where a later
login brings the very token that it was started for, it takes that session for its own.

Principal results: `after_logOut` — without a later login there are no tokens, in the session or in
the store; `finish_after_logOut` — what an answer may do to a session that came later;
`log_out_wins` — both, for a flight at any phase; `unbegun_refresh_outlives_log_out` — that the
exception occurs.
-/

set_option autoImplicit false

namespace RedirectLogin.Coordinator

variable {σ : Type} {c : Coordinator σ} {s t : State σ} {content : σ → Option TokenSet}

/-- There are no tokens, in the session or in the store. -/
structure NoTokens (content : σ → Option TokenSet) (s : State σ) : Prop where
  session : s.session.tokens? = none
  stored : content s.stored = none

/-- A section that brings no tokens to a session without any leaves the store empty. -/
theorem Transition.noTokens (hc : c.store.IsRegister content) (h : Transition c s t)
    (hs : NoTokens content s) (htokens : t.session.tokens? = none) : NoTokens content t := by
  refine ⟨htokens, ?_⟩
  cases h with
  | read found stored hload => exact (hc.load_keeps hload).trans hs.stored
  | finishLogin login tokens stored hlogin hsave => cases htokens
  | finishRefresh previous tokens stored hpending hsave => cases htokens
  | restore previous hpending => cases htokens
  | failSave tokens e stored hsave => exact (hc.save_failed hsave).trans hs.stored
  | forget stored hclear => exact hc.cleared hclear
  | failClear e stored hclear => exact (hc.clear_failed hclear).trans hs.stored
  | _ => exact hs.stored

/-- Logging out succeeds by emptying session and store. -/
theorem logOut_ok (hc : c.store.IsRegister content) {revoke : Option AccessToken}
    (h : (c.logOut s).1 = .ok revoke) :
    (c.logOut s).2.session = .unauthenticated ∧ NoTokens content (c.logOut s).2 := by
  unfold logOut forgetTokens at h ⊢
  cases hclear : attemptTwice c.store.clear s.stored with
  | mk result stored =>
    rw [hclear] at h
    cases result with
    | ok _ => exact ⟨rfl, rfl, hc.cleared hclear⟩
    | error e => cases h

namespace Machine

variable {m m' : Machine σ} {e : Event} {stored : σ} {events later : List Event}

/-- The last of these events is a log-out that succeeds. -/
def JustLoggedOut (c : Coordinator σ) (stored : σ) (events : List Event) : Prop :=
  ∃ before now revoke, events = before ++ [.operation .logOut now] ∧
    (c.logOut (after c stored before).state).1 = .ok revoke

/-- The login that is pending after the later events was started by one of them. -/
def PendingSince (c : Coordinator σ) (stored : σ) (events later : List Event)
    (login : PendingLogin) : Prop :=
  ∃ before redirect? now during,
    later = before ++ .operation (.beginLogin redirect?) now :: during ∧
    StartsLogin c (after c stored (events ++ before)).state redirect? now login ∧
    ∀ d, d <+: during →
      (after c stored
        (events ++ (before ++ .operation (.beginLogin redirect?) now :: d))).state.session =
          .loginPending login

/-- In the course of the later events a login was started, and a redirect completed it. -/
def LoggedInSince (c : Coordinator σ) (stored : σ) (events later : List Event) : Prop :=
  ∃ before event now rest login,
    later = before ++ .operation (.handleCallback event) now :: rest ∧
      PendingSince c stored events before login ∧
      (c.handleCallback event now (after c stored (events ++ before)).state).1 =
        .ok .authenticated

theorem LoggedInSince.append (h : LoggedInSince c stored events later) (more : List Event) :
    LoggedInSince c stored events (later ++ more) := by
  obtain ⟨before, event, now, rest, login, rfl, hpending, hanswer⟩ := h
  exact ⟨before, event, now, rest ++ more, login, by simp, hpending, hanswer⟩

theorem JustLoggedOut.state (hc : c.store.IsRegister content) (h : JustLoggedOut c stored events) :
    (after c stored events).state.session = .unauthenticated ∧
      NoTokens content (after c stored events).state := by
  obtain ⟨before, now, revoke, rfl, hok⟩ := h
  rw [after_concat]
  exact logOut_ok hc hok

/-! ## No tokens without a login -/

/-- A pending login stays the one that was started, or it is the one that is started now. -/
theorem PendingSince.concat {login : PendingLogin}
    (hbefore : ∀ login, (after c stored (events ++ later)).state.session = .loginPending login →
      PendingSince c stored events later login)
    (hsession : (after c stored (events ++ (later ++ [e]))).state.session = .loginPending login) :
    PendingSince c stored events (later ++ [e]) login := by
  have hstep := after_append_concat c stored events later e
  have hkept : (after c stored (events ++ later)).state.session = .loginPending login →
      PendingSince c stored events (later ++ [e]) login := by
    intro hpending
    obtain ⟨before, redirect?, now, during, rfl, hstarts, hduring⟩ := hbefore login hpending
    refine ⟨before, redirect?, now, during ++ [e], by simp, hstarts, fun d hinit => ?_⟩
    rcases List.prefix_concat_iff.1 hinit with rfl | hinit
    · simpa using hsession
    · exact hduring d hinit
  have hafter := hsession
  rw [hstep] at hafter
  cases step_effect c (after c stored (events ++ later)) e with
  | redirect old tokens event now he hold hanswer hthen => rw [hthen] at hafter; cases hafter
  | answer previous tokens hold hthen => rw [hthen] at hafter; cases hafter
  | mark tokens refresh hold hrefresh hthen => rw [hthen] at hafter; cases hafter
  | restore previous hrotate hold hthen => rw [hthen] at hafter; cases hafter
  | login started redirect? now he hstarts =>
    subst he
    have hsame : started = login := by
      have hthen : ((after c stored (events ++ later)).step c
          (.operation (.beginLogin redirect?) now)).state.session = .loginPending started :=
        hstarts.2
      rw [hthen] at hafter
      exact Session.loginPending.inj hafter
    subst hsame
    refine ⟨later, redirect?, now, [], rfl, hstarts, fun d hinit => ?_⟩
    rw [List.prefix_nil.1 hinit]
    exact hsession
  | nothing h =>
    rcases h with h | h | ⟨error, h⟩
    · exact hkept (h.symm.trans hafter)
    · rw [h] at hafter; cases hafter
    · rw [h] at hafter; cases hafter

/-- **Without a login that was started later there are no tokens**, and a login that is pending was
started later. -/
theorem after_logOut (hc : c.store.IsRegister content) (h : JustLoggedOut c stored events)
    (later : List Event) :
    LoggedInSince c stored events later ∨
      NoTokens content (after c stored (events ++ later)).state ∧
        ∀ login, (after c stored (events ++ later)).state.session = .loginPending login →
          PendingSince c stored events later login := by
  obtain ⟨hout, hnone⟩ := h.state hc
  induction later using List.reverseRecOn with
  | nil =>
    rw [List.append_nil]
    exact Or.inr ⟨hnone, fun login hpending => by rw [hout] at hpending; cases hpending⟩
  | append_singleton es e ih =>
    rcases ih with hin | ⟨hes, hpending⟩
    · exact Or.inl (hin.append [e])
    have hstep := after_append_concat c stored events es e
    have htokens := hes.session
    -- A session without tokens gets some only from a redirect, and then a login was pending.
    have hquiet : (after c stored (events ++ (es ++ [e]))).state.session.tokens? = none →
        LoggedInSince c stored events (es ++ [e]) ∨
          NoTokens content (after c stored (events ++ (es ++ [e]))).state ∧
            ∀ login,
              (after c stored (events ++ (es ++ [e]))).state.session = .loginPending login →
                PendingSince c stored events (es ++ [e]) login := by
      intro hafter
      refine Or.inr ⟨?_, fun login hsession => PendingSince.concat hpending hsession⟩
      have hmove := step_move c (after c stored (events ++ es)) e
      rw [← hstep] at hmove
      rcases hmove.state_cases with ht | ⟨i, f, tokens, refresh, _, _, _, hsession, _⟩
      · exact ht.noTokens hc hes hafter
      · rw [hsession] at htokens; cases htokens
    cases step_effect c (after c stored (events ++ es)) e with
    | redirect login tokens event now he hsession hanswer hthen =>
      subst he
      exact Or.inl ⟨es, event, now, [], login, rfl, hpending login hsession, hanswer⟩
    | answer previous tokens hsession hthen => rw [hsession] at htokens; cases htokens
    | mark tokens refresh hsession hrefresh hthen => rw [hsession] at htokens; cases htokens
    | restore previous hrotate hsession hthen => rw [hsession] at htokens; cases htokens
    | login login redirect? now he hstarts =>
      subst he
      refine hquiet ?_
      rw [hstep]
      show (c.beginLogin redirect? now (after c stored (events ++ es)).state).2.session.tokens? =
        none
      rw [hstarts.2]
      rfl
    | nothing h =>
      refine hquiet ?_
      rw [hstep]
      rcases h with h | h | ⟨error, h⟩
      · rw [h]; exact htokens
      · rw [h]; rfl
      · rw [h]; rfl

/-! ## Answers that were out -/

/-- A flight stays the flight of the same token, and once it has begun it has begun. -/
theorem Move.flight (h : Move c m e m') {i : Nat} {f : Flight} (hf : m.flights[i]? = some f) :
    ∃ g, m'.flights[i]? = some g ∧ g.stale = f.stale ∧
      (f.phase ≠ .waiting → g.phase ≠ .waiting) := by
  have hset : ∀ {j : Nat} {g g' : Flight}, m.flights[j]? = some g → g'.stale = g.stale →
      (g.phase ≠ .waiting → g'.phase ≠ .waiting) →
      ∃ g'', (m.flights.set j g')[i]? = some g'' ∧ g''.stale = f.stale ∧
        (f.phase ≠ .waiting → g''.phase ≠ .waiting) := by
    intro j g g' hg hstale hphase
    by_cases hji : j = i
    · subst hji
      rw [hf] at hg; cases hg
      exact ⟨g', getElem?_set_same hf, hstale, hphase⟩
    · exact ⟨f, by rw [List.getElem?_set_ne hji, hf], rfl, id⟩
  cases h with
  | depart stale hnone => exact ⟨f, getElem?_concat_of_some _ hf, rfl, id⟩
  | settle j g result state hg hwait hbegin ht => exact hset hg rfl (by simp)
  | ask j g tokens refresh hg hwait hsession haccess hrefresh => exact hset hg rfl (by simp)
  | finish j g outcome now hg hrequest => exact hset hg rfl (by simp)
  | observe k j g result hk hg hfin => exact hset hg rfl id
  | _ => exact ⟨f, hf, rfl, id⟩

theorem flight_after {i : Nat} {f : Flight} (hf : (after c stored events).flights[i]? = some f)
    (later : List Event) :
    ∃ g, (after c stored (events ++ later)).flights[i]? = some g ∧ g.stale = f.stale ∧
      (f.phase ≠ .waiting → g.phase ≠ .waiting) := by
  induction later using List.reverseRecOn with
  | nil => exact ⟨f, by rw [List.append_nil]; exact hf, rfl, id⟩
  | append_singleton es e ih =>
    obtain ⟨g, hg, hstale, hphase⟩ := ih
    rw [← List.append_assoc]
    obtain ⟨g', hg', hstale', hphase'⟩ := (after_concat_move c stored (events ++ es) e).flight hg
    exact ⟨g', hg', hstale'.trans hstale, fun h => hphase' (hphase h)⟩

/-- A flight for this token had not begun. After a login that was completed since, it found the new
session with the very same token, and it works for that session. -/
def BegunSince (c : Coordinator σ) (stored : σ) (events later : List Event) (i : Nat)
    (stale : AccessToken) : Prop :=
  ∃ before during tokens, later = before ++ .begin i :: during ∧
    LoggedInSince c stored events before ∧
    (after c stored (events ++ before)).state.session = .authenticated tokens ∧
    tokens.access = stale

/-- The second section of a flight has no effect on session and store, unless a refresh is pending
that the flight itself asked for. -/
theorem finish_cases (c : Coordinator σ) (stored : σ) (events : List Event) (i : Nat)
    (outcome : Except RefreshFailure RefreshResponse) (now : Timestamp) :
    ((after c stored events).finish c i outcome now).state = (after c stored events).state ∨
      ∃ tokens, (after c stored events).Refreshing i tokens ∧
        TookOver c stored events i tokens := by
  generalize hm : after c stored events = m
  unfold finish
  split
  · rename_i f hf
    split
    · rename_i hphase
      cases hsession : m.state.session with
      | refreshPending tokens =>
        rw [← hm] at hsession
        obtain ⟨j, hr, htook⟩ := after_refreshing c stored events tokens hsession
        rw [← hm] at hf
        have hij : j = i := (after_slotInv c stored events).flying_unique hr.flying
          ⟨f, hf, by simp [Flight.result?, hphase]⟩
        subst hij
        exact Or.inr ⟨tokens, hm ▸ hr, htook⟩
      | _ => exact Or.inl (by simp only [endRefresh, hsession])
    · exact Or.inl rfl
  · exact Or.inl rfl

/-- **An answer that arrives after a log-out changes nothing**, unless its flight has begun since
for a session that came later. -/
theorem finish_after_logOut (hc : c.store.IsRegister content) (h : JustLoggedOut c stored events)
    (later : List Event) {i : Nat} {f : Flight} (hf : (after c stored events).flights[i]? = some f)
    (outcome : Except RefreshFailure RefreshResponse) (now : Timestamp) :
    ((after c stored (events ++ later)).finish c i outcome now).state =
        (after c stored (events ++ later)).state ∨
      f.phase = .waiting ∧ BegunSince c stored events later i f.stale := by
  rcases finish_cases c stored (events ++ later) i outcome now with hsame | ⟨tokens, hr, htook⟩
  · exact Or.inl hsame
  obtain ⟨hout, _⟩ := h.state hc
  obtain ⟨before, during, hsplit, hfound, hduring⟩ := htook
  right
  -- The session was without tokens in between, so the flight took them over after that.
  rcases List.append_eq_append_iff.1 hsplit with ⟨a, rfl, rfl⟩ | ⟨a, rfl, ha⟩
  · have hin : LoggedInSince c stored events a := by
      rcases after_logOut hc h a with hin | ⟨hnone, _⟩
      · exact hin
      · have htokens := hnone.session
        rw [hfound] at htokens
        cases htokens
    obtain ⟨g, hg, hgstale, hgphase⟩ := flight_after hf a
    obtain ⟨g', _, hg', _, hstale, _, _⟩ := hr
    obtain ⟨g'', hg'', hstale', _⟩ := flight_after hf (a ++ .begin i :: during)
    rw [hg'] at hg''; cases hg''
    refine ⟨?_, a, during, tokens, rfl, hin, hfound, hstale.symm.trans hstale'⟩
    -- It was waiting when it began, for a flight that has begun does not begin again.
    refine Classical.byContradiction fun hphase => ?_
    have hidle : (after c stored (events ++ a)).begin c i = after c stored (events ++ a) := by
      cases hwait : g.phase with
      | waiting => exact absurd hwait (hgphase hphase)
      | requesting => simp only [begin, hg, hwait]
      | finished r => simp only [begin, hg, hwait]
    have hpending := hduring [] List.nil_prefix
    rw [after_concat] at hpending
    replace hpending : ((after c stored (events ++ a)).begin c i).state.session =
      .refreshPending tokens := hpending
    rw [hidle, hfound] at hpending
    cases hpending
  · exfalso
    cases a with
    | nil =>
      rw [List.append_nil] at hout
      rw [hfound] at hout
      cases hout
    | cons e a =>
      obtain ⟨rfl, rfl⟩ := List.cons.inj ha
      have hpending := hduring a (List.prefix_append a later)
      rw [hout] at hpending
      cases hpending

/-- **Logging out wins.** From the section that logs out on, session and store are without tokens,
whatever was under way and whatever happens, until a redirect completes a login that was started
later. The answer to a refresh that was out at that moment never touches session or store, even in
a later session that waits for a refresh of its own. Nor does the answer to a refresh that had not
begun, unless it begins in such a session, whose token it was started for. -/
theorem log_out_wins (hc : c.store.IsRegister content) (h : JustLoggedOut c stored events)
    (later : List Event) :
    (LoggedInSince c stored events later ∨
      NoTokens content (after c stored (events ++ later)).state) ∧
    (∀ i f outcome now, (after c stored events).flights[i]? = some f → f.phase = .requesting →
      ((after c stored (events ++ later)).finish c i outcome now).state =
        (after c stored (events ++ later)).state) ∧
    ∀ i f outcome now, (after c stored events).flights[i]? = some f → f.phase = .waiting →
      ((after c stored (events ++ later)).finish c i outcome now).state =
          (after c stored (events ++ later)).state ∨
        BegunSince c stored events later i f.stale := by
  refine ⟨?_, fun i f outcome now hf hphase => ?_, fun i f outcome now hf _ => ?_⟩
  · rcases after_logOut hc h later with hin | ⟨hnone, _⟩
    · exact Or.inl hin
    · exact Or.inr hnone
  · rcases finish_after_logOut hc h later hf outcome now with hsame | ⟨hwait, _⟩
    · exact hsame
    · rw [hphase] at hwait; cases hwait
  · rcases finish_after_logOut hc h later hf outcome now with hsame | ⟨_, hbegun⟩
    · exact Or.inl hsame
    · exact Or.inr hbegun

/-- A refresh is out when its session is logged out. A new login completes and a caller of the new
session joins the flight, and then the answer arrives. -/
theorem answer_after_log_out_is_dropped :
    let c := Coordinator.ofConfig .default Register.store
    let old : TokenSet := ⟨⟨"a1", by decide⟩, some ⟨"r1", by decide⟩, ⟨0, 0⟩⟩
    let new : TokenSet := ⟨⟨"n1", by decide⟩, some ⟨"s1", by decide⟩, ⟨62, 0⟩⟩
    let events : List Event := [.call old.access, .begin 0, .operation .logOut ⟨60, 0⟩]
    let later : List Event :=
      [.operation (.beginLogin none) ⟨61, 0⟩,
       .operation (.handleCallback ⟨.deepLink, "authlink://auth?token=n1&refresh_token=s1"⟩)
         ⟨62, 0⟩,
       .call new.access]
    let m := after c (.holding (some old)) (events ++ later)
    c.store.IsRegister Register.content ∧ JustLoggedOut c (.holding (some old)) events ∧
      m.state.session = .authenticated new ∧ m.state.stored.content = some new ∧
      (m.finish c 0 (.ok ⟨"a2", some "r2", none⟩) ⟨63, 0⟩).state = m.state := by
  intro c old new events later m
  have hout : JustLoggedOut c (.holding (some old)) events :=
    ⟨[.call old.access, .begin 0], ⟨60, 0⟩, some old.access, rfl, rfl⟩
  have hasking : (after c (.holding (some old)) events).flights[0]? =
      some ⟨old.access, old.refresh, .requesting, false⟩ := rfl
  obtain ⟨_, hdropped, _⟩ := log_out_wins (c := c) register_isRegister hout later
  exact ⟨register_isRegister, hout, by decide +kernel, by decide +kernel,
    hdropped 0 _ (.ok ⟨"a2", some "r2", none⟩) ⟨63, 0⟩ hasking rfl⟩

/-- A refresh is asked for before the log-out and has not begun. A new login brings the access token
it was asked for, with another refresh token; then the refresh begins, and its answer replaces the
tokens of the new session, in the store too. -/
theorem unbegun_refresh_outlives_log_out :
    let c := Coordinator.ofConfig .default Register.store
    let old : TokenSet := ⟨⟨"a1", by decide⟩, some ⟨"r1", by decide⟩, ⟨0, 0⟩⟩
    let new : TokenSet := ⟨⟨"a1", by decide⟩, some ⟨"s1", by decide⟩, ⟨62, 0⟩⟩
    let renewed : TokenSet := ⟨⟨"a3", by decide⟩, some ⟨"r3", by decide⟩, ⟨63, 0⟩⟩
    let events : List Event := [.call old.access, .operation .logOut ⟨60, 0⟩]
    let later : List Event :=
      [.operation (.beginLogin none) ⟨61, 0⟩,
       .operation (.handleCallback ⟨.deepLink, "authlink://auth?token=a1&refresh_token=s1"⟩)
         ⟨62, 0⟩,
       .begin 0]
    let m := after c (.holding (some old)) (events ++ later)
    let answered := (m.finish c 0 (.ok ⟨"a3", some "r3", none⟩) ⟨63, 0⟩).state
    c.store.IsRegister Register.content ∧ JustLoggedOut c (.holding (some old)) events ∧
      (after c (.holding (some old)) events).flights[0]? =
        some ⟨old.access, none, .waiting, false⟩ ∧
      m.state.session = .refreshPending new ∧ m.state.stored.content = some new ∧
      answered.session = .authenticated renewed ∧ answered.stored.content = some renewed := by
  intro c old new renewed events later m answered
  have hout : JustLoggedOut c (.holding (some old)) events :=
    ⟨[.call old.access], ⟨60, 0⟩, some old.access, rfl, rfl⟩
  exact ⟨register_isRegister, hout, rfl, by decide +kernel, by decide +kernel, by decide +kernel,
    by decide +kernel⟩

end Machine

end RedirectLogin.Coordinator
