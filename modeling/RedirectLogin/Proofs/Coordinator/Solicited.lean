import RedirectLogin.Proofs.Coordinator.Lifecycle
import RedirectLogin.Proofs.Coordinator.LogOut

/-!
# Logins that were asked for

A redirect completes a login only if somebody has asked for that login, not too long ago, and
nothing has ended it since. In between the login stays what it is: whoever asks again gets the same
URL, and the time it began does not move. The first redirect that is taken in ends it, with tokens
or with an error, and so does the first one that comes too late; any further one finds nothing to
complete until another login is started.

Principal results: `pending_asked` — where a pending login comes from, and what has happened since;
`consume_once` — what redirects do while no login is started; `logins_are_solicited` — both, with
the time limit of a configuration.
-/

set_option autoImplicit false

namespace RedirectLogin.Coordinator

variable {σ : Type} {c : Coordinator σ} {s : State σ} {login : PendingLogin}

/-! ## Answers to redirects -/

/-- An answer that says that a pending login has ended, with tokens or with an error. -/
def Consumes : Except SessionError LoginOutcome → Prop
  | .ok .authenticated => True
  | .ok _ => False
  | .error (.untrustedOrigin _) => False
  | .error _ => True

/-- What a login is told ends it, whatever comes of it. -/
theorem finishLogin_consumes {event : CallbackEvent} {result : Except SessionError CallbackResult}
    (h : c.receiver.Tells event result) (now : Timestamp) (s : State σ) :
    Consumes (c.finishLogin result now s).1 ∧
      (c.finishLogin result now s).2.session.pending? = none := by
  cases h with
  | malformed => exact ⟨trivial, rfl⟩
  | @result found =>
    cases found with
    | error code description => exact ⟨trivial, rfl⟩
    | token access refresh =>
      simp only [finishLogin, keepTokens]
      split
      · exact ⟨trivial, rfl⟩
      · rename_i e stored hsave
        obtain ⟨e', _, rfl⟩ := attemptTwice_fails hsave
        exact ⟨trivial, rfl⟩

/-- **A redirect ends a login** if one is pending that is still good; **otherwise it is ignored**, and
the store is not touched. No login is pending after it. -/
theorem handleCallback_told {event : CallbackEvent} {result : Except SessionError CallbackResult}
    (h : c.receiver.Tells event result) (now : Timestamp) (s : State σ) :
    (c.handleCallback event now s).2.session.pending? = none ∧
      ((∃ login, s.session = .loginPending login ∧ login.isStale now c.loginTimeout = false ∧
          Consumes (c.handleCallback event now s).1) ∨
        (∀ login, s.session = .loginPending login → login.isStale now c.loginTimeout = true) ∧
          (c.handleCallback event now s).1 = .ok .ignored ∧
          (c.handleCallback event now s).2.stored = s.stored) := by
  rw [handleCallback_of_tells h]
  rcases consume_eq c result now s with ⟨login, hlogin, hgood, heq⟩ | ⟨hstale, heq⟩
  · rw [heq]
    obtain ⟨hconsumes, hpending⟩ := finishLogin_consumes h now s
    exact ⟨hpending, Or.inl ⟨login, hlogin, hgood, hconsumes⟩⟩
  · rw [heq]
    refine ⟨?_, Or.inr ⟨hstale, rfl, rfl⟩⟩
    rcases expireLogin_cases c now s with ⟨hs, hgood⟩ | ⟨_, _, _, hs⟩
    · rw [hs]
      cases hsession : s.session with
      | loginPending login =>
        have := hstale login hsession
        rw [hgood login hsession] at this
        cases this
      | _ => rfl
    · rw [hs]
      rfl

/-- A redirect is taken in only by a login that is still good, and is trusted or no URL. -/
theorem handleCallback_consumes {event : CallbackEvent} {now : Timestamp}
    (h : Consumes (c.handleCallback event now s).1) :
    ∃ login result, s.session = .loginPending login ∧
      login.isStale now c.loginTimeout = false ∧ c.receiver.Tells event result := by
  rcases handleCallback_reads c event now s with ⟨_, hanswer⟩ | ⟨result, htells, _⟩
  · rcases hanswer with hanswer | ⟨origin, hanswer⟩
    · rw [hanswer] at h; cases h
    · rw [hanswer] at h; cases h
  · rcases (handleCallback_told htells now s).2 with ⟨login, hlogin, hgood, _⟩ | ⟨_, hignored, _⟩
    · exact ⟨login, result, hlogin, hgood, htells⟩
    · rw [hignored] at h; cases h

/-- A redirect that completes a login is trusted and brings its token. -/
theorem handleCallback_brings {event : CallbackEvent} {now : Timestamp}
    (h : (c.handleCallback event now s).1 = .ok .authenticated) :
    ∃ u, c.receiver.BringsToken event u := by
  rcases handleCallback_reads c event now s with ⟨_, hanswer⟩ | ⟨result, htells, heq⟩
  · rcases hanswer with hanswer | ⟨origin, hanswer⟩
    · rw [hanswer] at h; cases h
    · rw [hanswer] at h; cases h
  · rw [heq] at h
    rcases consume_eq c result now s with ⟨login, _, _, htaken⟩ | ⟨_, hignored⟩
    · rw [htaken] at h
      cases htells with
      | malformed => cases h
      | @result found hreceive =>
        cases found with
        | error code description => cases h
        | token access refresh =>
          exact CallbackReceiver.receive_eq_token_iff.1 ⟨access, refresh, hreceive⟩
    · rw [hignored] at h; cases h

/-! ## Requests for a login -/

/-- A login that starts, starts now, and its URL is the answer. -/
theorem StartsLogin.answer {redirect? : Option String} {now : Timestamp}
    (h : StartsLogin c s redirect? now login) :
    login.startedAt = now ∧ (c.beginLogin redirect? now s).1 = .ok login.loginUrl := by
  obtain ⟨hold, hafter⟩ := h
  have hmay : MayLogIn c now s.session := by
    cases hsession : s.session with
    | unauthenticated => exact .unauthenticated
    | failed e => exact .failed e
    | loginPending old => exact .stale old (hold old hsession)
    | authenticated tokens =>
      simp [beginLogin, expireLogin, Session.expire, Session.isStale, Session.pending?,
        hsession] at hafter
    | refreshPending tokens =>
      simp [beginLogin, expireLogin, Session.expire, Session.isStale, Session.pending?,
        hsession] at hafter
  rw [beginLogin_of_mayLogIn hmay] at hafter ⊢
  unfold startLogin at hafter ⊢
  split
  · rename_i e hurl
    rw [hurl] at hafter
    rcases expireLogin_cases c now s with ⟨hs, hgood⟩ | ⟨_, _, _, hs⟩
    · simp only [hs] at hafter
      have := hold login hafter
      rw [hgood login hafter] at this
      cases this
    · simp only [hs] at hafter
      cases hafter
  · rename_i url hurl
    rw [hurl] at hafter
    cases hafter
    exact ⟨rfl, rfl⟩

/-- Whoever asks for a login while one is pending that does not move gets its URL. -/
theorem beginLogin_same {redirect? : Option String} {now : Timestamp}
    (h : s.session = .loginPending login)
    (hafter : (c.beginLogin redirect? now s).2.session = .loginPending login) :
    (c.beginLogin redirect? now s).1 = .ok login.loginUrl := by
  cases hstale : login.isStale now c.loginTimeout with
  | false =>
    simp [beginLogin, expireLogin, Session.expire, Session.isStale, Session.pending?, h, hstale]
  | true =>
    have hstarts : StartsLogin c s redirect? now login :=
      ⟨fun old hold => by rw [h] at hold; cases hold; exact hstale, hafter⟩
    exact hstarts.answer.2

/-! ## Time -/

/-- What the clock shows at an event that reads it. -/
def Event.time? : Event → Option Timestamp
  | .finish _ _ now => some now
  | .operation _ now => some now
  | _ => none

/-- The clock does not go back in the course of a run. -/
def Chronological (events : List Event) : Prop :=
  (events.filterMap Event.time?).Pairwise (fun a b => 0 ≤ b.since a)

instance (events : List Event) : Decidable (Chronological events) :=
  inferInstanceAs (Decidable (List.Pairwise _ _))

/-- What the clock shows at an event is not before what it showed at an earlier one. -/
theorem Chronological.since_nonneg {events before during : List Event} {e e' : Event}
    {now now' : Timestamp} (h : Chronological events)
    (hevents : events = before ++ e :: (during ++ [e'])) (he : e.time? = some now)
    (he' : e'.time? = some now') : 0 ≤ now'.since now := by
  subst hevents
  unfold Chronological at h
  rw [List.filterMap_append, List.filterMap_cons_some he, List.filterMap_append] at h
  have hlast := (List.pairwise_cons.1 (List.pairwise_append.1 h).2.1).1
  exact hlast now' (by simp [he'])

namespace Machine

variable {m : Machine σ} {e : Event} {stored : σ} {events later : List Event}

/-! ## From the request to the redirect -/

/-- An event leaves the pending login alone: nobody logs out, no redirect is taken in, and whoever
asks for a login gets the same URL. -/
structure LeavesAlone (c : Coordinator σ) (m : Machine σ) (login : PendingLogin) (e : Event) :
    Prop where
  pending : m.state.session = .loginPending login
  noLogOut : ∀ now, e ≠ .operation .logOut now
  notConsumed : ∀ event now, e = .operation (.handleCallback event) now →
    ¬ Consumes (c.handleCallback event now m.state).1
  sameUrl : ∀ redirect? now, e = .operation (.beginLogin redirect?) now →
    (c.beginLogin redirect? now m.state).1 = .ok login.loginUrl

/-- The login was asked for: one event started it, and all events since have left it alone. -/
def AskedFor (c : Coordinator σ) (stored : σ) (events : List Event) (login : PendingLogin) : Prop :=
  ∃ before redirect? during,
    events = before ++ .operation (.beginLogin redirect?) login.startedAt :: during ∧
    StartsLogin c (after c stored before).state redirect? login.startedAt login ∧
    (c.beginLogin redirect? login.startedAt (after c stored before).state).1 =
      .ok login.loginUrl ∧
    ∀ d e, d ++ [e] <+: during →
      LeavesAlone c
        (after c stored (before ++ .operation (.beginLogin redirect?) login.startedAt :: d)) login e

/-- An event after which the login is still pending has left it alone. -/
theorem leavesAlone_of_kept (h : m.state.session = .loginPending login)
    (hafter : (m.step c e).state.session = .loginPending login) : LeavesAlone c m login e where
  pending := h
  noLogOut := by
    rintro now rfl
    have hforget : (m.step c (.operation .logOut now)).state = (c.forgetTokens m.state).2 := rfl
    rw [hforget] at hafter
    unfold forgetTokens at hafter
    split at hafter <;> cases hafter
  notConsumed := by
    rintro event now rfl hconsumes
    obtain ⟨_, result, _, _, htells⟩ := handleCallback_consumes hconsumes
    have hnone := (handleCallback_told htells now m.state).1
    have hstate : (m.step c (.operation (.handleCallback event) now)).state =
        (c.handleCallback event now m.state).2 := rfl
    rw [← hstate, hafter] at hnone
    cases hnone
  sameUrl := by
    rintro redirect? now rfl
    exact beginLogin_same h hafter

/-- A login that is pending was started by an event of the run, and is pending since. -/
theorem pending_since (c : Coordinator σ) (stored : σ) (events : List Event)
    (login : PendingLogin) (h : (after c stored events).state.session = .loginPending login) :
    PendingSince c stored [] events login := by
  induction events using List.reverseRecOn generalizing login with
  | nil =>
    exfalso
    rw [after_nil] at h
    change (c.start stored).session = .loginPending login at h
    rcases start_cases c stored with ⟨found, t, _, hs⟩ | ⟨e, t, _, hs⟩
    · rw [hs] at h
      cases found <;> cases h
    · rw [hs] at h
      cases h
  | append_singleton es e ih => exact PendingSince.concat (fun login h => ih login h) h

/-- **A login that is pending was asked for.** -/
theorem pending_asked (h : (after c stored events).state.session = .loginPending login) :
    AskedFor c stored events login := by
  obtain ⟨before, redirect?, now, during, rfl, hstarts, hduring⟩ :=
    pending_since c stored events login h
  obtain ⟨rfl, hanswer⟩ := hstarts.answer
  refine ⟨before, redirect?, during, rfl, hstarts, hanswer, fun d e hinit => ?_⟩
  have hpending := hduring d ((List.prefix_append d [e]).trans hinit)
  have hkept := hduring (d ++ [e]) hinit
  rw [List.nil_append, ← List.cons_append, after_append_concat] at hkept
  exact leavesAlone_of_kept hpending hkept

/-! ## After the redirect -/

/-- One of the later events starts a login. -/
def StartsOneOf (c : Coordinator σ) (stored : σ) (events later : List Event) : Prop :=
  ∃ before redirect? now rest login, later = before ++ .operation (.beginLogin redirect?) now :: rest ∧
    StartsLogin c (after c stored (events ++ before)).state redirect? now login

theorem StartsOneOf.append (h : StartsOneOf c stored events later) (more : List Event) :
    StartsOneOf c stored events (later ++ more) := by
  obtain ⟨before, redirect?, now, rest, login, rfl, hstarts⟩ := h
  exact ⟨before, redirect?, now, rest ++ more, login, by simp, hstarts⟩

/-- No event but the start of a login makes one pending. -/
theorem step_notPending (h : m.state.session.pending? = none) :
    (m.step c e).state.session.pending? = none ∨
      ∃ redirect? now login, e = .operation (.beginLogin redirect?) now ∧
        StartsLogin c m.state redirect? now login := by
  cases step_effect c m e with
  | redirect login tokens event now he hsession => rw [hsession] at h; cases h
  | answer previous tokens hsession hafter => exact Or.inl (by rw [hafter]; rfl)
  | mark tokens refresh hsession hrefresh hafter => exact Or.inl (by rw [hafter]; rfl)
  | restore previous hrotate hsession hafter => exact Or.inl (by rw [hafter]; rfl)
  | login login redirect? now he hstarts => exact Or.inr ⟨redirect?, now, login, he, hstarts⟩
  | nothing hkept =>
    left
    rcases hkept with hkept | hkept | ⟨error, hkept⟩
    · rw [hkept]; exact h
    · rw [hkept]; rfl
    · rw [hkept]; rfl

theorem after_notPending (h : (after c stored events).state.session.pending? = none)
    (later : List Event) :
    StartsOneOf c stored events later ∨
      (after c stored (events ++ later)).state.session.pending? = none := by
  induction later using List.reverseRecOn with
  | nil => exact Or.inr (by rw [List.append_nil]; exact h)
  | append_singleton es e ih =>
    rcases ih with hstarts | hes
    · exact Or.inl (hstarts.append [e])
    · rw [after_append_concat]
      rcases step_notPending (c := c) (e := e) hes with hafter | ⟨redirect?, now, login, rfl, hstarts⟩
      · exact Or.inr hafter
      · exact Or.inl ⟨es, redirect?, now, [], login, rfl, hstarts⟩

/-- **A login takes in one redirect at most.** After a redirect that told it something, or came too
late for it, further ones are ignored and touch no store, until another login is started. -/
theorem consume_once {event again : CallbackEvent}
    {result result' : Except SessionError CallbackResult} (now now' : Timestamp)
    (h : c.receiver.Tells event result) (h' : c.receiver.Tells again result')
    (hnone : ¬ StartsOneOf c stored (events ++ [.operation (.handleCallback event) now]) later) :
    let s := (after c stored
      (events ++ [.operation (.handleCallback event) now] ++ later)).state
    (c.handleCallback again now' s).1 = .ok .ignored ∧
      (c.handleCallback again now' s).2.stored = s.stored := by
  intro s
  have hover : (after c stored
      (events ++ [.operation (.handleCallback event) now])).state.session.pending? = none := by
    rw [after_concat]
    exact (handleCallback_told h now (after c stored events).state).1
  have hpending : s.session.pending? = none := by
    rcases after_notPending hover later with hstarts | hpending
    · exact absurd hstarts hnone
    · exact hpending
  rcases (handleCallback_told h' now' s).2 with ⟨login, hlogin, _⟩ | ⟨_, hignored, hstored⟩
  · rw [hlogin] at hpending
    cases hpending
  · exact ⟨hignored, hstored⟩

/-- **Every login is asked for, in time, and taken in once.** A redirect that completes a login is
trusted and brings a token and no error. Somebody has asked for that login, no later than now and
no longer ago than the configuration allows, a year at most, and every event since has left it
alone. After any redirect that told a login something, further ones are ignored and touch no store
until another login is started; and so is one that comes too late for the login that is pending. -/
theorem logins_are_solicited [Application] (config : Config) (store : TokenStore σ) (stored : σ)
    (events : List Event) (event : CallbackEvent) (now : Timestamp)
    (hclock : Chronological (events ++ [.operation (.handleCallback event) now])) :
    let c := Coordinator.ofConfig config store
    let s := (after c stored events).state
    let limit : Int := (min config.loginTimeoutSecs (365 * 24 * 60 * 60) : Nat) * 1000000000
    ((c.handleCallback event now s).1 = .ok .authenticated →
      (∃ u, c.receiver.BringsToken event u) ∧
        ∃ login, AskedFor c stored events login ∧ s.session = .loginPending login ∧
          0 ≤ now.since login.startedAt ∧ now.since login.startedAt ≤ limit) ∧
    (∀ result, c.receiver.Tells event result →
      ∀ later, ¬ StartsOneOf c stored (events ++ [.operation (.handleCallback event) now]) later →
        ∀ again now' result', c.receiver.Tells again result' →
          let t := (after c stored
            (events ++ [.operation (.handleCallback event) now] ++ later)).state
          (c.handleCallback again now' t).1 = .ok .ignored ∧
            (c.handleCallback again now' t).2.stored = t.stored) ∧
    ∀ login result, s.session = .loginPending login → limit < now.since login.startedAt →
      c.receiver.Tells event result →
        (c.handleCallback event now s).1 = .ok .ignored ∧
          (c.handleCallback event now s).2.stored = s.stored := by
  intro c s limit
  have hlimit : c.loginTimeout = limit := rfl
  refine ⟨fun hanswer => ⟨handleCallback_brings hanswer, ?_⟩, fun result htells later hnone => ?_,
    fun login result hlogin hlate htells => ?_⟩
  · have hconsumes : Consumes (c.handleCallback event now s).1 := by rw [hanswer]; trivial
    obtain ⟨login, _, hlogin, hgood, _⟩ := handleCallback_consumes hconsumes
    have hasked := pending_asked hlogin
    refine ⟨login, hasked, hlogin, ?_, ?_⟩
    · obtain ⟨before, redirect?, during, hevents, _⟩ := hasked
      rw [hevents, List.append_assoc, List.cons_append] at hclock
      exact hclock.since_nonneg rfl rfl rfl
    · rw [PendingLogin.isStale, decide_eq_false_iff_not, hlimit] at hgood
      omega
  · exact fun again now' result' htells' => consume_once now now' htells htells' hnone
  · rcases (handleCallback_told htells now s).2 with ⟨other, hother, hgood, _⟩ | ⟨_, hignored⟩
    · rw [hlogin] at hother
      cases hother
      rw [PendingLogin.isStale, decide_eq_false_iff_not, hlimit] at hgood
      exact absurd hlate hgood
    · exact hignored

/-- A login is asked for twice, an untrusted redirect comes in between, and the tokens arrive when
the last nanosecond of the ten minutes has just passed. The same redirect once more is ignored. -/
theorem login_completed_at_the_limit :
    let c := Coordinator.ofConfig .default Register.store
    let token : CallbackEvent := ⟨.deepLink, "authlink://auth?token=n1&refresh_token=s1"⟩
    let events : List Event :=
      [.operation (.beginLogin none) ⟨100, 0⟩, .operation (.beginLogin (some "http://x")) ⟨200, 5⟩,
       .operation (.handleCallback ⟨.loopback, "https://elsewhere?token=t"⟩) ⟨300, 0⟩]
    let m := after c (.holding none) events
    let m' := after c (.holding none)
      (events ++ [.operation (.handleCallback token) ⟨700, 0⟩] ++ [.operation .status ⟨701, 0⟩])
    Chronological (events ++ [.operation (.handleCallback token) ⟨700, 0⟩]) ∧
      (c.handleCallback token ⟨700, 0⟩ m.state).1 = .ok .authenticated ∧
      (∃ login, AskedFor c (.holding none) events login ∧ m.state.session = .loginPending login) ∧
      (c.handleCallback token ⟨702, 0⟩ m'.state).1 = .ok .ignored := by
  intro c token events m m'
  have hclock : Chronological (events ++ [.operation (.handleCallback token) ⟨700, 0⟩]) := by decide
  have hanswer : (c.handleCallback token ⟨700, 0⟩ m.state).1 = .ok .authenticated := by
    decide +kernel
  obtain ⟨hcompleted, honce, _⟩ := logins_are_solicited .default Register.store (.holding none)
    events token ⟨700, 0⟩ hclock
  obtain ⟨⟨u, hbrings⟩, login, hasked, hlogin, _⟩ := hcompleted hanswer
  obtain ⟨access, refresh, hreceive⟩ :=
    CallbackReceiver.receive_eq_token_iff.2 ⟨u, hbrings⟩
  have hnone : ¬ StartsOneOf c (.holding none)
      (events ++ [.operation (.handleCallback token) ⟨700, 0⟩]) [.operation .status ⟨701, 0⟩] := by
    rintro ⟨before, redirect?, now, rest, started, hsplit, _⟩
    cases before with
    | nil => cases hsplit
    | cons e before => cases before <;> cases hsplit
  exact ⟨hclock, hanswer, ⟨login, hasked, hlogin⟩,
    (honce _ (.result hreceive) _ hnone token ⟨702, 0⟩ _ (.result hreceive)).1⟩

end Machine

end RedirectLogin.Coordinator
