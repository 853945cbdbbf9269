import RedirectLogin.Config
import RedirectLogin.Coordinator.Flight
import RedirectLogin.Proofs.Callback
import RedirectLogin.Proofs.Store.Histories

/-!
# The way a redirect came

A redirect is handed over by a link, by the loopback listener or by a navigation of an embedded
browser. It is read the same way each time, but for one thing: a navigation to a web page that would
be refused for its origin is let through instead, and is no callback. The reader of navigations finds
these pages with checks of its own, before the redirect is parsed; they agree with the parser's on
every text.

What follows for a session is that the way makes no difference to it. To say so of the requests to
the store as well, a coordinator is given a store that records them (`Coordinator.recorded`), which
changes nothing else.

Principal results: `isPlainNavigation_iff` — the checks agree; `handleCallback_recorded` — recording
changes nothing; `transports_are_equivalent` — answers, sessions, stores and requests; `run_reroute` —
whole runs.
-/

set_option autoImplicit false

namespace RedirectLogin

/-! ## Reading -/

namespace CallbackReceiver

variable (r : CallbackReceiver) (uri : String)

/-- What a trusted redirect says is never that it is not trusted. -/
theorem ofUrl_ne_untrusted (u : Url) (origin : String) :
    CallbackResult.ofUrl u ≠ .error (.untrustedOrigin origin) := by
  intro h
  rw [CallbackResult.ofUrl_eq] at h
  cases CallbackResult.ofPairs_refused h

/-- **The two checks agree**: let through is a URL of the web that the parser refuses for its origin,
and nothing else. -/
theorem isPlainNavigation_iff :
    r.isPlainNavigation uri = true ↔
      (∃ u, urlOf? uri = some u ∧ u.isWeb = true) ∧
        ∃ origin, r.parse uri = .error (.untrustedOrigin origin) := by
  unfold isPlainNavigation parse
  cases hurl : urlOf? uri with
  | none => simp
  | some u =>
    cases htrust : r.trusts u with
    | true =>
      have hread : ∀ origin, CallbackResult.ofUrl u ≠ .error (.untrustedOrigin origin) :=
        ofUrl_ne_untrusted u
      simp [htrust, hread]
    | false => simp [htrust]

/-- Links go to the parser as they are, and so do the redirects of the listener. -/
theorem receive_deepLink : r.receive ⟨.deepLink, uri⟩ = (r.parse uri).map some := by
  rw [receive, if_neg]
  rintro ⟨hnavigation, -⟩
  cases hnavigation

theorem receive_loopback : r.receive ⟨.loopback, uri⟩ = r.receive ⟨.deepLink, uri⟩ := by
  rw [receive_deepLink, receive, if_neg]
  rintro ⟨hnavigation, -⟩
  cases hnavigation

/-- Navigations are let through, or go to the parser as well. -/
theorem receive_navigation :
    r.receive ⟨.navigation, uri⟩ =
      if r.isPlainNavigation uri = true then .ok none else (r.parse uri).map some := by
  simp only [receive, true_and]

/-- What the parser says is always something. -/
theorem map_some_ne_none {result : Except SessionError CallbackResult} :
    result.map some ≠ .ok none := by
  cases result with
  | error e => nofun
  | ok found => nofun

theorem map_some_eq_error {result : Except SessionError CallbackResult} {e : SessionError} :
    result.map some = .error e ↔ result = .error e := by
  cases result with
  | error refusal => exact ⟨fun h => by cases h; rfl, fun h => by cases h; rfl⟩
  | ok found => exact ⟨nofun, nofun⟩

/-- **A navigation is let through or read like a link**; let through are web pages that a link would
be refused for. -/
theorem receive_navigation_cases :
    (r.receive ⟨.navigation, uri⟩ = .ok none ↔
      (∃ u, urlOf? uri = some u ∧ u.isWeb = true) ∧
        ∃ origin, r.receive ⟨.deepLink, uri⟩ = .error (.untrustedOrigin origin)) ∧
    (r.receive ⟨.navigation, uri⟩ ≠ .ok none →
      r.receive ⟨.navigation, uri⟩ = r.receive ⟨.deepLink, uri⟩) := by
  rw [receive_navigation, receive_deepLink]
  simp only [map_some_eq_error]
  rw [← isPlainNavigation_iff]
  by_cases hplain : r.isPlainNavigation uri = true
  · rw [if_pos hplain]
    exact ⟨⟨fun _ => hplain, fun _ => rfl⟩, fun h => absurd rfl h⟩
  · rw [if_neg hplain]
    exact ⟨⟨fun h => absurd h map_some_ne_none, fun h => absurd h hplain⟩, fun _ => rfl⟩

end CallbackReceiver

/-! ## Requests to the store -/

variable {σ α : Type}

/-- An operation that leaves a record of itself. -/
def recording (request : StoreRequest) (operation : σ → Except StoreError α × σ)
    (s : σ × List StoreRequest) : Except StoreError α × (σ × List StoreRequest) :=
  ((operation s.1).1, ((operation s.1).2, s.2 ++ [request]))

/-- A store that records what it is asked for. -/
def TokenStore.recorded (store : TokenStore σ) : TokenStore (σ × List StoreRequest) where
  name := store.name
  save tokens := recording (.save tokens) (store.save tokens)
  load := recording .load store.load
  clear := recording .clear store.clear

theorem attemptTwice_recording (request : StoreRequest) (operation : σ → Except StoreError α × σ)
    (s : σ) (log : List StoreRequest) :
    ∃ requests, attemptTwice (recording request operation) (s, log) =
      ((attemptTwice operation s).1, ((attemptTwice operation s).2, log ++ requests)) := by
  rcases hfirst : operation s with ⟨first, t⟩
  cases first with
  | ok a => exact ⟨[request], by simp only [attemptTwice, recording, hfirst]⟩
  | error e =>
    refine ⟨[request] ++ [request], ?_⟩
    rcases hsecond : operation t with ⟨second, t'⟩
    cases second with
    | ok a => simp only [attemptTwice, recording, hfirst, hsecond, List.append_assoc]
    | error e' => simp only [attemptTwice, recording, hfirst, hsecond, List.append_assoc]

namespace Coordinator

variable (c : Coordinator σ) (event : CallbackEvent) (now : Timestamp)

/-- The coordinator with a store that records what it is asked for. -/
def recorded : Coordinator (σ × List StoreRequest) where
  store := c.store.recorded
  backend := c.backend
  receiver := c.receiver
  provider := c.provider
  loginTimeout := c.loginTimeout
  rotateRefreshTokens := c.rotateRefreshTokens

/-- A state with a record beside its store. -/
def State.withLog (s : State σ) (log : List StoreRequest) : State (σ × List StoreRequest) :=
  ⟨s.session, (s.stored, log)⟩

theorem expireLogin_withLog (s : State σ) (log : List StoreRequest) :
    c.recorded.expireLogin now (s.withLog log) = (c.expireLogin now s).withLog log := rfl

theorem finishLogin_recorded (result : Except SessionError CallbackResult) (s : State σ)
    (log : List StoreRequest) :
    ∃ requests, c.recorded.finishLogin result now (s.withLog log) =
      ((c.finishLogin result now s).1,
        (c.finishLogin result now s).2.withLog (log ++ requests)) := by
  rcases result with e | access | code
  · exact ⟨[], by rw [List.append_nil]; rfl⟩
  · rename_i refresh
    let tokens : TokenSet := ⟨access, refresh, now⟩
    obtain ⟨requests, hrecorded⟩ :=
      attemptTwice_recording (.save tokens) (c.store.save tokens) s.stored log
    refine ⟨requests, ?_⟩
    have hsave : attemptTwice (c.recorded.store.save tokens) (s.withLog log).stored = _ := hrecorded
    simp only [finishLogin, keepTokens]
    rw [hsave]
    obtain ⟨kept, stored⟩ := attemptTwice (c.store.save tokens) s.stored
    cases kept with
    | ok _ => rfl
    | error e => rfl
  · exact ⟨[], by rw [List.append_nil]; rfl⟩

theorem consume_recorded (result : Except SessionError CallbackResult) (s : State σ)
    (log : List StoreRequest) :
    ∃ requests, c.recorded.consume result now (s.withLog log) =
      ((c.consume result now s).1, (c.consume result now s).2.withLog (log ++ requests)) := by
  unfold consume
  rw [expireLogin_withLog]
  cases hpending : (c.expireLogin now s).session.pending? with
  | none => exact ⟨[], by simp only [State.withLog, hpending, List.append_nil]⟩
  | some login =>
    obtain ⟨requests, h⟩ := c.finishLogin_recorded now result (c.expireLogin now s) log
    exact ⟨requests, by simp only [State.withLog, hpending] at h ⊢; exact h⟩

/-- **Recording changes nothing**: session, store and answer are what they are without it. -/
theorem handleCallback_recorded (s : State σ) (log : List StoreRequest) :
    ∃ requests, c.recorded.handleCallback event now (s.withLog log) =
      ((c.handleCallback event now s).1,
        (c.handleCallback event now s).2.withLog (log ++ requests)) := by
  unfold handleCallback
  have hreceiver : c.recorded.receiver = c.receiver := rfl
  rw [hreceiver]
  split
  · exact ⟨[], by rw [List.append_nil]⟩
  · exact c.consume_recorded now _ s log
  · exact ⟨[], by rw [List.append_nil]⟩
  · exact c.consume_recorded now _ s log

/-! ## Handling -/

/-- A session reads nothing of a redirect but what the receiver says. -/
theorem handleCallback_congr {event event' : CallbackEvent}
    (h : c.receiver.receive event = c.receiver.receive event') (s : State σ) :
    c.handleCallback event now s = c.handleCallback event' now s := by
  rw [handleCallback, h, handleCallback]

theorem handleCallback_let_through {event : CallbackEvent} (h : c.receiver.receive event = .ok none)
    (s : State σ) : c.handleCallback event now s = (.ok .notCallback, s) := by
  rw [handleCallback, h]

variable (uri : String)

theorem handleCallback_loopback (s : State σ) :
    c.handleCallback ⟨.loopback, uri⟩ now s = c.handleCallback ⟨.deepLink, uri⟩ now s :=
  handleCallback_congr c now (c.receiver.receive_loopback uri) s

/-- A navigation that is let through is a link that is refused for its origin. To a session that is
one and the same. -/
theorem handleCallback_navigation (s : State σ) :
    (c.receiver.receive ⟨.navigation, uri⟩ = .ok none →
      c.handleCallback ⟨.navigation, uri⟩ now s = (.ok .notCallback, s) ∧
        ∃ origin, c.handleCallback ⟨.deepLink, uri⟩ now s = (.error (.untrustedOrigin origin), s)) ∧
    (c.receiver.receive ⟨.navigation, uri⟩ ≠ .ok none →
      c.handleCallback ⟨.navigation, uri⟩ now s = c.handleCallback ⟨.deepLink, uri⟩ now s) := by
  obtain ⟨hthrough, hsame⟩ := c.receiver.receive_navigation_cases uri
  refine ⟨fun h => ?_, fun h => handleCallback_congr c now (hsame h) s⟩
  obtain ⟨-, origin, hrefused⟩ := hthrough.1 h
  exact ⟨c.handleCallback_let_through now h s, origin, handleCallback_untrusted c now s hrefused⟩

/-- **The way a redirect came makes no difference to session and store.** -/
theorem handleCallback_state (transport : Transport) (s : State σ) :
    (c.handleCallback ⟨transport, uri⟩ now s).2 = (c.handleCallback ⟨.deepLink, uri⟩ now s).2 := by
  cases transport with
  | deepLink => rfl
  | loopback => rw [handleCallback_loopback]
  | navigation =>
    obtain ⟨hthrough, hsame⟩ := c.handleCallback_navigation now uri s
    by_cases h : c.receiver.receive ⟨.navigation, uri⟩ = .ok none
    · obtain ⟨hnavigated, origin, hlinked⟩ := hthrough h
      rw [hnavigated, hlinked]
    · rw [hsame h]

/-- **Transports are equivalent.** A redirect is read the same way whether a link or the listener
brought it, and a navigation too, except that it is let through exactly if its text, blanks around it
aside, is a URL of the web that a link would be refused for. So every session comes out the same, with
every store, in every state and at every time; the same is asked of the store, as a recording shows;
and the answers are the same but for that exception. -/
theorem transports_are_equivalent (r : CallbackReceiver) :
    (r.receive ⟨.loopback, uri⟩ = r.receive ⟨.deepLink, uri⟩ ∧
      (r.receive ⟨.navigation, uri⟩ = .ok none ↔
        (∃ u, CallbackReceiver.urlOf? uri = some u ∧ u.isWeb = true) ∧
          ∃ origin, r.receive ⟨.deepLink, uri⟩ = .error (.untrustedOrigin origin)) ∧
      (r.receive ⟨.navigation, uri⟩ ≠ .ok none →
        r.receive ⟨.navigation, uri⟩ = r.receive ⟨.deepLink, uri⟩)) ∧
    ∀ (σ : Type) (c : Coordinator σ), c.receiver = r → ∀ now s,
      (∀ transport, (c.handleCallback ⟨transport, uri⟩ now s).2 =
        (c.handleCallback ⟨.deepLink, uri⟩ now s).2) ∧
      (∃ requests, ∀ transport,
        c.recorded.handleCallback ⟨transport, uri⟩ now (s.withLog []) =
          ((c.handleCallback ⟨transport, uri⟩ now s).1,
            (c.handleCallback ⟨transport, uri⟩ now s).2.withLog requests)) ∧
      (c.handleCallback ⟨.loopback, uri⟩ now s).1 = (c.handleCallback ⟨.deepLink, uri⟩ now s).1 ∧
      (r.receive ⟨.navigation, uri⟩ = .ok none →
        (c.handleCallback ⟨.navigation, uri⟩ now s).1 = .ok .notCallback ∧
          ∃ origin,
            (c.handleCallback ⟨.deepLink, uri⟩ now s).1 = .error (.untrustedOrigin origin)) ∧
      (r.receive ⟨.navigation, uri⟩ ≠ .ok none →
        (c.handleCallback ⟨.navigation, uri⟩ now s).1 =
          (c.handleCallback ⟨.deepLink, uri⟩ now s).1) := by
  refine ⟨⟨r.receive_loopback uri, r.receive_navigation_cases uri⟩, ?_⟩
  rintro σ c rfl now s
  obtain ⟨hthrough, hsame⟩ := c.handleCallback_navigation now uri s
  refine ⟨fun transport => c.handleCallback_state now uri transport s, ?_, ?_, fun h => ?_,
    fun h => congrArg Prod.fst (hsame h)⟩
  · obtain ⟨requests, hlinked⟩ := c.handleCallback_recorded ⟨.deepLink, uri⟩ now s []
    refine ⟨requests, fun transport => Prod.ext ?_ ?_⟩
    · obtain ⟨_, hrecorded⟩ := c.handleCallback_recorded ⟨transport, uri⟩ now s []
      rw [hrecorded]
    · rw [handleCallback_state, hlinked, c.handleCallback_state now uri transport s]
      rfl
  · rw [handleCallback_loopback]
  · obtain ⟨hnavigated, origin, hlinked⟩ := hthrough h
    exact ⟨congrArg Prod.fst hnavigated, origin, congrArg Prod.fst hlinked⟩

/-- The page of a provider loads in an embedded browser, and is refused as a link. -/
example :
    let r : CallbackReceiver := ⟨Config.default.allowList⟩
    let uri := "\tHTTPS://Accounts.example/login?token=abc "
    (r.receive ⟨.navigation, uri⟩).toOption = some none ∧
      (r.receive ⟨.deepLink, uri⟩).toOption = none := by
  decide +kernel

/-! ## Runs -/

/-- The same event; if it hands over a redirect, this way. -/
def Event.reroute (transport : Transport) : Event → Event
  | .operation (.handleCallback event) now =>
    .operation (.handleCallback ⟨transport, event.uri⟩) now
  | e => e

theorem Machine.step_reroute (m : Machine σ) (transport : Transport) (e : Event) :
    m.step c (e.reroute transport) = m.step c e := by
  cases e with
  | operation operation now =>
    cases operation with
    | handleCallback event =>
      have hstate : (c.handleCallback ⟨transport, event.uri⟩ now m.state).2 =
          (c.handleCallback event now m.state).2 :=
        (c.handleCallback_state now event.uri transport m.state).trans
          (c.handleCallback_state now event.uri event.transport m.state).symm
      simp only [Event.reroute, Machine.step, Machine.operate, Operation.run, hstate]
    | _ => rfl
  | _ => rfl

/-- **A run stays the same if all its redirects come one way**, with refreshes under way and whatever
else happens. -/
theorem Machine.run_reroute (m : Machine σ) (transport : Transport) (events : List Event) :
    m.run c (events.map (Event.reroute transport)) = m.run c events := by
  induction events generalizing m with
  | nil => rfl
  | cons e events ih => rw [List.map_cons, run_cons, run_cons, step_reroute, ih]

end Coordinator

end RedirectLogin
