import RedirectLogin.Proofs.Coordinator.Lifecycle
import RedirectLogin.Proofs.Coordinator.Revocation

/-!
# What sections do to the store

A session starts with a request to load, a login starts without any, the redirect that completes one
has its tokens saved, and a logout clears the store before anything is sent. Each of these is the
only request of its section, so what becomes of the store can be read off the answer.

Principal results: `handleCallback_stored` — a login is answered exactly when its tokens are saved;
`Client.logOut_stored` — a logout succeeds exactly when the store is cleared.
-/

set_option autoImplicit false

namespace RedirectLogin

namespace Coordinator

variable {σ : Type} (c : Coordinator σ)

/-- A session starts with the tokens that are loaded. -/
theorem start_session {stored : σ} {found : Option TokenSet}
    (h : (attemptTwice c.store.load stored).1 = .ok found) :
    (c.start stored).session = .ofStored found := by
  rcases start_cases c stored with ⟨loaded, t, hload, hstart⟩ | ⟨e, t, hload, -⟩ <;> rw [hload] at h
  · rw [hstart, Except.ok.inj h]
  · cases h

theorem beginLogin_stored (redirect? : Option String) (now : Timestamp) (s : State σ) :
    (c.beginLogin redirect? now s).2.stored = s.stored := by
  have hstart : ∀ t : State σ, (c.startLogin redirect? now t).2.stored = t.stored := by
    intro t
    rw [startLogin]
    split <;> rfl
  have hexpired : (c.expireLogin now s).stored = s.stored := rfl
  rw [← hexpired, beginLogin]
  generalize c.expireLogin now s = t
  rcases t with ⟨_ | _ | _ | _ | _, stored⟩ <;> first | rfl | exact hstart _

/-- **All that a redirect can do to the store** is to have its own tokens saved, and it is answered
with a login exactly when they are. -/
theorem handleCallback_stored (event : CallbackEvent) (now : Timestamp) (s : State σ) :
    (c.handleCallback event now s).1 ≠ .ok .authenticated ∧
        (c.handleCallback event now s).2.stored = s.stored ∨
      ∃ access refresh, c.receiver.receive event = .ok (some (.token access refresh)) ∧
        (c.handleCallback event now s).2.stored =
          (attemptTwice (c.store.save ⟨access, refresh, now⟩) s.stored).2 ∧
        (c.handleCallback event now s).1 =
          (attemptTwice (c.store.save ⟨access, refresh, now⟩) s.stored).1.map
            (fun _ => .authenticated) := by
  rcases handleCallback_reads c event now s with ⟨hsame, hanswer⟩ | ⟨result, htells, htaken⟩
  · refine .inl ⟨?_, by rw [hsame]⟩
    rcases hanswer with h | ⟨origin, h⟩ <;> simp [h]
  · rw [htaken]
    rcases consume_eq c result now s with ⟨-, -, -, hfinish⟩ | ⟨-, hignored⟩
    · rw [hfinish]
      cases htells with
      | malformed hreceive => exact .inl ⟨by simp [finishLogin], rfl⟩
      | @result found hreceive =>
        cases found with
        | error code description => exact .inl ⟨by simp [finishLogin], rfl⟩
        | token access refresh =>
          refine .inr ⟨access, refresh, hreceive, ?_⟩
          simp only [finishLogin, keepTokens]
          rcases attemptTwice (c.store.save ⟨access, refresh, now⟩) s.stored with
            ⟨_ | _, stored⟩ <;> exact ⟨rfl, rfl⟩
    · rw [hignored]
      exact .inl ⟨by simp, rfl⟩

/-- A redirect with tokens ends a pending login in time, if they can be saved. -/
theorem handleCallback_of_save {event : CallbackEvent} {access : AccessToken}
    {refresh : Option RefreshToken} {now : Timestamp} {s : State σ} {login : PendingLogin}
    (hreceive : c.receiver.receive event = .ok (some (.token access refresh)))
    (hpending : s.session = .loginPending login)
    (hgood : login.isStale now c.loginTimeout = false)
    (hsave : (c.store.save ⟨access, refresh, now⟩ s.stored).1 = .ok ()) :
    (c.handleCallback event now s).1 = .ok .authenticated := by
  rw [handleCallback_of_tells (.result hreceive), consume_of_good _ hpending hgood]
  simp only [finishLogin, keepTokens, attemptTwice_of_ok (Prod.ext hsave rfl)]
  rfl

/-- All that a logout does to the store is one request to clear it. -/
theorem logOut_stored (s : State σ) :
    (c.logOut s).2.stored = (attemptTwice c.store.clear s.stored).2 ∧
      (c.logOut s).1 =
        (attemptTwice c.store.clear s.stored).1.map (fun _ => s.session.accessToken?) := by
  unfold logOut forgetTokens
  rcases attemptTwice c.store.clear s.stored with ⟨_ | _, stored⟩ <;> exact ⟨rfl, rfl⟩

end Coordinator

/-! ## Clients at work -/

namespace Client

variable {σ : Type} (client : Client σ)

theorem beginLogin_stored (redirect? : Option String) (l : Live σ) :
    (client.beginLogin redirect? l).2.stored = l.stored :=
  client.coordinator.beginLogin_stored redirect? l.clock l.machine.state

theorem handleCallback_stored (event : CallbackEvent) (l : Live σ) :
    (client.handleCallback event l).1 ≠ .ok .authenticated ∧
        (client.handleCallback event l).2.stored = l.stored ∨
      ∃ access refresh, client.coordinator.receiver.receive event =
          .ok (some (.token access refresh)) ∧
        (client.handleCallback event l).2.stored =
          (attemptTwice (client.coordinator.store.save ⟨access, refresh, l.clock⟩) l.stored).2 ∧
        (client.handleCallback event l).1 =
          (attemptTwice (client.coordinator.store.save ⟨access, refresh, l.clock⟩) l.stored).1.map
            (fun _ => .authenticated) :=
  client.coordinator.handleCallback_stored event l.clock l.machine.state

/-- What is sent after a logout changes neither the store nor the answer. -/
theorem logOut_stored (l : Live σ) :
    (client.logOut l).2.stored = (attemptTwice client.coordinator.store.clear l.stored).2 ∧
      (client.logOut l).1 = (attemptTwice client.coordinator.store.clear l.stored).1 := by
  obtain ⟨hstored, hresult⟩ := client.coordinator.logOut_stored l.machine.state
  have hafter : (Coordinator.afterLogOut client.coordinator l).stored =
      (attemptTwice client.coordinator.store.clear l.stored).2 := hstored
  have hbefore : l.machine.state.stored = l.stored := rfl
  rw [Coordinator.logOut_eq, hresult, ← hafter, hbefore]
  rcases (attemptTwice client.coordinator.store.clear l.stored).1 with e | _
  · exact ⟨rfl, rfl⟩
  · rcases l.machine.state.session.accessToken? with _ | token <;> exact ⟨rfl, rfl⟩

end Client

end RedirectLogin
