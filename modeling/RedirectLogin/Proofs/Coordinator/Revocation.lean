import RedirectLogin.Coordinator.Live
import RedirectLogin.Proofs.Coordinator.LogOut
import RedirectLogin.Proofs.Coordinator.LoggedOut
import RedirectLogin.Proofs.Coordinator.Persistence

/-!
# Revoking the token of a session

Logging out empties the store and then asks the backend to revoke the access token. The token is the
one that the session has. As long as the session knows what the store holds, that is the token that
was removed. After the store has failed, the session may not know: then the token is removed all the
same, but the backend is not told, and whoever has a copy of it can go on using it.

Principal results: `logOut_cases` — what logging out comes to; `stranded_of_storageFailure` — only a
failure of the store separates a session from its tokens; `log_out_revokes` — whether a token that is
removed is revoked, in every state that can be reached; `stranded_token_is_not_revoked` — a run after
which it is not.
-/

set_option autoImplicit false

namespace RedirectLogin

namespace Client

variable {σ : Type} (client : Client σ)

/-- A request that can be built is sent once, whatever the reply; it leaves the machine alone. -/
theorem send_sent {request : Request} {url : Url} (h : request.prepare = .ok url) (l : Live σ) :
    (client.send request l).2.sent = l.sent ++ [⟨request, url⟩] := by
  simp [send, Server.exchange, h]

end Client

namespace Coordinator

open Machine (after)

variable {σ : Type} {c : Coordinator σ} {s : State σ} {content : σ → Option TokenSet}

/-! ## Sessions that have lost sight of their tokens -/

/-- The store holds tokens that the session does not know. -/
structure Stranded (content : σ → Option TokenSet) (s : State σ) : Prop where
  unknown : s.session.tokens? = none
  stored : content s.stored ≠ none

/-- **Only a failure of the store strands tokens**: somewhere along the run the session has failed
for that reason. -/
theorem stranded_of_storageFailure (hc : c.store.IsRegister content) (stored : σ)
    (events : List Event) (h : Stranded content (after c stored events).state) :
    ∃ before e, before <+: events ∧ (after c stored before).state.session = .failed e ∧
      e.kind = .storageFailure := by
  refine Classical.byContradiction fun hnone => ?_
  have hfine : ∀ before e, before <+: events → (after c stored before).state.session = .failed e →
      e.kind ≠ .storageFailure :=
    fun before e hprefix hs hkind => hnone ⟨before, e, hprefix, hs, hkind⟩
  have hemptied : ∀ before, before <+: events → Emptied content (after c stored before).state := by
    intro before hprefix
    induction before using List.reverseRecOn with
    | nil => exact start_emptied hc stored
    | append_singleton es event ih =>
      have hes : es <+: events := (List.prefix_append es [event]).trans hprefix
      exact (Machine.after_concat_move c stored es event).emptied hc (ih hes)
        (fun e hs hkind => absurd hkind (hfine es e hes hs))
  have hlast : events <+: events := List.prefix_refl events
  obtain ⟨hout, hfailed⟩ := hemptied events hlast
  have hunknown := h.unknown
  cases hsession : (after c stored events).state.session with
  | unauthenticated => exact h.stored (hout (by rw [hsession]; trivial))
  | loginPending login => exact h.stored (hout (by rw [hsession]; trivial))
  | failed e => exact h.stored (hfailed e hsession (hfine events e hlast hsession))
  | authenticated tokens => rw [hsession] at hunknown; cases hunknown
  | refreshPending tokens => rw [hsession] at hunknown; cases hunknown

/-! ## Logging out -/

/-- The one request between these two moments asks to revoke the token, and it leaves after the store
has been emptied. -/
def Revokes (content : σ → Option TokenSet) (client : Client σ) (access : AccessToken)
    (l l' : Live σ) : Prop :=
  ∃ cleared : Live σ, content cleared.stored = none ∧ cleared.sent = l.sent ∧
    l' = (client.send (client.coordinator.backend.revokeRequest access) cleared).2

theorem Revokes.sent {client : Client σ} {access : AccessToken} {l l' : Live σ}
    (h : Revokes content client access l l') {url : Url}
    (hurl : (client.coordinator.backend.revokeRequest access).prepare = .ok url) :
    l'.sent = l.sent ++ [⟨client.coordinator.backend.revokeRequest access, url⟩] := by
  obtain ⟨cleared, _, hsent, rfl⟩ := h
  rw [client.send_sent hurl, hsent]

/-- A token to revoke is the one that the session had. -/
theorem logOut_revoke {revoke : Option AccessToken} (h : (c.logOut s).1 = .ok revoke) :
    revoke = s.session.accessToken? := by
  unfold logOut at h
  cases hforget : c.forgetTokens s with
  | mk forgotten t =>
    rw [hforget] at h
    cases forgotten with
    | error e => cases h
    | ok _ => exact (Except.ok.inj h).symm

/-- The moment after the section that logs out. -/
def afterLogOut (c : Coordinator σ) (l : Live σ) : Live σ :=
  { l.tick.2 with machine := { l.machine with state := (c.logOut l.machine.state).2 } }

/-- What is asked for after that section is what the section says. -/
theorem logOut_eq (client : Client σ) (l : Live σ) :
    client.logOut l =
      match (client.coordinator.logOut l.machine.state).1 with
      | .error e => (.error e, afterLogOut client.coordinator l)
      | .ok none => (.ok (), afterLogOut client.coordinator l)
      | .ok (some token) =>
        (.ok (), (client.send (client.coordinator.backend.revokeRequest token)
          (afterLogOut client.coordinator l)).2) := by
  have hsection : l.atomically (fun _ => client.coordinator.logOut) =
      ((client.coordinator.logOut l.machine.state).1, afterLogOut client.coordinator l) := rfl
  rw [Client.logOut, hsection]
  rcases (client.coordinator.logOut l.machine.state).1 with e | (_ | token)
  · rfl
  · rfl
  · rfl

/-- **Logging out fails with the store, or empties it** and has the session's token revoked, if it
has one. -/
theorem logOut_cases (client : Client σ) (hc : client.coordinator.store.IsRegister content)
    (l : Live σ) :
    (∃ e, (client.logOut l).1 = .error e ∧ (client.logOut l).2.sent = l.sent) ∨
      (client.logOut l).1 = .ok () ∧ (client.logOut l).2.session = .unauthenticated ∧
        content (client.logOut l).2.stored = none ∧
        ((∃ access, l.session.accessToken? = some access ∧
            Revokes content client access l (client.logOut l).2) ∨
          l.session.accessToken? = none ∧ (client.logOut l).2.sent = l.sent) := by
  rw [logOut_eq]
  cases hresult : (client.coordinator.logOut l.machine.state).1 with
  | error e => exact Or.inl ⟨e, rfl, rfl⟩
  | ok revoke =>
    obtain ⟨hsession, _, hempty⟩ := logOut_ok hc hresult
    have hrevoke : revoke = l.session.accessToken? := logOut_revoke hresult
    cases revoke with
    | none => exact Or.inr ⟨rfl, hsession, hempty, Or.inr ⟨hrevoke.symm, rfl⟩⟩
    | some access =>
      have hrevokes : Revokes content client access l (client.send
          (client.coordinator.backend.revokeRequest access) (afterLogOut client.coordinator l)).2 :=
        ⟨afterLogOut client.coordinator l, hempty, rfl, rfl⟩
      exact Or.inr ⟨rfl, hsession, hempty, Or.inl ⟨access, hrevoke.symm, hrevokes⟩⟩

/-- The server has no say in what comes of logging out. -/
theorem logOut_server (c : Coordinator σ) (server server' : Server) (l : Live σ) :
    (Client.logOut ⟨c, server'⟩ l).1 = (Client.logOut ⟨c, server⟩ l).1 ∧
      (Client.logOut ⟨c, server'⟩ l).2.machine = (Client.logOut ⟨c, server⟩ l).2.machine ∧
      (Client.logOut ⟨c, server'⟩ l).2.sent = (Client.logOut ⟨c, server⟩ l).2.sent := by
  have hsent : ∀ request m, (Client.send ⟨c, server'⟩ request m).2.sent =
      (Client.send ⟨c, server⟩ request m).2.sent := by
    intro request m
    simp only [Client.send, Server.exchange]
    cases request.prepare <;> rfl
  simp only [logOut_eq]
  rcases (c.logOut l.machine.state).1 with e | (_ | token)
  · exact ⟨rfl, rfl, rfl⟩
  · exact ⟨rfl, rfl, rfl⟩
  · exact ⟨rfl, rfl, hsent _ _⟩

/-- **The token of the session is revoked, once it is gone from the store.** In every state that can
be reached, with or without a refresh on its way and whichever attempts on the store fail: logging
out asks for nothing if it fails, and if the store was empty. If the store held tokens that the
session knows, the one thing it asks for is to revoke their access token, after the store has been
emptied. If the session does not know them, it asks for nothing; this takes a failure of the store
earlier in the run. Neither result nor session nor store depend on what the server replies. -/
theorem log_out_revokes (hc : c.store.IsRegister content) (stored : σ) (events : List Event)
    (server : Server) (l : Live σ) (hl : l.machine = after c stored events) :
    let done := Client.logOut ⟨c, server⟩ l
    (∀ e, done.1 = .error e → done.2.sent = l.sent) ∧
      (done.1 = .ok () →
        done.2.session = .unauthenticated ∧ content done.2.stored = none ∧
        (content l.stored = none → done.2.sent = l.sent) ∧
        ∀ tokens, content l.stored = some tokens →
          l.session.tokens? = some tokens ∧ Revokes content ⟨c, server⟩ tokens.access l done.2 ∨
          l.session.tokens? = none ∧ done.2.sent = l.sent ∧
            ∃ before e, before <+: events ∧ (after c stored before).state.session = .failed e ∧
              e.kind = .storageFailure) ∧
      ∀ server', (Client.logOut ⟨c, server'⟩ l).1 = done.1 ∧
        (Client.logOut ⟨c, server'⟩ l).2.machine = done.2.machine ∧
        (Client.logOut ⟨c, server'⟩ l).2.sent = done.2.sent := by
  intro done
  have hkept : Kept content l.machine.state := by
    rw [hl]
    exact Machine.after_kept hc stored events
  refine ⟨?_, ?_, fun server' => logOut_server c server server' l⟩
  · intro e he
    rcases logOut_cases ⟨c, server⟩ hc l with ⟨e', _, hsent⟩ | ⟨hok, _⟩
    · exact hsent
    · rw [show done.1 = .ok () from hok] at he
      cases he
  · intro hok
    rcases logOut_cases ⟨c, server⟩ hc l with ⟨e, he, _⟩ | ⟨_, hsession, hempty, hsent⟩
    · rw [show done.1 = .error e from he] at hok
      cases hok
    refine ⟨hsession, hempty, fun hnone => ?_, fun tokens htokens => ?_⟩
    · rcases hsent with ⟨access, haccess, _⟩ | ⟨_, hsent⟩
      · obtain ⟨tokens, htokens, _⟩ := Option.map_eq_some_iff.1 haccess
        have := hkept tokens htokens
        rw [show content l.machine.state.stored = none from hnone] at this
        cases this
      · exact hsent
    · rcases hsent with ⟨access, haccess, hrevokes⟩ | ⟨hunknown, hsent⟩
      · obtain ⟨known, hknown, rfl⟩ := Option.map_eq_some_iff.1 haccess
        obtain rfl : known = tokens := Option.some.inj ((hkept known hknown).symm.trans htokens)
        exact Or.inl ⟨hknown, hrevokes⟩
      · have hnone : l.session.tokens? = none := Option.map_eq_none_iff.1 hunknown
        have hstranded : Stranded content (after c stored events).state := by
          rw [← hl]
          refine ⟨hnone, fun h => ?_⟩
          rw [show content l.machine.state.stored = some tokens from htokens] at h
          cases h
        exact Or.inr ⟨hnone, hsent, stranded_of_storageFailure hc stored events hstranded⟩

/-- By default the request that revokes `a1` can be built. -/
theorem prepare_revokeRequest :
    ∃ url, ((Backend.ofConfig .default).revokeRequest ⟨"a1", by decide⟩).prepare = .ok url := by
  have hsome : ((Backend.ofConfig .default).revokeRequest ⟨"a1", by decide⟩).prepare.toBool =
      true := by
    decide +kernel
  cases hprepare : ((Backend.ofConfig .default).revokeRequest ⟨"a1", by decide⟩).prepare with
  | ok url => exact ⟨url, rfl⟩
  | error e =>
    rw [hprepare] at hsome
    cases hsome

/-- A refresh has asked the backend when the user logs out, and the network is gone. -/
theorem pending_token_is_revoked :
    let c := Coordinator.ofConfig .default Register.store
    let old : TokenSet := ⟨⟨"a1", by decide⟩, some ⟨"r1", by decide⟩, ⟨0, 0⟩⟩
    let m := after c (.holding (some old)) [.call old.access, .begin 0]
    let l : Live Register := ⟨m, [], ⟨60, 0⟩⟩
    let done := Client.logOut ⟨c, .unreachable⟩ l
    l.session = .refreshPending old ∧ done.1 = .ok () ∧ done.2.session = .unauthenticated ∧
      done.2.stored.content = none ∧
      done.2.sent.map SentRequest.request = [c.backend.revokeRequest old.access] := by
  intro c old m l done
  have hsession : l.session = .refreshPending old := by decide
  obtain ⟨_, hok, _⟩ := log_out_revokes (c := c) register_isRegister (.holding (some old))
    [.call old.access, .begin 0] .unreachable l rfl
  have hdone : done.1 = .ok () := rfl
  obtain ⟨hout, hempty, _, htokens⟩ := hok hdone
  refine ⟨hsession, hdone, hout, hempty, ?_⟩
  rcases htokens old rfl with ⟨_, hrevokes⟩ | ⟨hnone, _⟩
  · obtain ⟨url, hurl⟩ := prepare_revokeRequest
    have hsent : done.2.sent = _ := hrevokes.sent hurl
    rw [hsent]
    rfl
  · rw [hsession] at hnone
    cases hnone

/-- **A token that the session does not know is not revoked.** The store cannot be read at the start
and works again when the user logs out: that succeeds and the token is gone, but the backend goes on
accepting it. -/
theorem stranded_token_is_not_revoked :
    let c := Coordinator.ofConfig .default Register.store
    let old : TokenSet := ⟨⟨"a1", by decide⟩, some ⟨"r1", by decide⟩, ⟨0, 0⟩⟩
    let client : Client Register := ⟨c, .unreachable⟩
    let l := client.start ⟨some old, [true, true], []⟩ ⟨60, 0⟩
    let done := client.logOut l
    l.machine = after c ⟨some old, [true, true], []⟩ [] ∧ l.stored.content = some old ∧
      done.1 = .ok () ∧ done.2.stored.content = none ∧ done.2.sent = [] ∧
      ¬ Revokes Register.content client old.access l done.2 := by
  intro c old client l done
  have hsent : done.2.sent = [] := rfl
  refine ⟨rfl, rfl, rfl, rfl, hsent, fun h => ?_⟩
  obtain ⟨url, hurl⟩ := prepare_revokeRequest
  have hone := h.sent hurl
  rw [hsent] at hone
  cases hone

end Coordinator

end RedirectLogin
