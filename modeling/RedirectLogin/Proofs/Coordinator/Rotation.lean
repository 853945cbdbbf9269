import Mathlib.Data.List.Induction
import Mathlib.Data.List.Nodup
import RedirectLogin.Proofs.Coordinator.Effects
import RedirectLogin.Store.Register

/-!
# Rotated refresh tokens

A backend that rotates refresh tokens takes each of them once. `Ledger` keeps the account of a run:
the token sets that have entered the session, in their order, and every refresh token that was
posted, with the number of the set that had entered last. With rotation a marked set never comes
back to the session, whatever becomes of its refresh: the next post finds a set that entered later.
So the numbers of the posts grow strictly, and no set is used twice.

Principal results: `ledger_accounted` — what the ledger says of the session; `posted_once` — no
token set has its refresh token posted twice, nor is any value posted twice unless the backend
handed it out twice.
-/

set_option autoImplicit false

namespace RedirectLogin.Coordinator

variable {σ : Type} {c : Coordinator σ}

/-- What entered a session, and what was posted for it. -/
structure Ledger where
  /-- The token sets that entered the session, numbered from zero. -/
  received : List TokenSet
  /-- The refresh tokens posted, each with the number of the set that had entered last. -/
  posted : List (Nat × RefreshToken)

namespace Ledger

/-- The tokens that a session starts with have entered it. -/
def start (s : State σ) : Ledger :=
  ⟨s.session.tokens?.toList, []⟩

/-- Enter what an event receives and what it posts. -/
def record (l : Ledger) (received? : Option TokenSet) (posted? : Option RefreshToken) : Ledger where
  received := l.received ++ received?.toList
  posted := l.posted ++ posted?.toList.map (fun token => (l.received.length - 1, token))

@[simp] theorem record_none (l : Ledger) : l.record none none = l := by
  simp [record]

/-- Every post is the refresh token of the set it is entered for, and no set has two. -/
structure WellKept (l : Ledger) : Prop where
  posted : ∀ p ∈ l.posted, ∃ tokens, l.received[p.1]? = some tokens ∧ tokens.refresh = some p.2
  ordered : (l.posted.map Prod.fst).Pairwise (· < ·)

variable {l : Ledger}

theorem WellKept.lt_length (h : l.WellKept) {p : Nat × RefreshToken} (hp : p ∈ l.posted) :
    p.1 < l.received.length := by
  obtain ⟨tokens, htokens, _⟩ := h.posted p hp
  exact (List.getElem?_eq_some_iff.1 htokens).1

theorem WellKept.nodup (h : l.WellKept) : (l.posted.map Prod.fst).Nodup :=
  h.ordered.imp Nat.ne_of_lt

theorem WellKept.receive (h : l.WellKept) (tokens : TokenSet) :
    (l.record (some tokens) none).WellKept := by
  refine ⟨fun p hp => ?_, by simpa [record] using h.ordered⟩
  have hp : p ∈ l.posted := by simpa [record] using hp
  obtain ⟨set, hset, hrefresh⟩ := h.posted p hp
  refine ⟨set, ?_, hrefresh⟩
  simp only [record]
  rw [List.getElem?_append_left (h.lt_length hp), hset]

/-- A post is entered for the set that entered last, if none was entered for it before. -/
theorem WellKept.post (h : l.WellKept) {tokens : TokenSet} {token : RefreshToken}
    (hlast : l.received.getLast? = some tokens) (hrefresh : tokens.refresh = some token)
    (hunposted : ∀ p ∈ l.posted, p.1 + 1 < l.received.length) :
    (l.record none (some token)).WellKept := by
  rw [List.getLast?_eq_getElem?] at hlast
  refine ⟨fun p hp => ?_, ?_⟩
  · have hp : p ∈ l.posted ∨ p = (l.received.length - 1, token) := by simpa [record] using hp
    rcases hp with hp | rfl
    · simpa [record] using h.posted p hp
    · exact ⟨tokens, by simpa [record] using hlast, hrefresh⟩
  · have hbefore : ∀ n ∈ l.posted.map Prod.fst, n < l.received.length - 1 := by
      intro n hn
      obtain ⟨p, hp, rfl⟩ := List.mem_map.1 hn
      have := hunposted p hp
      omega
    simpa [record, List.pairwise_append, h.ordered] using hbefore

/-- If all refresh tokens received differ, then so do those posted. -/
theorem WellKept.posted_nodup (h : l.WellKept)
    (hdistinct : (l.received.filterMap TokenSet.refresh).Nodup) :
    (l.posted.map Prod.snd).Nodup := by
  -- Two sets with the same refresh token are one.
  have hsame : ∀ {i j : Nat} {a b : TokenSet} {token : RefreshToken},
      l.received[i]? = some a → l.received[j]? = some b → a.refresh = some token →
        b.refresh = some token → ¬ i < j := by
    intro i j a b token ha hb hatoken hbtoken hij
    obtain ⟨hi, rfl⟩ := List.getElem?_eq_some_iff.1 ha
    obtain ⟨hj, rfl⟩ := List.getElem?_eq_some_iff.1 hb
    have hpairs := List.pairwise_iff_getElem.1 (List.pairwise_filterMap.1 hdistinct)
    exact hpairs i j hi hj hij token hatoken token hbtoken rfl
  rw [List.Nodup, List.pairwise_map]
  refine (List.pairwise_map.1 h.ordered).imp_of_mem ?_
  intro p q hp hq hlt heq
  obtain ⟨a, ha, hatoken⟩ := h.posted p hp
  obtain ⟨b, hb, hbtoken⟩ := h.posted q hq
  exact hsame ha hb hatoken (heq ▸ hbtoken) hlt

end Ledger

namespace Machine

variable {m : Machine σ} {e : Event} {l : Ledger}

/-- The ledger after more events. -/
def account (c : Coordinator σ) (m : Machine σ) (l : Ledger) : List Event → Ledger
  | [] => l
  | e :: es => account c (m.step c e) (l.record (m.received? c e) (m.posts? c e)) es

/-- The ledger of a run from the start. -/
def ledger (c : Coordinator σ) (stored : σ) (events : List Event) : Ledger :=
  account c (start c stored) (.start (c.start stored)) events

/-- The ledger agrees with the session: its tokens are those that entered last, and tokens that may
be posted have not been. -/
structure Accounted (m : Machine σ) (l : Ledger) : Prop where
  wellKept : l.WellKept
  current : ∀ tokens, m.state.session.tokens? = some tokens → l.received.getLast? = some tokens
  unposted : ∀ tokens, m.state.session = .authenticated tokens →
    ∀ p ∈ l.posted, p.1 + 1 < l.received.length

theorem start_accounted (c : Coordinator σ) (stored : σ) :
    (start c stored).Accounted (.start (c.start stored)) where
  wellKept := ⟨by simp [Ledger.start], by simp [Ledger.start]⟩
  current tokens h := by
    have h : (c.start stored).session.tokens? = some tokens := h
    simp [Ledger.start, h]
  unposted _ _ := by simp [Ledger.start]

/-- Tokens that enter the session have not been posted. -/
theorem Accounted.receive {tokens : TokenSet} (h : m.Accounted l) {m' : Machine σ}
    (hafter : m'.state.session = .authenticated tokens) :
    m'.Accounted (l.record (some tokens) none) where
  wellKept := h.wellKept.receive tokens
  current kept hkept := by
    rw [hafter] at hkept
    cases hkept
    simp [Ledger.record]
  unposted _ _ p hp := by
    have hp : p ∈ l.posted := by simpa [Ledger.record] using hp
    simpa [Ledger.record] using h.wellKept.lt_length hp

/-- **With rotation every event keeps the ledger in agreement with the session.** -/
theorem Accounted.step (hrotate : c.rotateRefreshTokens = true) (h : m.Accounted l) (e : Event) :
    (m.step c e).Accounted (l.record (m.received? c e) (m.posts? c e)) := by
  have hended : (m.step c e).state.session.tokens? = none → (m.step c e).Accounted l := by
    intro hnone
    refine ⟨h.wellKept, fun tokens htokens => ?_, fun tokens hsession => ?_⟩
    · rw [hnone] at htokens; cases htokens
    · rw [hsession] at hnone; cases hnone
  cases step_effect c m e with
  | redirect login tokens event now he hsession hanswer hafter hreceived hposts =>
    rw [hreceived, hposts]
    exact h.receive hafter
  | answer previous tokens hsession hafter hreceived hposts =>
    rw [hreceived, hposts]
    exact h.receive hafter
  | mark tokens refresh hsession hrefresh hafter hreceived hposts =>
    rw [hreceived, hposts]
    have hcurrent := h.current tokens (by rw [hsession]; rfl)
    refine ⟨h.wellKept.post hcurrent hrefresh (h.unposted tokens hsession), ?_, ?_⟩
    · intro kept hkept
      rw [hafter] at hkept
      cases hkept
      simpa [Ledger.record] using hcurrent
    · intro kept hkept
      rw [hafter] at hkept
      cases hkept
  | restore previous hkeep hsession hafter hreceived hposts =>
    -- Posted tokens come back to the session in this case alone, and not with rotation.
    rw [hrotate] at hkeep
    cases hkeep
  | login login redirect? now he hstarts hreceived hposts =>
    rw [hreceived, hposts, Ledger.record_none]
    subst he
    have hpending : (m.step c (.operation (.beginLogin redirect?) now)).state.session =
        .loginPending login := hstarts.2
    exact hended (by rw [hpending]; rfl)
  | nothing hkept hreceived hposts =>
    rw [hreceived, hposts, Ledger.record_none]
    rcases hkept with hsame | hgone | ⟨e, hfailed⟩
    · refine ⟨h.wellKept, ?_, ?_⟩
      · rw [hsame]; exact h.current
      · rw [hsame]; exact h.unposted
    · exact hended (by rw [hgone]; rfl)
    · exact hended (by rw [hfailed]; rfl)

theorem Accounted.run (hrotate : c.rotateRefreshTokens = true) (h : m.Accounted l)
    (events : List Event) : (m.run c events).Accounted (account c m l events) := by
  induction events generalizing m l with
  | nil => exact h
  | cons e es ih => exact ih (h.step hrotate e)

/-- **With rotation the ledger of every run agrees with the session.** -/
theorem ledger_accounted (hrotate : c.rotateRefreshTokens = true) (stored : σ)
    (events : List Event) : (after c stored events).Accounted (ledger c stored events) :=
  (start_accounted c stored).run hrotate events

/-- What is posted is the refresh token of the session, whose tokens are those that entered last. -/
theorem Accounted.posts (h : m.Accounted l) {token : RefreshToken}
    (hposted : m.posts? c e = some token) :
    ∃ tokens, m.state.session = .authenticated tokens ∧ tokens.refresh = some token ∧
      l.received.getLast? = some tokens := by
  obtain ⟨tokens, hsession, hrefresh, _⟩ := posts?_eq_some_iff.1 hposted
  exact ⟨tokens, hsession, hrefresh, h.current tokens (by rw [hsession]; rfl)⟩

/-- The ledger has an entry for every post. -/
theorem account_posted (c : Coordinator σ) (m : Machine σ) (l : Ledger) (events : List Event) :
    (account c m l events).posted.map Prod.snd = l.posted.map Prod.snd ++ posted c m events := by
  induction events generalizing m l with
  | nil => simp [account, posted]
  | cons e es ih => simp [account, posted, ih, Ledger.record, Function.comp_def]

/-- **With rotation every refresh token is posted once.** Whatever happens to a session and its
store, what is posted at any time is the refresh token of the set that has entered the session last;
no set has its refresh token posted twice, and no value is posted twice if no two of the sets have
the same. -/
theorem posted_once (hrotate : c.rotateRefreshTokens = true) (stored : σ) (events : List Event) :
    (∀ e token, (after c stored events).posts? c e = some token →
        ∃ tokens, (after c stored events).state.session = .authenticated tokens ∧
          tokens.refresh = some token ∧
          (ledger c stored events).received.getLast? = some tokens) ∧
      (ledger c stored events).posted.map Prod.snd = posted c (start c stored) events ∧
      (∀ p ∈ (ledger c stored events).posted, ∃ tokens,
        (ledger c stored events).received[p.1]? = some tokens ∧ tokens.refresh = some p.2) ∧
      ((ledger c stored events).posted.map Prod.fst).Nodup ∧
      (((ledger c stored events).received.filterMap TokenSet.refresh).Nodup →
        (posted c (start c stored) events).Nodup) := by
  have h := ledger_accounted hrotate stored events
  have hposted : (ledger c stored events).posted.map Prod.snd =
      posted c (start c stored) events := account_posted c _ _ events
  refine ⟨fun e token => h.posts, hposted, h.wellKept.posted, h.wellKept.nodup, ?_⟩
  rw [← hposted]
  exact h.wellKept.posted_nodup

/-- Three sets enter and each is posted: the one from the store, whose session is logged out while
its refresh is out, that of the new login, and what the backend gives for it. -/
theorem three_sets_posted :
    let c := Coordinator.ofConfig .default Register.store
    let old : TokenSet := ⟨⟨"a1", by decide⟩, some ⟨"r1", by decide⟩, ⟨0, 0⟩⟩
    let new : AccessToken := ⟨"n1", by decide⟩
    let fresh : AccessToken := ⟨"n2", by decide⟩
    let events : List Event :=
      [.call old.access, .begin 0, .operation .logOut ⟨60, 0⟩,
       .operation (.beginLogin none) ⟨61, 0⟩,
       .operation (.handleCallback ⟨.deepLink, "authlink://auth?token=n1&refresh_token=s1"⟩)
         ⟨62, 0⟩,
       .finish 0 (.ok ⟨"a2", some "r2", none⟩) ⟨63, 0⟩, .observe 0, .leave 0,
       .call new, .begin 1, .finish 1 (.ok ⟨"n2", some "s2", none⟩) ⟨64, 0⟩, .observe 1, .leave 1,
       .call fresh, .begin 2]
    c.rotateRefreshTokens = true ∧
      (ledger c (.holding (some old)) events).posted.map (fun p => (p.1, p.2.value)) =
        [(0, "r1"), (1, "s1"), (2, "s2")] ∧
      (posted c (start c (.holding (some old))) events).Nodup := by
  intro c old new fresh events
  have hrotate : c.rotateRefreshTokens = true := by decide
  have hdistinct :
      ((ledger c (.holding (some old)) events).received.filterMap TokenSet.refresh).Nodup := by
    decide +kernel
  have h := posted_once hrotate (.holding (some old)) events
  exact ⟨hrotate, by decide +kernel, h.2.2.2.2 hdistinct⟩

end Machine

end RedirectLogin.Coordinator
