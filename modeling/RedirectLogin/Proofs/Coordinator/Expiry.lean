import Mathlib.Data.List.Infix
import RedirectLogin.Proofs.Coordinator.Callers
import RedirectLogin.Store.Register

/-!
# Expired sessions

A caller that is told that the session has expired should find that it has: at some time of its
call the session was not authenticated. A flight that has not begun decides by the session it
finds, and so does a flight that finds its own refresh still pending. A flight whose session was
logged out in the meantime drops the backend's answer and reports an expired session, which is true
for the callers of the old session. A caller that has joined it since with the token of a new
session is told the same, and its session has never ended.

Principal results: `expired_reports` — a call is told wrongly that its session has expired if it
joins the flight of an earlier session, and only then; `newcomer_told_expired` — a run in which a
new login shares the fate of the old one.
-/

set_option autoImplicit false

namespace RedirectLogin

/-- The session has a token and waits for nothing. -/
def Session.IsAuthenticated : Session → Prop
  | .authenticated _ => True
  | _ => False

namespace Coordinator

variable {σ : Type} {c : Coordinator σ} {s t : State σ}

/-- A session that has been ended is not authenticated, whether or not the store could be
emptied. -/
theorem endSession_ended (c : Coordinator σ) (s : State σ) :
    ¬ (c.endSession s).2.session.IsAuthenticated := by
  rw [endSession_state]
  unfold forgetTokens
  split <;> exact fun h => h

/-- A refresh that ends at its first section, with an expired session, does not leave an
authenticated one behind. -/
theorem beginRefresh_expired {stale : AccessToken}
    (h : c.beginRefresh stale s = (.finished (.error .sessionExpired), t)) :
    ¬ t.session.IsAuthenticated := by
  unfold beginRefresh at h
  split at h
  · split at h
    · cases h
    · split at h
      · cases h
      · have ht : (c.endSession s).2 = t := congrArg Prod.snd h
        rw [← ht]
        exact endSession_ended c s
  · rename_i hother
    cases h
    cases hs : s.session with
    | authenticated tokens => exact absurd hs (hother tokens)
    | _ => exact fun h => h

/-- The second section reports an expired session to whoever lost the session it worked for. -/
theorem endRefresh_authenticated (c : Coordinator σ)
    (outcome : Except RefreshFailure RefreshResponse) (now : Timestamp)
    (h : s.session.IsAuthenticated) :
    c.endRefresh outcome now s = (.error .sessionExpired, s) := by
  unfold endRefresh
  split
  · rename_i previous hs
    rw [hs] at h
    cases h
  · rfl

/-- The flight has asked nobody, and if it has ended, then not with an expired session. -/
def Flight.Spared (f : Flight) : Prop :=
  f.phase = .waiting ∨ ∃ r, f.phase = .finished r ∧ r ≠ .error .sessionExpired

namespace Machine

variable {m m' : Machine σ} {e : Event} {i : Nat}

/-- Whoever arrives now joins a flight that is of no use to an authenticated session: it has asked
the backend for an earlier one, or it has found an expired one. -/
def JoinsEarlier (m : Machine σ) : Prop :=
  m.state.session.IsAuthenticated ∧
    ∃ i f, m.joinable? = some i ∧ m.flights[i]? = some f ∧
      (f.phase = .requesting ∨ f.phase = .finished (.error .sessionExpired))

/-- As long as the session stays authenticated a spared flight stays spared. -/
theorem Move.spared (h : Move c m e m') (hafter : m'.state.session.IsAuthenticated) {f : Flight}
    (hf : m.flights[i]? = some f) (hspared : f.Spared) :
    ∃ g, m'.flights[i]? = some g ∧ g.Spared := by
  cases h with
  | depart stale hnone => exact ⟨f, getElem?_concat_of_some _ hf, hspared⟩
  | settle j g result state hg hwait hbegin ht =>
    by_cases hji : j = i
    · subst hji
      refine ⟨_, getElem?_set_same hg, Or.inr ⟨result, rfl, ?_⟩⟩
      rintro rfl
      exact beginRefresh_expired hbegin hafter
    · exact ⟨f, by rw [List.getElem?_set_ne hji, hf], hspared⟩
  | ask j g tokens refresh hg hwait hsession haccess hrefresh => cases hafter
  | finish j g outcome now hg hrequest =>
    by_cases hji : j = i
    · subst hji
      rw [hf] at hg; cases hg
      rcases hspared with hwait | ⟨r, hfin, _⟩
      · rw [hwait] at hrequest; cases hrequest
      · rw [hfin] at hrequest; cases hrequest
    · exact ⟨f, by rw [List.getElem?_set_ne hji, hf], hspared⟩
  | observe k j g result hk hg hfin =>
    by_cases hji : j = i
    · subst hji
      rw [hf] at hg; cases hg
      exact ⟨_, getElem?_set_same hf, hspared⟩
    · exact ⟨f, by rw [List.getElem?_set_ne hji, hf], hspared⟩
  | _ => exact ⟨f, hf, hspared⟩

/-- A flight that was spared has been so all along, if the session was authenticated all along. -/
theorem spared_after {stored : σ} {events later : List Event} {f : Flight}
    (hf : (after c stored events).flights[i]? = some f) (hspared : f.Spared)
    (hall : ∀ during, during <+: later →
      (after c stored (events ++ during)).state.session.IsAuthenticated) :
    ∃ g, (after c stored (events ++ later)).flights[i]? = some g ∧ g.Spared := by
  induction later using List.reverseRecOn with
  | nil => exact ⟨f, by rw [List.append_nil]; exact hf, hspared⟩
  | append_singleton es e ih =>
    obtain ⟨g, hg, hg'⟩ := ih (fun during hinit =>
      hall during (hinit.trans (List.prefix_append es [e])))
    have hafter := hall (es ++ [e]) (List.prefix_refl _)
    rw [← List.append_assoc] at hafter ⊢
    exact (after_concat_move c stored (events ++ es) e).spared hafter hg hg'

/-- A caller waits for one flight, which was spared or belongs to an earlier session. -/
theorem call_waits (stale : AccessToken)
    (hauth : m.state.session.IsAuthenticated) (hjoins : ¬ m.JoinsEarlier) :
    ∃ i f, (m.call stale).callers = m.callers ++ [.waiting i] ∧
      (m.call stale).flights[i]? = some f ∧ f.Spared := by
  cases hjoin : m.joinable? with
  | none =>
    rw [call_departs stale hjoin]
    exact ⟨m.flights.length, .start stale, rfl, by simp, Or.inl rfl⟩
  | some i =>
    obtain ⟨_, f, hf, _⟩ := joinable?_eq_some hjoin
    rw [call_joins stale hjoin]
    refine ⟨i, f, rfl, hf, ?_⟩
    cases hphase : f.phase with
    | waiting => exact Or.inl hphase
    | requesting => exact absurd ⟨hauth, i, f, hjoin, hf, Or.inl hphase⟩ hjoins
    | finished r =>
      refine Or.inr ⟨r, hphase, ?_⟩
      rintro rfl
      exact hjoins ⟨hauth, i, f, hjoin, hf, Or.inr hphase⟩

/-- The second section of an earlier flight changes nothing but the flight. -/
theorem finish_earlier {f : Flight} (outcome : Except RefreshFailure RefreshResponse)
    (now : Timestamp) (hauth : m.state.session.IsAuthenticated) (hf : m.flights[i]? = some f)
    (hphase : f.phase = .requesting ∨ f.phase = .finished (.error .sessionExpired)) :
    (m.finish c i outcome now).state = m.state ∧ (m.finish c i outcome now).callers = m.callers ∧
      ∃ g, (m.finish c i outcome now).flights[i]? = some g ∧
        g.phase = .finished (.error .sessionExpired) := by
  rcases hphase with hphase | hphase
  · have hend := endRefresh_authenticated c outcome now hauth
    simp only [finish, hf, hphase, hend]
    exact ⟨trivial, trivial, _, getElem?_set_same hf, rfl⟩
  · have hidle : m.finish c i outcome now = m := by simp only [finish, hf, hphase]
    rw [hidle]
    exact ⟨rfl, rfl, f, hf, hphase⟩

/-- A caller whose flight has ended sees the result and leaves with it. -/
theorem observe_leave {f : Flight} {k : Nat} {r : Except SessionError AccessToken}
    (hk : m.callers[k]? = some (.waiting i)) (hf : m.flights[i]? = some f)
    (hphase : f.phase = .finished r) :
    ((m.observe k).leave k).callers[k]? = some (.returned r) := by
  have hobserve : m.observe k =
      { m with
        flights := m.flights.set i { f with observed := true }
        callers := m.callers.set k (.holding i r) } := by
    simp only [observe, hk, hf, hphase]
  have hholding : (m.callers.set k (.holding i r))[k]? = some (.holding i r) :=
    getElem?_set_same hk
  rw [hobserve]
  simp only [leave, hholding]
  exact getElem?_set_same hholding

/-- After these events a call arrives, and in the course of the later ones it returns with an
expired session, though the session is authenticated all the time. -/
structure ToldWrongly (c : Coordinator σ) (stored : σ) (events : List Event) (stale : AccessToken)
    (later : List Event) : Prop where
  expired : (after c stored (events ++ .call stale :: later)).callers[
    (after c stored events).callers.length]? = some (.returned (.error .sessionExpired))
  authenticated : ∀ during, during <+: later →
    (after c stored (events ++ .call stale :: during)).state.session.IsAuthenticated

/-- The earlier flight ends without a look at the new session, and the caller returns. -/
theorem JoinsEarlier.toldWrongly {stored : σ} {events : List Event}
    (h : (after c stored events).JoinsEarlier) (stale : AccessToken) :
    ∃ later, (∀ k, Event.cancel k ∉ later) ∧ ToldWrongly c stored events stale later := by
  obtain ⟨hauth, i, f, hjoin, hf, hphase⟩ := h
  have hcall : after c stored (events ++ [.call stale]) =
      { after c stored events with
        callers := (after c stored events).callers ++ [.waiting i] } := by
    rw [after_concat]
    exact call_joins stale hjoin
  generalize hk : (after c stored events).callers.length = k
  generalize hm : after c stored (events ++ [.call stale]) = m at hcall
  have hstate : m.state = (after c stored events).state := by rw [hcall]
  have hwaits : m.callers[k]? = some (.waiting i) := by rw [hcall, ← hk]; simp
  obtain ⟨hfinish, hcallers, g, hg, hgphase⟩ := finish_earlier (c := c) (m := m)
    (.error (.transient "")) ⟨0, 0⟩ (hstate ▸ hauth) (by rw [hcall]; exact hf) hphase
  have hreturned := observe_leave (hcallers ▸ hwaits) hg hgphase
  have hrun : ∀ es, after c stored (events ++ .call stale :: es) = m.run c es := by
    intro es
    rw [← hm, ← after_append, List.append_assoc]
    rfl
  refine ⟨[.finish i (.error (.transient "")) ⟨0, 0⟩, .observe k, .leave k], by simp, ?_, ?_⟩
  · rw [hrun, hk]
    exact hreturned
  · intro during hinit
    rw [hrun]
    have hduring := (List.mem_inits _ _).2 hinit
    simp only [List.inits, List.map_cons, List.map_nil, List.mem_cons, List.not_mem_nil,
      or_false] at hduring
    rcases hduring with rfl | rfl | rfl | rfl
    · exact hstate ▸ hauth
    all_goals
      simp only [run_cons, run_nil, step, observe_state, leave_state, hfinish]
      exact hstate ▸ hauth

/-- **Who joins the flight of an earlier session is told wrongly that its own has expired**, as
soon as the flight ends and nobody touches the session, and nobody else ever is: whoever else
returns with an expired session was there while the session was not authenticated. -/
theorem expired_reports (c : Coordinator σ) (stored : σ) (events : List Event)
    (stale : AccessToken) :
    (∀ later, ToldWrongly c stored events stale later → (after c stored events).JoinsEarlier) ∧
      ((after c stored events).JoinsEarlier →
        ∃ later, (∀ k, Event.cancel k ∉ later) ∧ ToldWrongly c stored events stale later) := by
  refine ⟨fun later hwrong => Classical.byContradiction fun hjoins => ?_,
    fun h => h.toldWrongly stale⟩
  have hcall : after c stored (events ++ [.call stale]) = (after c stored events).call stale := by
    rw [after_concat]
    rfl
  have hauth : (after c stored events).state.session.IsAuthenticated := by
    have hfirst := hwrong.authenticated [] List.nil_prefix
    rw [hcall, call_state] at hfirst
    exact hfirst
  -- The flight that the caller waits for is spared, and stays so until the caller returns.
  obtain ⟨i, f, hcallers, hf, hspared⟩ := call_waits stale hauth hjoins
  rw [← hcall] at hcallers hf
  have hsplit : ∀ es, events ++ .call stale :: es = (events ++ [.call stale]) ++ es := by simp
  have hall : ∀ during, during <+: later →
      (after c stored ((events ++ [.call stale]) ++ during)).state.session.IsAuthenticated := by
    intro during hinit
    rw [← hsplit]
    exact hwrong.authenticated during hinit
  obtain ⟨g, hg, hgspared⟩ := spared_after hf hspared hall
  have hjoined : Joined c stored (events ++ .call stale :: later)
      (after c stored events).callers.length i := by
    refine ⟨events ++ [.call stale], ⟨later, by simp⟩, ?_⟩
    rw [hcallers]
    simp
  obtain ⟨g', hg', hfinished, _⟩ := joined_returned hjoined hwrong.expired
  rw [hsplit, hg] at hg'
  cases hg'
  rcases hgspared with hwait | ⟨r, hfin, hne⟩
  · rw [hwait] at hfinished; cases hfinished
  · rw [hfin] at hfinished; cases hfinished
    exact hne rfl

/-- **A new session shares the fate of the old one.** While a refresh is out, its session is logged
out and a new login completes. A caller of the new session joins that refresh and is told that its
session has expired, while it is authenticated from the call to its return. -/
theorem newcomer_told_expired :
    let c := Coordinator.ofConfig .default Register.store
    let old : TokenSet := ⟨⟨"a1", by decide⟩, some ⟨"r1", by decide⟩, ⟨0, 0⟩⟩
    let new : TokenSet := ⟨⟨"n1", by decide⟩, some ⟨"s1", by decide⟩, ⟨62, 0⟩⟩
    let events : List Event :=
      [.call old.access, .begin 0, .operation .logOut ⟨60, 0⟩,
       .operation (.beginLogin none) ⟨61, 0⟩,
       .operation (.handleCallback ⟨.deepLink, "authlink://auth?token=n1&refresh_token=s1"⟩)
         ⟨62, 0⟩]
    let later : List Event :=
      [.finish 0 (.ok ⟨"a2", some "r2", none⟩) ⟨63, 0⟩, .observe 0, .leave 0, .observe 1, .leave 1]
    (∀ k, Event.cancel k ∉ events ++ .call new.access :: later) ∧
      (∀ during, during <+: later →
        (after c (.holding (some old)) (events ++ .call new.access :: during)).state.session =
          .authenticated new) ∧
      ¬ ((after c (.holding (some old)) (events ++ .call new.access :: later)).returned? 1 =
          some (.error .sessionExpired) →
        ∃ during, during <+: later ∧
          ¬ (after c (.holding (some old))
            (events ++ .call new.access :: during)).state.session.IsAuthenticated) := by
  intro c old new events later
  have hsession : ∀ during ∈ later.inits,
      (after c (.holding (some old)) (events ++ .call new.access :: during)).state.session =
        .authenticated new := by decide +kernel
  refine ⟨by simp [events, later], fun during hinit => hsession during
    ((List.mem_inits _ _).2 hinit), fun h => ?_⟩
  obtain ⟨during, hinit, hended⟩ := h (by decide +kernel)
  rw [hsession during ((List.mem_inits _ _).2 hinit)] at hended
  exact hended trivial

end Machine

end Coordinator

end RedirectLogin
