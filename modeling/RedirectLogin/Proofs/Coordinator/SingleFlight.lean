import Mathlib.Data.List.Induction
import RedirectLogin.Proofs.Coordinator.Slot

/-!
# One refresh at a time

A session that waits for a refresh waits for exactly one flight. That flight is between its two
sections, works for the access token of the session and has sent its refresh token. The second
section looks at nothing of this: it only finds that some refresh is pending. That the tokens it
finds are the ones whose refresh token was answered follows from the slot, which lets no second
flight start before the first one is over, whatever logouts, logins and callers come in between.

Principal results: `after_refreshing` — a pending refresh belongs to a flight that took these very
tokens over and has not let go of them since; `refreshes_one_at_a_time` — at most one flight is
under way, and its answer is taken in for the tokens it was asked for, or dropped.
-/

set_option autoImplicit false

namespace RedirectLogin.Coordinator.Machine

variable {σ : Type} {c : Coordinator σ} {m m' : Machine σ} {e : Event}

/-- Flight `i` is between its sections, for the access token of `tokens` and with their refresh
token sent. -/
def Refreshing (m : Machine σ) (i : Nat) (tokens : TokenSet) : Prop :=
  ∃ f refresh, m.flights[i]? = some f ∧ f.phase = .requesting ∧ f.stale = tokens.access ∧
    f.sent = some refresh ∧ tokens.refresh = some refresh

/-- In the course of these events flight `i` found `tokens` in an authenticated session and marked
it, and the session has been waiting with these tokens ever since. -/
def TookOver (c : Coordinator σ) (stored : σ) (events : List Event) (i : Nat)
    (tokens : TokenSet) : Prop :=
  ∃ before later, events = before ++ .begin i :: later ∧
    (after c stored before).state.session = .authenticated tokens ∧
    ∀ during, during <+: later →
      (after c stored (before ++ .begin i :: during)).state.session = .refreshPending tokens

theorem Refreshing.flying {i : Nat} {tokens : TokenSet} (h : m.Refreshing i tokens) :
    m.Flying i := by
  obtain ⟨f, _, hf, hphase, _⟩ := h
  exact ⟨f, hf, by simp [Flight.result?, hphase]⟩

/-- A flight that waits for the backend goes on waiting while the refresh is pending. -/
theorem Refreshing.move {i : Nat} {tokens : TokenSet} (hr : m.Refreshing i tokens)
    (h : Move c m e m') (hsession : m'.state.session = .refreshPending tokens) :
    m'.Refreshing i tokens := by
  obtain ⟨f, refresh, hf, hphase, hstale, hsent, hrefresh⟩ := hr
  -- Only flight `i` itself could undo this, and its second section ends the refresh.
  have keep : ∀ {j : Nat} {g : Flight} (g' : Flight), m.flights[j]? = some g →
      g.phase ≠ .requesting → (m.flights.set j g')[i]? = some f := by
    intro j g g' hg hne
    refine getElem?_set_other hf hg ?_
    rintro rfl
    exact hne hphase
  cases h with
  | depart stale hnone =>
    exact ⟨f, refresh, getElem?_concat_of_some _ hf, hphase, hstale, hsent, hrefresh⟩
  | settle j g result state hg hwait hbegin ht =>
    exact ⟨f, refresh, keep _ hg (by rw [hwait]; simp), hphase, hstale, hsent, hrefresh⟩
  | ask j g old token hg hwait hold haccess htoken =>
    exact ⟨f, refresh, keep _ hg (by rw [hwait]; simp), hphase, hstale, hsent, hrefresh⟩
  | finish j g outcome now hg hrequest =>
    exact absurd hsession (endRefresh_finished c outcome now m.state tokens)
  | observe k j g result hk hg hfin =>
    exact ⟨f, refresh, keep _ hg (by rw [hfin]; simp), hphase, hstale, hsent, hrefresh⟩
  | _ => exact ⟨f, refresh, hf, hphase, hstale, hsent, hrefresh⟩

/-- The run goes on, and the session still waits with the same tokens. -/
theorem TookOver.concat {stored : σ} {events : List Event} {i : Nat} {tokens : TokenSet}
    (h : TookOver c stored events i tokens)
    (hsession : (after c stored (events ++ [e])).state.session = .refreshPending tokens) :
    TookOver c stored (events ++ [e]) i tokens := by
  obtain ⟨before, later, rfl, hbefore, hduring⟩ := h
  refine ⟨before, later ++ [e], by simp, hbefore, fun during hprefix => ?_⟩
  rcases List.prefix_concat_iff.1 hprefix with rfl | hprefix
  · simpa using hsession
  · exact hduring during hprefix

/-- **A pending refresh belongs to a flight that took its tokens over.** -/
theorem after_refreshing (c : Coordinator σ) (stored : σ) (events : List Event) (tokens : TokenSet)
    (hsession : (after c stored events).state.session = .refreshPending tokens) :
    ∃ i, (after c stored events).Refreshing i tokens ∧ TookOver c stored events i tokens := by
  induction events using List.reverseRecOn with
  | nil =>
    replace hsession : (c.start stored).session = .refreshPending tokens := hsession
    rcases start_cases c stored with ⟨found, _, _, h⟩ | ⟨_, _, _, h⟩
    · rw [h] at hsession
      cases found <;> cases hsession
    · rw [h] at hsession
      cases hsession
  | append_singleton es e ih =>
    have hmove := after_concat_move c stored es e
    rcases hmove.state_cases with ht |
      ⟨i, f, found, refresh, rfl, hf, hwait, hfound, haccess, hrefresh, hstate, hflights⟩
    · -- The refresh was pending before, and the same flight goes on.
      obtain ⟨i, hr, htook⟩ := ih (ht.refreshPending hsession)
      exact ⟨i, hr.move hmove hsession, htook.concat hsession⟩
    · -- The flight starts to wait now.
      have htokens : found = tokens := by
        rw [hstate] at hsession
        exact Session.refreshPending.inj hsession
      subst htokens
      have hasking : (after c stored (es ++ [.begin i])).flights[i]? =
          some { f with sent := some refresh, phase := .requesting } := by
        rw [hflights]
        exact getElem?_set_same hf
      refine ⟨i, ⟨_, refresh, hasking, rfl, haccess.symm, rfl, hrefresh⟩, es, [], rfl, hfound,
        fun during hprefix => ?_⟩
      rw [List.prefix_nil.1 hprefix]
      exact hsession

/-- **Refreshes run one at a time.** After every run at most one flight is under way. A session
waits for a refresh exactly while a flight is between its sections for these tokens, so none is
pending once all flights are over. An answer of the backend is taken in for the very tokens whose
refresh token it answers, which the flight took over and the session has held ever since, or it is
dropped without a trace. -/
theorem refreshes_one_at_a_time (c : Coordinator σ) (stored : σ) (events : List Event) :
    (∀ i j, (after c stored events).Flying i → (after c stored events).Flying j → i = j) ∧
    (∀ tokens, (after c stored events).state.session = .refreshPending tokens →
      ∃ i, (after c stored events).Refreshing i tokens ∧
        ∀ j, (after c stored events).Flying j ↔ j = i) ∧
    ((∀ i, ¬ (after c stored events).Flying i) →
      ∀ tokens, (after c stored events).state.session ≠ .refreshPending tokens) ∧
    ∀ i f outcome now, (after c stored events).flights[i]? = some f → f.phase = .requesting →
      c.endRefresh outcome now (after c stored events).state =
          (.error .sessionExpired, (after c stored events).state) ∨
        ∃ tokens refresh, f.stale = tokens.access ∧ f.sent = some refresh ∧
          tokens.refresh = some refresh ∧ TookOver c stored events i tokens ∧
          c.endRefresh outcome now (after c stored events).state =
            c.finishRefresh tokens outcome now (after c stored events).state := by
  have hunique : ∀ {i j}, (after c stored events).Flying i → (after c stored events).Flying j →
      i = j := (after_slotInv c stored events).flying_unique
  refine ⟨fun i j => hunique, fun tokens hsession => ?_, fun hnone tokens hsession => ?_,
    fun i f outcome now hf hphase => ?_⟩
  · obtain ⟨i, hr, _⟩ := after_refreshing c stored events tokens hsession
    exact ⟨i, hr, fun j => ⟨fun hj => hunique hj hr.flying, fun h => h ▸ hr.flying⟩⟩
  · obtain ⟨i, hr, _⟩ := after_refreshing c stored events tokens hsession
    exact hnone i hr.flying
  · unfold endRefresh
    split
    · rename_i tokens hsession
      obtain ⟨j, hr, htook⟩ := after_refreshing c stored events tokens hsession
      have hij : j = i := hunique hr.flying ⟨f, hf, by simp [Flight.result?, hphase]⟩
      subst hij
      obtain ⟨g, refresh, hg, _, hstale, hsent, hrefresh⟩ := hr
      rw [hf] at hg; cases hg
      exact Or.inr ⟨tokens, refresh, hstale, hsent, hrefresh, htook, rfl⟩
    · exact Or.inl rfl

end RedirectLogin.Coordinator.Machine
