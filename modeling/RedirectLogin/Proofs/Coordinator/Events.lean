import RedirectLogin.Proofs.Coordinator.Sections

/-!
# What an event does

`Machine.Move` lists once and for all how a machine answers an event: an event that cannot happen
leaves it as it is, any other has the effect of one of its cases, stated with everything that must
hold for it to happen. Invariants of machines are proved case by case of `Move`.

Principal results: `step_move` — every step is a move; `Move.state_cases` — a move changes session
and store by one transition, unless it is the first section of a flight that finds its own token
in an authenticated session; `Transition.refreshPending` — nothing else makes a refresh pending.
-/

set_option autoImplicit false

namespace RedirectLogin.Coordinator

variable {σ : Type} {c : Coordinator σ} {s t : State σ} {m m' : Machine σ} {e : Event}

/-- No transition makes a refresh pending. -/
theorem Transition.refreshPending (h : Transition c s t) {tokens : TokenSet}
    (ht : t.session = .refreshPending tokens) : s.session = .refreshPending tokens := by
  cases h with
  | stay => exact ht
  | read => exact ht
  | _ => cases ht

namespace Machine

/-- What an event does to a machine. -/
inductive Move (c : Coordinator σ) (m : Machine σ) : Event → Machine σ → Prop where
  | idle (e : Event) : Move c m e m
  | join (stale : AccessToken) (i : Nat) (h : m.joinable? = some i) :
      Move c m (.call stale) { m with callers := m.callers ++ [.waiting i] }
  | depart (stale : AccessToken) (h : m.joinable? = none) :
      Move c m (.call stale)
        { m with
          flights := m.flights ++ [.start stale]
          slot := some m.flights.length
          callers := m.callers ++ [.waiting m.flights.length] }
  | settle (i : Nat) (f : Flight) (result : Except SessionError AccessToken) (state : State σ)
      (hf : m.flights[i]? = some f) (hphase : f.phase = .waiting)
      (hbegin : c.beginRefresh f.stale m.state = (.finished result, state))
      (ht : Transition c m.state state) :
      Move c m (.begin i)
        { m with state := state, flights := m.flights.set i { f with phase := .finished result } }
  | ask (i : Nat) (f : Flight) (tokens : TokenSet) (refresh : RefreshToken)
      (hf : m.flights[i]? = some f) (hphase : f.phase = .waiting)
      (hsession : m.state.session = .authenticated tokens) (haccess : tokens.access = f.stale)
      (hrefresh : tokens.refresh = some refresh) :
      Move c m (.begin i)
        { m with
          state := ⟨.refreshPending tokens, m.state.stored⟩
          flights := m.flights.set i { f with sent := some refresh, phase := .requesting } }
  | finish (i : Nat) (f : Flight) (outcome : Except RefreshFailure RefreshResponse)
      (now : Timestamp) (hf : m.flights[i]? = some f) (hphase : f.phase = .requesting) :
      Move c m (.finish i outcome now)
        { m with
          state := (c.endRefresh outcome now m.state).2
          flights :=
            m.flights.set i { f with phase := .finished (c.endRefresh outcome now m.state).1 } }
  | observe (k i : Nat) (f : Flight) (result : Except SessionError AccessToken)
      (hk : m.callers[k]? = some (.waiting i)) (hf : m.flights[i]? = some f)
      (hphase : f.phase = .finished result) :
      Move c m (.observe k)
        { m with
          flights := m.flights.set i { f with observed := true }
          callers := m.callers.set k (.holding i result) }
  | leave (k i : Nat) (result : Except SessionError AccessToken)
      (hk : m.callers[k]? = some (.holding i result)) :
      Move c m (.leave k)
        { m with
          slot := if m.slot = some i then none else m.slot
          callers := m.callers.set k (.returned result) }
  | cancel (k i : Nat) (hk : m.callers[k]? = some (.waiting i)) :
      Move c m (.cancel k) { m with callers := m.callers.set k .cancelled }
  | operate (operation : Operation) (now : Timestamp) :
      Move c m (.operation operation now) { m with state := (operation.run c now m.state).2 }

theorem begin_move (c : Coordinator σ) (m : Machine σ) (i : Nat) :
    Move c m (.begin i) (m.begin c i) := by
  unfold begin
  split
  · rename_i f hf
    split
    · rename_i hphase
      rcases beginRefresh_cases c f.stale m.state with
        ⟨result, hresult, ht⟩ | ⟨tokens, refresh, hsession, haccess, hrefresh, hbegin⟩
      · have h := Move.settle i f result _ hf hphase (Prod.ext hresult rfl) ht
        simp only [hresult, Flight.afterBegin]
        exact h
      · have h := Move.ask (c := c) i f tokens refresh hf hphase hsession haccess hrefresh
        simp only [hbegin, Flight.afterBegin]
        exact h
    · exact .idle _
  · exact .idle _

theorem finish_move (c : Coordinator σ) (m : Machine σ) (i : Nat)
    (outcome : Except RefreshFailure RefreshResponse) (now : Timestamp) :
    Move c m (.finish i outcome now) (m.finish c i outcome now) := by
  unfold finish
  split
  · rename_i f hf
    split
    · rename_i hphase
      exact .finish i f outcome now hf hphase
    · exact .idle _
  · exact .idle _

theorem observe_move (c : Coordinator σ) (m : Machine σ) (k : Nat) :
    Move c m (.observe k) (m.observe k) := by
  unfold observe
  split
  · rename_i i hk
    split
    · rename_i f hf
      split
      · rename_i result hphase
        exact .observe k i f result hk hf hphase
      · exact .idle _
    · exact .idle _
  · exact .idle _

/-- **Every step is a move.** -/
theorem step_move (c : Coordinator σ) (m : Machine σ) (e : Event) : Move c m e (m.step c e) := by
  cases e with
  | call stale =>
    simp only [step, call]
    split
    · rename_i i h
      exact .join stale i h
    · rename_i h
      exact .depart stale h
  | begin i => exact begin_move c m i
  | finish i outcome now => exact finish_move c m i outcome now
  | observe k => exact observe_move c m k
  | leave k =>
    simp only [step, leave]
    split
    · rename_i i result hk
      exact .leave k i result hk
    · exact .idle _
  | cancel k =>
    simp only [step, cancel]
    split
    · rename_i i hk
      exact .cancel k i hk
    · exact .idle _
  | operation operation now => exact .operate operation now

/-- A move changes session and store by one transition, unless a flight asks the backend. -/
theorem Move.state_cases (h : Move c m e m') :
    Transition c m.state m'.state ∨
      ∃ i f tokens refresh, e = .begin i ∧ m.flights[i]? = some f ∧ f.phase = .waiting ∧
        m.state.session = .authenticated tokens ∧ tokens.access = f.stale ∧
        tokens.refresh = some refresh ∧ m'.state = ⟨.refreshPending tokens, m.state.stored⟩ ∧
        m'.flights = m.flights.set i { f with sent := some refresh, phase := .requesting } := by
  cases h with
  | ask i f tokens refresh hf hphase hsession haccess hrefresh =>
    exact Or.inr ⟨i, f, tokens, refresh, rfl, hf, hphase, hsession, haccess, hrefresh, rfl, rfl⟩
  | settle i f result state hf hphase hbegin ht => exact Or.inl ht
  | finish i f outcome now hf hphase => exact Or.inl (endRefresh_transition c outcome now m.state)
  | operate operation now => exact Or.inl (run_transition c operation now m.state)
  | _ => exact Or.inl .stay

/-! ## What callers do to the session -/

@[simp] theorem call_state (m : Machine σ) (stale : AccessToken) :
    (m.call stale).state = m.state := by
  unfold call
  split <;> rfl

@[simp] theorem observe_state (m : Machine σ) (k : Nat) : (m.observe k).state = m.state := by
  unfold observe
  repeat' split
  all_goals rfl

@[simp] theorem leave_state (m : Machine σ) (k : Nat) : (m.leave k).state = m.state := by
  unfold leave
  split <;> rfl

@[simp] theorem cancel_state (m : Machine σ) (k : Nat) : (m.cancel k).state = m.state := by
  unfold cancel
  split <;> rfl

/-! ## Runs from the start -/

/-- The machine after a run from its start. -/
def after (c : Coordinator σ) (stored : σ) (events : List Event) : Machine σ :=
  (start c stored).run c events

@[simp] theorem after_nil (c : Coordinator σ) (stored : σ) : after c stored [] = start c stored :=
  rfl

theorem after_append (c : Coordinator σ) (stored : σ) (es fs : List Event) :
    after c stored (es ++ fs) = (after c stored es).run c fs :=
  run_append c _ es fs

@[simp] theorem after_concat (c : Coordinator σ) (stored : σ) (es : List Event) (e : Event) :
    after c stored (es ++ [e]) = (after c stored es).step c e := by
  rw [after_append]; rfl

theorem after_append_concat (c : Coordinator σ) (stored : σ) (es fs : List Event) (e : Event) :
    after c stored (es ++ (fs ++ [e])) = (after c stored (es ++ fs)).step c e := by
  rw [← List.append_assoc, after_concat]

theorem after_concat_move (c : Coordinator σ) (stored : σ) (es : List Event) (e : Event) :
    Move c (after c stored es) e (after c stored (es ++ [e])) := by
  rw [after_concat]
  exact step_move c _ e

/-- What holds at the start and is kept by every move holds after every run. -/
theorem after_induction {P : Machine σ → Prop} (c : Coordinator σ) (stored : σ)
    (hstart : P (start c stored)) (hmove : ∀ m e m', Move c m e m' → P m → P m')
    (events : List Event) : P (after c stored events) := by
  suffices ∀ (es : List Event) (m : Machine σ), P m → P (m.run c es) from this events _ hstart
  intro es
  induction es with
  | nil => exact fun m hm => hm
  | cons e es ih => exact fun m hm => ih _ (hmove m e _ (step_move c m e) hm)

end Machine

end RedirectLogin.Coordinator
