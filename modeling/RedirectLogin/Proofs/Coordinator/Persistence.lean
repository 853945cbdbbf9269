import RedirectLogin.Proofs.Coordinator.Events
import RedirectLogin.Proofs.Store.Register

/-!
# Memory and store

A session never has tokens that its store does not hold. The store may fail at any attempt, any
number of times. Tokens enter the session in two ways only, read at the start or saved before, and
they leave it whenever somebody writes to the store and fails. A refresh that is given up takes its
tokens back without looking at the store, and finds that nobody has written in the meantime.

Principal results: `Transition.kept` — no section breaks this; `authenticated_kept` — the store
holds the tokens of the session after every run, and a coordinator that starts over from the same
store is authenticated with them.
-/

set_option autoImplicit false

namespace RedirectLogin.Coordinator

variable {σ : Type} {c : Coordinator σ} {s t : State σ} {content : σ → Option TokenSet}

/-- The store holds the tokens of the session, if it has any. -/
def Kept (content : σ → Option TokenSet) (s : State σ) : Prop :=
  ∀ tokens, s.session.tokens? = some tokens → content s.stored = some tokens

theorem kept_of_tokens?_none (h : s.session.tokens? = none) : Kept content s := by
  intro tokens htokens
  rw [h] at htokens
  cases htokens

/-- The tokens of a session are kept by a section that changes neither tokens nor content. -/
theorem Kept.of_same (hs : Kept content s) (htokens : t.session.tokens? = s.session.tokens?)
    (hcontent : content t.stored = content s.stored) : Kept content t := by
  intro tokens h
  rw [hcontent]
  exact hs tokens (htokens.symm.trans h)

/-- What a coordinator reads at its start it keeps. -/
theorem start_kept (hc : c.store.IsRegister content) (stored : σ) :
    Kept content (c.start stored) := by
  rcases start_cases c stored with ⟨found, t, hload, h⟩ | ⟨e, t, _, h⟩
  · rw [h]
    cases found with
    | none => exact kept_of_tokens?_none rfl
    | some tokens =>
      obtain ⟨hfound, hkeeps⟩ := hc.loaded hload
      intro kept h
      cases h
      exact hkeeps.trans hfound.symm
  · rw [h]
    exact kept_of_tokens?_none rfl

/-- **No section lets the session claim tokens that the store does not hold.** -/
theorem Transition.kept (hc : c.store.IsRegister content) (h : Transition c s t)
    (hs : Kept content s) : Kept content t := by
  cases h with
  | stay => exact hs
  | read found stored hload => exact hs.of_same rfl (hc.load_keeps hload)
  | finishLogin login tokens stored hlogin hsave =>
    intro kept h
    cases h
    exact hc.saved hsave
  | finishRefresh previous tokens stored hpending hsave =>
    intro kept h
    cases h
    exact hc.saved hsave
  | restore previous hpending => exact hs.of_same (by rw [hpending]; rfl) rfl
  | _ => exact kept_of_tokens?_none rfl

namespace Machine

variable {m m' : Machine σ} {e : Event}

theorem Move.kept (hc : c.store.IsRegister content) (h : Move c m e m')
    (hm : Kept content m.state) : Kept content m'.state := by
  rcases h.state_cases with ht | ⟨i, f, tokens, refresh, _, _, _, hsession, _, _, hstate, _⟩
  · exact ht.kept hc hm
  · rw [hstate]
    exact hm.of_same (by rw [hsession]; rfl) rfl

theorem after_kept (hc : c.store.IsRegister content) (stored : σ) (events : List Event) :
    Kept content (after c stored events).state :=
  after_induction c stored (start_kept hc stored) (fun _ _ _ h hm => h.kept hc hm) events

/-- **The store holds the tokens of the session.** This is so after every run, whichever attempts
on the store fail. A coordinator that starts at that moment over the same store, and reads it, is
authenticated with the very same tokens. -/
theorem authenticated_kept (hc : c.store.IsRegister content) (stored : σ) (events : List Event)
    (tokens : TokenSet)
    (hsession : (after c stored events).state.session = .authenticated tokens ∨
      (after c stored events).state.session = .refreshPending tokens) :
    content (after c stored events).state.stored = some tokens ∧
      ∀ (c' : Coordinator σ) (found : Option TokenSet) (s : σ), c'.store = c.store →
        attemptTwice c.store.load (after c stored events).state.stored = (.ok found, s) →
        (c'.start (after c stored events).state.stored).session = .authenticated tokens := by
  have hheld : content (after c stored events).state.stored = some tokens := by
    refine after_kept hc stored events tokens ?_
    rcases hsession with h | h
    · rw [h]; rfl
    · rw [h]; rfl
  refine ⟨hheld, fun c' found s hstore hload => ?_⟩
  obtain ⟨hfound, _⟩ := hc.loaded hload
  have hread : found = some tokens := hfound.trans hheld
  simp only [Coordinator.start, hstore, hload, hread, Session.ofStored]

/-- A refresh whose load and save fail once each, and a new start after it that reads twice. -/
theorem refreshed_tokens_kept :
    let c := Coordinator.ofConfig .default Register.store
    let old : TokenSet := ⟨⟨"a1", by decide⟩, some ⟨"r1", by decide⟩, ⟨0, 0⟩⟩
    let new : TokenSet := ⟨⟨"a2", by decide⟩, some ⟨"r2", by decide⟩, ⟨60, 0⟩⟩
    let m := after c ⟨some old, [true, false, true, false, true], []⟩
      [.call old.access, .begin 0, .finish 0 (.ok ⟨"a2", some "r2", none⟩) ⟨60, 0⟩]
    c.store.IsRegister Register.content ∧ m.state.session = .authenticated new ∧
      m.state.stored.content = some new ∧
      (c.start m.state.stored).session = .authenticated new := by
  intro c old new m
  have hnew : m.state.session = .authenticated new := by decide
  obtain ⟨hheld, hrestart⟩ := authenticated_kept (c := c) register_isRegister
    ⟨some old, [true, false, true, false, true], []⟩
    [.call old.access, .begin 0, .finish 0 (.ok ⟨"a2", some "r2", none⟩) ⟨60, 0⟩] new
    (Or.inl hnew)
  have hload : attemptTwice c.store.load m.state.stored =
      (.ok (some new), ⟨some new, [], [.load, .load, .save, .save, .load, .load]⟩) := by rfl
  exact ⟨register_isRegister, hnew, hheld, hrestart c (some new) _ rfl hload⟩

end Machine

end RedirectLogin.Coordinator
