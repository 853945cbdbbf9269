import RedirectLogin.Proofs.Coordinator.Events

/-!
# The slot

Which flights a new caller can still join. A flight that nobody has seen the result of is in the
slot, so there is at most one, the last; a flight that somebody has seen the result of has finished,
and it leaves the slot with the first such caller that returns. These facts hold in every reachable
machine, whoever gives up waiting and when.

Principal results: `after_slotInv` — the invariant holds after every run; `SlotInv.flying_unique` —
at most one flight has not finished.
-/

set_option autoImplicit false

namespace RedirectLogin.Coordinator

variable {σ α : Type} {c : Coordinator σ} {m m' : Machine σ} {e : Event}

/-! ## Reading updated lists -/

theorem getElem?_set_cases {l : List α} {i j : Nat} {a b : α} (h : (l.set i a)[j]? = some b) :
    (j = i ∧ b = a) ∨ (j ≠ i ∧ l[j]? = some b) := by
  rw [List.getElem?_set] at h
  split at h
  · rename_i hij
    split at h
    · cases h; exact Or.inl ⟨hij.symm, rfl⟩
    · cases h
  · rename_i hij
    exact Or.inr ⟨fun hji => hij hji.symm, h⟩

theorem getElem?_set_same {l : List α} {i : Nat} {a b : α} (h : l[i]? = some b) :
    (l.set i a)[i]? = some a :=
  List.getElem?_set_self (List.getElem?_eq_some_iff.1 h).1

/-- A change at an entry that is another one leaves this one alone. -/
theorem getElem?_set_other {l : List α} {i j : Nat} {a b b' : α} (hi : l[i]? = some a)
    (hj : l[j]? = some b) (hab : a ≠ b) : (l.set j b')[i]? = some a := by
  have hne : j ≠ i := by
    rintro rfl
    exact hab (Option.some.inj (hi.symm.trans hj))
  rw [List.getElem?_set_ne hne, hi]

theorem getElem?_concat_cases {l : List α} {j : Nat} {a b : α} (h : (l ++ [a])[j]? = some b) :
    (j = l.length ∧ b = a) ∨ l[j]? = some b := by
  rw [List.getElem?_append] at h
  split at h
  · exact Or.inr h
  · rw [List.getElem?_singleton] at h
    split at h
    · cases h; exact Or.inl ⟨by omega, rfl⟩
    · cases h

theorem getElem?_concat_of_some {l : List α} {j : Nat} {b : α} (a : α) (h : l[j]? = some b) :
    (l ++ [a])[j]? = some b := by
  rw [List.getElem?_append_left (List.getElem?_eq_some_iff.1 h).1]
  exact h

namespace Machine

/-- The task of flight `i` has not finished. -/
def Flying (m : Machine σ) (i : Nat) : Prop :=
  ∃ f, m.flights[i]? = some f ∧ f.result? = none

/-- How slot, flights and callers hang together. -/
structure SlotInv (m : Machine σ) : Prop where
  /-- A flight whose result nobody has seen is in the slot. -/
  unobserved : ∀ (i : Nat) (f : Flight), m.flights[i]? = some f → f.observed = false →
    m.slot = some i
  /-- Only a finished flight has a result to see. -/
  observed : ∀ (i : Nat) (f : Flight), m.flights[i]? = some f → f.observed = true →
    ∃ r, f.phase = .finished r
  /-- A caller about to leave has seen the result of its flight. -/
  holding : ∀ (k i : Nat) (r : Except SessionError AccessToken),
    m.callers[k]? = some (.holding i r) →
    ∃ f, m.flights[i]? = some f ∧ f.phase = .finished r ∧ f.observed = true
  /-- As long as a flight that was seen is in the slot, somebody is about to take it out. -/
  held : ∀ (i : Nat) (f : Flight), m.slot = some i → m.flights[i]? = some f →
    f.observed = true → ∃ (k : Nat) (r : Except SessionError AccessToken),
      m.callers[k]? = some (.holding i r)
  /-- Only the last flight can be in the slot. -/
  slot_last : ∀ i, m.slot = some i → i + 1 = m.flights.length

theorem start_slotInv (c : Coordinator σ) (stored : σ) : SlotInv (start c stored) where
  unobserved i f h := by simp [start] at h
  observed i f h := by simp [start] at h
  holding k i r h := by simp [start] at h
  held i f h := by simp [start] at h
  slot_last i h := by simp [start] at h

/-- A flight that can be joined is in the slot, and nobody has seen its result. -/
theorem joinable?_eq_some {i : Nat} (h : m.joinable? = some i) :
    m.slot = some i ∧ ∃ f, m.flights[i]? = some f ∧ f.observed = false := by
  unfold joinable? at h
  obtain ⟨hslot, hany⟩ := Option.filter_eq_some_iff.1 h
  refine ⟨hslot, ?_⟩
  cases hf : m.flights[i]? with
  | none => rw [hf] at hany; simp at hany
  | some f => rw [hf] at hany; exact ⟨f, rfl, by simpa using hany⟩

theorem joinable?_of_unobserved {i : Nat} {f : Flight} (hslot : m.slot = some i)
    (hf : m.flights[i]? = some f) (hobs : f.observed = false) : m.joinable? = some i := by
  simp [joinable?, hslot, Option.filter, hf, hobs]

namespace SlotInv

/-- A flight that has not finished was seen by nobody. -/
theorem unobserved_of_unfinished (hm : SlotInv m) {i : Nat} {f : Flight}
    (hf : m.flights[i]? = some f) (hphase : ∀ r, f.phase ≠ .finished r) : f.observed = false := by
  cases hobs : f.observed with
  | false => rfl
  | true =>
    obtain ⟨r, hr⟩ := hm.observed i f hf hobs
    exact absurd hr (hphase r)

/-- **At most one flight has not finished.** -/
theorem flying_unique (hm : SlotInv m) {i j : Nat} (hi : m.Flying i) (hj : m.Flying j) :
    i = j := by
  have hslot : ∀ k, m.Flying k → m.slot = some k := by
    intro k ⟨f, hf, hresult⟩
    refine hm.unobserved k f hf (hm.unobserved_of_unfinished hf fun r hr => ?_)
    simp [Flight.result?, hr] at hresult
  have h := (hslot i hi).symm.trans (hslot j hj)
  exact Option.some.inj h

/-- A flight may go on as long as it has not finished. -/
theorem set_flight (hm : SlotInv m) {i : Nat} {f g : Flight} (state : State σ)
    (hf : m.flights[i]? = some f) (hphase : ∀ r, f.phase ≠ .finished r)
    (hg : g.observed = f.observed) :
    SlotInv { m with state := state, flights := m.flights.set i g } := by
  have hobs := hm.unobserved_of_unfinished hf hphase
  constructor
  · intro j h hh hseen
    rcases getElem?_set_cases hh with ⟨rfl, _⟩ | ⟨_, hh⟩
    · exact hm.unobserved j f hf hobs
    · exact hm.unobserved j h hh hseen
  · intro j h hh hseen
    rcases getElem?_set_cases hh with ⟨_, rfl⟩ | ⟨_, hh⟩
    · rw [hg, hobs] at hseen; cases hseen
    · exact hm.observed j h hh hseen
  · intro k j r hk
    obtain ⟨h, hh, hfin, hseen⟩ := hm.holding k j r hk
    have hne : h ≠ f := by
      rintro rfl
      exact hphase r hfin
    exact ⟨h, getElem?_set_other hh hf hne, hfin, hseen⟩
  · intro j h hslot hh hseen
    rcases getElem?_set_cases hh with ⟨_, rfl⟩ | ⟨_, hh⟩
    · rw [hg, hobs] at hseen; cases hseen
    · exact hm.held j h hslot hh hseen
  · intro j hslot
    show j + 1 = (m.flights.set i g).length
    rw [List.length_set]
    exact hm.slot_last j hslot

/-- A caller arrives at the flight in the slot. -/
theorem join (hm : SlotInv m) (i : Nat) :
    SlotInv { m with callers := m.callers ++ [.waiting i] } := by
  refine ⟨hm.unobserved, hm.observed, ?_, ?_, hm.slot_last⟩
  · intro k j r hk
    rcases getElem?_concat_cases hk with ⟨_, h⟩ | hk
    · cases h
    · exact hm.holding k j r hk
  · intro j f hslot hf hseen
    obtain ⟨k, r, hk⟩ := hm.held j f hslot hf hseen
    exact ⟨k, r, getElem?_concat_of_some _ hk⟩

/-- A caller starts a flight. No flight may be unseen then, for the slot changes. -/
theorem depart (hm : SlotInv m) (stale : AccessToken) (h : m.joinable? = none) :
    SlotInv { m with
      flights := m.flights ++ [.start stale]
      slot := some m.flights.length
      callers := m.callers ++ [.waiting m.flights.length] } := by
  constructor
  · intro i f hf hseen
    rcases getElem?_concat_cases hf with ⟨rfl, _⟩ | hf
    · rfl
    · rw [joinable?_of_unobserved (hm.unobserved i f hf hseen) hf hseen] at h
      cases h
  · intro i f hf hseen
    rcases getElem?_concat_cases hf with ⟨_, rfl⟩ | hf
    · cases hseen
    · exact hm.observed i f hf hseen
  · intro k i r hk
    rcases getElem?_concat_cases hk with ⟨_, h⟩ | hk
    · cases h
    · obtain ⟨f, hf, hfin, hseen⟩ := hm.holding k i r hk
      exact ⟨f, getElem?_concat_of_some _ hf, hfin, hseen⟩
  · intro i f hslot hf hseen
    cases hslot
    rcases getElem?_concat_cases hf with ⟨_, rfl⟩ | hf
    · cases hseen
    · exact absurd (List.getElem?_eq_some_iff.1 hf).1 (Nat.lt_irrefl _)
  · intro i hslot
    cases hslot
    simp

/-- A caller sees a result, and from then on somebody is about to empty the slot. -/
theorem observe (hm : SlotInv m) {k i : Nat} {f : Flight} {r : Except SessionError AccessToken}
    (hk : m.callers[k]? = some (.waiting i)) (hf : m.flights[i]? = some f)
    (hphase : f.phase = .finished r) :
    SlotInv { m with
      flights := m.flights.set i { f with observed := true }
      callers := m.callers.set k (.holding i r) } := by
  constructor
  · intro j g hg hseen
    rcases getElem?_set_cases hg with ⟨_, rfl⟩ | ⟨_, hg⟩
    · cases hseen
    · exact hm.unobserved j g hg hseen
  · intro j g hg hseen
    rcases getElem?_set_cases hg with ⟨_, rfl⟩ | ⟨_, hg⟩
    · exact ⟨r, hphase⟩
    · exact hm.observed j g hg hseen
  · intro l j q hl
    rcases getElem?_set_cases hl with ⟨_, h⟩ | ⟨_, hl⟩
    · cases h
      exact ⟨_, getElem?_set_same hf, hphase, rfl⟩
    · obtain ⟨g, hg, hfin, hseen⟩ := hm.holding l j q hl
      by_cases hij : i = j
      · subst hij
        rw [hf] at hg; cases hg
        exact ⟨_, getElem?_set_same hf, hfin, rfl⟩
      · refine ⟨g, ?_, hfin, hseen⟩
        show (m.flights.set i _)[j]? = some g
        rw [List.getElem?_set_ne hij, hg]
  · intro j g hslot hg hseen
    rcases getElem?_set_cases hg with ⟨rfl, _⟩ | ⟨_, hg⟩
    · exact ⟨k, r, getElem?_set_same hk⟩
    · obtain ⟨l, q, hl⟩ := hm.held j g hslot hg hseen
      refine ⟨l, q, ?_⟩
      have hne : k ≠ l := by
        rintro rfl
        rw [hk] at hl; cases hl
      show (m.callers.set k _)[l]? = some (.holding j q)
      rw [List.getElem?_set_ne hne, hl]
  · intro j hslot
    show j + 1 = (m.flights.set i _).length
    rw [List.length_set]
    exact hm.slot_last j hslot

/-- A caller leaves, with its flight if that is still in the slot. -/
theorem leave (hm : SlotInv m) {k i : Nat} {r : Except SessionError AccessToken}
    (hk : m.callers[k]? = some (.holding i r)) :
    SlotInv { m with
      slot := if m.slot = some i then none else m.slot
      callers := m.callers.set k (.returned r) } := by
  constructor
  · intro j g hg hseen
    have hslot := hm.unobserved j g hg hseen
    obtain ⟨f, hf, _, hobs⟩ := hm.holding k i r hk
    have hne : m.slot ≠ some i := by
      rw [hslot]
      rintro h
      cases h
      rw [hf] at hg; cases hg
      rw [hobs] at hseen; cases hseen
    show (if m.slot = some i then none else m.slot) = some j
    rw [if_neg hne, hslot]
  · exact hm.observed
  · intro l j q hl
    rcases getElem?_set_cases hl with ⟨_, h⟩ | ⟨_, hl⟩
    · cases h
    · exact hm.holding l j q hl
  · intro j g hslot hg hseen
    replace hslot : (if m.slot = some i then none else m.slot) = some j := hslot
    split at hslot
    · cases hslot
    · rename_i hne
      obtain ⟨l, q, hl⟩ := hm.held j g hslot hg hseen
      have hother : Caller.holding j q ≠ .holding i r := by
        intro h
        cases h
        exact hne hslot
      exact ⟨l, q, getElem?_set_other hl hk hother⟩
  · intro j hslot
    replace hslot : (if m.slot = some i then none else m.slot) = some j := hslot
    split at hslot
    · cases hslot
    · exact hm.slot_last j hslot

/-- A caller gives up, which changes nothing for the others. -/
theorem cancel (hm : SlotInv m) {k i : Nat} (hk : m.callers[k]? = some (.waiting i)) :
    SlotInv { m with callers := m.callers.set k .cancelled } := by
  refine ⟨hm.unobserved, hm.observed, ?_, ?_, hm.slot_last⟩
  · intro l j q hl
    rcases getElem?_set_cases hl with ⟨_, h⟩ | ⟨_, hl⟩
    · cases h
    · exact hm.holding l j q hl
  · intro j f hslot hf hseen
    obtain ⟨l, q, hl⟩ := hm.held j f hslot hf hseen
    exact ⟨l, q, getElem?_set_other hl hk (by simp)⟩

theorem move (hm : SlotInv m) (h : Move c m e m') : SlotInv m' := by
  cases h with
  | idle => exact hm
  | join stale i hi => exact hm.join i
  | depart stale hnone => exact hm.depart stale hnone
  | settle i f result state hf hphase hbegin ht =>
    exact hm.set_flight state hf (fun r hr => by rw [hphase] at hr; cases hr) rfl
  | ask i f tokens refresh hf hphase hsession haccess hrefresh =>
    exact hm.set_flight _ hf (fun r hr => by rw [hphase] at hr; cases hr) rfl
  | finish i f outcome now hf hphase =>
    exact hm.set_flight _ hf (fun r hr => by rw [hphase] at hr; cases hr) rfl
  | observe k i f result hk hf hphase => exact hm.observe hk hf hphase
  | leave k i result hk => exact hm.leave hk
  | cancel k i hk => exact hm.cancel hk
  | operate operation now => exact ⟨hm.unobserved, hm.observed, hm.holding, hm.held, hm.slot_last⟩

end SlotInv

theorem after_slotInv (c : Coordinator σ) (stored : σ) (events : List Event) :
    SlotInv (after c stored events) :=
  after_induction c stored (start_slotInv c stored) (fun _ _ _ h hm => hm.move h) events

end Machine

end RedirectLogin.Coordinator
