import Mathlib.Data.List.Induction
import RedirectLogin.Proofs.Coordinator.Slot

/-!
# Callers and their flights

A caller joins one flight when it arrives and never changes to another. It waits until it sees the
result and returns with it, or it gives up. Once it has returned it no longer shows which flight it
joined, so that is read off the run: caller `k` joined flight `i` if it waited for it at some time.

Principal results: `joined_returned` — a caller returns with the result of the flight it joined;
`observed_joined` — a result that was seen was seen by a caller that did not give up.
-/

set_option autoImplicit false

namespace RedirectLogin.Coordinator

variable {σ : Type} {c : Coordinator σ} {m m' : Machine σ} {e : Event}

namespace Caller

/-- What may become of a caller in one step. -/
inductive Next : Caller → Caller → Prop where
  | same (x : Caller) : Next x x
  | see (i : Nat) (r : Except SessionError AccessToken) : Next (.waiting i) (.holding i r)
  | leave (i : Nat) (r : Except SessionError AccessToken) : Next (.holding i r) (.returned r)
  | giveUp (i : Nat) : Next (.waiting i) .cancelled

/-- As long as a caller shows its flight, that is flight `i`. -/
def Of (i : Nat) : Caller → Prop
  | .waiting j | .holding j _ => j = i
  | _ => True

/-- The caller has seen a result. -/
def HasSeen : Caller → Prop
  | .holding _ _ | .returned _ => True
  | _ => False

theorem Next.of {x y : Caller} {i : Nat} (h : Next x y) (hx : x.Of i) : y.Of i := by
  cases h with
  | same => exact hx
  | see => exact hx
  | leave => exact trivial
  | giveUp => exact trivial

theorem Next.hasSeen {x y : Caller} (h : Next x y) (hx : x.HasSeen) : y.HasSeen := by
  cases h with
  | same => exact hx
  | leave => exact trivial
  | see => cases hx
  | giveUp => cases hx

end Caller

namespace Machine

/-! ## One step -/

/-- Changing one caller by a step of its own is a step for every caller. -/
theorem set_callers_next {l : List Caller} {k j : Nat} {x y z : Caller} (hk : l[k]? = some x)
    (h : Caller.Next x y) (hz : l[j]? = some z) :
    ∃ z', (l.set k y)[j]? = some z' ∧ Caller.Next z z' := by
  by_cases hkj : k = j
  · subst hkj
    rw [hk] at hz; cases hz
    exact ⟨y, getElem?_set_same hk, h⟩
  · refine ⟨z, ?_, .same z⟩
    rw [List.getElem?_set_ne hkj, hz]

/-- Every caller goes on as it may. -/
theorem Move.caller (h : Move c m e m') {k : Nat} {x : Caller} (hk : m.callers[k]? = some x) :
    ∃ y, m'.callers[k]? = some y ∧ Caller.Next x y := by
  cases h with
  | join stale i hi => exact ⟨x, getElem?_concat_of_some _ hk, .same x⟩
  | depart stale hnone => exact ⟨x, getElem?_concat_of_some _ hk, .same x⟩
  | observe l i f result hl hf hphase => exact set_callers_next hl (.see i result) hk
  | leave l i result hl => exact set_callers_next hl (.leave i result) hk
  | cancel l i hl => exact set_callers_next hl (.giveUp i) hk
  | _ => exact ⟨x, hk, .same x⟩

/-- A caller was there before, or it has just arrived and waits. -/
theorem Move.caller_before (h : Move c m e m') {k : Nat} {y : Caller}
    (hk : m'.callers[k]? = some y) :
    (∃ x, m.callers[k]? = some x ∧ Caller.Next x y) ∨ ∃ i, y = .waiting i := by
  cases hx : m.callers[k]? with
  | some x =>
    obtain ⟨y', hy', hnext⟩ := h.caller hx
    rw [hk] at hy'; cases hy'
    exact Or.inl ⟨x, rfl, hnext⟩
  | none =>
    right
    have hset : ∀ {l : Nat} {z : Caller}, (m.callers.set l z)[k]? ≠ some y := by
      intro l z hz
      rw [List.getElem?_eq_none_iff] at hx
      have hlt := (List.getElem?_eq_some_iff.1 hz).1
      rw [List.length_set] at hlt
      omega
    cases h with
    | join stale i hi =>
      rcases getElem?_concat_cases hk with ⟨_, rfl⟩ | hk
      · exact ⟨i, rfl⟩
      · rw [hx] at hk; cases hk
    | depart stale hnone =>
      rcases getElem?_concat_cases hk with ⟨_, rfl⟩ | hk
      · exact ⟨_, rfl⟩
      · rw [hx] at hk; cases hk
    | observe => exact absurd hk hset
    | leave => exact absurd hk hset
    | cancel => exact absurd hk hset
    | _ => rw [hx] at hk; cases hk

/-- A flight that has finished keeps its result, and stays seen once it is. -/
theorem Move.finished (h : Move c m e m') {i : Nat} {f : Flight}
    {r : Except SessionError AccessToken} (hf : m.flights[i]? = some f)
    (hphase : f.phase = .finished r) :
    ∃ g, m'.flights[i]? = some g ∧ g.phase = .finished r ∧
      (f.observed = true → g.observed = true) := by
  have hset : ∀ {j : Nat} {g g' : Flight}, m.flights[j]? = some g →
      (∀ q, g.phase ≠ .finished q) → (m.flights.set j g')[i]? = some f := by
    intro j g g' hg hne
    refine getElem?_set_other hf hg ?_
    rintro rfl
    exact hne r hphase
  cases h with
  | depart stale hnone => exact ⟨f, getElem?_concat_of_some _ hf, hphase, id⟩
  | settle j g result state hg hwait hbegin ht =>
    exact ⟨f, hset hg (by rw [hwait]; simp), hphase, id⟩
  | ask j g tokens refresh hg hwait hsession haccess hrefresh =>
    exact ⟨f, hset hg (by rw [hwait]; simp), hphase, id⟩
  | finish j g outcome now hg hrequest =>
    exact ⟨f, hset hg (by rw [hrequest]; simp), hphase, id⟩
  | observe k j g result hk hg hfin =>
    by_cases hji : j = i
    · subst hji
      rw [hf] at hg; cases hg
      exact ⟨_, getElem?_set_same hf, hphase, fun _ => rfl⟩
    · refine ⟨f, ?_, hphase, id⟩
      show (m.flights.set j _)[i]? = some f
      rw [List.getElem?_set_ne hji, hf]
  | _ => exact ⟨f, hf, hphase, id⟩

/-- A result is seen by a caller that waits for it. -/
theorem Move.observed_before (h : Move c m e m') {i : Nat} {g : Flight}
    (hg : m'.flights[i]? = some g) (hobs : g.observed = true) :
    (∃ f, m.flights[i]? = some f ∧ f.observed = true) ∨
      ∃ (k : Nat) (r : Except SessionError AccessToken),
        m.callers[k]? = some (.waiting i) ∧ m'.callers[k]? = some (.holding i r) := by
  have hset : ∀ {j : Nat} {f f' : Flight}, m.flights[j]? = some f →
      (m.flights.set j f')[i]? = some g → f'.observed = f.observed →
      ∃ f, m.flights[i]? = some f ∧ f.observed = true := by
    intro j f f' hf hg hsame
    rcases getElem?_set_cases hg with ⟨rfl, rfl⟩ | ⟨_, hg⟩
    · exact ⟨f, hf, hsame.symm.trans hobs⟩
    · exact ⟨g, hg, hobs⟩
  cases h with
  | depart stale hnone =>
    rcases getElem?_concat_cases hg with ⟨_, rfl⟩ | hg
    · cases hobs
    · exact Or.inl ⟨g, hg, hobs⟩
  | settle j f result state hf hwait hbegin ht => exact Or.inl (hset hf hg rfl)
  | ask j f tokens refresh hf hwait hsession haccess hrefresh => exact Or.inl (hset hf hg rfl)
  | finish j f outcome now hf hrequest => exact Or.inl (hset hf hg rfl)
  | observe k j f result hk hf hfin =>
    rcases getElem?_set_cases hg with ⟨rfl, _⟩ | ⟨_, hg⟩
    · exact Or.inr ⟨k, result, hk, getElem?_set_same hk⟩
    · exact Or.inl ⟨g, hg, hobs⟩
  | _ => exact Or.inl ⟨g, hg, hobs⟩

/-! ## Along a run -/

/-- In the course of these events caller `k` joined flight `i`: at some time it waited for it. -/
def Joined (c : Coordinator σ) (stored : σ) (events : List Event) (k i : Nat) : Prop :=
  ∃ before, before <+: events ∧ (after c stored before).callers[k]? = some (.waiting i)

variable {stored : σ} {events : List Event} {k i : Nat}

theorem Joined.of_waiting (h : (after c stored events).callers[k]? = some (.waiting i)) :
    Joined c stored events k i :=
  ⟨events, List.prefix_refl events, h⟩

theorem Joined.append (h : Joined c stored events k i) (later : List Event) :
    Joined c stored (events ++ later) k i := by
  obtain ⟨before, hprefix, hk⟩ := h
  exact ⟨before, hprefix.trans (List.prefix_append events later), hk⟩

theorem joined_concat (h : Joined c stored (events ++ [e]) k i) :
    Joined c stored events k i ∨
      (after c stored (events ++ [e])).callers[k]? = some (.waiting i) := by
  obtain ⟨before, hprefix, hk⟩ := h
  rcases List.prefix_concat_iff.1 hprefix with rfl | hprefix
  · exact Or.inr hk
  · exact Or.inl ⟨before, hprefix, hk⟩

/-- A caller that joined a flight is still there, and shows no other flight. -/
theorem joined_caller (h : Joined c stored events k i) :
    ∃ x, (after c stored events).callers[k]? = some x ∧ x.Of i := by
  induction events using List.reverseRecOn with
  | nil =>
    obtain ⟨before, hprefix, hk⟩ := h
    rw [List.prefix_nil.1 hprefix] at hk
    simp [start] at hk
  | append_singleton es e ih =>
    rcases joined_concat h with h | hk
    · obtain ⟨x, hx, hof⟩ := ih h
      obtain ⟨y, hy, hnext⟩ := (after_concat_move c stored es e).caller hx
      exact ⟨y, hy, hnext.of hof⟩
    · exact ⟨_, hk, rfl⟩

theorem Joined.lt_length (h : Joined c stored events k i) :
    k < (after c stored events).callers.length := by
  obtain ⟨x, hx, _⟩ := joined_caller h
  exact (List.getElem?_eq_some_iff.1 hx).1

/-- A caller that has seen the result of a flight and not yet left had joined that flight. -/
theorem holding_joined {r : Except SessionError AccessToken}
    (hk : (after c stored events).callers[k]? = some (.holding i r)) :
    Joined c stored events k i := by
  induction events using List.reverseRecOn with
  | nil => simp [start] at hk
  | append_singleton es e ih =>
    rcases (after_concat_move c stored es e).caller_before hk with ⟨x, hx, hnext⟩ | ⟨j, hj⟩
    · cases hnext with
      | same => exact (ih hx).append [e]
      | see => exact (Joined.of_waiting hx).append [e]
    · cases hj

/-- **A result that was seen was seen by a caller that joined the flight and did not give up.** -/
theorem observed_joined {f : Flight} (hf : (after c stored events).flights[i]? = some f)
    (hobs : f.observed = true) :
    ∃ k x, Joined c stored events k i ∧ (after c stored events).callers[k]? = some x ∧
      x.HasSeen := by
  induction events using List.reverseRecOn generalizing f with
  | nil => simp [start] at hf
  | append_singleton es e ih =>
    have hmove := after_concat_move c stored es e
    rcases hmove.observed_before hf hobs with ⟨g, hg, hseen⟩ | ⟨k, r, hbefore, hk⟩
    · obtain ⟨k, x, hjoined, hx, hseen⟩ := ih hg hseen
      obtain ⟨y, hy, hnext⟩ := hmove.caller hx
      exact ⟨k, y, hjoined.append [e], hy, hnext.hasSeen hseen⟩
    · exact ⟨k, _, (Joined.of_waiting hbefore).append [e], hk, trivial⟩

/-- **A caller returns with the result of the flight it joined.** -/
theorem joined_returned {r : Except SessionError AccessToken} (h : Joined c stored events k i)
    (hk : (after c stored events).callers[k]? = some (.returned r)) :
    ∃ f, (after c stored events).flights[i]? = some f ∧ f.phase = .finished r ∧
      f.observed = true := by
  induction events using List.reverseRecOn with
  | nil => simp [start] at hk
  | append_singleton es e ih =>
    have hmove := after_concat_move c stored es e
    rcases joined_concat h with hjoined | hwaiting
    · -- The flight had its result when the caller left, and keeps it.
      have hbefore : ∃ f, (after c stored es).flights[i]? = some f ∧ f.phase = .finished r ∧
          f.observed = true := by
        rcases hmove.caller_before hk with ⟨x, hx, hnext⟩ | ⟨j, hj⟩
        · cases hnext with
          | same => exact ih hjoined hx
          | leave j =>
            obtain ⟨y, hy, hof⟩ := joined_caller hjoined
            rw [hx] at hy; cases hy
            have hji : j = i := hof
            subst hji
            exact (after_slotInv c stored es).holding k j r hx
        · cases hj
      obtain ⟨f, hf, hphase, hobs⟩ := hbefore
      obtain ⟨g, hg, hfin, hseen⟩ := hmove.finished hf hphase
      exact ⟨g, hg, hfin, hseen hobs⟩
    · rw [hk] at hwaiting; cases hwaiting

end Machine

end RedirectLogin.Coordinator
