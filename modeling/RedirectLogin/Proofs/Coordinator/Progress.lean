import Mathlib.Algebra.GroupWithZero.Nat
import RedirectLogin.Proofs.Coordinator.Slot

/-!
# Coming to rest

Once no more callers arrive a machine goes on by itself: flights run their sections as soon as the
backend answers, callers see the results and return. `work` counts the steps that are left. Each
step that does anything lowers it, so a machine goes on for a bounded time only, and in whatever
order the steps are taken it ends with every flight finished and every caller gone.

Principal results: `proceeds_work` — what goes on by itself lowers the work that is left;
`busy_length_le` — so it goes on for that many steps at most; `AtRest.caller_gone` — nobody waits
when it stops.
-/

set_option autoImplicit false

namespace RedirectLogin.Coordinator

variable {σ α : Type} {c : Coordinator σ} {m m' : Machine σ} {e : Event}

/-- The sections that a flight still has to run. -/
def Flight.work (f : Flight) : Nat :=
  match f.phase with
  | .waiting => 2
  | .requesting => 1
  | .finished _ => 0

/-- The steps that a caller takes until it is gone. -/
def Caller.work : Caller → Nat
  | .waiting _ => 2
  | .holding _ _ => 1
  | .returned _ | .cancelled => 0

/-- What goes on by itself, if the backend's answer is `outcome`. -/
inductive Event.Proceeds (outcome : Except RefreshFailure RefreshResponse) : Event → Prop
  | begin (i : Nat) : Proceeds outcome (.begin i)
  | finish (i : Nat) (now : Timestamp) : Proceeds outcome (.finish i outcome now)
  | observe (k : Nat) : Proceeds outcome (.observe k)
  | leave (k : Nat) : Proceeds outcome (.leave k)

/-- A sum in which one term is replaced. -/
theorem sum_map_set (f : α → Nat) {l : List α} {i : Nat} {a : α} (b : α) (h : l[i]? = some a) :
    ((l.set i b).map f).sum + f a = (l.map f).sum + f b := by
  induction l generalizing i with
  | nil => simp at h
  | cons x xs ih =>
    cases i with
    | zero =>
      simp only [List.getElem?_cons_zero, Option.some.injEq] at h
      subst h
      simp only [List.set_cons_zero, List.map_cons, List.sum_cons]
      omega
    | succ i =>
      have hxs := ih (i := i) (by simpa using h)
      simp only [List.set_cons_succ, List.map_cons, List.sum_cons]
      omega

namespace Machine

/-- The steps that are left if no more callers arrive. -/
def work (m : Machine σ) : Nat :=
  (m.flights.map Flight.work).sum + (m.callers.map Caller.work).sum

/-- Nothing goes on any more. -/
def AtRest (c : Coordinator σ) (outcome : Except RefreshFailure RefreshResponse)
    (m : Machine σ) : Prop :=
  ∀ e, Event.Proceeds outcome e → m.step c e = m

/-- A machine goes on by itself, doing something with every event. -/
def Busy (c : Coordinator σ) (outcome : Except RefreshFailure RefreshResponse)
    (m : Machine σ) : List Event → Prop
  | [] => True
  | e :: es => e.Proceeds outcome ∧ m.step c e ≠ m ∧ Busy c outcome (m.step c e) es

variable {outcome : Except RefreshFailure RefreshResponse}

/-! ## Work -/

/-- A flight that goes on lowers the work. -/
theorem set_flight_work {i : Nat} {f g : Flight} (state : State σ) (hf : m.flights[i]? = some f)
    (hlt : g.work < f.work) :
    work { m with state := state, flights := m.flights.set i g } < m.work := by
  have hset := sum_map_set Flight.work g hf
  simp only [work]
  omega

/-- **Whatever goes on by itself does nothing, or it lowers the work that is left.** -/
theorem proceeds_work (c : Coordinator σ) (m : Machine σ) (he : e.Proceeds outcome) :
    m.step c e = m ∨ (m.step c e).work < m.work := by
  have hmove := step_move c m e
  generalize m.step c e = m' at hmove ⊢
  cases hmove with
  | idle => exact Or.inl rfl
  | settle i f result state hf hphase hbegin ht =>
    exact Or.inr (set_flight_work state hf (by simp [Flight.work, hphase]))
  | ask i f tokens refresh hf hphase hsession haccess hrefresh =>
    exact Or.inr (set_flight_work _ hf (by simp [Flight.work, hphase]))
  | finish i f outcome now hf hphase =>
    exact Or.inr (set_flight_work _ hf (by simp [Flight.work, hphase]))
  | observe k i f result hk hf hphase =>
    have hflights := sum_map_set Flight.work { f with observed := true } hf
    have hcallers := sum_map_set Caller.work (.holding i result) hk
    have hsame : ({ f with observed := true } : Flight).work = f.work := rfl
    simp only [Caller.work] at hcallers
    right
    simp only [work]
    omega
  | leave k i result hk =>
    have hcallers := sum_map_set Caller.work (.returned result) hk
    simp only [Caller.work] at hcallers
    right
    simp only [work]
    omega
  | _ => cases he

/-- **A machine goes on by itself for a bounded time.** -/
theorem busy_length_le {es : List Event} (h : m.Busy c outcome es) : es.length ≤ m.work := by
  induction es generalizing m with
  | nil => exact Nat.zero_le _
  | cons e es ih =>
    obtain ⟨he, hchange, hrest⟩ := h
    have hlater := ih hrest
    have hlower := (proceeds_work c m he).resolve_left hchange
    simp only [List.length_cons]
    omega

/-! ## At rest -/

/-- A caller waits for a flight that there is. -/
theorem waiting_lt (c : Coordinator σ) (stored : σ) (events : List Event) {k i : Nat}
    (hk : (after c stored events).callers[k]? = some (.waiting i)) :
    i < (after c stored events).flights.length := by
  refine after_induction (P := fun m => ∀ k i, m.callers[k]? = some (.waiting i) →
    i < m.flights.length) c stored (by simp [start]) ?_ events k i hk
  intro m e m' hmove hm k i hk
  cases hmove with
  | join stale j hjoin =>
    rcases getElem?_concat_cases hk with ⟨_, h⟩ | hk
    · cases h
      obtain ⟨_, f, hf, _⟩ := joinable?_eq_some hjoin
      exact (List.getElem?_eq_some_iff.1 hf).1
    · exact hm k i hk
  | depart stale hnone =>
    have hlength : i ≤ m.flights.length := by
      rcases getElem?_concat_cases hk with ⟨_, h⟩ | hk
      · cases h; exact Nat.le_refl _
      · exact Nat.le_of_lt (hm k i hk)
    simp only [List.length_append, List.length_singleton]
    omega
  | observe l j f result hl hf hphase =>
    rcases getElem?_set_cases hk with ⟨_, h⟩ | ⟨_, hk⟩
    · cases h
    · simpa using hm k i hk
  | leave l j result hl =>
    rcases getElem?_set_cases hk with ⟨_, h⟩ | ⟨_, hk⟩
    · cases h
    · exact hm k i hk
  | cancel l j hl =>
    rcases getElem?_set_cases hk with ⟨_, h⟩ | ⟨_, hk⟩
    · cases h
    · exact hm k i hk
  | settle | ask | finish => simpa using hm k i hk
  | _ => exact hm k i hk

/-- The first section leaves no flight waiting. -/
theorem afterBegin_phase (f : Flight) (start : RefreshStart) :
    (f.afterBegin start).phase ≠ .waiting := by
  cases start <;> simp [Flight.afterBegin]

/-- When nothing goes on, every flight has finished. -/
theorem AtRest.flight_finished (h : m.AtRest c outcome) {i : Nat} {f : Flight}
    (hf : m.flights[i]? = some f) : ∃ r, f.phase = .finished r := by
  cases hphase : f.phase with
  | finished r => exact ⟨r, rfl⟩
  | waiting =>
    have hbegun : (m.step c (.begin i)).flights[i]? =
        some (f.afterBegin (c.beginRefresh f.stale m.state).1) := by
      simp only [step, begin, hf, hphase]
      exact getElem?_set_same hf
    rw [h _ (.begin i), hf] at hbegun
    rw [Option.some.inj hbegun] at hphase
    exact absurd hphase (afterBegin_phase f _)
  | requesting =>
    have hended : (m.step c (.finish i outcome ⟨0, 0⟩)).flights[i]? =
        some { f with phase := .finished (c.endRefresh outcome ⟨0, 0⟩ m.state).1 } := by
      simp only [step, finish, hf, hphase]
      exact getElem?_set_same hf
    rw [h _ (.finish i ⟨0, 0⟩), hf] at hended
    rw [Option.some.inj hended] at hphase
    cases hphase

/-- **When nothing goes on, every caller has returned or given up.** -/
theorem AtRest.caller_gone {stored : σ} {events : List Event}
    (h : (after c stored events).AtRest c outcome) {k : Nat} {x : Caller}
    (hk : (after c stored events).callers[k]? = some x) :
    (∃ r, x = .returned r) ∨ x = .cancelled := by
  cases x with
  | returned r => exact Or.inl ⟨r, rfl⟩
  | cancelled => exact Or.inr rfl
  | waiting i =>
    have hf := List.getElem?_eq_getElem (waiting_lt c stored events hk)
    obtain ⟨r, hphase⟩ := h.flight_finished hf
    have hseen : ((after c stored events).step c (.observe k)).callers[k]? =
        some (.holding i r) := by
      simp only [step, observe, hk, hf, hphase]
      exact getElem?_set_same hk
    rw [h _ (.observe k), hk] at hseen
    cases hseen
  | holding i r =>
    have hleft : ((after c stored events).step c (.leave k)).callers[k]? =
        some (.returned r) := by
      simp only [step, leave, hk]
      exact getElem?_set_same hk
    rw [h _ (.leave k), hk] at hleft
    cases hleft

end Machine

end RedirectLogin.Coordinator
