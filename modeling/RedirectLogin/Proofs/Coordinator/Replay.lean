import RedirectLogin.Proofs.Coordinator.Callers
import RedirectLogin.Store.Register

/-!
# Results that are left behind

A flight leaves the slot with the first caller that returns with its result. If all of its callers
give up, nobody takes it out and nobody has seen the result, so the next caller joins it, whatever
its token and however long ago the flight finished. One caller that returns is enough to keep the
flight from all later callers, whatever else happens.

Principal results: `later_calls_iff` — calls after the end of a flight are answered by later flights
exactly if some caller returned with its result; `abandoned_result_is_replayed` — a run in which
nobody did, and a caller is handed the very token it was refused with.
-/

set_option autoImplicit false

namespace RedirectLogin.Coordinator.Machine

variable {σ : Type} {c : Coordinator σ} {m m' : Machine σ} {e : Event}
variable {stored : σ} {events : List Event} {i : Nat}

/-- Flight `i` has finished, and all callers that joined it have returned or given up. -/
structure Settled (c : Coordinator σ) (stored : σ) (events : List Event) (i : Nat) : Prop where
  finished : ∃ f r, (after c stored events).flights[i]? = some f ∧ f.phase = .finished r
  gone : ∀ k, Joined c stored events k i →
    (∃ r, (after c stored events).callers[k]? = some (.returned r)) ∨
      (after c stored events).callers[k]? = some .cancelled

/-- A call after these events waits for flight `j` and returns with nothing but its result. -/
structure AnsweredBy (c : Coordinator σ) (stored : σ) (events : List Event) (stale : AccessToken)
    (j : Nat) : Prop where
  waits : (after c stored (events ++ [.call stale])).callers =
    (after c stored events).callers ++ [.waiting j]
  returns : ∀ more k r, k = (after c stored events).callers.length →
    (after c stored (events ++ .call stale :: more)).callers[k]? = some (.returned r) →
    ∃ f, (after c stored (events ++ .call stale :: more)).flights[j]? = some f ∧
      f.phase = .finished r

/-- A call starts a flight, and what the flight does depends on the session it then finds. -/
structure StartsFlight (c : Coordinator σ) (m : Machine σ) (stale : AccessToken) : Prop where
  departs : m.call stale =
    { m with
      flights := m.flights ++ [.start stale]
      slot := some m.flights.length
      callers := m.callers ++ [.waiting m.flights.length] }
  decides : (m.call stale).begin c m.flights.length =
    { m.call stale with
      state := (c.beginRefresh stale m.state).2
      flights := m.flights ++ [(Flight.start stale).afterBegin (c.beginRefresh stale m.state).1] }

theorem startsFlight_of_joinable?_none (stale : AccessToken) (h : m.joinable? = none) :
    StartsFlight c m stale := by
  refine ⟨call_departs stale h, ?_⟩
  rw [call_departs stale h]
  simp [begin, Flight.start]

/-! ## Flights that cannot be joined any more -/

/-- Flight `i` was started and is not in the slot. -/
def Passed (m : Machine σ) (i : Nat) : Prop :=
  i < m.flights.length ∧ m.slot ≠ some i

/-- A flight that has left the slot stays out. -/
theorem Passed.move (hp : m.Passed i) (h : Move c m e m') : m'.Passed i := by
  obtain ⟨hlt, hslot⟩ := hp
  cases h with
  | depart stale hnone =>
    refine ⟨?_, fun h => ?_⟩
    · show i < (m.flights ++ [Flight.start stale]).length
      rw [List.length_append]
      omega
    · replace h : some m.flights.length = some i := h
      cases h
      exact Nat.lt_irrefl _ hlt
  | settle j f result state hf hphase hbegin ht =>
    exact ⟨by rw [List.length_set]; exact hlt, hslot⟩
  | ask j f tokens refresh hf hphase hsession haccess hrefresh =>
    exact ⟨by rw [List.length_set]; exact hlt, hslot⟩
  | finish j f outcome now hf hphase => exact ⟨by rw [List.length_set]; exact hlt, hslot⟩
  | observe k j f result hk hf hphase => exact ⟨by rw [List.length_set]; exact hlt, hslot⟩
  | leave k j result hk =>
    refine ⟨hlt, fun h => ?_⟩
    replace h : (if m.slot = some j then none else m.slot) = some i := h
    split at h
    · cases h
    · exact hslot h
  | _ => exact ⟨hlt, hslot⟩

theorem Passed.after (hp : (after c stored events).Passed i) (later : List Event) :
    (after c stored (events ++ later)).Passed i := by
  induction later using List.reverseRecOn with
  | nil => rw [List.append_nil]; exact hp
  | append_singleton es e ih =>
    rw [← List.append_assoc]
    exact ih.move (after_concat_move c stored (events ++ es) e)

/-- A call after flight `i` has left the slot waits for a later flight. -/
theorem Passed.call (hp : m.Passed i) (hm : SlotInv m) (stale : AccessToken) :
    ∃ j, i < j ∧ (m.call stale).callers = m.callers ++ [.waiting j] := by
  obtain ⟨hlt, hslot⟩ := hp
  cases hjoin : m.joinable? with
  | none => exact ⟨m.flights.length, hlt, by simp only [Machine.call, hjoin]⟩
  | some j =>
    obtain ⟨hj, _⟩ := joinable?_eq_some hjoin
    have hlast := hm.slot_last j hj
    have hne : j ≠ i := by
      rintro rfl
      exact hslot hj
    refine ⟨j, by omega, ?_⟩
    rw [call_joins stale hjoin]

/-- If no flight has been started since, it starts one. -/
theorem Passed.joinable?_none (hp : m.Passed i) (hm : SlotInv m)
    (hlast : m.flights.length = i + 1) : m.joinable? = none := by
  cases hjoin : m.joinable? with
  | none => rfl
  | some j =>
    obtain ⟨hj, _⟩ := joinable?_eq_some hjoin
    have hjlast := hm.slot_last j hj
    have hji : j = i := by omega
    subst hji
    exact absurd hj hp.2

/-- A caller that waits for a flight from its arrival on is answered by that flight. -/
theorem answeredBy_of_waits {stale : AccessToken} {j : Nat}
    (h : (after c stored (events ++ [.call stale])).callers =
      (after c stored events).callers ++ [.waiting j]) :
    AnsweredBy c stored events stale j := by
  refine ⟨h, fun more k r hlast hk => ?_⟩
  have hjoined : Joined c stored (events ++ .call stale :: more) k j := by
    subst hlast
    refine ⟨events ++ [.call stale], ⟨more, by simp⟩, ?_⟩
    rw [h]
    simp
  obtain ⟨f, hf, hphase, _⟩ := joined_returned hjoined hk
  exact ⟨f, hf, hphase⟩

/-! ## The end of a flight -/

/-- With one caller that returned, a flight that is settled has left the slot. -/
theorem Settled.passed (h : Settled c stored events i) {k : Nat}
    {r : Except SessionError AccessToken} (hjoined : Joined c stored events k i)
    (hk : (after c stored events).callers[k]? = some (.returned r)) :
    (after c stored events).Passed i := by
  obtain ⟨f, hf, _, hobs⟩ := joined_returned hjoined hk
  refine ⟨(List.getElem?_eq_some_iff.1 hf).1, fun hslot => ?_⟩
  -- Somebody would still be about to take it out, and that caller had joined it too.
  obtain ⟨l, q, hl⟩ := (after_slotInv c stored events).held i f hslot hf hobs
  rcases h.gone l (holding_joined hl) with ⟨_, hreturned⟩ | hcancelled
  · rw [hl] at hreturned; cases hreturned
  · rw [hl] at hcancelled; cases hcancelled

/-- Without such a caller it can still be joined. -/
theorem Settled.joinable (h : Settled c stored events i)
    (hnone : ¬ ∃ k r, Joined c stored events k i ∧
      (after c stored events).callers[k]? = some (.returned r)) :
    (after c stored events).joinable? = some i := by
  obtain ⟨f, _, hf, _⟩ := h.finished
  have hobs : f.observed = false := by
    cases hobs : f.observed with
    | false => rfl
    | true =>
      obtain ⟨k, x, hjoined, hx, hseen⟩ := observed_joined hf hobs
      rcases h.gone k hjoined with ⟨r, hreturned⟩ | hcancelled
      · exact absurd ⟨k, r, hjoined, hreturned⟩ hnone
      · rw [hcancelled] at hx; cases hx
        cases hseen
  exact joinable?_of_unobserved ((after_slotInv c stored events).unobserved i f hf hobs) hf hobs

/-- **The result of a flight is not replayed exactly if somebody returned with it.** Let the
flight have finished and all of its callers have returned or given up. Every later call is answered
by a later flight, which it starts unless there is one already, if and only if at least one of the
callers returned. -/
theorem later_calls_iff (h : Settled c stored events i) :
    (∀ later stale,
      (∃ j, i < j ∧ AnsweredBy c stored (events ++ later) stale j) ∧
        ((after c stored (events ++ later)).flights.length = i + 1 →
          StartsFlight c (after c stored (events ++ later)) stale)) ↔
      ∃ k r, Joined c stored events k i ∧
        (after c stored events).callers[k]? = some (.returned r) := by
  constructor
  · intro hlater
    refine Classical.byContradiction fun hnone => ?_
    obtain ⟨f, _, hf, _⟩ := h.finished
    obtain ⟨⟨j, hij, hanswer⟩, _⟩ := hlater [] f.stale
    have hwaits := hanswer.waits
    rw [List.append_nil, after_concat] at hwaits
    simp only [step, call_joins f.stale (h.joinable hnone), List.append_cancel_left_eq,
      List.cons.injEq, Caller.waiting.injEq, and_true] at hwaits
    omega
  · rintro ⟨k, r, hjoined, hk⟩ later stale
    have hpassed := (h.passed hjoined hk).after later
    have hinv := after_slotInv c stored (events ++ later)
    obtain ⟨j, hij, hwaits⟩ := hpassed.call hinv stale
    refine ⟨⟨j, hij, answeredBy_of_waits ?_⟩, fun hlast => ?_⟩
    · rw [after_concat]
      exact hwaits
    · exact startsFlight_of_joinable?_none stale (hpassed.joinable?_none hinv hlast)

/-- A refresh whose one caller waits for its end. -/
theorem awaited_refresh_is_not_replayed :
    let c := Coordinator.ofConfig .default Register.store
    let old : TokenSet := ⟨⟨"a1", by decide⟩, some ⟨"r1", by decide⟩, ⟨0, 0⟩⟩
    let events : List Event :=
      [.call old.access, .begin 0, .finish 0 (.ok ⟨"a2", some "r2", none⟩) ⟨60, 0⟩, .observe 0,
       .leave 0]
    Settled c (.holding (some old)) events 0 ∧
      ∀ later stale,
        (∃ j, 0 < j ∧ AnsweredBy c (.holding (some old)) (events ++ later) stale j) ∧
          ((after c (.holding (some old)) (events ++ later)).flights.length = 0 + 1 →
            StartsFlight c (after c (.holding (some old)) (events ++ later)) stale) := by
  intro c old events
  have hcaller : (after c (.holding (some old)) events).callers =
      [.returned (.ok ⟨"a2", by decide⟩)] := rfl
  have hsettled : Settled c (.holding (some old)) events 0 := by
    refine ⟨⟨_, _, rfl, rfl⟩, fun k hjoined => ?_⟩
    have hk := hjoined.lt_length
    rw [hcaller, List.length_singleton, Nat.lt_one_iff] at hk
    subst hk
    exact Or.inl ⟨_, by rw [hcaller]; rfl⟩
  have hjoined : Joined c (.holding (some old)) events 0 0 :=
    ⟨[.call old.access], ⟨_, rfl⟩, rfl⟩
  exact ⟨hsettled, (later_calls_iff hsettled).2 ⟨0, _, hjoined, by rw [hcaller]; rfl⟩⟩

/-- **A result that nobody waited for is replayed.** A caller gives up right after its flight found
that the session has another token already. A caller that is refused with that other token is then
told to use it, and no refresh is started for it. -/
theorem abandoned_result_is_replayed :
    let c := Coordinator.ofConfig .default Register.store
    let old : AccessToken := ⟨"a1", by decide⟩
    let new : TokenSet := ⟨⟨"a2", by decide⟩, some ⟨"r2", by decide⟩, ⟨0, 0⟩⟩
    let events : List Event := [.call old, .begin 0, .cancel 0]
    let m := after c (.holding (some new)) (events ++ [.call new.access, .observe 1, .leave 1])
    Settled c (.holding (some new)) events 0 ∧ m.returned? 1 = some (.ok new.access) ∧
      m.flights.length = 1 ∧ m.state.session = .authenticated new ∧
      ¬ ∀ later stale,
        ∃ j, 0 < j ∧ AnsweredBy c (.holding (some new)) (events ++ later) stale j := by
  intro c old new events m
  have hcaller : (after c (.holding (some new)) events).callers = [.cancelled] := rfl
  refine ⟨⟨⟨_, _, rfl, rfl⟩, fun k hjoined => ?_⟩, rfl, rfl, rfl, fun h => ?_⟩
  · have hk := hjoined.lt_length
    rw [hcaller, List.length_singleton, Nat.lt_one_iff] at hk
    subst hk
    exact Or.inr (by rw [hcaller]; rfl)
  · obtain ⟨j, hj, hanswer⟩ := h [] new.access
    have hwaits : [Caller.cancelled, .waiting 0] = [.cancelled, .waiting j] := hanswer.waits
    cases hwaits
    exact Nat.lt_irrefl 0 hj

end RedirectLogin.Coordinator.Machine
