import Mathlib.Data.List.Induction
import RedirectLogin.Proofs.Coordinator.Events
import RedirectLogin.Proofs.Store.Retries

/-!
# Failures that nobody sees

A coordinator works on a register some of whose attempts fail, and another one on its twin, where
none fail. Both are built, and built again, in the same order, and get the same events: the same
clock, the same redirects, the same answers of the backend. As long as no operation on the register
fails at both of its attempts, the two cannot be told apart by anything but the attempts themselves.

Two runs are compared section by section. A section ends alike in both (`Agree`) unless an operation
has failed twice; and since the attempts only become more, that none has failed twice by the end
says so for every section before.

Principal results: `keepTokens_agree`, `forgetTokens_agree`, `start_agree` — the places where the store
is used; `single_failures_are_invisible` — whole runs, and what they leave in the store.
-/

set_option autoImplicit false

namespace RedirectLogin.Coordinator

variable {σ α β : Type} {c : Coordinator Register} {plan : List Bool} {s s₀ : State Register}

/-- Equal sessions over twins. -/
structure Alike (plan : List Bool) (s s₀ : State Register) : Prop where
  session : s.session = s₀.session
  stored : Twin plan s.stored s₀.stored

/-- Two ends of a section, with the same answer, unless an operation has failed twice. -/
def Agree (plan : List Bool) (x x₀ : α × State Register) : Prop :=
  Spared plan x.2.stored.calls.length → x.1 = x₀.1 ∧ Alike plan x.2 x₀.2

theorem Alike.agree (h : Alike plan s s₀) (a : α) : Agree plan (a, s) (a, s₀) :=
  fun _ => ⟨rfl, h⟩

theorem Agree.map {x x₀ : α × State Register} (h : Agree plan x x₀) (f : α → β) :
    Agree plan (f x.1, x.2) (f x₀.1, x₀.2) :=
  fun hspared => ⟨congrArg f (h hspared).1, (h hspared).2⟩

/-- Whatever the session becomes, it becomes it over the same twins. -/
theorem Alike.withSession (h : Alike plan s s₀) (session : Session) :
    Alike plan { s with session := session } { s₀ with session := session } :=
  ⟨rfl, h.stored⟩

/-! ## Where the store is used -/

theorem start_agree (hc : c.store = Register.store) {r r₀ : Register} (h : Twin plan r r₀)
    (hspared : Spared plan (c.start r).stored.calls.length) :
    Alike plan (c.start r) (c.start r₀) := by
  rw [start_stored, hc] at hspared
  obtain ⟨t, t₀, hload, hload₀, ht⟩ := h.load hspared
  simp only [start, hc, hload, hload₀]
  exact ⟨rfl, ht⟩

theorem keepTokens_agree (hc : c.store = Register.store) (h : Alike plan s s₀) (tokens : TokenSet) :
    Agree plan (c.keepTokens tokens s) (c.keepTokens tokens s₀) := by
  intro hspared
  rw [keepTokens_stored, hc] at hspared
  obtain ⟨t, t₀, hsave, hsave₀, ht⟩ := h.stored.save tokens hspared
  simp only [keepTokens, hc, hsave, hsave₀]
  exact ⟨trivial, rfl, ht⟩

theorem forgetTokens_agree (hc : c.store = Register.store) (h : Alike plan s s₀) :
    Agree plan (c.forgetTokens s) (c.forgetTokens s₀) := by
  intro hspared
  rw [forgetTokens_stored, hc] at hspared
  obtain ⟨t, t₀, hclear, hclear₀, ht⟩ := h.stored.clear hspared
  simp only [forgetTokens, hc, hclear, hclear₀]
  exact ⟨trivial, rfl, ht⟩

theorem currentToken_agree (hc : c.store = Register.store) (h : Alike plan s s₀) :
    Agree plan (c.currentToken s) (c.currentToken s₀) := by
  intro hspared
  have hstored : (c.currentToken s).2.stored = (attemptTwice c.store.load s.stored).2 := rfl
  rw [hstored, hc] at hspared
  obtain ⟨t, t₀, hload, hload₀, ht⟩ := h.stored.load hspared
  simp only [currentToken, hc, hload, hload₀]
  exact ⟨trivial, h.session, ht⟩

/-! ## Section by section -/

theorem expireLogin_alike (c : Coordinator Register) (h : Alike plan s s₀) (now : Timestamp) :
    Alike plan (c.expireLogin now s) (c.expireLogin now s₀) :=
  ⟨congrArg (fun session => session.expire now c.loginTimeout) h.session, h.stored⟩

theorem startLogin_agree (c : Coordinator Register) (h : Alike plan s s₀) (redirect? : Option String)
    (now : Timestamp) : Agree plan (c.startLogin redirect? now s) (c.startLogin redirect? now s₀) := by
  unfold startLogin
  split
  · exact h.agree _
  · exact (h.withSession _).agree _

theorem beginLogin_agree (c : Coordinator Register) (h : Alike plan s s₀) (redirect? : Option String)
    (now : Timestamp) : Agree plan (c.beginLogin redirect? now s) (c.beginLogin redirect? now s₀) := by
  have hexpire := expireLogin_alike c h now
  unfold beginLogin
  simp only [← hexpire.session]
  split
  · exact hexpire.agree _
  · exact hexpire.agree _
  · exact hexpire.agree _
  · exact startLogin_agree c hexpire redirect? now
  · exact startLogin_agree c hexpire redirect? now

theorem finishLogin_agree (hc : c.store = Register.store) (h : Alike plan s s₀)
    (result : Except SessionError CallbackResult) (now : Timestamp) :
    Agree plan (c.finishLogin result now s) (c.finishLogin result now s₀) := by
  unfold finishLogin
  split
  · exact (keepTokens_agree hc h _).map _
  · exact (h.withSession _).agree _
  · exact (h.withSession _).agree _

theorem consume_agree (hc : c.store = Register.store) (h : Alike plan s s₀)
    (result : Except SessionError CallbackResult) (now : Timestamp) :
    Agree plan (c.consume result now s) (c.consume result now s₀) := by
  have hexpire := expireLogin_alike c h now
  unfold consume
  simp only [← hexpire.session]
  split
  · exact hexpire.agree _
  · exact finishLogin_agree hc hexpire result now

theorem handleCallback_agree (hc : c.store = Register.store) (h : Alike plan s s₀)
    (event : CallbackEvent) (now : Timestamp) :
    Agree plan (c.handleCallback event now s) (c.handleCallback event now s₀) := by
  unfold handleCallback
  split
  · exact h.agree _
  · exact consume_agree hc h _ now
  · exact h.agree _
  · exact consume_agree hc h _ now

theorem retry_agree (h : Alike plan s s₀) :
    Agree plan (Coordinator.retry s) (Coordinator.retry s₀) := by
  unfold Coordinator.retry
  rw [← h.session]
  split
  · exact (h.withSession _).agree _
  · simp only [h.session]
    exact h.agree _

theorem endSession_eq (c : Coordinator σ) (s : State σ) :
    c.endSession s =
      ((c.forgetTokens s).1.bind (fun _ => .error .sessionExpired), (c.forgetTokens s).2) := by
  unfold endSession
  split <;> rename_i hforget <;> rw [hforget] <;> rfl

theorem endSession_agree (hc : c.store = Register.store) (h : Alike plan s s₀) :
    Agree plan (c.endSession s) (c.endSession s₀) := by
  rw [endSession_eq, endSession_eq]
  exact (forgetTokens_agree hc h).map (Except.bind · fun _ => .error .sessionExpired)

theorem logOut_agree (hc : c.store = Register.store) (h : Alike plan s s₀) :
    Agree plan (c.logOut s) (c.logOut s₀) := by
  unfold logOut
  rw [h.session]
  exact (forgetTokens_agree hc h).map _

/-- **An operation ends alike**, if no attempt on the store has failed twice. -/
theorem run_agree (hc : c.store = Register.store) (h : Alike plan s s₀) (operation : Operation)
    (now : Timestamp) : Agree plan (operation.run c now s) (operation.run c now s₀) := by
  cases operation with
  | status =>
    have hexpire := expireLogin_alike c h now
    simp only [Operation.run, status, hexpire.session]
    exact hexpire.agree _
  | beginLogin redirect? => exact (beginLogin_agree c h redirect? now).map _
  | handleCallback event => exact (handleCallback_agree hc h event now).map _
  | retry => exact (retry_agree h).map _
  | logOut => exact (logOut_agree hc h).map _
  | currentToken => exact (currentToken_agree hc h).map _

theorem beginRefresh_agree (hc : c.store = Register.store) (h : Alike plan s s₀)
    (stale : AccessToken) : Agree plan (c.beginRefresh stale s) (c.beginRefresh stale s₀) := by
  unfold beginRefresh
  rw [← h.session]
  split
  · split
    · exact h.agree _
    · split
      · exact (h.withSession _).agree _
      · exact (endSession_agree hc h).map _
  · exact h.agree _

theorem finishRefresh_agree (hc : c.store = Register.store) (h : Alike plan s s₀)
    (previous : TokenSet) (outcome : Except RefreshFailure RefreshResponse) (now : Timestamp) :
    Agree plan (c.finishRefresh previous outcome now s) (c.finishRefresh previous outcome now s₀) := by
  unfold finishRefresh
  split
  · split
    · exact endSession_agree hc h
    · exact (keepTokens_agree hc h _).map _
  · exact endSession_agree hc h
  · split
    · exact endSession_agree hc h
    · exact (h.withSession _).agree _

theorem endRefresh_agree (hc : c.store = Register.store) (h : Alike plan s s₀)
    (outcome : Except RefreshFailure RefreshResponse) (now : Timestamp) :
    Agree plan (c.endRefresh outcome now s) (c.endRefresh outcome now s₀) := by
  unfold endRefresh
  rw [← h.session]
  split
  · exact finishRefresh_agree hc h _ outcome now
  · exact h.agree _

/-! ## Attempts only become more -/

theorem start_calls_le (hc : c.store = Register.store) (r : Register) :
    r.calls.length ≤ (c.start r).stored.calls.length := by
  rw [start_stored, hc]
  exact Register.calls_le_load r

theorem Transition.calls_le (hc : c.store = Register.store) {t : State Register}
    (h : Transition c s t) : s.stored.calls.length ≤ t.stored.calls.length := by
  cases h with
  | read found stored hload =>
    rw [hc] at hload
    simpa [hload] using Register.calls_le_load s.stored
  | finishLogin login tokens stored hlogin hsave =>
    rw [hc] at hsave
    simpa [hsave] using Register.calls_le_save tokens s.stored
  | finishRefresh previous tokens stored hpending hsave =>
    rw [hc] at hsave
    simpa [hsave] using Register.calls_le_save tokens s.stored
  | failSave tokens e stored hsave =>
    rw [hc] at hsave
    simpa [hsave] using Register.calls_le_save tokens s.stored
  | forget stored hclear =>
    rw [hc] at hclear
    simpa [hclear] using Register.calls_le_clear s.stored
  | failClear e stored hclear =>
    rw [hc] at hclear
    simpa [hclear] using Register.calls_le_clear s.stored
  | _ => exact Nat.le_refl _

/-! ## What an unplanned store holds -/

/-- The store of a session without planned failures holds exactly the session's tokens. -/
structure Mirrors (s : State Register) : Prop where
  unplanned : s.stored.failures = []
  content : s.stored.content = s.session.tokens?

theorem start_mirrors (hc : c.store = Register.store) {r : Register} (h : r.failures = []) :
    Mirrors (c.start r) := by
  simp only [start, hc, Register.load_unplanned h]
  cases r.content <;> exact ⟨rfl, rfl⟩

/-- Without planned failures no section fails to do what it should with the store. -/
theorem Transition.mirrors (hc : c.store = Register.store) {t : State Register}
    (h : Transition c s t) (hs : Mirrors s) : Mirrors t := by
  obtain ⟨hunplanned, hcontent⟩ := hs
  cases h with
  | stay => exact ⟨hunplanned, hcontent⟩
  | read found stored hload =>
    rw [hc, Register.load_unplanned hunplanned] at hload
    cases hload
    exact ⟨rfl, hcontent⟩
  | timeOut login now hlogin hstale => exact ⟨hunplanned, by rw [hcontent, hlogin]; rfl⟩
  | startLogin login hnone hold => exact ⟨hunplanned, hcontent.trans hnone⟩
  | refuseLogin login e hlogin => exact ⟨hunplanned, by rw [hcontent, hlogin]; rfl⟩
  | finishLogin login tokens stored hlogin hsave =>
    rw [hc, Register.save_unplanned hunplanned] at hsave
    cases hsave
    exact ⟨rfl, rfl⟩
  | finishRefresh previous tokens stored hpending hsave =>
    rw [hc, Register.save_unplanned hunplanned] at hsave
    cases hsave
    exact ⟨rfl, rfl⟩
  | failSave tokens e stored hsave =>
    rw [hc, Register.save_unplanned hunplanned] at hsave
    cases hsave
  | forget stored hclear =>
    rw [hc, Register.clear_unplanned hunplanned] at hclear
    cases hclear
    exact ⟨rfl, rfl⟩
  | failClear e stored hclear =>
    rw [hc, Register.clear_unplanned hunplanned] at hclear
    cases hclear
  | retry e hfailed => exact ⟨hunplanned, by rw [hcontent, hfailed]; rfl⟩
  | restore previous hpending => exact ⟨hunplanned, by rw [hcontent, hpending]; rfl⟩

/-! ## Whole runs -/

/-- What can be done to a coordinator: building it on what the store holds, and its events. -/
inductive Action where
  | build
  | event (e : Event)

namespace Machine

/-- The machine after an action. Whoever builds anew leaves only the store behind. -/
def act (c : Coordinator σ) (m : Machine σ) : Action → Machine σ
  | .build => start c m.state.stored
  | .event e => m.step c e

/-- What an action answers, if it answers at once. -/
def answer? (c : Coordinator σ) (m : Machine σ) : Action → Option Answer
  | .event (.operation operation now) => some (operation.run c now m.state).1
  | _ => none

/-- The machine after building and then some actions. -/
def live (c : Coordinator σ) (stored : σ) (actions : List Action) : Machine σ :=
  actions.foldl (act c) (start c stored)

theorem live_concat (c : Coordinator σ) (stored : σ) (actions : List Action) (action : Action) :
    live c stored (actions ++ [action]) = (live c stored actions).act c action := by
  simp [live]

/-- Two machines that differ in nothing but the attempts on their stores. -/
structure Twins (plan : List Bool) (m m₀ : Machine Register) : Prop where
  state : Alike plan m.state m₀.state
  flights : m.flights = m₀.flights
  slot : m.slot = m₀.slot
  callers : m.callers = m₀.callers

variable {m m₀ : Machine Register}

theorem Twins.step (hc : c.store = Register.store) (h : Twins plan m m₀) (e : Event)
    (hspared : Spared plan (m.step c e).state.stored.calls.length) :
    Twins plan (m.step c e) (m₀.step c e) := by
  obtain ⟨state, flights, slot, callers⟩ := m
  obtain ⟨state₀, flights₀, slot₀, callers₀⟩ := m₀
  obtain ⟨hstate, hflights, hslot, hcallers⟩ := h
  simp only at hstate hflights hslot hcallers
  subst hflights hslot hcallers
  cases e with
  | call stale =>
    simp only [Machine.step, call, joinable?]
    split <;> exact ⟨hstate, rfl, rfl, rfl⟩
  | begin flight =>
    simp only [Machine.step, begin] at hspared ⊢
    cases hf : flights[flight]? with
    | none => exact ⟨hstate, rfl, rfl, rfl⟩
    | some f =>
      simp only [hf] at hspared ⊢
      cases hphase : f.phase with
      | waiting =>
        simp only [hphase] at hspared ⊢
        obtain ⟨hstart, hafter⟩ := beginRefresh_agree hc hstate f.stale hspared
        exact ⟨hafter, by rw [hstart], rfl, rfl⟩
      | requesting => exact ⟨hstate, rfl, rfl, rfl⟩
      | finished result => exact ⟨hstate, rfl, rfl, rfl⟩
  | finish flight outcome now =>
    simp only [Machine.step, finish] at hspared ⊢
    cases hf : flights[flight]? with
    | none => exact ⟨hstate, rfl, rfl, rfl⟩
    | some f =>
      simp only [hf] at hspared ⊢
      cases hphase : f.phase with
      | requesting =>
        simp only [hphase] at hspared ⊢
        obtain ⟨hresult, hafter⟩ := endRefresh_agree hc hstate outcome now hspared
        exact ⟨hafter, by rw [hresult], rfl, rfl⟩
      | waiting => exact ⟨hstate, rfl, rfl, rfl⟩
      | finished result => exact ⟨hstate, rfl, rfl, rfl⟩
  | observe caller =>
    simp only [Machine.step, observe]
    repeat' split
    all_goals exact ⟨hstate, rfl, rfl, rfl⟩
  | leave caller =>
    simp only [Machine.step, leave]
    split <;> exact ⟨hstate, rfl, rfl, rfl⟩
  | cancel caller =>
    simp only [Machine.step, cancel]
    split <;> exact ⟨hstate, rfl, rfl, rfl⟩
  | operation operation now =>
    exact ⟨(run_agree hc hstate operation now hspared).2, rfl, rfl, rfl⟩

theorem step_calls_le (hc : c.store = Register.store) (m : Machine Register) (e : Event) :
    m.state.stored.calls.length ≤ (m.step c e).state.stored.calls.length := by
  rcases (step_move c m e).state_cases with ht | ⟨_, _, _, _, _, _, _, _, _, _, hstate, _⟩
  · exact ht.calls_le hc
  · simp [hstate]

theorem act_calls_le (hc : c.store = Register.store) (m : Machine Register) (action : Action) :
    m.state.stored.calls.length ≤ (m.act c action).state.stored.calls.length := by
  cases action with
  | build => exact start_calls_le hc m.state.stored
  | event e => exact step_calls_le hc m e

theorem Twins.act (hc : c.store = Register.store) (h : Twins plan m m₀) (action : Action)
    (hspared : Spared plan (m.act c action).state.stored.calls.length) :
    Twins plan (m.act c action) (m₀.act c action) := by
  cases action with
  | build => exact ⟨start_agree hc h.state.stored hspared, rfl, rfl, rfl⟩
  | event e => exact h.step hc e hspared

theorem live_twins (hc : c.store = Register.store) (content : Option TokenSet)
    (actions : List Action)
    (hspared : Spared plan (live c ⟨content, plan, []⟩ actions).state.stored.calls.length) :
    Twins plan (live c ⟨content, plan, []⟩ actions) (live c (.holding content) actions) := by
  induction actions using List.reverseRecOn with
  | nil => exact ⟨start_agree hc (twin_start content plan) hspared, rfl, rfl, rfl⟩
  | append_singleton actions action ih =>
    rw [live_concat] at hspared
    rw [live_concat, live_concat]
    exact (ih (hspared.of_le (act_calls_le hc _ action))).act hc action hspared

theorem live_calls_le (hc : c.store = Register.store) (r : Register) {past actions : List Action}
    (h : past <+: actions) :
    (live c r past).state.stored.calls.length ≤ (live c r actions).state.stored.calls.length := by
  obtain ⟨rest, rfl⟩ := h
  induction rest using List.reverseRecOn with
  | nil => simp
  | append_singleton rest action ih =>
    rw [← List.append_assoc, live_concat]
    exact Nat.le_trans ih (act_calls_le hc _ action)

theorem act_mirrors (hc : c.store = Register.store) {m : Machine Register} (h : Mirrors m.state)
    (action : Action) : Mirrors (m.act c action).state := by
  cases action with
  | build => exact start_mirrors hc h.unplanned
  | event e =>
    rcases (step_move c m e).state_cases with
      ht | ⟨_, _, tokens, _, _, _, _, hsession, _, _, hstate, _⟩
    · exact ht.mirrors hc h
    · simp only [act, hstate]
      exact ⟨h.unplanned, h.content.trans (by rw [hsession]; rfl)⟩

theorem live_mirrors (hc : c.store = Register.store) (content : Option TokenSet)
    (actions : List Action) : Mirrors (live c (.holding content) actions).state := by
  induction actions using List.reverseRecOn with
  | nil => exact start_mirrors hc rfl
  | append_singleton actions action ih =>
    rw [live_concat]
    exact act_mirrors hc ih action

theorem Twins.answer? (hc : c.store = Register.store) (h : Twins plan m m₀) (action : Action)
    (hspared : Spared plan (m.act c action).state.stored.calls.length) :
    m.answer? c action = m₀.answer? c action := by
  cases action with
  | build => rfl
  | event e =>
    cases e with
    | operation operation now =>
      exact congrArg some (run_agree hc h.state operation now hspared).1
    | _ => rfl

/-- **Failures that happen once are invisible.** If no operation on the store fails at both of its
attempts, then at every moment of a run the session, the refreshes and their callers, with all
their results, and the tokens in the store are those of the run without failures; so is every
answer that comes next. Each operation is attempted once or twice, and the store holds exactly the
tokens of the session. -/
theorem single_failures_are_invisible (hc : c.store = Register.store) (content : Option TokenSet)
    (plan : List Bool) (actions : List Action)
    (hspared : Spared plan (live c ⟨content, plan, []⟩ actions).state.stored.calls.length)
    (past : List Action) (hpast : past <+: actions) :
    let m := live c ⟨content, plan, []⟩ past
    let m₀ := live c (.holding content) past
    m.state.session = m₀.state.session ∧ m.state.stored.content = m₀.state.stored.content ∧
      m.flights = m₀.flights ∧ m.slot = m₀.slot ∧ m.callers = m₀.callers ∧
      (∀ action, past ++ [action] <+: actions → m.answer? c action = m₀.answer? c action) ∧
      Retried m₀.state.stored.calls m.state.stored.calls ∧
      m.state.stored.content = m.state.session.tokens? := by
  intro m m₀
  have h : Twins plan m m₀ := live_twins hc content past (hspared.of_le (live_calls_le hc _ hpast))
  have hmirrors : Mirrors m₀.state := live_mirrors hc content past
  refine ⟨h.state.session, h.state.stored.content, h.flights, h.slot, h.callers, ?_,
    h.state.stored.retried, ?_⟩
  · intro action haction
    have hmore := hspared.of_le (live_calls_le hc ⟨content, plan, []⟩ haction)
    rw [live_concat] at hmore
    exact h.answer? hc action hmore
  · rw [h.state.stored.content, hmirrors.content, h.state.session]

/-- A coordinator that is built twice, logs in, has its refresh refused and logs out, and whose
store fails at every other attempt. -/
theorem every_other_attempt_may_fail :
    let c := Coordinator.ofConfig .default Register.store
    let link : CallbackEvent := ⟨.deepLink, "authlink://auth?token=a1&refresh_token=r1"⟩
    let plan := [true, false, true, false, true, false, true, false, true, false]
    let actions : List Action :=
      [.build, .event (.operation (.beginLogin none) ⟨100, 0⟩),
       .event (.operation (.handleCallback link) ⟨200, 0⟩),
       .event (.call ⟨"a1", by decide⟩), .event (.begin 0),
       .event (.finish 0 (.error (.rejected 401)) ⟨300, 0⟩), .event (.operation .logOut ⟨400, 0⟩)]
    (live c ⟨none, plan, []⟩ actions).state.stored.calls =
        [.load, .load, .load, .load, .save, .save, .clear, .clear, .clear, .clear] ∧
      Spared plan (live c ⟨none, plan, []⟩ actions).state.stored.calls.length ∧
      (live c ⟨none, plan, []⟩ actions).state.session =
        (live c (.holding none) actions).state.session := by
  intro c link plan actions
  have hcalls : (live c ⟨none, plan, []⟩ actions).state.stored.calls =
      [.load, .load, .load, .load, .save, .save, .clear, .clear, .clear, .clear] := by
    decide +kernel
  have hspared : Spared plan (live c ⟨none, plan, []⟩ actions).state.stored.calls.length := by
    rw [hcalls]
    have hplan : ∀ i < 9, fails plan i = true → fails plan (i + 1) = false := by decide
    exact fun i hi => hplan i (Nat.lt_of_succ_lt_succ hi)
  have h := single_failures_are_invisible (c := c) rfl none plan actions hspared actions
    (List.prefix_refl _)
  exact ⟨hcalls, hspared, h.1⟩

end Machine

end RedirectLogin.Coordinator
