import RedirectLogin.Proofs.Coordinator.Callers
import RedirectLogin.Proofs.Coordinator.Effects
import RedirectLogin.Proofs.Coordinator.Progress
import RedirectLogin.Store.Register

/-!
# Bursts of refused calls

Many callers find at the same time that the token of an authenticated session is refused. They come
in any order and at any time: before the refresh has begun, while the backend is being asked, or
after it has answered. Two mechanisms see to it that the backend is asked once. Whoever comes before
the result has been seen joins the flight in the slot. Whoever comes later starts a flight of its
own, which finds that the session has another token by now, or has ended; it asks nobody and gives
the same result. This takes an answer after which the session does not go on with the old token.

Principal results: `Decisive.endRefresh` — what such an answer leaves behind for those who come
late; `Underway.step` — the stages of a burst; `burst_shares_refresh` — one request is sent, and
everybody returns with the same result.
-/

set_option autoImplicit false

namespace RedirectLogin.Coordinator

variable {σ α : Type} {c : Coordinator σ} {s : State σ} {stale : AccessToken} {reply : Reply}
  {result : Except SessionError AccessToken} {tokens : TokenSet} {sent : RefreshToken}

/-! ## Decisive answers -/

/-- Replies after which nobody is asked again for the token `stale`, with the result that they
lead to. Without rotation a reply that says nothing about the refresh token leaves the session as
it was, so it is not among them. -/
inductive Decisive (rotate : Bool) (stale : AccessToken) :
    Reply → Except SessionError AccessToken → Prop
  | renewed (r : Response) (response : RefreshResponse) (access : AccessToken)
      (hstatus : Http.isSuccess r.status = true)
      (hbody : r.json RefreshResponse.decoder = .ok response)
      (haccess : AccessToken.ofString? response.access = some access) (hnew : access ≠ stale) :
      Decisive rotate stale (.ok r) (.ok access)
  | rejected (r : Response) (hstatus : Http.isClientError r.status = true) :
      Decisive rotate stale (.ok r) (.error .sessionExpired)
  | blank (r : Response) (response : RefreshResponse) (hstatus : Http.isSuccess r.status = true)
      (hbody : r.json RefreshResponse.decoder = .ok response)
      (hblank : AccessToken.ofString? response.access = none) :
      Decisive rotate stale (.ok r) (.error .sessionExpired)
  | unanswered (e : TransportError) (hrotate : rotate = true) :
      Decisive rotate stale (.error e) (.error .sessionExpired)
  | unsuccessful (r : Response) (hrotate : rotate = true)
      (hstatus : Http.isSuccess r.status = false) :
      Decisive rotate stale (.ok r) (.error .sessionExpired)
  | undecodable (r : Response) (e : TransportError) (hrotate : rotate = true)
      (hstatus : Http.isSuccess r.status = true)
      (hbody : r.json RefreshResponse.decoder = .error e) :
      Decisive rotate stale (.ok r) (.error .sessionExpired)

/-- The next write to the store succeeds at the first or the second attempt. -/
structure Reliable (c : Coordinator σ) (stored : σ) : Prop where
  save : ∀ tokens, ∃ t, attemptTwice (c.store.save tokens) stored = (.ok (), t)
  clear : ∃ t, attemptTwice c.store.clear stored = (.ok (), t)

theorem isClientError_of_isSuccess {status : Nat} (h : Http.isSuccess status = true) :
    Http.isClientError status = false := by
  simp only [Http.isSuccess, Http.isClientError, Bool.and_eq_true, Bool.and_eq_false_iff,
    decide_eq_true_eq, decide_eq_false_iff_not] at h ⊢
  omega

theorem readRefresh_success {r : Response} (h : Http.isSuccess r.status = true) :
    Backend.readRefresh (.ok r) = (r.json RefreshResponse.decoder).mapError
      (fun e => .transient ("invalid refresh response: " ++ e.message)) := by
  cases hbody : r.json RefreshResponse.decoder <;>
    simp [Backend.readRefresh, h, isClientError_of_isSuccess h, hbody, Except.mapError]

/-- A session whose tokens can be forgotten ends, and whoever comes late finds it ended. -/
theorem endSession_reliable (hstore : Reliable c s.stored) (stale : AccessToken) :
    ∃ t, c.endSession s = (.error .sessionExpired, t) ∧
      c.beginRefresh stale t = (.finished (.error .sessionExpired), t) := by
  obtain ⟨t, hclear⟩ := hstore.clear
  refine ⟨⟨.unauthenticated, t⟩, ?_, rfl⟩
  simp [endSession, forgetTokens, hclear]

/-- **A decisive answer leads to its result, and so does every flight that comes late.** -/
theorem Decisive.endRefresh (h : Decisive c.rotateRefreshTokens tokens.access reply result)
    (hsession : s.session = .refreshPending tokens) (hstore : Reliable c s.stored)
    (now : Timestamp) :
    ∃ t, c.endRefresh (Backend.readRefresh reply) now s = (result, t) ∧
      c.beginRefresh tokens.access t = (.finished result, t) := by
  have hend := endSession_reliable hstore tokens.access
  have hpending : ∀ outcome, c.endRefresh outcome now s = c.finishRefresh tokens outcome now s :=
    fun outcome => by simp [Coordinator.endRefresh, hsession]
  rw [hpending]
  cases h with
  | renewed r response access hstatus hbody haccess hnew =>
    obtain ⟨t, hsave⟩ := hstore.save (c.refreshedTokens tokens access response now)
    refine ⟨⟨.authenticated (c.refreshedTokens tokens access response now), t⟩, ?_, ?_⟩
    · simp [readRefresh_success hstatus, hbody, Except.mapError, finishRefresh, haccess,
        keepTokens, hsave, Except.map]
    · -- The comparison with the refused token is what spares a late flight the request.
      simp [beginRefresh, refreshedTokens, hnew]
  | rejected r hstatus => simpa [Backend.readRefresh, hstatus, finishRefresh] using hend
  | blank r response hstatus hbody hblank =>
    simpa [readRefresh_success hstatus, hbody, Except.mapError, finishRefresh, hblank] using hend
  | unanswered e hrotate => simpa [Backend.readRefresh, finishRefresh, hrotate] using hend
  | unsuccessful r hrotate hstatus =>
    cases hclient : Http.isClientError r.status with
    | true => simpa [Backend.readRefresh, hclient, finishRefresh] using hend
    | false => simpa [Backend.readRefresh, hclient, hstatus, finishRefresh, hrotate] using hend
  | undecodable r e hrotate hstatus hbody =>
    simpa [readRefresh_success hstatus, hbody, Except.mapError, finishRefresh, hrotate] using hend

/-! ## Entries from some place on -/

/-- All entries of a list from place `n` on. -/
def AllFrom (n : Nat) (l : List α) (P : α → Prop) : Prop :=
  ∀ i a, n ≤ i → l[i]? = some a → P a

variable {n i : Nat} {l : List α} {P Q : α → Prop} {a b : α}

theorem AllFrom.imp (h : AllFrom n l P) (hPQ : ∀ a, P a → Q a) : AllFrom n l Q :=
  fun i a hi ha => hPQ a (h i a hi ha)

theorem AllFrom.concat (h : AllFrom n l P) (ha : P a) : AllFrom n (l ++ [a]) P := by
  intro i b hi hb
  rcases getElem?_concat_cases hb with ⟨_, rfl⟩ | hb
  · exact ha
  · exact h i b hi hb

theorem AllFrom.set (h : AllFrom n l P) (ha : n ≤ i → P a) : AllFrom n (l.set i a) P := by
  intro j b hj hb
  rcases getElem?_set_cases hb with ⟨rfl, rfl⟩ | ⟨_, hb⟩
  · exact ha hj
  · exact h j b hj hb

/-! ## The stages of a burst -/

/-- What a burst of calls with the token `stale` is made of, if the backend gives that reply: calls,
and what goes on by itself. -/
def Event.OfBurst (stale : AccessToken) (reply : Reply) (e : Event) : Prop :=
  e = .call stale ∨ e.Proceeds (Backend.readRefresh reply)

/-- All calls of a burst are refused the same token. -/
theorem Event.OfBurst.call_eq {other : AccessToken}
    (h : (Event.call other).OfBurst stale reply) : other = stale := by
  rcases h with h | h
  · exact Event.call.inj h
  · cases h

/-- A flight that starts late has the result to find, or has found it. -/
def Flight.Yields (stale : AccessToken) (result : Except SessionError AccessToken)
    (f : Flight) : Prop :=
  (f.phase = .waiting ∧ f.stale = stale) ∨ f.phase = .finished result

/-- A caller that waits for a flight from number `n` on, or has the result. -/
def Caller.Gets (n : Nat) (result : Except SessionError AccessToken) : Caller → Prop
  | .waiting i => n ≤ i
  | .holding _ r | .returned r => r = result
  | .cancelled => False

namespace Machine

variable {m₀ m m' : Machine σ} {e : Event} {f g : Flight}

/-- The results of all flights that a machine had before the burst have been seen. -/
def EarlierSeen (m₀ m : Machine σ) : Prop :=
  ∀ i, i < m₀.flights.length → ∃ f, m.flights[i]? = some f ∧ f.observed = true

/-- All callers of the burst so far wait for one flight, the first since its start. -/
structure Aloft (m₀ m : Machine σ) (f : Flight) : Prop where
  length : m.flights.length = m₀.flights.length + 1
  flight : m.flights[m₀.flights.length]? = some f
  unfinished : ∀ r, f.phase ≠ .finished r
  callers : AllFrom m₀.callers.length m.callers (· = .waiting m₀.flights.length)

/-- How far a burst has come that began at the machine `m₀`, and what has been posted. -/
inductive Stage (c : Coordinator σ) (m₀ : Machine σ) (tokens : TokenSet) (sent : RefreshToken)
    (result : Except SessionError AccessToken) (m : Machine σ) : List RefreshToken → Prop
  /-- Nobody has come. -/
  | quiet (hstate : m.state = m₀.state) (hlength : m.flights.length = m₀.flights.length)
      (hcallers : AllFrom m₀.callers.length m.callers (fun _ => False)) :
      Stage c m₀ tokens sent result m []
  /-- The first flight has been started. -/
  | departed (f : Flight) (hstate : m.state = m₀.state) (haloft : Aloft m₀ m f)
      (hphase : f.phase = .waiting) (hstale : f.stale = tokens.access) :
      Stage c m₀ tokens sent result m []
  /-- The first flight has marked the session and asked the backend. -/
  | asked (f : Flight) (hstate : m.state = ⟨.refreshPending tokens, m₀.state.stored⟩)
      (haloft : Aloft m₀ m f) (hphase : f.phase = .requesting) :
      Stage c m₀ tokens sent result m [sent]
  /-- The first flight has taken in the answer; flights that come late find its result. -/
  | answered (hlate : c.beginRefresh tokens.access m.state = (.finished result, m.state))
      (hflights : AllFrom m₀.flights.length m.flights (Flight.Yields tokens.access result))
      (hcallers : AllFrom m₀.callers.length m.callers (Caller.Gets m₀.flights.length result)) :
      Stage c m₀ tokens sent result m [sent]

/-! ## Flights from before the burst -/

/-- A flight whose result nobody has seen belongs to the burst. -/
theorem EarlierSeen.le_of_unseen (hearlier : EarlierSeen m₀ m) (hf : m.flights[i]? = some f)
    (hunseen : f.observed = false) : m₀.flights.length ≤ i := by
  refine Nat.le_of_not_lt fun hi => ?_
  obtain ⟨g, hg, hseen⟩ := hearlier i hi
  rw [hf] at hg
  cases hg
  rw [hunseen] at hseen
  cases hseen

theorem EarlierSeen.le_of_unfinished (hearlier : EarlierSeen m₀ m) (hm : SlotInv m)
    (hf : m.flights[i]? = some f) (hphase : ∀ r, f.phase ≠ .finished r) :
    m₀.flights.length ≤ i :=
  hearlier.le_of_unseen hf (hm.unobserved_of_unfinished hf hphase)

theorem EarlierSeen.le_of_joinable? (hearlier : EarlierSeen m₀ m)
    (hjoin : m.joinable? = some i) : m₀.flights.length ≤ i := by
  obtain ⟨_, f, hf, hunseen⟩ := joinable?_eq_some hjoin
  exact hearlier.le_of_unseen hf hunseen

theorem EarlierSeen.move (hearlier : EarlierSeen m₀ m) (hm : SlotInv m) (h : Move c m e m') :
    EarlierSeen m₀ m' := by
  intro i hi
  obtain ⟨f, hf, hseen⟩ := hearlier i hi
  obtain ⟨r, hphase⟩ := hm.observed i f hf hseen
  obtain ⟨g, hg, _, hkeeps⟩ := h.finished hf hphase
  exact ⟨g, hg, hkeeps hseen⟩

/-! ## The flight that asks -/

/-- No other flight goes on. -/
theorem Aloft.eq (h : Aloft m₀ m f) (hearlier : EarlierSeen m₀ m) (hm : SlotInv m)
    (hg : m.flights[i]? = some g) (hphase : ∀ r, g.phase ≠ .finished r) :
    i = m₀.flights.length ∧ g = f := by
  have hle := hearlier.le_of_unfinished hm hg hphase
  have hlt := (List.getElem?_eq_some_iff.1 hg).1
  have hlength := h.length
  have hi : i = m₀.flights.length := by omega
  subst hi
  exact ⟨rfl, Option.some.inj (hg.symm.trans h.flight)⟩

/-- Everybody who comes joins it. -/
theorem Aloft.joinable? (h : Aloft m₀ m f) (hm : SlotInv m) :
    m.joinable? = some m₀.flights.length := by
  have hunseen := hm.unobserved_of_unfinished h.flight h.unfinished
  exact joinable?_of_unobserved (hm.unobserved _ f h.flight hunseen) h.flight hunseen

/-- **As long as a flight of the burst has not finished, its sections are all that can change the
session.** -/
theorem Aloft.step (h : Aloft m₀ m f) (hearlier : EarlierSeen m₀ m) (hm : SlotInv m)
    (he : e.OfBurst stale reply) :
    ((m.step c e).state = m.state ∧ Aloft m₀ (m.step c e) f) ∨
      (e = .begin m₀.flights.length ∧ f.phase = .waiting) ∨
      ∃ now, e = .finish m₀.flights.length (Backend.readRefresh reply) now ∧
        f.phase = .requesting := by
  have hmove := step_move c m e
  generalize m.step c e = m' at hmove ⊢
  cases hmove with
  | idle => exact Or.inl ⟨rfl, h⟩
  | join stale' i hjoin =>
    rw [h.joinable? hm] at hjoin
    cases hjoin
    exact Or.inl ⟨rfl, h.length, h.flight, h.unfinished, h.callers.concat rfl⟩
  | depart stale' hnone => rw [h.joinable? hm] at hnone; cases hnone
  | settle i g r state hg hphase hbegin ht =>
    obtain ⟨rfl, rfl⟩ := h.eq hearlier hm hg (by rw [hphase]; simp)
    exact Or.inr (Or.inl ⟨rfl, hphase⟩)
  | ask i g marked refresh hg hphase hsession haccess hrefresh =>
    obtain ⟨rfl, rfl⟩ := h.eq hearlier hm hg (by rw [hphase]; simp)
    exact Or.inr (Or.inl ⟨rfl, hphase⟩)
  | finish i g outcome now hg hphase =>
    obtain ⟨rfl, rfl⟩ := h.eq hearlier hm hg (by rw [hphase]; simp)
    rcases he with he | he
    · cases he
    · cases he
      exact Or.inr (Or.inr ⟨now, rfl, hphase⟩)
  | observe k i g r hk hg hphase =>
    -- It is a caller from before the burst, for no other flight has a result to see.
    have hne : i ≠ m₀.flights.length := by
      rintro rfl
      rw [h.flight] at hg
      cases hg
      exact h.unfinished r hphase
    refine Or.inl ⟨rfl, by simpa using h.length, ?_, h.unfinished, ?_⟩
    · rw [List.getElem?_set_ne hne, h.flight]
    · refine h.callers.set fun hle => ?_
      cases h.callers k _ hle hk
      exact absurd rfl hne
  | leave k i r hk =>
    refine Or.inl ⟨rfl, h.length, h.flight, h.unfinished, h.callers.set fun hle => ?_⟩
    cases h.callers k _ hle hk
  | cancel k i hk => rcases he with he | he <;> cases he
  | operate operation now => rcases he with he | he <;> cases he

/-! ## From stage to stage -/

/-- A burst of calls with the access token of `tokens` arrives at the machine `m₀`: the session is
authenticated with these tokens, no earlier flight can be joined, and the reply to the refresh
leads to `result`. -/
structure Burst (c : Coordinator σ) (m₀ : Machine σ) (tokens : TokenSet) (sent : RefreshToken)
    (reply : Reply) (result : Except SessionError AccessToken) : Prop where
  session : m₀.state.session = .authenticated tokens
  refresh : tokens.refresh = some sent
  alone : m₀.joinable? = none
  reliable : Reliable c m₀.state.stored
  decisive : Decisive c.rotateRefreshTokens tokens.access reply result

/-- Before anybody has come, a caller can only start a flight. -/
theorem quiet_step (hm : SlotInv m) (hearlier : EarlierSeen m₀ m) (hstate : m.state = m₀.state)
    (hlength : m.flights.length = m₀.flights.length)
    (hcallers : AllFrom m₀.callers.length m.callers (fun _ => False))
    (he : e.OfBurst tokens.access reply) :
    Stage c m₀ tokens sent result (m.step c e) (m.posts? c e).toList := by
  have hover : ∀ {i : Nat} {f : Flight}, m.flights[i]? = some f →
      (∀ r, f.phase ≠ .finished r) → False := by
    intro i f hf hphase
    have hle := hearlier.le_of_unfinished hm hf hphase
    have hlt := (List.getElem?_eq_some_iff.1 hf).1
    omega
  suffices hkey : (m.step c e).state = m.state ∧
      Stage c m₀ tokens sent result (m.step c e) [] by
    rw [posts?_eq_none hkey.1]
    exact hkey.2
  have hmove := step_move c m e
  generalize m.step c e = m' at hmove ⊢
  cases hmove with
  | idle => exact ⟨rfl, .quiet hstate hlength hcallers⟩
  | join stale' i hjoin =>
    have hle := hearlier.le_of_joinable? hjoin
    obtain ⟨_, f, hf, _⟩ := joinable?_eq_some hjoin
    have hlt := (List.getElem?_eq_some_iff.1 hf).1
    omega
  | depart stale' hnone =>
    cases he.call_eq
    refine ⟨rfl, .departed (.start tokens.access) hstate ?_ rfl rfl⟩
    refine ⟨by simp [hlength], by simp [← hlength], fun r => by simp [Flight.start], ?_⟩
    rw [hlength]
    exact (hcallers.imp fun _ h => h.elim).concat rfl
  | settle i f r state hf hphase => exact (hover hf (by rw [hphase]; simp)).elim
  | ask i f marked refresh hf hphase => exact (hover hf (by rw [hphase]; simp)).elim
  | finish i f outcome now hf hphase => exact (hover hf (by rw [hphase]; simp)).elim
  | observe k i f r hk hf hphase =>
    exact ⟨rfl, .quiet hstate (by simpa using hlength)
      (hcallers.set fun hle => hcallers k _ hle hk)⟩
  | leave k i r hk =>
    exact ⟨rfl, .quiet hstate hlength (hcallers.set fun hle => hcallers k _ hle hk)⟩
  | cancel k i hk => rcases he with he | he <;> cases he
  | operate operation now => rcases he with he | he <;> cases he

/-- The flight that departed finds its token in the session and asks. -/
theorem departed_step (hburst : Burst c m₀ tokens sent reply result) (hm : SlotInv m)
    (hearlier : EarlierSeen m₀ m) (hstate : m.state = m₀.state) (haloft : Aloft m₀ m f)
    (hphase : f.phase = .waiting) (hstale : f.stale = tokens.access)
    (he : e.OfBurst tokens.access reply) :
    Stage c m₀ tokens sent result (m.step c e) (m.posts? c e).toList := by
  rcases haloft.step (c := c) hearlier hm he with
    ⟨hsame, h⟩ | ⟨rfl, _⟩ | ⟨now, rfl, hrequest⟩
  · rw [posts?_eq_none hsame]
    exact .departed f (hsame.trans hstate) h hphase hstale
  · have hsession : m.state.session = .authenticated tokens := by rw [hstate, hburst.session]
    have hstep : m.step c (.begin m₀.flights.length) =
        { m with
          state := ⟨.refreshPending tokens, m.state.stored⟩
          flights := m.flights.set m₀.flights.length
            { f with sent := some sent, phase := .requesting } } := by
      simp [step, begin, haloft.flight, hphase, beginRefresh, hsession, hstale, hburst.refresh,
        Flight.afterBegin]
    have hposts : m.posts? c (.begin m₀.flights.length) = some sent :=
      posts?_eq_some_iff.2 ⟨tokens, hsession, hburst.refresh, by rw [hstep]⟩
    rw [hposts, hstep]
    refine .asked { f with sent := some sent, phase := .requesting } (by rw [hstate]) ?_ rfl
    exact ⟨by simpa using haloft.length, getElem?_set_same haloft.flight, by simp, haloft.callers⟩
  · rw [hphase] at hrequest; cases hrequest

/-- The flight that has asked takes in the answer. -/
theorem asked_step (hburst : Burst c m₀ tokens sent reply result) (hm : SlotInv m)
    (hearlier : EarlierSeen m₀ m) (hstate : m.state = ⟨.refreshPending tokens, m₀.state.stored⟩)
    (haloft : Aloft m₀ m f) (hphase : f.phase = .requesting)
    (he : e.OfBurst tokens.access reply) :
    Stage c m₀ tokens sent result (m.step c e) (sent :: (m.posts? c e).toList) := by
  rcases haloft.step (c := c) hearlier hm he with
    ⟨hsame, h⟩ | ⟨rfl, hwait⟩ | ⟨now, rfl, _⟩
  · rw [posts?_eq_none hsame]
    exact .asked f (hsame.trans hstate) h hphase
  · rw [hphase] at hwait; cases hwait
  · obtain ⟨t, hend, hlate⟩ := hburst.decisive.endRefresh (s := m.state) (by rw [hstate])
      (by rw [hstate]; exact hburst.reliable) now
    have hstep : m.step c (.finish m₀.flights.length (Backend.readRefresh reply) now) =
        { m with
          state := t
          flights := m.flights.set m₀.flights.length { f with phase := .finished result } } := by
      simp [step, finish, haloft.flight, hphase, hend]
    rw [show m.posts? c (.finish m₀.flights.length (Backend.readRefresh reply) now) = none from rfl,
      hstep]
    refine .answered hlate ?_ (haloft.callers.imp fun x hx => ?_)
    · -- There is no other flight of the burst yet.
      intro i g hle hg
      rcases getElem?_set_cases hg with ⟨_, rfl⟩ | ⟨hne, hg⟩
      · exact Or.inr rfl
      · have hlt := (List.getElem?_eq_some_iff.1 hg).1
        have hlength := haloft.length
        omega
    · rw [hx]
      exact Nat.le_refl _

/-- Once the answer has been taken in, every flight and every caller comes to its result. -/
theorem answered_step (hm : SlotInv m) (hearlier : EarlierSeen m₀ m)
    (hlate : c.beginRefresh tokens.access m.state = (.finished result, m.state))
    (hflights : AllFrom m₀.flights.length m.flights (Flight.Yields tokens.access result))
    (hcallers : AllFrom m₀.callers.length m.callers (Caller.Gets m₀.flights.length result))
    (he : e.OfBurst tokens.access reply) :
    Stage c m₀ tokens sent result (m.step c e) (sent :: (m.posts? c e).toList) := by
  suffices hkey : (m.step c e).state = m.state ∧
      Stage c m₀ tokens sent result (m.step c e) [sent] by
    rw [posts?_eq_none hkey.1]
    exact hkey.2
  have hmove := step_move c m e
  generalize m.step c e = m' at hmove ⊢
  cases hmove with
  | idle => exact ⟨rfl, .answered hlate hflights hcallers⟩
  | join stale' i hjoin =>
    exact ⟨rfl, .answered hlate hflights (hcallers.concat (hearlier.le_of_joinable? hjoin))⟩
  | depart stale' hnone =>
    cases he.call_eq
    have hlength : m₀.flights.length ≤ m.flights.length := by
      refine Nat.le_of_not_lt fun hlt => ?_
      obtain ⟨f, hf, _⟩ := hearlier _ hlt
      rw [List.getElem?_eq_none (Nat.le_refl _)] at hf
      cases hf
    exact ⟨rfl, .answered hlate (hflights.concat (Or.inl ⟨rfl, rfl⟩)) (hcallers.concat hlength)⟩
  | settle i f r state hf hphase hbegin ht =>
    have hle := hearlier.le_of_unfinished hm hf (by rw [hphase]; simp)
    rcases hflights i f hle hf with ⟨_, hstale⟩ | hfin
    · -- A late flight finds the result in the session, and leaves the session as it is.
      rw [hstale, hlate] at hbegin
      cases hbegin
      exact ⟨rfl, .answered hlate (hflights.set fun _ => Or.inr rfl) hcallers⟩
    · rw [hphase] at hfin; cases hfin
  | ask i f marked refresh hf hphase hsession haccess hrefresh =>
    have hle := hearlier.le_of_unfinished hm hf (by rw [hphase]; simp)
    rcases hflights i f hle hf with ⟨_, hstale⟩ | hfin
    · rw [hstale] at haccess
      simp [beginRefresh, hsession, haccess, hrefresh] at hlate
    · rw [hphase] at hfin; cases hfin
  | finish i f outcome now hf hphase =>
    have hle := hearlier.le_of_unfinished hm hf (by rw [hphase]; simp)
    rcases hflights i f hle hf with ⟨hwait, _⟩ | hfin
    · rw [hphase] at hwait; cases hwait
    · rw [hphase] at hfin; cases hfin
  | observe k i f r hk hf hphase =>
    refine ⟨rfl, .answered hlate (hflights.set fun hle => hflights i f hle hf)
      (hcallers.set fun hle => ?_)⟩
    rcases hflights i f (hcallers k _ hle hk) hf with ⟨hwait, _⟩ | hfin
    · rw [hphase] at hwait; cases hwait
    · rw [hphase] at hfin
      cases hfin
      exact rfl
  | leave k i r hk =>
    refine ⟨rfl, .answered hlate hflights (hcallers.set fun hle => ?_)⟩
    exact (hcallers k (.holding i r) hle hk : r = result)
  | cancel k i hk => rcases he with he | he <;> cases he
  | operate operation now => rcases he with he | he <;> cases he

/-- The invariant of a burst that has come to the machine `m`. -/
structure Underway (c : Coordinator σ) (m₀ : Machine σ) (tokens : TokenSet) (sent : RefreshToken)
    (result : Except SessionError AccessToken) (m : Machine σ) (posts : List RefreshToken) :
    Prop where
  slot : SlotInv m
  earlier : EarlierSeen m₀ m
  stage : Stage c m₀ tokens sent result m posts

variable {posts : List RefreshToken}

theorem Burst.underway (h : Burst c m tokens sent reply result) (hm : SlotInv m) :
    Underway c m tokens sent result m [] := by
  refine ⟨hm, fun i hi => ?_, .quiet rfl rfl fun k x hle hk => ?_⟩
  · have hf := List.getElem?_eq_getElem hi
    refine ⟨m.flights[i], hf, ?_⟩
    cases hseen : m.flights[i].observed with
    | true => rfl
    | false =>
      have hjoin := joinable?_of_unobserved (hm.unobserved i _ hf hseen) hf hseen
      rw [h.alone] at hjoin
      cases hjoin
  · have hlt := (List.getElem?_eq_some_iff.1 hk).1
    omega

/-- **Every event of a burst leads to the next stage or leaves it where it is.** -/
theorem Underway.step (h : Underway c m₀ tokens sent result m posts)
    (hburst : Burst c m₀ tokens sent reply result) (he : e.OfBurst tokens.access reply) :
    Underway c m₀ tokens sent result (m.step c e) (posts ++ (m.posts? c e).toList) := by
  obtain ⟨hm, hearlier, hstage⟩ := h
  have hmove := step_move c m e
  refine ⟨hm.move hmove, hearlier.move hm hmove, ?_⟩
  cases hstage with
  | quiet hstate hlength hcallers => exact quiet_step hm hearlier hstate hlength hcallers he
  | departed f hstate haloft hphase hstale =>
    exact departed_step hburst hm hearlier hstate haloft hphase hstale he
  | asked f hstate haloft hphase => exact asked_step hburst hm hearlier hstate haloft hphase he
  | answered hlate hflights hcallers =>
    exact answered_step hm hearlier hlate hflights hcallers he

theorem Underway.run (h : Underway c m₀ tokens sent result m posts)
    (hburst : Burst c m₀ tokens sent reply result) {events : List Event}
    (hevents : ∀ e ∈ events, e.OfBurst tokens.access reply) :
    Underway c m₀ tokens sent result (m.run c events) (posts ++ posted c m events) := by
  induction events generalizing m posts with
  | nil => simpa [posted] using h
  | cons e es ih =>
    have hstep := h.step hburst (hevents e List.mem_cons_self)
    have hrest := ih hstep fun e he => hevents e (List.mem_cons_of_mem _ he)
    simpa [posted] using hrest

/-! ## What a burst comes to -/

theorem Underway.posts_le_one (h : Underway c m₀ tokens sent result m posts) :
    posts = [] ∨ posts = [sent] := by
  cases h.stage with
  | quiet | departed => exact Or.inl rfl
  | asked | answered => exact Or.inr rfl

/-- Whoever has returned has the result, which has been asked for once. -/
theorem Underway.returned (h : Underway c m₀ tokens sent result m posts) {k : Nat}
    {r : Except SessionError AccessToken} (hle : m₀.callers.length ≤ k)
    (hk : m.callers[k]? = some (.returned r)) : r = result ∧ posts = [sent] := by
  cases h.stage with
  | quiet hstate hlength hcallers => exact (hcallers k _ hle hk).elim
  | departed f hstate haloft => cases haloft.callers k _ hle hk
  | asked f hstate haloft => cases haloft.callers k _ hle hk
  | answered hlate hflights hcallers => exact ⟨hcallers k _ hle hk, rfl⟩

/-- Nobody gives up. -/
theorem Underway.not_cancelled (h : Underway c m₀ tokens sent result m posts) {k : Nat}
    (hle : m₀.callers.length ≤ k) : m.callers[k]? ≠ some .cancelled := by
  intro hk
  cases h.stage with
  | quiet hstate hlength hcallers => exact hcallers k _ hle hk
  | departed f hstate haloft => cases haloft.callers k _ hle hk
  | asked f hstate haloft => cases haloft.callers k _ hle hk
  | answered hlate hflights hcallers => exact hcallers k _ hle hk

theorem returned?_eq_some_iff {k : Nat} {r : Except SessionError AccessToken} :
    m.returned? k = some r ↔ m.callers[k]? = some (.returned r) := by
  unfold returned?
  split
  · rename_i q hk
    rw [hk]
    simp
  · rename_i hother
    exact ⟨fun h => (nomatch h), fun h => absurd h (hother r)⟩

/-- **A burst of refused calls costs one refresh, and all callers share its result.** In whatever
order they come and go on, one refresh token is posted at most, and whoever has returned has
returned with the result of that one request. If nobody else comes the machine goes on for a
bounded time, and when nothing goes on any more everybody has returned. -/
theorem burst_shares_refresh {stored : σ} {earlier events : List Event}
    (hburst : Burst c (after c stored earlier) tokens sent reply result)
    (hevents : ∀ e ∈ events, e.OfBurst tokens.access reply) :
    let m₀ := after c stored earlier
    let m := m₀.run c events
    (posted c m₀ events = [] ∨ posted c m₀ events = [sent]) ∧
      (∀ k r, m₀.callers.length ≤ k → m.returned? k = some r →
        r = result ∧ posted c m₀ events = [sent]) ∧
      (∀ later, m.Busy c (Backend.readRefresh reply) later → later.length ≤ m.work) ∧
      (m.AtRest c (Backend.readRefresh reply) →
        ∀ k, m₀.callers.length ≤ k → k < m.callers.length → m.returned? k = some result) := by
  intro m₀ m
  have h : Underway c m₀ tokens sent result m (posted c m₀ events) :=
    (hburst.underway (after_slotInv c stored earlier)).run hburst hevents
  have hrun : m = after c stored (earlier ++ events) := (after_append c stored _ _).symm
  refine ⟨h.posts_le_one, ?_, fun later => busy_length_le, ?_⟩
  · intro k r hle hk
    exact h.returned hle (returned?_eq_some_iff.1 hk)
  · intro hrest k hle hlt
    obtain ⟨x, hx⟩ : ∃ x, m.callers[k]? = some x := ⟨_, List.getElem?_eq_getElem hlt⟩
    have hgone : (∃ r, x = .returned r) ∨ x = .cancelled := by
      rw [hrun] at hrest hx
      exact hrest.caller_gone hx
    rcases hgone with ⟨r, rfl⟩ | rfl
    · rw [returned?_eq_some_iff.2 hx, (h.returned hle hx).1]
    · exact absurd hx (h.not_cancelled hle)

/-- Three callers with the same token: the first one starts the refresh, the second comes while the
backend is being asked, and the third after the first has returned. -/
theorem three_calls_one_refresh :
    let c := Coordinator.ofConfig .default Register.store
    let tokens : TokenSet := ⟨⟨"a1", by decide⟩, some ⟨"r1", by decide⟩, ⟨0, 0⟩⟩
    let access : AccessToken := ⟨"a2", by decide⟩
    let reply : Reply := .ok ⟨200, Text.bytes
      "\x7b\"access_token\": \"a2\", \"refresh_token\": \"r2\"\x7d"⟩
    let m₀ := after c (.holding (some tokens)) []
    let events : List Event :=
      [.call tokens.access, .begin 0, .call tokens.access,
       .finish 0 (Backend.readRefresh reply) ⟨1, 0⟩, .observe 0, .leave 0,
       .call tokens.access, .begin 1, .observe 1, .leave 1, .observe 2, .leave 2]
    Burst c m₀ tokens ⟨"r1", by decide⟩ reply (.ok access) ∧
      (∀ e ∈ events, e.OfBurst tokens.access reply) ∧
      [0, 1, 2].map (m₀.run c events).returned? = List.replicate 3 (some (.ok access)) ∧
      posted c m₀ events = [⟨"r1", by decide⟩] := by
  intro c tokens access reply m₀ events
  have hburst : Burst c m₀ tokens ⟨"r1", by decide⟩ reply (.ok access) :=
    { session := rfl
      refresh := rfl
      alone := rfl
      reliable := ⟨fun _ => ⟨_, rfl⟩, ⟨_, rfl⟩⟩
      decisive := .renewed _ ⟨"a2", some "r2", none⟩ access (by decide) (by decide +kernel)
        (by decide) (by decide) }
  have hevents : ∀ e ∈ events, e.OfBurst tokens.access reply := by
    intro e he
    simp only [events, List.mem_cons, List.not_mem_nil, or_false] at he
    rcases he with rfl | rfl | rfl | rfl | rfl | rfl | rfl | rfl | rfl | rfl | rfl | rfl
    all_goals first | exact Or.inl rfl | exact Or.inr (by constructor)
  have hreturned : [0, 1, 2].map (m₀.run c events).returned? =
      List.replicate 3 (some (.ok access)) := by decide +kernel
  have hlast : (m₀.run c events).returned? 2 = some (.ok access) := by decide +kernel
  have h := burst_shares_refresh hburst hevents
  exact ⟨hburst, hevents, hreturned, (h.2.1 2 _ (Nat.zero_le _) hlast).2⟩

end Machine

end RedirectLogin.Coordinator
