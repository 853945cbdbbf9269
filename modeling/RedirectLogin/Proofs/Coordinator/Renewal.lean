import RedirectLogin.Proofs.Coordinator.Burst
import RedirectLogin.Proofs.Coordinator.Lifecycle
import RedirectLogin.Proofs.Coordinator.Persistence
import RedirectLogin.Proofs.Text.Utf8
import RedirectLogin.Proofs.Token

/-!
# What a reply makes of a session

A refresh that nothing else comes between is decided by the backend's reply, by whether refresh
tokens are rotated, and by the store. There are three kinds of replies: those that refuse, by their
status or with a blank access token; those that grant an access token; and all the others, which say
nothing about the refresh token. After one of the last kind a token that may have been consumed is
given up, while one that stays good is kept.

Principal results: `Refuses.endRefresh`, `Grants.endRefresh`, `Unusable.readRefresh` — what is made
of each kind; `run_soleRefresh` — a refresh on its own, from call to return; `reply_decides_refresh`
— result, session and store, for every reply.
-/

set_option autoImplicit false

namespace RedirectLogin.Coordinator

variable {σ : Type} {c : Coordinator σ} {s : State σ} {content : σ → Option TokenSet}
  {reply : Reply} {tokens : TokenSet}

/-! ## Kinds of replies -/

/-- The refresh token is refused, or the new access token is blank. -/
inductive Refuses : Reply → Prop
  | status (r : Response) (h : 400 ≤ r.status ∧ r.status ≤ 499) : Refuses (.ok r)
  | blank (r : Response) (response : RefreshResponse) (hstatus : 200 ≤ r.status ∧ r.status ≤ 299)
      (hbody : Json.decodeBytes RefreshResponse.decoder r.body = .ok response)
      (hblank : Text.isBlankText response.access = true) : Refuses (.ok r)

/-- An access token is granted; `given` is what stands for the refresh token, which may be blank. -/
inductive Grants (access : AccessToken) (given : Option String) : Reply → Prop
  | body (r : Response) (expiresIn : Option Int) (hstatus : 200 ≤ r.status ∧ r.status ≤ 299)
      (hbody : Json.decodeBytes RefreshResponse.decoder r.body =
        .ok ⟨access.value, given, expiresIn⟩) : Grants access given (.ok r)

/-- Anything else: no response at all, another status, or a body that cannot be read. -/
structure Unusable (reply : Reply) : Prop where
  refusesNot : ¬ Refuses reply
  grantsNot : ∀ access given, ¬ Grants access given reply

theorem isSuccess_iff {status : Nat} :
    Http.isSuccess status = true ↔ 200 ≤ status ∧ status ≤ 299 := by
  simp [Http.isSuccess]

theorem isClientError_iff {status : Nat} :
    Http.isClientError status = true ↔ 400 ≤ status ∧ status ≤ 499 := by
  simp [Http.isClientError]

/-- A body that can be read is the answer of a successful response. -/
theorem readRefresh_body {r : Response} {response : RefreshResponse}
    (hstatus : 200 ≤ r.status ∧ r.status ≤ 299)
    (hbody : Json.decodeBytes RefreshResponse.decoder r.body = .ok response) :
    Backend.readRefresh (.ok r) = .ok response := by
  rw [readRefresh_success (isSuccess_iff.2 hstatus), Response.json, hbody]
  rfl

/-- After a refusal the session ends. -/
theorem Refuses.endRefresh (h : Refuses reply) (hsession : s.session = .refreshPending tokens)
    (now : Timestamp) : c.endRefresh (Backend.readRefresh reply) now s = c.endSession s := by
  cases h with
  | status r hstatus =>
    simp [Coordinator.endRefresh, hsession, Backend.readRefresh, isClientError_iff.2 hstatus,
      finishRefresh]
  | blank r response hstatus hbody hblank =>
    have hnone : AccessToken.ofString? response.access = none := by
      simp [AccessToken.ofString?, hblank]
    simp only [Coordinator.endRefresh, hsession, readRefresh_body hstatus hbody, finishRefresh,
      hnone]

/-- The refresh token that a session has after a grant: the one that is given, if it is good, and
else the old one, which rotation has consumed. -/
structure IsKept (rotate : Bool) (old : RefreshToken) (given : Option String)
    (kept : Option RefreshToken) : Prop where
  ofGood : ∀ new : RefreshToken, given = some new.value → kept = some new
  ofOther : (∀ new : RefreshToken, given ≠ some new.value) → kept = if rotate then none else some old

/-- What is granted is kept, together with a refresh token. -/
theorem Grants.endRefresh {access : AccessToken} {given : Option String} {refresh : RefreshToken}
    (h : Grants access given reply) (hsession : s.session = .refreshPending tokens)
    (hrefresh : tokens.refresh = some refresh) (now : Timestamp) :
    ∃ kept, IsKept c.rotateRefreshTokens refresh given kept ∧
      c.endRefresh (Backend.readRefresh reply) now s =
        ((c.keepTokens ⟨access, kept, now⟩ s).1.map (fun _ => access),
          (c.keepTokens ⟨access, kept, now⟩ s).2) := by
  cases h with
  | body r expiresIn hstatus hbody =>
    let response : RefreshResponse := ⟨access.value, given, expiresIn⟩
    refine ⟨(c.refreshedTokens tokens access response now).refresh, ⟨?_, ?_⟩, ?_⟩
    · rintro new rfl
      simp [response, refreshedTokens, RefreshToken.ofString?_value]
    · intro hother
      have hnone : given.bind RefreshToken.ofString? = none := by
        cases given with
        | none => rfl
        | some text =>
          rw [Option.bind_some, RefreshToken.ofString?, dif_neg]
          exact fun hgood => hother ⟨text, hgood⟩ rfl
      simp only [response, refreshedTokens, hnone, hrefresh]
    · simp only [Coordinator.endRefresh, hsession, readRefresh_body hstatus hbody, finishRefresh,
        AccessToken.ofString?_value]
      rfl

/-- Any other reply says nothing about the refresh token. -/
theorem Unusable.readRefresh (h : Unusable reply) :
    ∃ reason, Backend.readRefresh reply = .error (.transient reason) := by
  cases reply with
  | error e => exact ⟨_, rfl⟩
  | ok r =>
    have hclient : Http.isClientError r.status = false :=
      Bool.eq_false_iff.2 fun hstatus => h.refusesNot (.status r (isClientError_iff.1 hstatus))
    cases hsuccess : Http.isSuccess r.status with
    | false => exact ⟨_, by simp only [Backend.readRefresh, hclient, hsuccess]; rfl⟩
    | true =>
      have hstatus := isSuccess_iff.1 hsuccess
      rw [readRefresh_success hsuccess, Response.json]
      cases hbody : Json.decodeBytes RefreshResponse.decoder r.body with
      | error problem => exact ⟨_, rfl⟩
      | ok response =>
        exfalso
        obtain ⟨text, given, expiresIn⟩ := response
        cases hblank : Text.isBlankText text with
        | true => exact h.refusesNot (.blank r _ hstatus hbody hblank)
        | false => exact h.grantsNot ⟨text, hblank⟩ given (.body r expiresIn hstatus hbody)

/-! ## Written replies -/

/-- A response as backends write it. -/
def grantDocument (access : String) (given : Option String) : Json :=
  .object (("access_token", .string access) ::
    (given.map fun g => ("refresh_token", .string g)).toList)

/-- A written response is read as what it says, whatever the characters of its tokens. -/
theorem decoder_grantDocument (access : String) (given : Option String) :
    RefreshResponse.decoder (Json.outline (grantDocument access given)) =
      .ok ⟨access, given, none⟩ := by
  have hmembers : Json.readRecord .text "struct RefreshResponse" RefreshResponse.fields
      ⟨none, none, none⟩ (Json.outline (grantDocument access given)) =
      .ok ⟨some access, given, none⟩ := by
    cases given with
    | none => exact (Json.readMembersInto_member rfl rfl rfl).trans rfl
    | some g =>
      exact (Json.readMembersInto_member rfl rfl rfl).trans
        ((Json.readMembersInto_member rfl rfl rfl).trans rfl)
  rw [RefreshResponse.decoder, hmembers]
  rfl

theorem decodeBytes_grantDocument (access : String) (given : Option String) :
    Json.decodeBytes RefreshResponse.decoder (Text.bytes (grantDocument access given).compact) =
      .ok ⟨access, given, none⟩ := by
  have hplain : (grantDocument access given).Plain := by
    cases given <;> simp [grantDocument, Json.Plain, Json.PlainMembers]
  rw [Json.decodeBytes, Text.bytes, Text.decodeMarked_encode, String.ofList_toList,
    Json.decode_compact _ hplain, decoder_grantDocument]

/-- **What a backend writes is a grant**, unless the access token is blank; then it is a refusal. -/
theorem grantDocument_cases {r : Response} (hstatus : 200 ≤ r.status ∧ r.status ≤ 299)
    {text : String} {given : Option String}
    (hbody : r.body = Text.bytes (grantDocument text given).compact) :
    (∀ access : AccessToken, access.value = text → Grants access given (.ok r)) ∧
      (Text.isBlankText text = true → Refuses (.ok r)) := by
  have hread := decodeBytes_grantDocument text given
  rw [← hbody] at hread
  constructor
  · rintro access rfl
    exact .body r none hstatus hread
  · exact .blank r _ hstatus hread

/-! ## What the store makes of it -/

/-- What a section leaves behind: its result, the session, and what the store holds. -/
structure Leaves (content : σ → Option TokenSet) (answer : Except SessionError AccessToken)
    (s : State σ) (result : Except SessionError AccessToken) (session : Session)
    (held : Option TokenSet) : Prop where
  result : answer = result
  session : s.session = session
  held : content s.stored = held

/-- What a section comes to that has to write to the store: what it says if that works, and its
failure if it fails twice, with the content as it was. -/
structure ComesTo (content : σ → Option TokenSet) (write : σ → Except StoreError Unit × σ)
    (stored : σ) (answer : Except SessionError AccessToken) (s : State σ)
    (result : Except SessionError AccessToken) (session : Session) (held : Option TokenSet) :
    Prop where
  works : (∀ e, ¬ FailsTwice write stored e) → Leaves content answer s result session held
  fails : ∀ e, FailsTwice write stored e →
    Leaves content answer s (.error (.storageFailure e.message))
      (.failed (.storageFailure e.message)) (content stored)

/-- A session that ends is gone from the store too. -/
theorem endSession_comesTo (hc : c.store.IsRegister content) (s : State σ) :
    ComesTo content c.store.clear s.stored (c.endSession s).1 (c.endSession s).2
      (.error .sessionExpired) .unauthenticated none := by
  constructor
  · intro hworks
    obtain ⟨stored, hclear⟩ := attemptTwice_works hworks
    have hend : c.endSession s = (.error .sessionExpired, ⟨.unauthenticated, stored⟩) := by
      simp only [endSession, forgetTokens, hclear]
    rw [hend]
    exact ⟨rfl, rfl, hc.cleared hclear⟩
  · intro e hfails
    obtain ⟨stored, hclear⟩ := hfails.attemptTwice
    have hend : c.endSession s = (.error (.storageFailure e.message),
        ⟨.failed (.storageFailure e.message), stored⟩) := by
      simp only [endSession, forgetTokens, hclear]
    rw [hend]
    exact ⟨rfl, rfl, hc.clear_failed hclear⟩

/-- Renewed tokens are in the store when the session has them. -/
theorem keepTokens_comesTo (hc : c.store.IsRegister content) (renewed : TokenSet)
    (access : AccessToken) (s : State σ) :
    ComesTo content (c.store.save renewed) s.stored
      ((c.keepTokens renewed s).1.map (fun _ => access)) (c.keepTokens renewed s).2
      (.ok access) (.authenticated renewed) (some renewed) := by
  constructor
  · intro hworks
    obtain ⟨stored, hsave⟩ := attemptTwice_works hworks
    have hkeep : c.keepTokens renewed s = (.ok (), ⟨.authenticated renewed, stored⟩) := by
      simp only [keepTokens, hsave]
    rw [hkeep]
    exact ⟨rfl, rfl, hc.saved hsave⟩
  · intro e hfails
    obtain ⟨stored, hsave⟩ := hfails.attemptTwice
    have hkeep : c.keepTokens renewed s = (.error (.storageFailure e.message),
        ⟨.failed (.storageFailure e.message), stored⟩) := by
      simp only [keepTokens, hsave]
    rw [hkeep]
    exact ⟨rfl, rfl, hc.save_failed hsave⟩

/-! ## A refresh on its own -/

namespace Machine

variable {m : Machine σ} {stale : AccessToken} {refresh : RefreshToken} {pending : State σ}

/-- A caller arrives, its flight asks the backend and takes in the answer, and the caller returns;
nothing comes between. -/
def soleRefresh (m : Machine σ) (stale : AccessToken)
    (outcome : Except RefreshFailure RefreshResponse) (now : Timestamp) : List Event :=
  [.call stale, .begin m.flights.length, .finish m.flights.length outcome now,
   .observe m.callers.length, .leave m.callers.length]

/-- **A refresh on its own runs its two sections**, and its caller returns with the result. -/
theorem run_soleRefresh (hfree : m.joinable? = none)
    (hbegin : c.beginRefresh stale m.state = (.request refresh, pending))
    (outcome : Except RefreshFailure RefreshResponse) (now : Timestamp) :
    m.run c (soleRefresh m stale outcome now) =
      { state := (c.endRefresh outcome now pending).2
        flights := m.flights ++
          [⟨stale, some refresh, .finished (c.endRefresh outcome now pending).1, true⟩]
        slot := none
        callers := m.callers ++ [.returned (c.endRefresh outcome now pending).1] } := by
  have hset : ∀ f g : Flight, (m.flights ++ [f]).set m.flights.length g = m.flights ++ [g] := by
    simp
  have hsetCaller : ∀ x y : Caller,
      (m.callers ++ [x]).set m.callers.length y = m.callers ++ [y] := by
    simp
  simp only [soleRefresh, run_cons, run_nil, step, call_departs stale hfree]
  simp [begin, finish, observe, leave, Flight.start, Flight.afterBegin, hbegin, hset, hsetCaller]

/-- **The reply decides what becomes of a session whose token was refused.** A refresh that nothing
else comes between sends the session's refresh token. After a refusal, and with rotation after any
reply that says nothing, the session ends and the store is cleared. A token that is granted is in
session and store, and returned; with it stands the refresh token of the reply, or without a good
one there the old one if tokens are not rotated. Without rotation a reply that says nothing leaves
everything as it was. If what the store has to do fails twice, then that is the result and the
session, and the store holds the old tokens. -/
theorem reply_decides_refresh (hc : c.store.IsRegister content) (stored : σ) (events : List Event)
    (hsession : (after c stored events).state.session = .authenticated tokens)
    (hrefresh : tokens.refresh = some refresh) (hfree : (after c stored events).joinable? = none)
    (reply : Reply) (now : Timestamp) :
    let m := after c stored events
    let m' := m.run c (soleRefresh m tokens.access (Backend.readRefresh reply) now)
    content m.state.stored = some tokens ∧
    ∃ result, m'.returned? m.callers.length = some result ∧
      m'.flights = m.flights ++ [⟨tokens.access, some refresh, .finished result, true⟩] ∧
      (Refuses reply ∨ Unusable reply ∧ c.rotateRefreshTokens = true →
        ComesTo content c.store.clear m.state.stored result m'.state (.error .sessionExpired)
          .unauthenticated none) ∧
      (∀ access given, Grants access given reply →
        ∃ kept, IsKept c.rotateRefreshTokens refresh given kept ∧
          let renewed : TokenSet := ⟨access, kept, now⟩
          ComesTo content (c.store.save renewed) m.state.stored result m'.state (.ok access)
            (.authenticated renewed) (some renewed)) ∧
      (Unusable reply → c.rotateRefreshTokens = false →
        m'.state = m.state ∧ ∃ reason, result = .error (.network reason)) := by
  intro m m'
  have hheld : content m.state.stored = some tokens :=
    after_kept hc stored events tokens (by rw [hsession]; rfl)
  let pending : State σ := ⟨.refreshPending tokens, m.state.stored⟩
  let done := c.endRefresh (Backend.readRefresh reply) now pending
  have hbegin : c.beginRefresh tokens.access m.state = (.request refresh, pending) := by
    simp only [beginRefresh, m, hsession, ne_eq, not_true_eq_false, if_false, hrefresh]
    rfl
  have hrun : m' = ⟨done.2, m.flights ++ [⟨tokens.access, some refresh, .finished done.1, true⟩],
      none, m.callers ++ [.returned done.1]⟩ :=
    run_soleRefresh hfree hbegin (Backend.readRefresh reply) now
  rw [hrun]
  refine ⟨hheld, done.1, by simp [returned?], rfl, ?_, ?_, ?_⟩
  · intro h
    have hdone : done = c.endSession pending := by
      rcases h with h | ⟨h, hrotate⟩
      · exact h.endRefresh rfl now
      · obtain ⟨reason, hreason⟩ := h.readRefresh
        simp only [done, hreason, endRefresh, pending, finishRefresh, hrotate, if_true]
    rw [hdone]
    exact endSession_comesTo hc pending
  · intro access given h
    obtain ⟨kept, hkept, hdone⟩ := h.endRefresh (c := c) (s := pending) rfl hrefresh now
    refine ⟨kept, hkept, ?_⟩
    rw [show done = _ from hdone]
    exact keepTokens_comesTo hc ⟨access, kept, now⟩ access pending
  · intro h hrotate
    obtain ⟨reason, hreason⟩ := h.readRefresh
    have hdone : done = (.error (.network reason), m.state) := by
      simp only [done, hreason, endRefresh, pending, finishRefresh, hrotate, Bool.false_eq_true,
        if_false, ← hsession]
      rfl
    rw [hdone]
    exact ⟨rfl, reason, rfl⟩

/-- Without rotation a backend grants an access token along with a blank refresh token; the old
refresh token stays. -/
theorem old_refresh_token_stays :
    let c := Coordinator.ofConfig { Config.default with rotateRefreshTokens := false } Register.store
    let tokens : TokenSet := ⟨⟨"a1", by decide⟩, some ⟨"r1", by decide⟩, ⟨0, 0⟩⟩
    let renewed : TokenSet := ⟨⟨"a2", by decide⟩, some ⟨"r1", by decide⟩, ⟨60, 0⟩⟩
    let r : Response := ⟨200, Text.bytes (grantDocument "a2" (some " ")).compact⟩
    let m := after c (.holding (some tokens)) []
    let m' := m.run c (soleRefresh m tokens.access (Backend.readRefresh (.ok r)) ⟨60, 0⟩)
    m.state.session = .authenticated tokens ∧ m.joinable? = none ∧
      m'.returned? m.callers.length = some (.ok renewed.access) ∧
      m'.state.session = .authenticated renewed ∧ m'.state.stored.content = some renewed := by
  intro c tokens renewed r m m'
  have hstatus : 200 ≤ r.status ∧ r.status ≤ 299 := by decide
  have hgrant : Grants renewed.access (some " ") (.ok r) :=
    (grantDocument_cases hstatus rfl).1 renewed.access rfl
  -- What is known of the reply is enough; nothing is gained by reading its body.
  clear_value r
  have hsession : m.state.session = .authenticated tokens := rfl
  have hfree : m.joinable? = none := rfl
  obtain ⟨_, result, hreturned, _, _, hgrants, _⟩ := reply_decides_refresh (c := c)
    register_isRegister (.holding (some tokens)) [] hsession rfl hfree (.ok r) ⟨60, 0⟩
  obtain ⟨kept, hkept, hcomes⟩ := hgrants _ _ hgrant
  obtain rfl : kept = some ⟨"r1", by decide⟩ := hkept.ofOther fun new hnew => by
    have hblank := new.nonblank
    rw [← Option.some.inj hnew] at hblank
    exact absurd hblank (by decide)
  have hleaves := hcomes.works (register_save_works renewed rfl)
  have hresult : result = .ok renewed.access := hleaves.result
  rw [hresult] at hreturned
  exact ⟨hsession, hfree, hreturned, hleaves.session, hleaves.held⟩

end Machine

end RedirectLogin.Coordinator
