import RedirectLogin.Coordinator.Live
import RedirectLogin.Proofs.Coordinator.Faults
import RedirectLogin.Proofs.Renaming
import RedirectLogin.Proofs.Url.Reading

/-!
# Tokens are opaque

Two coordinators run side by side, and where one has a token the other has the same token under
another name: in what their stores hold at first, in the redirects that reach them, in the tokens
that callers were refused with and in what the backend answers. The clock, the kind of every answer
and the failures of the stores are the same. Then no user interface can tell the two apart.

The only question a section asks about a token is whether it is the one that was refused, and a
renaming leaves the answer as it is. So the two runs are compared section by section: a section ends
in renamed states with renamed results (`Corresponds`), and then so does every event and every run.

Principal results: `beginRefresh_corresponds`, `endRefresh_corresponds` — the two halves of a
refresh; `run_corresponds` — all other sections; `Machine.Renamed.run` — whole runs;
`Machine.tokens_are_opaque` — all of it, with what a log shows of a token.
-/

set_option autoImplicit false

namespace RedirectLogin

namespace Coordinator

variable {σ τ α β γ δ : Type} {ρ : TokenRenaming} {R : σ → τ → Prop} {c : Coordinator σ}
  {c' : Coordinator τ} {s : State σ} {s' : State τ}

/-- Two coordinators that are alike up to the names of the tokens in their stores. -/
structure Counterpart (ρ : TokenRenaming) (R : σ → τ → Prop) (c : Coordinator σ)
    (c' : Coordinator τ) : Prop where
  store : ρ.Stores R c.store c'.store
  backend : c'.backend = c.backend
  provider : c'.provider = c.provider
  loginTimeout : c'.loginTimeout = c.loginTimeout
  rotateRefreshTokens : c'.rotateRefreshTokens = c.rotateRefreshTokens

/-- Two states that differ in the names of tokens only. -/
structure Renamed (ρ : TokenRenaming) (R : σ → τ → Prop) (s : State σ) (s' : State τ) : Prop where
  session : s'.session = ρ.session s.session
  stored : R s.stored s'.stored

/-- Two sections correspond if they end in renamed states, the second one with what `f` makes of the
first one's result. -/
def Corresponds (ρ : TokenRenaming) (R : σ → τ → Prop) (f : α → β) (x : α × State σ)
    (x' : β × State τ) : Prop :=
  x'.1 = f x.1 ∧ Renamed ρ R x.2 x'.2

theorem Corresponds.map {f : α → β} {x : α × State σ} {x' : β × State τ}
    (h : Corresponds ρ R f x x') {g : α → γ} {g' : β → δ} {f' : γ → δ}
    (hg : ∀ a, g' (f a) = f' (g a)) :
    Corresponds ρ R f' (g x.1, x.2) (g' x'.1, x'.2) :=
  ⟨(congrArg g' h.1).trans (hg x.1), h.2⟩

theorem Renamed.corresponds (h : Renamed ρ R s s') {f : α → β} {a : α} {b : β} (hab : b = f a) :
    Corresponds ρ R f (a, s) (b, s') :=
  ⟨hab, h⟩

/-- Whatever the session becomes, it becomes it over the same stores. -/
theorem Renamed.withSession (h : Renamed ρ R s s') {session session' : Session}
    (hsession : session' = ρ.session session) :
    Renamed ρ R { s with session := session } { s' with session := session' } :=
  ⟨hsession, h.stored⟩

/-! ## Without a look at the store -/

theorem retry_corresponds (h : Renamed ρ R s s') :
    Corresponds ρ R id (Coordinator.retry s) (Coordinator.retry s') := by
  unfold Coordinator.retry
  rw [h.session, ρ.error?_session]
  split
  · exact (h.withSession rfl).corresponds rfl
  · refine h.corresponds ?_
    rw [h.session, ρ.status_session]
    rfl

/-- The tokens after a refresh are renamed with the answer and with those before. -/
theorem refreshedTokens_renamed (hc : Counterpart ρ R c c') (previous : TokenSet)
    (access : AccessToken) {response response' : RefreshResponse}
    (h : ρ.Responds response response') (now : Timestamp) :
    c'.refreshedTokens (ρ.tokens previous) (ρ.access access) response' now =
      ρ.tokens (c.refreshedTokens previous access response now) := by
  simp only [refreshedTokens, TokenRenaming.tokens, h.refresh, hc.rotateRefreshTokens]
  cases response.refresh.bind RefreshToken.ofString? with
  | some rotated => rfl
  | none => cases c.rotateRefreshTokens <;> rfl

/-! ## Where the store is used -/

theorem start_renamed (hc : Counterpart ρ R c c') {stored : σ} {stored' : τ}
    (h : R stored stored') : Renamed ρ R (c.start stored) (c'.start stored') := by
  obtain ⟨found, y, y', hload, hload', hy⟩ := hc.store.load.attemptTwice h
  simp only [start, hload, hload']
  cases found with
  | ok found => exact ⟨ρ.session_ofStored found, hy⟩
  | error e => exact ⟨rfl, hy⟩

section

variable (hc : Counterpart ρ R c c') (h : Renamed ρ R s s')

include hc h

theorem keepTokens_corresponds (tokens : TokenSet) :
    Corresponds ρ R id (c.keepTokens tokens s) (c'.keepTokens (ρ.tokens tokens) s') := by
  obtain ⟨kept, y, y', hsave, hsave', hy⟩ := (hc.store.save tokens).attemptTwice h.stored
  simp only [keepTokens, hsave, hsave']
  cases kept <;> exact ⟨rfl, rfl, hy⟩

theorem forgetTokens_corresponds : Corresponds ρ R id (c.forgetTokens s) (c'.forgetTokens s') := by
  obtain ⟨forgotten, y, y', hclear, hclear', hy⟩ := hc.store.clear.attemptTwice h.stored
  simp only [forgetTokens, hclear, hclear']
  cases forgotten <;> exact ⟨rfl, rfl, hy⟩

theorem currentToken_corresponds :
    Corresponds ρ R (Except.map (Option.map ρ.access)) (c.currentToken s) (c'.currentToken s') := by
  obtain ⟨found, y, y', hload, hload', hy⟩ := hc.store.load.attemptTwice h.stored
  simp only [currentToken, hload, hload']
  refine ⟨?_, h.session, hy⟩
  rcases found with e | _ | tokens <;> rfl

/-! ## Section by section -/

theorem expireLogin_renamed (now : Timestamp) :
    Renamed ρ R (c.expireLogin now s) (c'.expireLogin now s') := by
  refine h.withSession ?_
  rw [h.session, hc.loginTimeout, ρ.expire_session]

theorem status_corresponds (now : Timestamp) :
    Corresponds ρ R id (c.status now s) (c'.status now s') := by
  have hexpire := expireLogin_renamed hc h now
  refine hexpire.corresponds ?_
  rw [hexpire.session, ρ.status_session]
  rfl

theorem startLogin_corresponds (redirect? : Option String) (now : Timestamp) :
    Corresponds ρ R id (c.startLogin redirect? now s) (c'.startLogin redirect? now s') := by
  unfold startLogin
  rw [hc.backend, hc.provider]
  split
  · exact h.corresponds rfl
  · exact (h.withSession rfl).corresponds rfl

theorem beginLogin_corresponds (redirect? : Option String) (now : Timestamp) :
    Corresponds ρ R id (c.beginLogin redirect? now s) (c'.beginLogin redirect? now s') := by
  have hexpire := expireLogin_renamed hc h now
  have hstart := startLogin_corresponds hc hexpire redirect? now
  have hsession := hexpire.session
  unfold beginLogin
  cases hs : (c.expireLogin now s).session <;> rw [hs] at hsession <;>
    simp only [hs, hsession, TokenRenaming.session]
  · exact hstart
  · exact hexpire.corresponds rfl
  · exact hexpire.corresponds rfl
  · exact hexpire.corresponds rfl
  · exact hstart

theorem finishLogin_corresponds (result : Except SessionError CallbackResult) (now : Timestamp) :
    Corresponds ρ R id (c.finishLogin result now s)
      (c'.finishLogin (result.map ρ.redirect) now s') := by
  match result with
  | .ok (.token access refresh) =>
    exact (keepTokens_corresponds hc h ⟨access, refresh, now⟩).map (fun _ => rfl)
  | .ok (.error code description) => exact (h.withSession rfl).corresponds rfl
  | .error e => exact (h.withSession rfl).corresponds rfl

theorem consume_corresponds (result : Except SessionError CallbackResult) (now : Timestamp) :
    Corresponds ρ R id (c.consume result now s) (c'.consume (result.map ρ.redirect) now s') := by
  have hexpire := expireLogin_renamed hc h now
  unfold consume
  simp only [hexpire.session, ρ.pending?_session]
  split
  · exact hexpire.corresponds rfl
  · exact finishLogin_corresponds hc hexpire result now

theorem handleCallback_corresponds {event event' : CallbackEvent}
    (hevent : c'.receiver.receive event' = (c.receiver.receive event).map (Option.map ρ.redirect))
    (now : Timestamp) :
    Corresponds ρ R id (c.handleCallback event now s) (c'.handleCallback event' now s') := by
  unfold handleCallback
  rw [hevent]
  match c.receiver.receive event with
  | .ok none => exact h.corresponds rfl
  | .ok (some result) => exact consume_corresponds hc h (.ok result) now
  | .error e =>
    have hconsume := consume_corresponds hc h (.error e) now
    cases e with
    | untrustedOrigin origin => exact h.corresponds rfl
    | _ => exact hconsume

theorem logOut_corresponds :
    Corresponds ρ R (Except.map (Option.map ρ.access)) (c.logOut s) (c'.logOut s') := by
  unfold logOut
  rw [h.session, ρ.accessToken?_session]
  refine (forgetTokens_corresponds hc h).map fun forgotten => ?_
  cases forgotten <;> rfl

theorem endSession_corresponds :
    Corresponds ρ R (Except.map ρ.access) (c.endSession s) (c'.endSession s') := by
  obtain ⟨hforgotten, hafter⟩ := forgetTokens_corresponds hc h
  rw [endSession_eq, endSession_eq, hforgotten]
  refine hafter.corresponds ?_
  cases (c.forgetTokens s).1 <;> rfl

/-! ## The two halves of a refresh -/

/-- What the first section decides, with the same tokens under other names. -/
def RefreshStart.rename (ρ : TokenRenaming) : RefreshStart → RefreshStart
  | .finished result => .finished (result.map ρ.access)
  | .request token => .request (ρ.refresh token)

/-- **The first half.** It compares two tokens, and finds the renamed ones equal just if they are.
-/
theorem beginRefresh_corresponds (stale : AccessToken) :
    Corresponds ρ R (RefreshStart.rename ρ) (c.beginRefresh stale s)
      (c'.beginRefresh (ρ.access stale) s') := by
  unfold beginRefresh
  rw [h.session]
  cases hsession : s.session with
  | authenticated tokens =>
    -- the one place where a token is looked at
    have hsame : (ρ.tokens tokens).access ≠ ρ.access stale ↔ tokens.access ≠ stale :=
      not_congr ρ.access_inj
    simp only [TokenRenaming.session, hsame]
    split
    · exact h.corresponds rfl
    · cases hrefresh : tokens.refresh with
      | some refresh =>
        simp only [TokenRenaming.tokens, hrefresh, Option.map_some]
        refine (h.withSession ?_).corresponds rfl
        simp only [TokenRenaming.session, TokenRenaming.tokens, hrefresh, Option.map_some]
      | none =>
        simp only [TokenRenaming.tokens, hrefresh, Option.map_none]
        exact (endSession_corresponds hc h).map (fun _ => rfl)
  | _ => exact h.corresponds rfl

theorem finishRefresh_corresponds (previous : TokenSet)
    {outcome outcome' : Except RefreshFailure RefreshResponse} (hanswer : ρ.Answers outcome outcome')
    (now : Timestamp) :
    Corresponds ρ R (Except.map ρ.access) (c.finishRefresh previous outcome now s)
      (c'.finishRefresh (ρ.tokens previous) outcome' now s') := by
  cases hanswer with
  | @ok response response' hresponse =>
    simp only [finishRefresh, hresponse.access]
    cases AccessToken.ofString? response.access with
    | none => exact endSession_corresponds hc h
    | some access =>
      simp only [Option.map_some, refreshedTokens_renamed hc previous access hresponse]
      refine (keepTokens_corresponds hc h _).map fun kept => ?_
      cases kept <;> rfl
  | error failure =>
    cases failure with
    | rejected status => exact endSession_corresponds hc h
    | transient reason =>
      simp only [finishRefresh, hc.rotateRefreshTokens]
      split
      · exact endSession_corresponds hc h
      · exact (h.withSession rfl).corresponds rfl

/-- **The second half.** It asks what kind of answer came, and which of its tokens are blank. -/
theorem endRefresh_corresponds
    {outcome outcome' : Except RefreshFailure RefreshResponse} (hanswer : ρ.Answers outcome outcome')
    (now : Timestamp) :
    Corresponds ρ R (Except.map ρ.access) (c.endRefresh outcome now s)
      (c'.endRefresh outcome' now s') := by
  unfold endRefresh
  rw [h.session]
  cases s.session with
  | refreshPending previous => exact finishRefresh_corresponds hc h previous hanswer now
  | _ => exact h.corresponds rfl

end

/-! ## Renamed machines -/

def Phase.rename (ρ : TokenRenaming) : Phase → Phase
  | .finished result => .finished (result.map ρ.access)
  | .waiting => .waiting
  | .requesting => .requesting

def Flight.rename (ρ : TokenRenaming) (f : Flight) : Flight :=
  ⟨ρ.access f.stale, f.sent.map ρ.refresh, f.phase.rename ρ, f.observed⟩

def Caller.rename (ρ : TokenRenaming) : Caller → Caller
  | .holding flight result => .holding flight (result.map ρ.access)
  | .returned result => .returned (result.map ρ.access)
  | .waiting flight => .waiting flight
  | .cancelled => .cancelled

def Answer.rename (ρ : TokenRenaming) : Answer → Answer
  | .loggedOut revoke => .loggedOut (revoke.map (Option.map ρ.access))
  | .token found => .token (found.map (Option.map ρ.access))
  | .status shown => .status shown
  | .login url => .login url
  | .callback outcome => .callback outcome

theorem Flight.afterBegin_rename (f : Flight) (begun : RefreshStart) :
    (f.rename ρ).afterBegin (begun.rename ρ) = (f.afterBegin begun).rename ρ := by
  cases begun <;> rfl

/-- The same operation, up to the names of the tokens in a redirect. -/
inductive SameOperation (ρ : TokenRenaming) (receiver receiver' : CallbackReceiver) :
    Operation → Operation → Prop
  | status : SameOperation ρ receiver receiver' .status .status
  | beginLogin (redirect? : Option String) :
      SameOperation ρ receiver receiver' (.beginLogin redirect?) (.beginLogin redirect?)
  | handleCallback {event event' : CallbackEvent}
      (h : receiver'.receive event' = (receiver.receive event).map (Option.map ρ.redirect)) :
      SameOperation ρ receiver receiver' (.handleCallback event) (.handleCallback event')
  | retry : SameOperation ρ receiver receiver' .retry .retry
  | logOut : SameOperation ρ receiver receiver' .logOut .logOut
  | currentToken : SameOperation ρ receiver receiver' .currentToken .currentToken

/-- The same event at the same time, up to the names of tokens. -/
inductive SameEvent (ρ : TokenRenaming) (receiver receiver' : CallbackReceiver) :
    Event → Event → Prop
  | call (stale : AccessToken) :
      SameEvent ρ receiver receiver' (.call stale) (.call (ρ.access stale))
  | begin (flight : Nat) : SameEvent ρ receiver receiver' (.begin flight) (.begin flight)
  | finish (flight : Nat) {outcome outcome' : Except RefreshFailure RefreshResponse}
      (h : ρ.Answers outcome outcome') (now : Timestamp) :
      SameEvent ρ receiver receiver' (.finish flight outcome now) (.finish flight outcome' now)
  | observe (caller : Nat) : SameEvent ρ receiver receiver' (.observe caller) (.observe caller)
  | leave (caller : Nat) : SameEvent ρ receiver receiver' (.leave caller) (.leave caller)
  | cancel (caller : Nat) : SameEvent ρ receiver receiver' (.cancel caller) (.cancel caller)
  | operation {operation operation' : Operation}
      (h : SameOperation ρ receiver receiver' operation operation') (now : Timestamp) :
      SameEvent ρ receiver receiver' (.operation operation now) (.operation operation' now)

/-- The same action, up to the names of tokens. -/
inductive SameAction (ρ : TokenRenaming) (receiver receiver' : CallbackReceiver) :
    Action → Action → Prop
  | build : SameAction ρ receiver receiver' .build .build
  | event {e e' : Event} (h : SameEvent ρ receiver receiver' e e') :
      SameAction ρ receiver receiver' (.event e) (.event e')

/-- **An operation ends alike** up to the names of tokens. -/
theorem run_corresponds (hc : Counterpart ρ R c c') (h : Renamed ρ R s s')
    {operation operation' : Operation}
    (hsame : SameOperation ρ c.receiver c'.receiver operation operation') (now : Timestamp) :
    Corresponds ρ R (Answer.rename ρ) (operation.run c now s) (operation'.run c' now s') := by
  cases hsame with
  | status =>
    have hend := status_corresponds hc h now
    exact ⟨congrArg Answer.status hend.1, hend.2⟩
  | beginLogin redirect? =>
    have hend := beginLogin_corresponds hc h redirect? now
    exact ⟨congrArg Answer.login hend.1, hend.2⟩
  | handleCallback hevent =>
    have hend := handleCallback_corresponds hc h hevent now
    exact ⟨congrArg Answer.callback hend.1, hend.2⟩
  | retry =>
    have hend := retry_corresponds h
    exact ⟨congrArg Answer.status hend.1, hend.2⟩
  | logOut =>
    have hend := logOut_corresponds hc h
    exact ⟨congrArg Answer.loggedOut hend.1, hend.2⟩
  | currentToken =>
    have hend := currentToken_corresponds hc h
    exact ⟨congrArg Answer.token hend.1, hend.2⟩

namespace Machine

/-- Two machines that differ in the names of tokens only. -/
structure Renamed (ρ : TokenRenaming) (R : σ → τ → Prop) (m : Machine σ) (m' : Machine τ) :
    Prop where
  state : Coordinator.Renamed ρ R m.state m'.state
  flights : m'.flights = m.flights.map (Flight.rename ρ)
  slot : m'.slot = m.slot
  callers : m'.callers = m.callers.map (Caller.rename ρ)

variable {m : Machine σ} {m' : Machine τ}

theorem start_machine_renamed (hc : Counterpart ρ R c c') {stored : σ} {stored' : τ}
    (h : R stored stored') : Renamed ρ R (start c stored) (start c' stored') :=
  ⟨start_renamed hc h, rfl, rfl, rfl⟩

theorem Renamed.flight (h : Renamed ρ R m m') (i : Nat) :
    m'.flights[i]? = m.flights[i]?.map (Flight.rename ρ) := by
  rw [h.flights, List.getElem?_map]

theorem Renamed.caller (h : Renamed ρ R m m') (i : Nat) :
    m'.callers[i]? = m.callers[i]?.map (Caller.rename ρ) := by
  rw [h.callers, List.getElem?_map]

theorem Renamed.joinable? (h : Renamed ρ R m m') : m'.joinable? = m.joinable? := by
  have hsame : ∀ i : Nat, (m'.flights[i]?.any fun f : Flight => !f.observed) =
      m.flights[i]?.any fun f : Flight => !f.observed := by
    intro i
    rw [h.flight i]
    cases m.flights[i]? <;> rfl
  simp only [Machine.joinable?, h.slot, hsame]

/-- A caller that arrives joins in both machines, or starts a flight in both. -/
theorem Renamed.call (h : Renamed ρ R m m') (stale : AccessToken) :
    Renamed ρ R (m.call stale) (m'.call (ρ.access stale)) := by
  have hcount : m'.flights.length = m.flights.length := by rw [h.flights, List.length_map]
  unfold Machine.call
  rw [h.joinable?, hcount]
  split
  · exact ⟨h.state, h.flights, h.slot, by rw [h.callers, List.map_append]; rfl⟩
  · exact ⟨h.state, by rw [h.flights, List.map_append]; rfl, rfl,
      by rw [h.callers, List.map_append]; rfl⟩

/-- A flight that becomes another one does so in both machines. -/
theorem Renamed.setFlight (h : Renamed ρ R m m') {t : State σ} {t' : State τ}
    (ht : Coordinator.Renamed ρ R t t') (i : Nat) {f f' : Flight} (hf : f' = f.rename ρ) :
    Renamed ρ R { m with state := t, flights := m.flights.set i f }
      { m' with state := t', flights := m'.flights.set i f' } :=
  ⟨ht, by rw [hf, h.flights, List.map_set], h.slot, h.callers⟩

theorem Renamed.begin (hc : Counterpart ρ R c c') (h : Renamed ρ R m m') (flight : Nat) :
    Renamed ρ R (m.begin c flight) (m'.begin c' flight) := by
  unfold Machine.begin
  rw [h.flight flight]
  rcases m.flights[flight]? with _ | ⟨stale, sent, phase, observed⟩
  · exact h
  cases phase with
  | waiting =>
    obtain ⟨hstart, hafter⟩ := beginRefresh_corresponds hc h.state stale
    have hnext := Flight.afterBegin_rename (ρ := ρ) ⟨stale, sent, .waiting, observed⟩
      (c.beginRefresh stale m.state).1
    rw [← hstart] at hnext
    exact h.setFlight hafter flight hnext
  | requesting => exact h
  | finished result => exact h

theorem Renamed.finish (hc : Counterpart ρ R c c') (h : Renamed ρ R m m') (flight : Nat)
    {outcome outcome' : Except RefreshFailure RefreshResponse} (hanswer : ρ.Answers outcome outcome')
    (now : Timestamp) :
    Renamed ρ R (m.finish c flight outcome now) (m'.finish c' flight outcome' now) := by
  unfold Machine.finish
  rw [h.flight flight]
  rcases m.flights[flight]? with _ | ⟨stale, sent, phase, observed⟩
  · exact h
  cases phase with
  | requesting =>
    obtain ⟨hresult, hafter⟩ := endRefresh_corresponds hc h.state hanswer now
    have hnext : (⟨ρ.access stale, sent.map ρ.refresh,
        .finished (c'.endRefresh outcome' now m'.state).1, observed⟩ : Flight) =
        Flight.rename ρ ⟨stale, sent, .finished (c.endRefresh outcome now m.state).1, observed⟩ := by
      rw [hresult]
      rfl
    exact h.setFlight hafter flight hnext
  | waiting => exact h
  | finished result => exact h

/-- A caller that becomes another one does so in both machines. -/
theorem Renamed.setCaller (h : Renamed ρ R m m') (i : Nat) {caller caller' : Caller}
    (hcaller : caller' = caller.rename ρ) :
    Renamed ρ R { m with callers := m.callers.set i caller }
      { m' with callers := m'.callers.set i caller' } :=
  ⟨h.state, h.flights, h.slot, by rw [hcaller, h.callers, List.map_set]⟩

theorem Renamed.observe (h : Renamed ρ R m m') (caller : Nat) :
    Renamed ρ R (m.observe caller) (m'.observe caller) := by
  unfold Machine.observe
  rw [h.caller caller]
  rcases m.callers[caller]? with _ | ⟨i⟩ | ⟨i, result⟩ | result | _
  · exact h
  · simp only [Option.map_some, Caller.rename, h.flight i]
    rcases m.flights[i]? with _ | ⟨stale, sent, phase, observed⟩
    · exact h
    cases phase with
    | finished result => exact (h.setFlight h.state i rfl).setCaller caller rfl
    | waiting => exact h
    | requesting => exact h
  · exact h
  · exact h
  · exact h

theorem Renamed.leave (h : Renamed ρ R m m') (caller : Nat) :
    Renamed ρ R (m.leave caller) (m'.leave caller) := by
  unfold Machine.leave
  rw [h.caller caller]
  rcases m.callers[caller]? with _ | ⟨i⟩ | ⟨i, result⟩ | result | _
  · exact h
  · exact h
  · have hslot := congrArg (fun slot => if slot = some i then none else slot) h.slot
    have hcallers : m'.callers.set caller (.returned (result.map ρ.access)) =
        (m.callers.set caller (.returned result)).map (Caller.rename ρ) := by
      rw [h.callers, List.map_set]
      rfl
    exact ⟨h.state, h.flights, hslot, hcallers⟩
  · exact h
  · exact h

theorem Renamed.cancel (h : Renamed ρ R m m') (caller : Nat) :
    Renamed ρ R (m.cancel caller) (m'.cancel caller) := by
  unfold Machine.cancel
  rw [h.caller caller]
  rcases m.callers[caller]? with _ | ⟨i⟩ | ⟨i, result⟩ | result | _
  · exact h
  · exact h.setCaller caller rfl
  · exact h
  · exact h
  · exact h

/-- **Every event keeps machines alike** up to the names of tokens. -/
theorem Renamed.step (hc : Counterpart ρ R c c') (h : Renamed ρ R m m') {e e' : Event}
    (hsame : SameEvent ρ c.receiver c'.receiver e e') :
    Renamed ρ R (m.step c e) (m'.step c' e') := by
  cases hsame with
  | call stale => exact h.call stale
  | begin flight => exact h.begin hc flight
  | finish flight hanswer now => exact h.finish hc flight hanswer now
  | observe caller => exact h.observe caller
  | leave caller => exact h.leave caller
  | cancel caller => exact h.cancel caller
  | operation hoperation now =>
    exact ⟨(run_corresponds hc h.state hoperation now).2, h.flights, h.slot, h.callers⟩

theorem Renamed.act (hc : Counterpart ρ R c c') (h : Renamed ρ R m m') {action action' : Action}
    (hsame : SameAction ρ c.receiver c'.receiver action action') :
    Renamed ρ R (m.act c action) (m'.act c' action') := by
  cases hsame with
  | build => exact ⟨start_renamed hc h.state.stored, rfl, rfl, rfl⟩
  | event he => exact h.step hc he

theorem Renamed.answer? (hc : Counterpart ρ R c c') (h : Renamed ρ R m m') {action action' : Action}
    (hsame : SameAction ρ c.receiver c'.receiver action action') :
    m'.answer? c' action' = (m.answer? c action).map (Answer.rename ρ) := by
  cases hsame with
  | build => rfl
  | event he =>
    cases he with
    | operation hoperation now => exact congrArg some (run_corresponds hc h.state hoperation now).1
    | _ => rfl

/-! ## What a user interface sees -/

end Machine

/-- What a redirect came to, if the answer is to one. -/
def Answer.outcome? : Answer → Option LoginOutcome
  | .callback (.ok outcome) => some outcome
  | _ => none

def Answer.error? : Answer → Option SessionError
  | .login (.error e) | .callback (.error e) | .loggedOut (.error e) | .token (.error e) => some e
  | _ => none

/-- The error that a caller of a refresh got. -/
def Caller.error? : Caller → Option SessionError
  | .holding _ (.error e) | .returned (.error e) => some e
  | _ => none

theorem Answer.outcome?_rename (a : Answer) : (a.rename ρ).outcome? = a.outcome? := by
  rcases a with _ | _ | _ | (_ | _) | (_ | _) <;> rfl

theorem Answer.error?_rename (a : Answer) : (a.rename ρ).error? = a.error? := by
  rcases a with _ | _ | _ | (_ | _) | (_ | _) <;> rfl

theorem Caller.error?_rename (caller : Caller) : (caller.rename ρ).error? = caller.error? := by
  rcases caller with _ | ⟨_, _ | _⟩ | (_ | _) | _ <;> rfl

/-- What a user interface can show after an action. -/
structure View where
  status : SessionStatus
  label : String
  outcome : Option LoginOutcome
  error : Option SessionError
  /-- The errors of all callers so far. -/
  callers : List (Option SessionError)
  deriving DecidableEq

namespace Machine

variable {m : Machine σ} {m' : Machine τ}

def view (c : Coordinator σ) (m : Machine σ) (action : Action) : View where
  status := (m.act c action).state.session.status
  label := (m.act c action).state.session.status.label
  outcome := (m.answer? c action).bind Answer.outcome?
  error := (m.answer? c action).bind Answer.error?
  callers := (m.act c action).callers.map Caller.error?

/-- All that can be shown in the course of a run. -/
def views (c : Coordinator σ) : Machine σ → List Action → List View
  | _, [] => []
  | m, action :: actions => m.view c action :: views c (m.act c action) actions

/-- All answers in the course of a run. -/
def answers (c : Coordinator σ) : Machine σ → List Action → List (Option Answer)
  | _, [] => []
  | m, action :: actions => m.answer? c action :: answers c (m.act c action) actions

theorem Renamed.view (hc : Counterpart ρ R c c') (h : Renamed ρ R m m') {action action' : Action}
    (hsame : SameAction ρ c.receiver c'.receiver action action') :
    m'.view c' action' = m.view c action := by
  have hafter := h.act hc hsame
  have hcallers : (Caller.error? ∘ Caller.rename ρ) = Caller.error? :=
    funext Caller.error?_rename
  have hanswer := h.answer? hc hsame
  unfold Machine.view
  rw [hafter.state.session, ρ.status_session, hafter.callers, List.map_map, hcallers, hanswer]
  cases m.answer? c action with
  | none => rfl
  | some a => simp only [Option.map_some, Option.bind_some, a.outcome?_rename, a.error?_rename]

/-- **Runs stay alike** up to the names of tokens: nothing that can be shown differs, the answers
hold renamed tokens, and so do the machines in the end. -/
theorem Renamed.run (hc : Counterpart ρ R c c') (h : Renamed ρ R m m')
    {actions actions' : List Action}
    (hsame : List.Forall₂ (SameAction ρ c.receiver c'.receiver) actions actions') :
    m'.views c' actions' = m.views c actions ∧
      m'.answers c' actions' = (m.answers c actions).map (Option.map (Answer.rename ρ)) ∧
      Renamed ρ R (actions.foldl (Machine.act c) m) (actions'.foldl (Machine.act c') m') := by
  induction hsame generalizing m m' with
  | nil => exact ⟨rfl, rfl, h⟩
  | cons haction _ ih =>
    obtain ⟨hviews, hanswers, hend⟩ := ih (h.act hc haction)
    refine ⟨?_, ?_, hend⟩
    · rw [views, views, h.view hc haction, hviews]
    · rw [answers, answers, h.answer? hc haction, hanswers, List.map_cons]

/-- The two checks of the stored token find the same, if the backend says of a renamed token what it
says of the token. -/
theorem checks_correspond {client : Client σ} {client' : Client τ} {l : Live σ} {l' : Live τ}
    (hc : Counterpart ρ R client.coordinator client'.coordinator)
    (h : Coordinator.Renamed ρ R l.machine.state l'.machine.state)
    (hverdict : ∀ token, (client'.validate (ρ.access token) (client'.currentToken l').2).1 =
      (client.validate token (client.currentToken l).2).1) :
    (client'.isSessionValid l').1 = (client.isSessionValid l).1 ∧
      (client'.validateRemote l').1 = (client.validateRemote l).1 := by
  have hcurrent : ∀ {υ : Type} (client : Client υ) (l : Live υ), client.currentToken l =
      ((client.coordinator.currentToken l.machine.state).1, (client.currentToken l).2) :=
    fun _ _ => rfl
  have htoken := (currentToken_corresponds hc h).1
  unfold Client.isSessionValid Client.validateRemote
  rw [hcurrent client l, hcurrent client' l', htoken]
  rcases (client.coordinator.currentToken l.machine.state).1 with e | _ | token
  · exact ⟨rfl, rfl⟩
  · exact ⟨rfl, rfl⟩
  · refine ⟨rfl, ?_⟩
    simp only [Except.map, Option.map_some, hverdict token]

/-- **Tokens are opaque to all that a user interface sees.** Two runs that differ in the names of
tokens only, in the store at first, in redirects, in the calls for a refresh and in the backend's
answers, show the same: the same statuses and labels, the same outcomes of redirects and the same
errors, at every moment. A blank string in an answer is no token, so it has no name to change. The
session, the store, the answers and the results of callers hold the same tokens in the end, under
their other names, and so the checks of the stored token find the same. And what a log shows of a
token, of a token set or of a redirect depends on the lengths of the tokens only, on whether there
is a refresh token, and on when they were saved. -/
theorem tokens_are_opaque (hc : Counterpart ρ R c c') {stored : σ} {stored' : τ}
    (hstored : R stored stored') {actions actions' : List Action}
    (hsame : List.Forall₂ (SameAction ρ c.receiver c'.receiver) actions actions') :
    let m := live c stored actions
    let m' := live c' stored' actions'
    (start c' stored').views c' actions' = (start c stored).views c actions ∧
      m'.state.session.status = m.state.session.status ∧
      (start c' stored').answers c' actions' =
        ((start c stored).answers c actions).map (Option.map (Answer.rename ρ)) ∧
      m'.state.session = ρ.session m.state.session ∧ R m.state.stored m'.state.stored ∧
      (c'.store.load m'.state.stored).1 = (c.store.load m.state.stored).1.map (Option.map ρ.tokens) ∧
      (∀ caller, m'.returned? caller = (m.returned? caller).map (Except.map ρ.access)) ∧
      (∀ (client : Client σ) (client' : Client τ) (l : Live σ) (l' : Live τ),
        client.coordinator = c → client'.coordinator = c' → l.machine = m → l'.machine = m' →
        (∀ token, (client'.validate (ρ.access token) (client'.currentToken l').2).1 =
          (client.validate token (client.currentToken l).2).1) →
        (client'.isSessionValid l').1 = (client.isSessionValid l).1 ∧
          (client'.validateRemote l').1 = (client.validateRemote l).1) ∧
      (∀ t u : AccessToken, t.value.utf8ByteSize = u.value.utf8ByteSize → t.redacted = u.redacted) ∧
      (∀ t u : RefreshToken, t.value.utf8ByteSize = u.value.utf8ByteSize → t.redacted = u.redacted) ∧
      (∀ t u : TokenSet, t.access.value.utf8ByteSize = u.access.value.utf8ByteSize →
        RefreshToken.length? t.refresh = RefreshToken.length? u.refresh → t.savedAt = u.savedAt →
        t.redacted = u.redacted) ∧
      ∀ (t u : AccessToken) (r q : Option RefreshToken),
        t.value.utf8ByteSize = u.value.utf8ByteSize →
        RefreshToken.length? r = RefreshToken.length? q →
        (CallbackResult.token t r).redacted = (CallbackResult.token u q).redacted := by
  intro m m'
  obtain ⟨hviews, hanswers, hend⟩ := (start_machine_renamed hc hstored).run hc hsame
  have hstate : Coordinator.Renamed ρ R m.state m'.state := hend.state
  have hstatus : m'.state.session.status = m.state.session.status := by
    rw [hstate.session, ρ.status_session]
  have hload : (c'.store.load m'.state.stored).1 =
      (c.store.load m.state.stored).1.map (Option.map ρ.tokens) := by
    obtain ⟨y', hload, -⟩ := hc.store.load m.state.stored m'.state.stored hstate.stored
    rw [hload]
  have hreturned : ∀ caller,
      m'.returned? caller = (m.returned? caller).map (Except.map ρ.access) := by
    intro caller
    have hcaller : m'.callers[caller]? = m.callers[caller]?.map (Caller.rename ρ) :=
      hend.caller caller
    rw [returned?, returned?, hcaller]
    rcases m.callers[caller]? with _ | _ | _ | _ | _ <;> rfl
  refine ⟨hviews, hstatus, hanswers, hstate.session, hstate.stored, hload, hreturned, ?_,
    fun t u => AccessToken.redacted_eq_of_length, fun t u => RefreshToken.redacted_eq_of_length,
    fun t u => TokenSet.redacted_eq_of_length,
    fun t u r q => CallbackResult.redacted_token_eq_of_length⟩
  rintro client client' l l' rfl rfl hl hl' hverdict
  exact checks_correspond hc (by rw [hl, hl']; exact hstate) hverdict

/-- A coordinator refreshes its tokens, is logged out at the second attempt to clear the store, and
logs in again. With all tokens behind an `x` the same is shown, and the new token is the one behind
the `x`. -/
theorem a_prefix_is_invisible :
    let ρ := TokenRenaming.prefixed "x" (by decide)
    let c := Coordinator.ofConfig .default Register.store
    let link (token : String) : CallbackEvent := ⟨.deepLink, "authlink://auth?token=" ++ token⟩
    let stored : TokenSet := ⟨⟨"a1", by decide⟩, some ⟨"r1", by decide⟩, ⟨0, 0⟩⟩
    let plan := [false, false, true]
    let run (stale : AccessToken) (response : RefreshResponse) (token : String) : List Action :=
      [.event (.call stale), .event (.begin 0), .event (.finish 0 (.ok response) ⟨100, 0⟩),
       .event (.operation .logOut ⟨200, 0⟩), .event (.operation (.beginLogin none) ⟨300, 0⟩),
       .event (.operation (.handleCallback (link token)) ⟨400, 0⟩)]
    let actions := run ⟨"a1", by decide⟩ ⟨"a2", some " ", none⟩ "a3"
    let actions' := run ⟨"xa1", by decide⟩ (ρ.response ⟨"a2", some " ", none⟩) "xa3"
    (start c ⟨some (ρ.tokens stored), plan, []⟩).views c actions' =
        (start c ⟨some stored, plan, []⟩).views c actions ∧
      (live c ⟨some (ρ.tokens stored), plan, []⟩ actions').state.session =
        .authenticated ⟨⟨"xa3", by decide⟩, none, ⟨400, 0⟩⟩ := by
  intro ρ c link stored plan run actions actions'
  have hc : Counterpart ρ (Register.Renamed ρ) c c :=
    ⟨Register.stores ρ, rfl, rfl, rfl, rfl⟩
  have hstored : Register.Renamed ρ ⟨some stored, plan, []⟩ ⟨some (ρ.tokens stored), plan, []⟩ :=
    ⟨rfl, rfl⟩
  have hlink : ∀ token access, c.receiver.receive (link token) = .ok (some (.token access none)) →
      ∀ token', c.receiver.receive (link token') = .ok (some (.token (ρ.access access) none)) →
      c.receiver.receive (link token') =
        (c.receiver.receive (link token)).map (Option.map ρ.redirect) := by
    intro token access h token' h'
    rw [h, h']
    rfl
  have hreceived : c.receiver.receive (link "xa3") =
      (c.receiver.receive (link "a3")).map (Option.map ρ.redirect) :=
    hlink "a3" ⟨"a3", by decide⟩ (Url.eq_ok_of_toOption (by decide +kernel)) "xa3"
      (Url.eq_ok_of_toOption (by decide +kernel))
  have hsame : List.Forall₂ (SameAction ρ c.receiver c.receiver) actions actions' :=
    .cons (.event (.call _)) (.cons (.event (.begin 0)) (.cons (.event (.finish 0 (.ok (ρ.responds_response _)) _))
      (.cons (.event (.operation .logOut _)) (.cons (.event (.operation (.beginLogin none) _))
        (.cons (.event (.operation (.handleCallback hreceived) _)) .nil)))))
  obtain ⟨hviews, -, -, hsession, -⟩ := tokens_are_opaque hc hstored hsame
  refine ⟨hviews, ?_⟩
  have hfirst : (live c ⟨some stored, plan, []⟩ actions).state.session =
      .authenticated ⟨⟨"a3", by decide⟩, none, ⟨400, 0⟩⟩ := by decide +kernel
  rw [hsession, hfirst]
  rfl

end Machine

end Coordinator

end RedirectLogin
