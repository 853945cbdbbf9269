import RedirectLogin.Proofs.Api.Interceptor

/-!
# What a call may do to the store

A call to the API loads the stored token and sends requests; only a refresh does more to the store.
A call refreshes behind a 401 to a request with a token, and the log of requests, which only grows,
still shows that request when the call is over.

Principal results: `sent_prefix_after` — every step keeps the log; `runCall_getJson_cases` — a call
that does more than load was denied.
-/

set_option autoImplicit false

namespace RedirectLogin

open Call (Step)

variable {σ α β : Type}

/-- A request in this log carried a token, and the server's answer to it was a 401. -/
def Server.Denied (server : Server) (log : List SentRequest) : Prop :=
  ∃ before entry after, log = before ++ entry :: after ∧
    (∃ token : AccessToken, entry.request.bearer = some token.value) ∧
    ∃ r, server before entry = .ok r ∧ r.status = 401

/-! ## Requests stay in the log -/

namespace Client

variable (client : Client σ)

theorem sent_prefix_send (request : Request) (l : Live σ) :
    l.sent <+: (client.send request l).2.sent := by
  rw [send, Server.exchange]
  cases request.prepare with
  | error e => exact List.prefix_rfl
  | ok url => exact List.prefix_append _ _

theorem sent_prefix_ask (flight : Nat) (l : Live σ) : l.sent <+: (client.ask flight l).sent := by
  rw [ask]
  split
  · exact List.prefix_rfl
  · exact client.sent_prefix_send _ l

theorem sent_prefix_fly (l : Live σ) (flight : Nat) : l.sent <+: (client.fly l flight).sent := by
  rw [fly]
  split
  · exact client.sent_prefix_ask flight
      { l with machine := l.machine.begin client.coordinator flight }
  · exact List.prefix_rfl

/-- What grows with every step grows along a run of them. -/
theorem sent_prefix_foldl {ι : Type} {f : Live σ → ι → Live σ}
    (hstep : ∀ l i, l.sent <+: (f l i).sent) (steps : List ι) (l : Live σ) :
    l.sent <+: (steps.foldl f l).sent := by
  induction steps generalizing l with
  | nil => exact List.prefix_rfl
  | cons i steps ih => exact (hstep l i).trans (ih (f l i))

theorem sent_prefix_refresh (stale : AccessToken) (l : Live σ) :
    l.sent <+: (client.refresh stale l).2.sent := by
  have harrive : ∀ l : Live σ, ∀ stale, l.sent <+: (l.arrive stale).sent :=
    fun _ _ => List.prefix_rfl
  have hdepart : ∀ l : Live σ, ∀ caller, l.sent <+: (l.depart caller).sent :=
    fun _ _ => List.prefix_rfl
  have hsettle : ∀ l : Live σ, l.sent <+: (client.settle l).sent :=
    fun l => sent_prefix_foldl client.sent_prefix_fly _ l
  exact (sent_prefix_foldl harrive [stale] l).trans
    ((hsettle _).trans (sent_prefix_foldl hdepart _ _))

/-- **No step of a call takes a request out of the log.** -/
theorem sent_prefix_after (l : Live σ) (step : Step) : l.sent <+: (client.after l step).sent := by
  cases step with
  | token stored => exact List.prefix_rfl
  | send request reply => exact client.sent_prefix_send request l
  | refresh stale fresh => exact client.sent_prefix_refresh stale l

/-- A reply is one of the server's to a request that is in the log from then on. -/
theorem send_eq_ok {request : Request} {l : Live σ} {r : Response}
    (h : (client.send request l).1 = .ok r) :
    ∃ url, (client.send request l).2.sent = l.sent ++ [⟨request, url⟩] ∧
      client.server l.sent ⟨request, url⟩ = .ok r := by
  rw [send, Server.exchange] at h ⊢
  cases hprepare : request.prepare with
  | error e =>
    rw [hprepare] at h
    cases h
  | ok url =>
    rw [hprepare] at h
    exact ⟨url, rfl, h⟩

end Client

/-! ## Steps as they were answered -/

namespace Call

/-- Every reply in a run is the one that the peer gave at that point. -/
theorem reply_of_play (peer : Peer) {call : Call α} {past before after : List Step}
    {request : Request} {reply : Reply}
    (h : (call.play peer past).1 = before ++ .send request reply :: after) :
    reply = peer.reply (past ++ before) request := by
  induction call generalizing past before with
  | done a => exact absurd h (by simp [play])
  | token next ih =>
    cases before with
    | nil => cases h
    | cons first before =>
      obtain ⟨rfl, hrest⟩ := List.cons.inj h
      simpa using ih _ hrest
  | send sent next ih =>
    cases before with
    | nil =>
      obtain ⟨hsend, -⟩ := List.cons.inj h
      obtain ⟨rfl, rfl⟩ := Step.send.inj hsend
      rw [List.append_nil]
    | cons first before =>
      obtain ⟨rfl, hrest⟩ := List.cons.inj h
      simpa using ih _ hrest
  | refresh stale next ih =>
    cases before with
    | nil => cases h
    | cons first before =>
      obtain ⟨rfl, hrest⟩ := List.cons.inj h
      simpa using ih _ hrest

end Call

namespace Client

variable (client : Client σ)

theorem peer_reply (l : Live σ) (past : List Step) (request : Request) :
    (client.peer l).reply past request = (client.send request (past.foldl client.after l)).1 := rfl

theorem runCall_map (f : α → β) (call : Call α) (l : Live σ) :
    client.runCall (call.map f) l = (client.runCall call l).map f id := by
  induction call generalizing l with
  | done a => simp [Call.map, runCall]
  | token next ih => exact ih _ _
  | send request next ih => exact ih _ _
  | refresh stale next ih => exact ih _ _

/-- Without a refresh, the store is only loaded. -/
theorem stored_of_not_refreshed {P : σ → Prop}
    (hload : ∀ stored, P stored → P (attemptTwice client.coordinator.store.load stored).2)
    {steps : List Step} (hsteps : steps.any Step.isRefresh = false) {l : Live σ}
    (h : P l.stored) : P (steps.foldl client.after l).stored := by
  induction steps generalizing l with
  | nil => exact h
  | cons step steps ih =>
    rw [List.any_cons, Bool.or_eq_false_iff] at hsteps
    refine ih hsteps.2 ?_
    cases step with
    | token stored => exact hload _ h
    | send request reply => exact h
    | refresh stale fresh => cases hsteps.1

/-- **A call that does more to the store than load was denied**: behind it, the log shows a request
with a token that was answered with a 401. -/
theorem runCall_getJson_cases {P : σ → Prop}
    (hload : ∀ stored, P stored → P (attemptTwice client.coordinator.store.load stored).2)
    (api : ApiClient) (path : String) {l : Live σ} (h : P l.stored) :
    P (client.runCall (api.getJson path) l).2.stored ∨
      client.server.Denied (client.runCall (api.getJson path) l).2.sent := by
  have hrun := client.runCall_eq_play l (api.execute "GET" path none) []
  have hlawful := (Call.execute_conforms api "GET" path none).play (client.peer l)
  rw [ApiClient.getJson, runCall_map]
  simp only [List.foldl_nil, List.nil_append] at hrun
  generalize hplay : (api.execute "GET" path none).play (client.peer l) [] = run at hrun hlawful
  rw [hrun]
  cases hrefreshed : run.1.any Step.isRefresh with
  | false => exact .inl (client.stored_of_not_refreshed hload hrefreshed h)
  | true =>
    obtain ⟨step, hmem, hrefresh⟩ := List.any_eq_true.1 hrefreshed
    obtain ⟨before, after, hsteps⟩ := List.append_of_mem hmem
    cases step with
    | token stored => cases hrefresh
    | send request reply => cases hrefresh
    | refresh stale fresh =>
      obtain ⟨-, ⟨past, r, rfl, hstatus⟩, -, -⟩ := hlawful.refreshes hsteps
      rw [List.append_assoc, List.singleton_append] at hsteps
      have hreply : (client.send (api.request "GET" path none (some stale))
          (past.foldl client.after l)).1 = .ok r := by
        rw [← hplay] at hsteps
        rw [← client.peer_reply, ← List.nil_append past]
        exact (Call.reply_of_play (client.peer l) hsteps).symm
      generalize hdenied : past.foldl client.after l = denied at hreply
      generalize hrequest : api.request "GET" path none (some stale) = request at hreply hsteps
      have hbearer : request.bearer = some stale.value := hrequest ▸ rfl
      obtain ⟨url, hsent, hanswer⟩ := client.send_eq_ok hreply
      obtain ⟨more, hmore⟩ := sent_prefix_foldl client.sent_prefix_after
        (.refresh stale fresh :: after) (client.send request denied).2
      have hend : run.1.foldl client.after l =
          (.refresh stale fresh :: after).foldl client.after (client.send request denied).2 := by
        rw [hsteps, List.foldl_append, hdenied, List.foldl_cons]
        rfl
      refine .inr ⟨denied.sent, ⟨request, url⟩, more, ?_, ⟨stale, hbearer⟩, r, hanswer, hstatus⟩
      rw [Prod.map_snd, id, hend, ← hmore, hsent, List.append_assoc, List.singleton_append]

end Client

end RedirectLogin
