import Mathlib.Data.List.Basic
import RedirectLogin.Api.Client
import RedirectLogin.Coordinator.Live

/-!
# Calls step by step

A call to the API reads the stored token, sends its request, again after each 429, and may buy
one new token for one more round. It does so whatever it is answered, and by whom: a `Peer` answers
with everything in view that has happened before, and `Call.play` is what the call does against it.

What the call does next is a function of its past (`upNext`): of the last answer, of the number of
429s in a row before it, of the token it holds, and of whether it has refreshed. That the call keeps
to this function is shown along the tree that the call is (`Call.Conforms`); what follows for its
steps is read off the function alone.

Principal results: `Call.execute_conforms` — the call keeps to the function; `Call.Fits.play` — it
ends after two rounds of four sends at most; `Orderly.lawful` — the order of steps and result, as it
is stated, leaves no other; `calls_are_orderly` — calls are in that order, for every peer;
`Client.runCall_eq_play` — a client at work is such a peer.
-/

set_option autoImplicit false

namespace RedirectLogin

variable {α : Type}

namespace Call

/-- What a call does, with the answer it gets. -/
inductive Step where
  | token (stored : Except SessionError (Option AccessToken))
  | send (request : Request) (reply : Reply)
  | refresh (stale : AccessToken) (fresh : Except SessionError AccessToken)

namespace Step

def isSend : Step → Bool
  | .send _ _ => true
  | _ => false

def isRefresh : Step → Bool
  | .refresh _ _ => true
  | _ => false

/-- A request that was answered with a 429. -/
def isBusy : Step → Bool
  | .send _ (.ok r) => r.status == 429
  | _ => false

/-- The token that a call holds from this step on, if the step brings one or none. -/
def learnt? : Step → Option (Option AccessToken)
  | .token (.ok found) => some found
  | .refresh _ (.ok fresh) => some (some fresh)
  | _ => none

end Step

/-- How many requests were sent between refreshes. -/
def rounds (steps : List Step) : List Nat :=
  (steps.splitOnP Step.isRefresh).map (List.countP Step.isSend)

/-- The token that was read or bought last. -/
def held (past : List Step) : Option AccessToken :=
  (past.filterMap Step.learnt?).getLast?.join

/-- How many 429s in a row came last. -/
def busy (past : List Step) : Nat :=
  (past.reverse.takeWhile Step.isBusy).length

end Call

open Call (Step)

/-- Whoever answers a call. Every answer may depend on all that happened before. -/
structure Peer where
  token : List Step → Except SessionError (Option AccessToken)
  reply : List Step → Request → Reply
  fresh : List Step → AccessToken → Except SessionError AccessToken

namespace Call

/-- The steps of a call after its past, and its result. -/
def play (peer : Peer) : Call α → List Step → List Step × α
  | .done a, _ => ([], a)
  | .token next, past =>
    let step := .token (peer.token past)
    ((next (peer.token past)).play peer (past ++ [step])).map (step :: ·) id
  | .send request next, past =>
    let step := .send request (peer.reply past request)
    ((next (peer.reply past request)).play peer (past ++ [step])).map (step :: ·) id
  | .refresh stale next, past =>
    let step := .refresh stale (peer.fresh past stale)
    ((next (peer.fresh past stale)).play peer (past ++ [step])).map (step :: ·) id

/-! ## What comes next -/

/-- What a call can do. -/
inductive Next where
  | token
  | send (request : Request)
  | refresh (stale : AccessToken)
  | finish (result : Except ApiError Response)

/-- What is done in a step. -/
def Step.next : Step → Next
  | .token _ => .token
  | .send request _ => .send request
  | .refresh stale _ => .refresh stale

/-- What a call to the API does after its past: `request` is what it sends, with a token or none. -/
def upNext (request : Option AccessToken → Request) (past : List Step) : Next :=
  match past.getLast? with
  | none => .token
  | some (.token (.error e)) | some (.refresh _ (.error e)) => .finish (.error (.session e))
  | some (.token (.ok found)) => .send (request found)
  | some (.refresh _ (.ok fresh)) => .send (request (some fresh))
  | some (.send _ (.error e)) => .finish (.error (.network e))
  | some (.send again (.ok r)) =>
    if r.status = 429 then
      if busy past < 4 then .send again else .finish (.error .rateLimited)
    else if Http.isSuccess r.status then .finish (.ok r)
    else
      match held past with
      | some stale =>
        if r.status = 401 ∧ past.any Step.isRefresh = false then .refresh stale
        else .finish (.error (.ofResponse r))
      | none => .finish (.error (.ofResponse r))

/-- After that past, the call does what is up next, whatever it is answered, and so on to its
end. -/
def Conforms (request : Option AccessToken → Request) :
    Call (Except ApiError Response) → List Step → Prop
  | .done result, past => upNext request past = .finish result
  | .token next, past =>
    upNext request past = .token ∧
      ∀ stored, (next stored).Conforms request (past ++ [.token stored])
  | .send sent next, past =>
    upNext request past = .send sent ∧
      ∀ reply, (next reply).Conforms request (past ++ [.send sent reply])
  | .refresh stale next, past =>
    upNext request past = .refresh stale ∧
      ∀ fresh, (next fresh).Conforms request (past ++ [.refresh stale fresh])

variable {request : Option AccessToken → Request} {past steps : List Step} {step : Step}
  {result : Except ApiError Response}

theorem held_concat (past : List Step) (step : Step) :
    held (past ++ [step]) = step.learnt?.getD (held past) := by
  unfold held
  cases hlearnt : step.learnt? <;> simp [hlearnt]

theorem busy_concat (past : List Step) (step : Step) :
    busy (past ++ [step]) = if step.isBusy then busy past + 1 else 0 := by
  unfold busy
  cases hbusy : step.isBusy <;> simp [hbusy]

/-- The last answer decides, or the last 429s, or the token and whether it was bought. -/
theorem upNext_answered (past : List Step) (again : Request) (r : Response) :
    upNext request (past ++ [.send again (.ok r)]) =
      if r.status = 429 then
        if busy past < 3 then .send again else .finish (.error .rateLimited)
      else if Http.isSuccess r.status then .finish (.ok r)
      else
        match held past with
        | some stale =>
          if r.status = 401 ∧ past.any Step.isRefresh = false then .refresh stale
          else .finish (.error (.ofResponse r))
        | none => .finish (.error (.ofResponse r)) := by
  simp only [upNext, List.getLast?_concat, held_concat, busy_concat, Step.learnt?, Option.getD_none,
    List.any_append, List.any_cons, List.any_nil, Step.isRefresh, Bool.or_false]
  split
  · rename_i hstatus
    simp only [Step.isBusy, hstatus, beq_self_eq_true, if_true]
    have hcount : busy past + 1 < 4 ↔ busy past < 3 := by omega
    simp only [hcount]
  · rfl

/-- A 401 to a token that was read and not bought is worth a refresh. -/
theorem upNext_denied (again : Request) {r : Response} {stale : AccessToken}
    (hstatus : r.status = 401) (hheld : held past = some stale)
    (hfirst : past.any Step.isRefresh = false) :
    upNext request (past ++ [.send again (.ok r)]) = .refresh stale := by
  have hsuccess : Http.isSuccess 401 = false := rfl
  simp [upNext_answered, hstatus, hsuccess, hheld, hfirst]

/-- Nothing can be done about other refusals. -/
theorem upNext_refused (again : Request) {r : Response} (hbusy : r.status ≠ 429)
    (hsuccess : ¬ Http.isSuccess r.status)
    (hgiven : held past = none ∨ r.status ≠ 401 ∨ past.any Step.isRefresh = true) :
    upNext request (past ++ [.send again (.ok r)]) = .finish (.error (.ofResponse r)) := by
  rw [upNext_answered, if_neg hbusy, if_neg hsuccess]
  cases hheld : held past with
  | none => rfl
  | some stale =>
    refine if_neg ?_
    rintro ⟨hstatus, hfirst⟩
    rcases hgiven with hnone | hother | hrefreshed
    · simp [hheld] at hnone
    · exact hother hstatus
    · simp [hfirst] at hrefreshed

/-! ## The call keeps to it -/

/-- A round keeps to it if its result is taken in as it should be. -/
theorem sendRound_conforms {sent : Request}
    {next : Except ApiError Response → Call (Except ApiError Response)} {retries : Nat}
    (hnext : upNext request past = .send sent) (hbusy : busy past + retries = 3)
    (herror : ∀ past' e, upNext request past' = .finish (.error e) →
      (next (.error e)).Conforms request past')
    (hanswer : ∀ past' r, held past' = held past →
      past'.any Step.isRefresh = past.any Step.isRefresh → r.status ≠ 429 →
        (next (.ok r)).Conforms request (past' ++ [.send sent (.ok r)])) :
    (ApiClient.sendRound sent next retries).Conforms request past := by
  induction retries generalizing past with
  | zero =>
    refine ⟨hnext, fun reply => ?_⟩
    cases reply with
    | error e => exact herror _ _ (by simp [upNext])
    | ok r =>
      by_cases hstatus : r.status = 429
      · simp only [hstatus, if_true]
        refine herror _ _ ?_
        rw [upNext_answered, if_pos hstatus, if_neg (by omega)]
      · simp only [hstatus, if_false]
        exact hanswer past r rfl rfl hstatus
  | succ retries ih =>
    refine ⟨hnext, fun reply => ?_⟩
    cases reply with
    | error e => exact herror _ _ (by simp [upNext])
    | ok r =>
      by_cases hstatus : r.status = 429
      · simp only [hstatus, if_true]
        refine ih ?_ ?_ ?_
        · rw [upNext_answered, if_pos hstatus, if_pos (by omega)]
        · rw [busy_concat]
          simp only [Step.isBusy, hstatus, beq_self_eq_true, if_true]
          omega
        · intro past' r' hheld hrefreshed
          exact hanswer past' r' (hheld.trans (held_concat past _))
            (hrefreshed.trans (by simp [Step.isRefresh]))
      · simp only [hstatus, if_false]
        exact hanswer past r rfl rfl hstatus

theorem done_conforms {past : List Step} (again : Request) {r : Response} (hbusy : r.status ≠ 429)
    (hsuccess : Http.isSuccess r.status) :
    (Call.done (.ok r)).Conforms request (past ++ [.send again (.ok r)]) := by
  rw [Conforms, upNext_answered, if_neg hbusy, if_pos hsuccess]

theorem classify_success {status : Nat} (h : Http.isSuccess status) (retried attached : Bool) :
    classify status retried attached = .success :=
  if_pos h

theorem classify_fail {status : Nat} {retried attached : Bool} (hsuccess : ¬ Http.isSuccess status)
    (h : attached = false ∨ status ≠ 401 ∨ retried = true) :
    classify status retried attached = .fail status := by
  refine (if_neg hsuccess).trans (if_neg ?_)
  rintro ⟨hstatus, hattached, hretried⟩
  rcases h with rfl | hother | rfl
  · cases hattached
  · exact hother hstatus
  · cases hretried

/-- **A call to the API does what is up next**, from its beginning to its end. -/
theorem execute_conforms (api : ApiClient) (method path : String) (body : Option String) :
    (api.execute method path body).Conforms (api.request method path body) [] := by
  refine ⟨rfl, fun stored => ?_⟩
  cases stored with
  | error e => exact rfl
  | ok found =>
    refine sendRound_conforms rfl rfl (fun past' e h => h) ?_
    intro first r (hheld : held first = found) (hfirst : first.any Step.isRefresh = false) hbusy
    by_cases hsuccess : Http.isSuccess r.status
    · simp only [classify_success hsuccess]
      exact done_conforms _ hbusy hsuccess
    by_cases hdenied : r.status = 401 ∧ found.isSome
    · obtain ⟨hstatus, hsome⟩ := hdenied
      obtain ⟨stale, rfl⟩ := Option.isSome_iff_exists.1 hsome
      have hverdict : classify r.status false true = .retryWithRefresh := by rw [hstatus]; rfl
      simp only [Option.isSome_some, hverdict]
      refine ⟨upNext_denied _ hstatus hheld hfirst, fun fresh => ?_⟩
      cases fresh with
      | error e => simp [Conforms, upNext]
      | ok fresh =>
        have hsend : upNext (api.request method path body)
            (first ++ [.send (api.request method path body (some stale)) (.ok r)] ++
              [.refresh stale (.ok fresh)]) =
            .send (api.request method path body (some fresh)) := by
          simp [upNext]
        refine sendRound_conforms hsend (by rw [busy_concat]; rfl) (fun past' e h => h) ?_
        intro second r' _ hsecond hbusy'
        have hrefreshed : second.any Step.isRefresh = true :=
          hsecond.trans (by simp [Step.isRefresh])
        by_cases hsuccess' : Http.isSuccess r'.status
        · simp only [classify_success hsuccess', if_true]
          exact done_conforms _ hbusy' hsuccess'
        · simp only [classify_fail hsuccess' (.inr (.inr rfl)), reduceCtorEq, if_false]
          exact upNext_refused _ hbusy' hsuccess' (.inr (.inr hrefreshed))
    · have hgiven : found = none ∨ r.status ≠ 401 := by
        cases found with
        | none => exact .inl rfl
        | some stale => exact .inr fun hstatus => hdenied ⟨hstatus, rfl⟩
      simp only [classify_fail hsuccess (hgiven.imp (congrArg Option.isSome) .inl)]
      exact upNext_refused _ hbusy hsuccess (hgiven.imp hheld.trans .inl)

/-! ## Every run of it -/

/-- After that past, each step is what was up next, and so is the end. -/
def Lawful (request : Option AccessToken → Request) (past steps : List Step)
    (result : Except ApiError Response) : Prop :=
  ∀ before after, steps = before ++ after →
    upNext request (past ++ before) = (after.head?.map Step.next).getD (.finish result)

theorem Lawful.nil (h : upNext request past = .finish result) :
    Lawful request past [] result := by
  intro before after hsteps
  obtain ⟨rfl, rfl⟩ := List.append_eq_nil_iff.1 hsteps.symm
  simpa using h

theorem Lawful.cons (hnext : upNext request past = step.next)
    (h : Lawful request (past ++ [step]) steps result) :
    Lawful request past (step :: steps) result := by
  intro before after hsteps
  cases before with
  | nil =>
    obtain rfl : step :: steps = after := hsteps
    simpa using hnext
  | cons first before =>
    obtain ⟨rfl, hrest⟩ := List.cons.inj hsteps
    simpa using h before after hrest

theorem Conforms.play {call : Call (Except ApiError Response)} (h : call.Conforms request past)
    (peer : Peer) :
    Lawful request past (call.play peer past).1 (call.play peer past).2 := by
  induction call generalizing past with
  | done result => exact .nil h
  | token next ih => exact .cons h.1 (ih _ (h.2 _))
  | send sent next ih => exact .cons h.1 (ih _ (h.2 _))
  | refresh stale next ih => exact .cons h.1 (ih _ (h.2 _))

/-! ## How long it can be -/

/-- At most `sends` requests before the next refresh, and `more` rounds of four after it. -/
def Fits : Call α → Nat → Nat → Prop
  | .done _, _, _ => True
  | .token next, sends, more => ∀ stored, (next stored).Fits sends more
  | .send _ next, sends, more => 0 < sends ∧ ∀ reply, (next reply).Fits (sends - 1) more
  | .refresh _ next, _, more => 0 < more ∧ ∀ fresh, (next fresh).Fits 4 (more - 1)

theorem sendRound_fits {sent : Request} {next : Except ApiError Response → Call α} {more : Nat}
    (hnext : ∀ answer sends, (next answer).Fits sends more) (retries : Nat) :
    (ApiClient.sendRound sent next retries).Fits (retries + 1) more := by
  induction retries with
  | zero =>
    refine ⟨by omega, fun reply => ?_⟩
    cases reply with
    | error e => exact hnext _ _
    | ok r => exact hnext _ _
  | succ retries ih =>
    refine ⟨by omega, fun reply => ?_⟩
    cases reply with
    | error e => exact hnext _ _
    | ok r =>
      by_cases hstatus : r.status = 429
      · simpa [hstatus] using ih
      · simpa [hstatus] using hnext _ _

theorem execute_fits (api : ApiClient) (method path : String) (body : Option String) :
    (api.execute method path body).Fits 4 1 := by
  intro stored
  cases stored with
  | error e => exact trivial
  | ok found =>
    refine sendRound_fits (fun first sends => ?_) 3
    cases first with
    | error e => exact trivial
    | ok r =>
      simp only
      split
      · exact trivial
      · refine ⟨Nat.one_pos, fun fresh => ?_⟩
        cases fresh with
        | error e => exact trivial
        | ok fresh =>
          refine sendRound_fits (fun second sends => ?_) 3
          cases second with
          | error e => exact trivial
          | ok r =>
            by_cases hsuccess : classify r.status true true = .success <;> simp [hsuccess, Fits]
      · exact trivial

theorem rounds_refresh (stale : AccessToken) (fresh : Except SessionError AccessToken)
    (steps : List Step) : rounds (.refresh stale fresh :: steps) = 0 :: rounds steps := by
  simp [rounds, List.splitOnP_cons_eq_if_modifyHead, Step.isRefresh]

theorem rounds_cons {step : Step} (h : step.isRefresh = false) (steps : List Step) :
    rounds (step :: steps) =
      (rounds steps).modifyHead (· + if step.isSend then 1 else 0) := by
  rw [rounds, List.splitOnP_cons_eq_if_modifyHead, if_neg (by simp [h]), rounds]
  cases steps.splitOnP Step.isRefresh with
  | nil => rfl
  | cons first later => simp [List.countP_cons]

/-- What fits as a tree fits in every run. -/
theorem Fits.play {call : Call α} {sends more : Nat} (h : call.Fits sends more) (peer : Peer)
    (past : List Step) :
    ∃ first later, rounds (call.play peer past).1 = first :: later ∧ first ≤ sends ∧
      later.length ≤ more ∧ ∀ n ∈ later, n ≤ 4 := by
  induction call generalizing past sends more with
  | done result => exact ⟨0, [], rfl, Nat.zero_le _, Nat.zero_le _, by simp⟩
  | token next ih =>
    obtain ⟨first, later, hrounds, hrest⟩ := ih _ (h _) (past ++ [.token (peer.token past)])
    refine ⟨first, later, ?_, hrest⟩
    simp only [Call.play, Prod.map_fst]
    rw [rounds_cons rfl, hrounds]
    rfl
  | send sent next ih =>
    obtain ⟨hsends, h⟩ := h
    obtain ⟨first, later, hrounds, hfirst, hrest⟩ :=
      ih _ (h _) (past ++ [.send sent (peer.reply past sent)])
    refine ⟨first + 1, later, ?_, by omega, hrest⟩
    simp only [Call.play, Prod.map_fst]
    rw [rounds_cons rfl, hrounds]
    rfl
  | refresh stale next ih =>
    obtain ⟨hmore, h⟩ := h
    obtain ⟨first, later, hrounds, hfirst, hlater, hrest⟩ :=
      ih _ (h _) (past ++ [.refresh stale (peer.fresh past stale)])
    refine ⟨0, first :: later, ?_, Nat.zero_le _, by simp only [List.length_cons]; omega,
      List.forall_mem_cons.2 ⟨hfirst, hrest⟩⟩
    simp only [Call.play, Prod.map_fst]
    rw [rounds_refresh, hrounds]

/-! ## What follows for the steps -/

theorem Step.next_ne_finish (step : Step) (result : Except ApiError Response) :
    step.next ≠ .finish result := by
  cases step <;> simp [Step.next]

/-- All that an answer can lead to. -/
inductive Leads (past : List Step) (sent : Request) (r : Response) : Next → Prop
  | again (hstatus : r.status = 429) (hcount : busy past < 3) : Leads past sent r (.send sent)
  | limited (hstatus : r.status = 429) (hcount : 3 ≤ busy past) :
      Leads past sent r (.finish (.error .rateLimited))
  | success (hsuccess : Http.isSuccess r.status) : Leads past sent r (.finish (.ok r))
  | refresh (stale : AccessToken) (hstatus : r.status = 401) (hheld : held past = some stale)
      (hfirst : past.any Step.isRefresh = false) : Leads past sent r (.refresh stale)
  | refused (hstatus : r.status ≠ 429) (hsuccess : ¬ Http.isSuccess r.status) :
      Leads past sent r (.finish (.error (.ofResponse r)))

theorem upNext_leads (request : Option AccessToken → Request) (past : List Step) (sent : Request)
    (r : Response) :
    Leads past sent r (upNext request (past ++ [.send sent (.ok r)])) := by
  rw [upNext_answered]
  by_cases hstatus : r.status = 429
  · by_cases hcount : busy past < 3
    · simpa only [hstatus, hcount, if_true] using .again hstatus hcount
    · simpa only [hstatus, hcount, if_true, if_false] using
        .limited hstatus (Nat.le_of_not_lt hcount)
  rw [if_neg hstatus]
  by_cases hsuccess : Http.isSuccess r.status
  · rw [if_pos hsuccess]
    exact .success hsuccess
  rw [if_neg hsuccess]
  cases hheld : held past with
  | none => exact .refused hstatus hsuccess
  | some stale =>
    by_cases hfirst : r.status = 401 ∧ past.any Step.isRefresh = false
    · simpa only [hfirst, and_self, if_true] using .refresh stale hfirst.1 hheld hfirst.2
    · simpa only [hfirst, if_false] using .refused hstatus hsuccess

/-- The five ways to go on: which step may stand after which past. -/
inductive Due (request : Option AccessToken → Request) : List Step → Step → Prop
  | read (stored : Except SessionError (Option AccessToken)) : Due request [] (.token stored)
  | first (before : List Step) (found : Option AccessToken) (reply : Reply) :
      Due request (before ++ [.token (.ok found)]) (.send (request found) reply)
  | again (before : List Step) (sent : Request) (r : Response) (reply : Reply)
      (hstatus : r.status = 429) (hcount : busy before < 3) :
      Due request (before ++ [.send sent (.ok r)]) (.send sent reply)
  | refresh (before : List Step) (sent : Request) (r : Response) (stale : AccessToken)
      (fresh : Except SessionError AccessToken) (hstatus : r.status = 401)
      (hheld : held before = some stale) (hfirst : before.any Step.isRefresh = false) :
      Due request (before ++ [.send sent (.ok r)]) (.refresh stale fresh)
  | second (before : List Step) (stale fresh : AccessToken) (reply : Reply) :
      Due request (before ++ [.refresh stale (.ok fresh)]) (.send (request (some fresh)) reply)

theorem due_of_upNext (h : upNext request past = step.next) : Due request past step := by
  rcases List.eq_nil_or_concat' past with rfl | ⟨before, last, rfl⟩
  · cases step with
    | token stored => exact .read stored
    | send sent reply => cases h
    | refresh stale fresh => cases h
  cases last with
  | token stored =>
    cases stored <;> cases step <;> simp [upNext, Step.next] at h
    subst h
    exact .first before _ _
  | refresh stale fresh =>
    cases fresh <;> cases step <;> simp [upNext, Step.next] at h
    subst h
    exact .second before stale _ _
  | send sent reply =>
    cases reply with
    | error e => cases step <;> simp [upNext, Step.next] at h
    | ok r =>
      have hleads := upNext_leads request before sent r
      rw [h] at hleads
      cases step with
      | token stored => cases hleads
      | send sent' reply =>
        cases hleads with
        | again hstatus hcount => exact .again before sent r _ hstatus hcount
      | refresh stale fresh =>
        cases hleads with
        | refresh _ hstatus hheld hfirst =>
          exact .refresh before sent r stale _ hstatus hheld hfirst

namespace Lawful

variable {before after : List Step}

theorem due (h : Lawful request [] steps result) (hsteps : steps = before ++ step :: after) :
    Due request before step :=
  due_of_upNext (h before (step :: after) hsteps)

/-- Where it should end, it ends. -/
theorem ends {result' : Except ApiError Response} (h : Lawful request [] steps result)
    (before : List Step) (hsteps : steps = before ++ after)
    (hend : upNext request before = .finish result') : after = [] ∧ result = result' := by
  have hnext := h before after hsteps
  rw [List.nil_append, hend] at hnext
  cases after with
  | nil =>
    obtain rfl : result' = result := by simpa using hnext
    exact ⟨rfl, rfl⟩
  | cons step after => exact absurd hnext.symm (step.next_ne_finish _)

/-- The end of a send or of a refresh that ends the call. -/
theorem ends_after {result' : Except ApiError Response} (h : Lawful request [] steps result)
    (hsteps : steps = before ++ step :: after)
    (hend : upNext request (before ++ [step]) = .finish result') : after = [] ∧ result = result' :=
  h.ends (before ++ [step]) (by simpa using hsteps) hend

theorem nil_of_token {stored : Except SessionError (Option AccessToken)}
    (h : Lawful request [] steps result) (before : List Step)
    (hsteps : steps = before ++ .token stored :: after) : before = [] := by
  cases h.due hsteps
  rfl

theorem not_refreshed_of_refresh {stale : AccessToken} {fresh : Except SessionError AccessToken}
    (h : Lawful request [] steps result) (before : List Step)
    (hsteps : steps = before ++ .refresh stale fresh :: after) :
    before.any Step.isRefresh = false := by
  cases h.due hsteps with
  | refresh before sent r _ _ hstatus hheld hfirst => simp [hfirst, Step.isRefresh]

/-- What is sent carries the token held. -/
theorem carries (h : Lawful request [] steps result) (before : List Step) {after : List Step}
    {sent : Request} {reply : Reply} (hsteps : steps = before ++ .send sent reply :: after) :
    sent = request (held before) := by
  cases h.due hsteps with
  | first before found _ => simp [held_concat, Step.learnt?]
  | again before _ r _ hstatus hcount =>
    rw [held_concat]
    exact carries h before (by simpa using hsteps)
  | second before stale fresh _ => simp [held_concat, Step.learnt?]
termination_by before.length

/-- Until it refreshes, the call holds what it has read first. -/
theorem head_of_not_refreshed (h : Lawful request [] steps result) (before : List Step)
    {sent : Request} {reply : Reply} {after : List Step}
    (hsteps : steps = before ++ .send sent reply :: after)
    (hfirst : before.any Step.isRefresh = false) :
    steps.head? = some (.token (.ok (held before))) := by
  cases h.due hsteps with
  | first before found _ =>
    obtain rfl := h.nil_of_token before (by simpa using hsteps)
    simp [hsteps, held, Step.learnt?]
  | again before sent r _ hstatus hcount =>
    rw [held_concat]
    exact head_of_not_refreshed h before (by simpa using hsteps)
      (by simpa [Step.isRefresh] using hfirst)
  | second before stale fresh _ => simp [Step.isRefresh] at hfirst
termination_by before.length

/-- After the refresh, the call holds what was bought. -/
theorem held_of_refreshed (h : Lawful request [] steps result) (before : List Step)
    {sent : Request} {reply : Reply} {after : List Step} {stale : AccessToken}
    {fresh : Except SessionError AccessToken}
    (hsteps : steps = before ++ .send sent reply :: after) (hmem : .refresh stale fresh ∈ before) :
    ∃ token, fresh = .ok token ∧ held before = some token := by
  cases h.due hsteps with
  | first before found _ =>
    obtain rfl := h.nil_of_token before (by simpa using hsteps)
    simp at hmem
  | again before sent r _ hstatus hcount =>
    rw [held_concat]
    exact held_of_refreshed h before (by simpa using hsteps) (by simpa using hmem)
  | second before stale' fresh' _ =>
    have hfirst : before.any Step.isRefresh = false :=
      h.not_refreshed_of_refresh before (by simpa using hsteps)
    rcases List.mem_append.1 hmem with hearlier | hlast
    · exact absurd rfl (List.any_eq_false.1 hfirst _ hearlier)
    · obtain ⟨rfl, rfl⟩ := Step.refresh.inj (List.mem_singleton.1 hlast)
      exact ⟨fresh', rfl, by rw [held_concat]; rfl⟩
termination_by before.length

theorem reads (h : Lawful request [] steps result) :
    ∃ stored rest, steps = .token stored :: rest ∧
      ∀ step ∈ rest, step.isSend ∨ step.isRefresh := by
  cases hsteps : steps with
  | nil => exact absurd (h [] [] hsteps) (by simp [upNext])
  | cons step rest =>
    have hfirst : .token = step.next := h [] (step :: rest) hsteps
    cases step <;> cases hfirst
    rename_i stored
    refine ⟨stored, rest, rfl, fun step hstep => ?_⟩
    cases step with
    | token again =>
      obtain ⟨before, after, rfl⟩ := List.append_of_mem hstep
      exact absurd (h.nil_of_token (.token stored :: before) hsteps) (by simp)
    | send sent reply => exact .inl rfl
    | refresh stale fresh => exact .inr rfl

theorem unread (h : Lawful request [] steps result) {e : SessionError}
    (hmem : .token (.error e) ∈ steps) :
    steps = [.token (.error e)] ∧ result = .error (.session e) := by
  obtain ⟨before, after, hsteps⟩ := List.append_of_mem hmem
  obtain rfl := h.nil_of_token before hsteps
  obtain ⟨rfl, hresult⟩ := h.ends_after hsteps rfl
  exact ⟨hsteps, hresult⟩

/-- Where it should send, it sends. -/
theorem sends_after {sent : Request} (h : Lawful request [] steps result) (before : List Step)
    (hsteps : steps = before ++ step :: after)
    (hnext : upNext request (before ++ [step]) = .send sent) :
    ∃ reply rest, after = .send sent reply :: rest := by
  have hthen := h (before ++ [step]) after (by simpa using hsteps)
  rw [List.nil_append, hnext] at hthen
  cases after with
  | nil => cases hthen
  | cons next rest =>
    cases next <;> cases hthen
    exact ⟨_, rest, rfl⟩

theorem refreshes {stale : AccessToken} {fresh : Except SessionError AccessToken}
    (h : Lawful request [] steps result)
    (hsteps : steps = before ++ .refresh stale fresh :: after) :
    steps.head? = some (.token (.ok (some stale))) ∧
      (∃ past r, before = past ++ [.send (request (some stale)) (.ok r)] ∧ r.status = 401) ∧
      before.any Step.isRefresh = false ∧ after.any Step.isRefresh = false := by
  have hbefore := h.not_refreshed_of_refresh before hsteps
  have hafter : after.any Step.isRefresh = false := by
    refine List.any_eq_false.2 fun step hstep hrefresh => ?_
    obtain ⟨mid, rest, rfl⟩ := List.append_of_mem hstep
    cases step <;> cases hrefresh
    have hmid := h.not_refreshed_of_refresh (before ++ .refresh stale fresh :: mid)
      (by simpa using hsteps)
    simp [Step.isRefresh] at hmid
  cases h.due hsteps with
  | refresh past sent r _ _ hstatus hheld hfirst =>
    have hsent : steps = past ++ .send sent (.ok r) :: .refresh stale fresh :: after := by
      simpa using hsteps
    refine ⟨?_, ⟨past, r, ?_, hstatus⟩, hbefore, hafter⟩
    · rw [h.head_of_not_refreshed past hsent hfirst, hheld]
    · rw [h.carries past hsent, hheld]

theorem refreshed {sent : Request} {r : Response} {stale : AccessToken}
    (h : Lawful request [] steps result) (hsteps : steps = before ++ .send sent (.ok r) :: after)
    (hread : steps.head? = some (.token (.ok (some stale))))
    (hfirst : before.any Step.isRefresh = false) (hstatus : r.status = 401) :
    ∃ fresh rest, after = .refresh stale fresh :: rest := by
  have hheld : held before = some stale := by
    simpa [h.head_of_not_refreshed before hsteps hfirst] using hread
  have hnext := h (before ++ [.send sent (.ok r)]) after (by simpa using hsteps)
  rw [List.nil_append, upNext_denied sent hstatus hheld hfirst] at hnext
  cases after with
  | nil => cases hnext
  | cons step rest =>
    cases step <;> cases hnext
    exact ⟨_, rest, rfl⟩

theorem isSend_head (h : Lawful request [] steps result) (before : List Step)
    (hsteps : steps = before ++ after) :
    after.head?.any Step.isSend ↔ ∃ sent, upNext request before = .send sent := by
  have hnext := h before after hsteps
  rw [List.nil_append] at hnext
  rw [hnext]
  cases after with
  | nil => simp
  | cons step after => cases step <;> simp [Step.next, Step.isSend]

theorem repeats {sent : Request} {reply : Reply} (h : Lawful request [] steps result)
    (hsteps : steps = before ++ .send sent reply :: after) :
    after.head?.any Step.isSend ↔ (Step.send sent reply).isBusy ∧ busy before < 3 := by
  rw [h.isSend_head (before ++ [.send sent reply]) (by simpa using hsteps)]
  cases reply with
  | error e => simp [upNext, Step.isBusy]
  | ok r =>
    simp only [Step.isBusy, beq_iff_eq]
    constructor
    · rintro ⟨again, hagain⟩
      have hleads := upNext_leads request before sent r
      rw [hagain] at hleads
      cases hleads with
      | again hstatus hcount => exact ⟨hstatus, hcount⟩
    · rintro ⟨hstatus, hcount⟩
      exact ⟨sent, by rw [upNext_answered, if_pos hstatus, if_pos hcount]⟩

theorem succeeds (h : Lawful request [] steps result) (r : Response) :
    result = .ok r ↔
      Http.isSuccess r.status ∧ ∃ before sent, steps = before ++ [.send sent (.ok r)] := by
  constructor
  · rintro rfl
    have hend : upNext request steps = .finish (.ok r) := h steps [] (List.append_nil _).symm
    rcases List.eq_nil_or_concat' steps with rfl | ⟨before, last, rfl⟩
    · cases hend
    cases last with
    | token stored => cases stored <;> simp [upNext] at hend
    | refresh stale fresh => cases fresh <;> simp [upNext] at hend
    | send sent reply =>
      cases reply with
      | error e => simp [upNext] at hend
      | ok last =>
        have hleads := upNext_leads request before sent last
        rw [hend] at hleads
        cases hleads with
        | success hsuccess => exact ⟨hsuccess, before, sent, rfl⟩
  · rintro ⟨hsuccess, before, sent, hsteps⟩
    have hbusy : r.status ≠ 429 := by
      intro hstatus
      rw [hstatus] at hsuccess
      cases hsuccess
    refine (h.ends steps (List.append_nil _).symm ?_).2
    rw [hsteps, upNext_answered, if_neg hbusy, if_pos hsuccess]

theorem refused {sent : Request} {r : Response} (h : Lawful request [] steps result)
    (hsteps : steps = before ++ [.send sent (.ok r)]) (hstatus : r.status ≠ 429)
    (hsuccess : ¬ Http.isSuccess r.status) : result = .error (.ofResponse r) := by
  have hend : upNext request steps = .finish result := h steps [] (List.append_nil _).symm
  have hleads := upNext_leads request before sent r
  rw [← hsteps, hend] at hleads
  cases hleads with
  | limited hlimited => exact absurd hlimited hstatus
  | success hsucceeds => exact absurd hsucceeds hsuccess
  | refused => rfl

end Lawful

end Call

open Call (held busy rounds)

/-- A call in order: `steps` are all it does, and `result` is what it returns. -/
structure Orderly (request : Option AccessToken → Request) (steps : List Step)
    (result : Except ApiError Response) : Prop where
  /-- The stored token is read first, and only then. -/
  reads : ∃ stored rest, steps = .token stored :: rest ∧ ∀ step ∈ rest, step.isSend ∨ step.isRefresh
  /-- Without an answer from the store, nothing is sent. -/
  unread : ∀ e, .token (.error e) ∈ steps →
    steps = [.token (.error e)] ∧ result = .error (.session e)
  /-- With an answer from the store, the request is sent. -/
  sends : ∀ found rest, steps = .token (.ok found) :: rest →
    ∃ reply later, rest = .send (request found) reply :: later
  /-- There are at most two rounds, of at most four requests each. -/
  bounded : (rounds steps).length ≤ 2 ∧ ∀ sends ∈ rounds steps, sends ≤ 4
  /-- A refresh stands behind a 401 to a request with the token that was read, and there is no
  other. -/
  refreshes : ∀ before stale fresh after, steps = before ++ .refresh stale fresh :: after →
    steps.head? = some (.token (.ok (some stale))) ∧
      (∃ past r, before = past ++ [.send (request (some stale)) (.ok r)] ∧ r.status = 401) ∧
      before.any Step.isRefresh = false ∧ after.any Step.isRefresh = false
  /-- And it does follow the first such answer. -/
  refreshed : ∀ before sent r after stale, steps = before ++ .send sent (.ok r) :: after →
    steps.head? = some (.token (.ok (some stale))) → before.any Step.isRefresh = false →
      r.status = 401 → ∃ fresh rest, after = .refresh stale fresh :: rest
  /-- With a token that was bought, the request is sent again. -/
  resumes : ∀ before stale fresh after, steps = before ++ .refresh stale (.ok fresh) :: after →
    ∃ reply later, after = .send (request (some fresh)) reply :: later
  /-- Before it, requests carry the token that was read, or none. -/
  carriesStored : ∀ before sent reply after, steps = before ++ .send sent reply :: after →
    before.any Step.isRefresh = false →
      ∃ found, steps.head? = some (.token (.ok found)) ∧ sent = request found
  /-- After it, they carry the token that was bought. -/
  carriesFresh : ∀ before sent reply after stale fresh,
    steps = before ++ .send sent reply :: after → .refresh stale fresh ∈ before →
      ∃ token, fresh = .ok token ∧ sent = request (some token)
  /-- A request is sent again after a 429 and only then, up to the fourth in a row. -/
  repeats : ∀ before sent reply after, steps = before ++ .send sent reply :: after →
    (after.head?.any Step.isSend ↔ (Step.send sent reply).isBusy ∧ busy before < 3)
  /-- The fourth 429 in a row ends the call. -/
  limited : ∀ before sent r after, steps = before ++ .send sent (.ok r) :: after →
    r.status = 429 → 3 ≤ busy before → after = [] ∧ result = .error .rateLimited
  /-- So does a request without a response. -/
  broken : ∀ before sent e after, steps = before ++ .send sent (.error e) :: after →
    after = [] ∧ result = .error (.network e)
  /-- So does a refresh without a token. -/
  unrefreshed : ∀ before stale e after, steps = before ++ .refresh stale (.error e) :: after →
    after = [] ∧ result = .error (.session e)
  /-- Returned is a response that is a success, if it is the last answer, and no other. -/
  succeeds : ∀ r, result = .ok r ↔
    Http.isSuccess r.status ∧ ∃ before sent, steps = before ++ [.send sent (.ok r)]
  /-- Any other last answer but a 429 is returned as what it means. -/
  refused : ∀ before sent r, steps = before ++ [.send sent (.ok r)] → r.status ≠ 429 →
    ¬ Http.isSuccess r.status → result = .error (.ofResponse r)

namespace Orderly

variable {request : Option AccessToken → Request} {steps before after : List Step}
  {result : Except ApiError Response}

/-- The store is asked only once. -/
theorem nil_of_token (h : Orderly request steps result)
    {stored : Except SessionError (Option AccessToken)}
    (hsteps : steps = before ++ .token stored :: after) : before = [] := by
  obtain ⟨first, rest, hrest, hlater⟩ := h.reads
  cases before with
  | nil => rfl
  | cons head before =>
    obtain ⟨-, rfl⟩ := List.cons.inj (hsteps.symm.trans hrest)
    rcases hlater (.token stored) (by simp) with hsend | hrefresh
    · cases hsend
    · cases hrefresh

/-- What was read is held until there is a refresh. -/
theorem held_eq (h : Orderly request steps result) {found : Option AccessToken} {sent : Request}
    {reply : Reply} (hsteps : steps = before ++ .send sent reply :: after)
    (hread : steps.head? = some (.token (.ok found)))
    (hfirst : before.any Step.isRefresh = false) : held before = found := by
  obtain ⟨stored, rest, hrest, hlater⟩ := h.reads
  cases before with
  | nil => rw [hsteps] at hread; cases hread
  | cons step before =>
    rw [hsteps] at hread
    obtain rfl : step = .token (.ok found) := Option.some.inj hread
    obtain ⟨-, rfl⟩ := List.cons.inj (hsteps.symm.trans hrest)
    have hnone : before.filterMap Step.learnt? = [] := by
      refine List.filterMap_eq_nil_iff.2 fun step hstep => ?_
      rcases hlater step (List.mem_append_left _ hstep) with hsend | hrefresh
      · cases step <;> first | rfl | cases hsend
      · exact absurd hrefresh (List.any_eq_false.1 hfirst step (List.mem_cons_of_mem _ hstep))
    simp [held, Step.learnt?, hnone]

/-- A request is the last step, or it is sent again, or a refresh follows. -/
theorem follows (h : Orderly request steps result) {sent : Request} {reply : Reply}
    (hsteps : steps = before ++ .send sent reply :: after) :
    after = [] ∨
      (∃ again rest, after = .send sent again :: rest ∧ (Step.send sent reply).isBusy ∧
        busy before < 3) ∨
      ∃ stale fresh rest r, after = .refresh stale fresh :: rest ∧ reply = .ok r ∧
        r.status = 401 ∧ held before = some stale ∧ before.any Step.isRefresh = false := by
  cases hafter : after with
  | nil => exact .inl rfl
  | cons step rest =>
    subst hafter
    have hnext : steps = (before ++ [.send sent reply]) ++ step :: rest := by simpa using hsteps
    cases step with
    | token stored => exact absurd (h.nil_of_token hnext) (by simp)
    | send sent' again =>
      obtain ⟨hbusy, hcount⟩ := (h.repeats before sent reply _ hsteps).1 rfl
      -- both carry the token that is held between refreshes
      have hsame : sent' = sent := by
        cases hfirst : before.any Step.isRefresh with
        | false =>
          obtain ⟨found, hread, rfl⟩ := h.carriesStored _ _ _ _ hsteps hfirst
          obtain ⟨found', hread', rfl⟩ :=
            h.carriesStored _ _ _ _ hnext (by simpa [Step.isRefresh] using hfirst)
          cases hread.symm.trans hread'
          rfl
        | true =>
          obtain ⟨step, hmem, hrefresh⟩ := List.any_eq_true.1 hfirst
          cases step <;> cases hrefresh
          obtain ⟨token, hfresh, rfl⟩ := h.carriesFresh _ _ _ _ _ _ hsteps hmem
          obtain ⟨token', hfresh', rfl⟩ :=
            h.carriesFresh _ _ _ _ _ _ hnext (List.mem_append_left _ hmem)
          cases hfresh.symm.trans hfresh'
          rfl
      exact .inr (.inl ⟨again, rest, by rw [hsame], hbusy, hcount⟩)
    | refresh stale fresh =>
      obtain ⟨hread, ⟨past, r, hpast, hstatus⟩, hfirst, -⟩ := h.refreshes _ _ _ _ hnext
      obtain ⟨-, hlast⟩ := List.append_inj' hpast rfl
      obtain ⟨-, hreply⟩ := Step.send.inj (List.cons.inj hlast).1
      have hearlier : before.any Step.isRefresh = false := by
        simpa [Step.isRefresh] using hfirst
      exact .inr (.inr ⟨stale, fresh, rest, r, rfl, hreply, hstatus,
        h.held_eq hsteps hread hearlier, hearlier⟩)

/-- A response that is no 429 is the last answer, or it is worth a refresh. -/
theorem ends_or_refreshes (h : Orderly request steps result) {sent : Request} {r : Response}
    (hsteps : steps = before ++ .send sent (.ok r) :: after) (hbusy : r.status ≠ 429) :
    after = [] ∨ r.status = 401 ∧ ∃ stale fresh rest, after = .refresh stale fresh :: rest ∧
      held before = some stale ∧ before.any Step.isRefresh = false := by
  rcases h.follows hsteps with
    hend | ⟨_, _, -, hagain, -⟩ | ⟨stale, fresh, rest, r', hafter, hreply, hstatus, hheld, hfirst⟩
  · exact .inl hend
  · exact absurd (by simpa [Step.isBusy] using hagain) hbusy
  · cases hreply
    exact .inr ⟨hstatus, stale, fresh, rest, hafter, hheld, hfirst⟩

/-- **The order decides every step and the result**: a call in order does what is up next. -/
theorem lawful (h : Orderly request steps result) : Call.Lawful request [] steps result := by
  intro before after hsteps
  rw [List.nil_append]
  rcases List.eq_nil_or_concat' before with rfl | ⟨before, last, rfl⟩
  · obtain ⟨stored, rest, hrest, -⟩ := h.reads
    obtain rfl : after = .token stored :: rest := hsteps.symm.trans hrest
    rfl
  have hlast : steps = before ++ last :: after := by simpa using hsteps
  cases last with
  | token stored =>
    cases stored with
    | error e =>
      obtain ⟨hall, rfl⟩ := h.unread e (hlast ▸ by simp)
      obtain ⟨rfl, rfl⟩ : before = [] ∧ after = [] := by
        simpa using (List.append_eq_singleton_iff.1 (hlast.symm.trans hall))
      rfl
    | ok found =>
      obtain rfl := h.nil_of_token hlast
      obtain ⟨reply, later, rfl⟩ := h.sends found after hlast
      rfl
  | refresh stale fresh =>
    cases fresh with
    | error e =>
      obtain ⟨rfl, rfl⟩ := h.unrefreshed _ _ _ _ hlast
      simp [Call.upNext]
    | ok fresh =>
      obtain ⟨reply, later, rfl⟩ := h.resumes _ _ _ _ hlast
      simp [Call.upNext, Step.next]
  | send sent reply =>
    cases reply with
    | error e =>
      obtain ⟨rfl, rfl⟩ := h.broken _ _ _ _ hlast
      simp [Call.upNext]
    | ok r =>
      rw [Call.upNext_answered]
      by_cases hstatus : r.status = 429
      · rw [if_pos hstatus]
        by_cases hcount : busy before < 3
        · rw [if_pos hcount]
          have hsend := (h.repeats _ _ _ _ hlast).2 ⟨by simp [Step.isBusy, hstatus], hcount⟩
          rcases h.follows hlast with rfl | ⟨again, rest, rfl, -⟩ | ⟨_, _, _, _, rfl, -⟩
          · cases hsend
          · rfl
          · cases hsend
        · rw [if_neg hcount]
          obtain ⟨rfl, rfl⟩ := h.limited _ _ _ _ hlast hstatus (Nat.le_of_not_lt hcount)
          rfl
      rw [if_neg hstatus]
      by_cases hsuccess : Http.isSuccess r.status
      · rw [if_pos hsuccess]
        rcases h.ends_or_refreshes hlast hstatus with rfl | ⟨hdenied, -⟩
        · rw [(h.succeeds r).2 ⟨hsuccess, before, sent, hlast⟩]
          rfl
        · rw [hdenied] at hsuccess
          cases hsuccess
      rw [if_neg hsuccess]
      rcases h.ends_or_refreshes hlast hstatus with
        rfl | ⟨hdenied, stale, fresh, rest, rfl, hheld, hfirst⟩
      · have hresult := h.refused _ _ _ hlast hstatus hsuccess
        cases hheld : held before with
        | none => rw [hresult]; rfl
        | some stale =>
          refine (if_neg ?_).trans (by rw [hresult]; rfl)
          rintro ⟨hdenied, hfirst⟩
          -- a refresh would have followed
          obtain ⟨found, hread, -⟩ := h.carriesStored _ _ _ _ hlast hfirst
          rw [h.held_eq hlast hread hfirst] at hheld
          obtain ⟨fresh, rest, hnone⟩ :=
            h.refreshed _ _ _ _ stale hlast (hheld ▸ hread) hfirst hdenied
          cases hnone
      · rw [hheld]
        exact if_pos ⟨hdenied, hfirst⟩

/-- Its steps leave no choice of a result. -/
theorem result_unique {other : Except ApiError Response} (h : Orderly request steps result)
    (hother : Orderly request steps other) : result = other :=
  (h.lawful.ends steps (List.append_nil _).symm
    (hother.lawful steps [] (List.append_nil _).symm)).2

end Orderly

/-- **Calls to the API are orderly**, whoever answers them. -/
theorem calls_are_orderly (api : ApiClient) (method path : String) (body : Option String)
    (peer : Peer) :
    Orderly (api.request method path body) ((api.execute method path body).play peer []).1
        ((api.execute method path body).play peer []).2 ∧
      ∀ found, (api.request method path body found).authorization? =
        found.map (fun token => "Bearer " ++ token.value) := by
  have h := (Call.execute_conforms api method path body).play peer
  obtain ⟨first, later, hrounds, hfirst, hlater, hrest⟩ :=
    (Call.execute_fits api method path body).play peer []
  refine ⟨⟨h.reads, fun _ => h.unread, ?_, ?_, fun _ _ _ _ => h.refreshes,
    fun _ _ _ _ _ => h.refreshed, ?_, ?_, ?_, fun _ _ _ _ => h.repeats, ?_, ?_, ?_, h.succeeds,
    fun _ _ _ => h.refused⟩, ?_⟩
  · intro found rest hsteps
    exact h.sends_after [] hsteps rfl
  · rw [hrounds]
    exact ⟨Nat.succ_le_succ hlater, List.forall_mem_cons.2 ⟨hfirst, hrest⟩⟩
  · intro before stale fresh after hsteps
    exact h.sends_after _ hsteps (by simp [Call.upNext])
  · intro before sent reply after hsteps hbefore
    exact ⟨_, h.head_of_not_refreshed before hsteps hbefore, h.carries before hsteps⟩
  · intro before sent reply after stale fresh hsteps hmem
    obtain ⟨token, hfresh, hheld⟩ := h.held_of_refreshed before hsteps hmem
    exact ⟨token, hfresh, (h.carries before hsteps).trans (congrArg _ hheld)⟩
  · intro before sent r after hsteps hstatus hcount
    refine h.ends_after hsteps ?_
    rw [Call.upNext_answered, if_pos hstatus, if_neg (Nat.not_lt.2 hcount)]
  · intro before sent e after hsteps
    exact h.ends_after hsteps (by simp [Call.upNext])
  · intro before stale e after hsteps
    exact h.ends_after hsteps (by simp [Call.upNext])
  · intro found
    simp [Request.authorization?, ApiClient.request, Option.map_map, Function.comp_def]

/-- All eight requests are sent if three 429s, a 401 and four 429s come back. -/
example :
    let peer : Peer :=
      { token := fun _ => .ok (some ⟨"a1", by decide⟩)
        reply := fun past _ => .ok ⟨if past.length = 4 then 401 else 429, []⟩
        fresh := fun _ _ => .ok ⟨"a2", by decide⟩ }
    let run := ((ApiClient.mk "http://b").execute "GET" "x" none).play peer []
    rounds run.1 = [4, 4] ∧ run.2 = .error .rateLimited := by
  decide +kernel

/-! ## A client at work -/

namespace Client

variable {σ : Type}

/-- What a client has become after a step of a call. -/
def after (client : Client σ) (l : Live σ) : Step → Live σ
  | .token _ => (client.currentToken l).2
  | .send request _ => (client.send request l).2
  | .refresh stale _ => (client.refresh stale l).2

/-- A client's store, server and coordinator, from a state on. -/
def peer (client : Client σ) (l : Live σ) : Peer where
  token past := (client.currentToken (past.foldl client.after l)).1
  reply past request := (client.send request (past.foldl client.after l)).1
  fresh past stale := (client.refresh stale (past.foldl client.after l)).1

/-- **What a client carries out is the call, played against it.** -/
theorem runCall_eq_play (client : Client σ) (l : Live σ) (call : Call α) (past : List Step) :
    client.runCall call (past.foldl client.after l) =
      ((call.play (client.peer l) past).2,
        (past ++ (call.play (client.peer l) past).1).foldl client.after l) := by
  induction call generalizing past with
  | done a => simp [runCall, Call.play]
  | token next ih =>
    have h := ih ((client.peer l).token past) (past ++ [.token ((client.peer l).token past)])
    rw [List.foldl_concat, List.append_assoc] at h
    exact h
  | send request next ih =>
    have h := ih ((client.peer l).reply past request)
      (past ++ [.send request ((client.peer l).reply past request)])
    rw [List.foldl_concat, List.append_assoc] at h
    exact h
  | refresh stale next ih =>
    have h := ih ((client.peer l).fresh past stale)
      (past ++ [.refresh stale ((client.peer l).fresh past stale)])
    rw [List.foldl_concat, List.append_assoc] at h
    exact h

end Client

end RedirectLogin
