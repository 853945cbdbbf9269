import RedirectLogin.Api.Client

/-!
# Calls without credentials

A call is anonymous if none of its requests carries credentials, whatever is answered, and if it
asks for none while it runs. A call to the API that finds no token is anonymous to its end: a 401
is worth a refresh only for a request that carried a token.

Principal results: `execute_anonymous` — a call that is answered with no token, or with an error,
sends no credentials.
-/

set_option autoImplicit false

namespace RedirectLogin

variable {α : Type}

/-- None of the requests carries credentials, whatever is answered, and none are asked for. -/
def Call.Anonymous : Call α → Prop
  | .done _ => True
  | .token _ => False
  | .send request next => request.authorization? = none ∧ ∀ reply, (next reply).Anonymous
  | .refresh _ _ => False

/-- The call after its question for the stored token was answered. -/
def Call.withToken (call : Call α) (answer : Except SessionError (Option AccessToken)) : Call α :=
  match call with
  | .token next => next answer
  | call => call

namespace ApiClient

theorem sendRound_anonymous {request : Request} {next : Except ApiError Response → Call α}
    (hrequest : request.authorization? = none) (hnext : ∀ reply, (next reply).Anonymous)
    (retries : Nat) : (sendRound request next retries).Anonymous := by
  induction retries with
  | zero =>
    refine ⟨hrequest, fun reply => ?_⟩
    cases reply with
    | error e => exact hnext _
    | ok r => exact hnext _
  | succ retries ih =>
    refine ⟨hrequest, fun reply => ?_⟩
    cases reply with
    | error e => exact hnext _
    | ok r =>
      show (if r.status = 429 then sendRound request next retries else next (.ok r)).Anonymous
      split
      · exact ih
      · exact hnext _

/-- **Without a stored token no credentials are sent**, neither at first nor later on. -/
theorem execute_anonymous (api : ApiClient) (method path : String) (body : Option String)
    {answer : Except SessionError (Option AccessToken)} (h : ∀ token, answer ≠ .ok (some token)) :
    ((api.execute method path body).withToken answer).Anonymous := by
  cases answer with
  | error e => exact trivial
  | ok found =>
    cases found with
    | some token => exact absurd rfl (h token)
    | none =>
      have hrequest : (api.request method path body none).authorization? = none := rfl
      simp only [execute, Call.withToken]
      refine sendRound_anonymous hrequest (fun first => ?_) maxRateLimitRetries
      cases first with
      | error e => exact trivial
      | ok r =>
        simp only
        split
        · exact trivial
        · rename_i hstale _
          cases hstale
        · exact trivial

end ApiClient

end RedirectLogin
