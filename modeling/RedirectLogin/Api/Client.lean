import RedirectLogin.Api.Backend

/-!
# Calls to the API

Every request carries the token the store holds. A 401 on a first request that carried a token buys
one refresh and one more round; a 429 is sent again up to three times per round.

`Call` is what a call does, as a tree: it asks for the stored token, sends requests and asks for a
refresh, and goes on with whatever answer comes. Who gives the answers is left open, so the same
tree is run against a network and reasoned about against every sequence of answers.
-/

set_option autoImplicit false

namespace RedirectLogin

/-- What becomes of a response. -/
inductive Verdict where
  | success
  | retryWithRefresh
  | fail (status : Nat)
  deriving DecidableEq, Repr

/-- Only a 401 on a first attempt that carried a token is worth a refresh. -/
def classify (status : Nat) (retried attached : Bool) : Verdict :=
  if Http.isSuccess status then .success
  else if status = 401 ∧ attached ∧ !retried then .retryWithRefresh
  else .fail status

/-- A call in progress. -/
inductive Call (α : Type) where
  | done (result : α)
  | token (next : Except SessionError (Option AccessToken) → Call α)
  | send (request : Request) (next : Reply → Call α)
  | refresh (stale : AccessToken) (next : Except SessionError AccessToken → Call α)

/-- The same call with its result changed. -/
def Call.map {α β : Type} (f : α → β) : Call α → Call β
  | .done a => .done (f a)
  | .token next => .token (fun t => (next t).map f)
  | .send request next => .send request (fun r => (next r).map f)
  | .refresh stale next => .refresh stale (fun t => (next t).map f)

structure ApiClient where
  baseUrl : String
  deriving DecidableEq, Repr

namespace ApiClient

/-- How often a request is sent again after a 429. -/
def maxRateLimitRetries : Nat := 3

def ofConfig (c : Config) : ApiClient :=
  ⟨c.apiBaseUrl⟩

def withoutFrontSlashes (s : String) : String :=
  String.ofList (s.toList.dropWhile (· = '/'))

/-- One slash joins base and path. -/
def url (c : ApiClient) (path : String) : String :=
  Config.withoutEndSlashes c.baseUrl ++ "/" ++ withoutFrontSlashes path

def request (c : ApiClient) (method path : String) (body : Option String)
    (token : Option AccessToken) : Request where
  method := method
  url := c.url path
  bearer := token.map AccessToken.value
  acceptsJson := true
  body := body

/-- Send a request, again after each 429 while retries are left. -/
def sendRound {α : Type} (request : Request) (next : Except ApiError Response → Call α) :
    Nat → Call α
  | 0 => .send request fun reply =>
    match reply with
    | .error e => next (.error (.network e))
    | .ok r => next (if r.status = 429 then .error .rateLimited else .ok r)
  | retries + 1 => .send request fun reply =>
    match reply with
    | .error e => next (.error (.network e))
    | .ok r => if r.status = 429 then sendRound request next retries else next (.ok r)

/-- A call up to its successful response. -/
def execute (c : ApiClient) (method path : String) (body : Option String) :
    Call (Except ApiError Response) :=
  .token fun stored =>
    match stored with
    | .error e => .done (.error (.session e))
    | .ok token =>
      sendRound (c.request method path body token) (fun first =>
        match first with
        | .error e => .done (.error e)
        | .ok r =>
          match token, classify r.status false token.isSome with
          | _, .success => .done (.ok r)
          | some stale, .retryWithRefresh =>
            .refresh stale fun refreshed =>
              match refreshed with
              | .error e => .done (.error (.session e))
              | .ok fresh =>
                sendRound (c.request method path body (some fresh)) (fun second =>
                  match second with
                  | .error e => .done (.error e)
                  | .ok r =>
                    if classify r.status true true = .success then .done (.ok r)
                    else .done (.error (.ofResponse r))) maxRateLimitRetries
          | _, _ => .done (.error (.ofResponse r))) maxRateLimitRetries

/-- The JSON document in a response. -/
def readJson (path : String) : Except ApiError Response → Except ApiError Json
  | .error e => .error e
  | .ok r =>
    match r.json Json.asDocument with
    | .ok j => .ok j
    | .error e =>
      .error (.invalidResponse ("Failed to parse JSON from " ++ path ++ ": " ++ e.message))

def getJson (c : ApiClient) (path : String) : Call (Except ApiError Json) :=
  (c.execute "GET" path none).map (readJson path)

def postJson (c : ApiClient) (path body : String) : Call (Except ApiError Json) :=
  (c.execute "POST" path (some body)).map (readJson path)

def delete (c : ApiClient) (path : String) : Call (Except ApiError Unit) :=
  (c.execute "DELETE" path none).map (fun r => r.map (fun _ => ()))

end ApiClient

end RedirectLogin
