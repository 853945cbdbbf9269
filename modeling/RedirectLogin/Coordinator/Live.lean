import RedirectLogin.Api.Client
import RedirectLogin.Coordinator.Flight
import RedirectLogin.Http.Exchange

/-!
# A coordinator at work

`Client` puts a coordinator together with the server behind it. What it does is a sequence of the
machine's events with requests between them, at the times a clock shows. Flights run to their end
before anything else happens; callers that arrive together share one.
-/

set_option autoImplicit false

namespace RedirectLogin

open Coordinator (Machine State)

/-- A machine, the requests sent so far and the clock. -/
structure Live (σ : Type) where
  machine : Machine σ
  sent : List SentRequest
  clock : Timestamp

namespace Live

variable {σ : Type}

/-- Nanoseconds between two readings of the clock. -/
def tickNanos : Int := 1000

/-- Read the clock, which then moves on. -/
def tick (l : Live σ) : Timestamp × Live σ :=
  (l.clock, { l with clock := .ofNanos (l.clock.since ⟨0, 0⟩ + tickNanos) })

/-- Run one section at the time the clock shows. -/
def atomically {α : Type} (step : Timestamp → State σ → α × State σ) (l : Live σ) :
    α × Live σ :=
  let (now, l) := l.tick
  let (a, state) := step now l.machine.state
  (a, { l with machine := { l.machine with state := state } })

def session (l : Live σ) : Session :=
  l.machine.state.session

def stored (l : Live σ) : σ :=
  l.machine.state.stored

/-- Change what the store works on, from outside. -/
def withStored (l : Live σ) (stored : σ) : Live σ :=
  { l with machine := { l.machine with state := { l.machine.state with stored := stored } } }

/-- A caller arrives, and returns at once if its flight is over. -/
def arrive (l : Live σ) (stale : AccessToken) : Live σ :=
  let caller := l.machine.callers.length
  { l with machine := ((l.machine.call stale).observe caller).leave caller }

/-- A caller whose flight is over returns. -/
def depart (l : Live σ) (caller : Nat) : Live σ :=
  { l with machine := (l.machine.observe caller).leave caller }

end Live

/-- A coordinator and the server it talks to. -/
structure Client (σ : Type) where
  coordinator : Coordinator σ
  server : Server

namespace Client

variable {σ : Type}

def ofConfig [Application] (c : Config) (store : TokenStore σ) (server : Server) : Client σ :=
  ⟨.ofConfig c store, server⟩

/-- Start on what a store holds. -/
def start (client : Client σ) (stored : σ) (clock : Timestamp) : Live σ where
  machine := Machine.start client.coordinator stored
  sent := []
  clock := clock

def send (client : Client σ) (request : Request) (l : Live σ) : Reply × Live σ :=
  let (reply, sent) := client.server.exchange l.sent request
  (reply, { l with sent := sent })

def status (client : Client σ) (l : Live σ) : SessionStatus × Live σ :=
  l.atomically client.coordinator.status

def retry (_client : Client σ) (l : Live σ) : SessionStatus × Live σ :=
  l.atomically (fun _ => Coordinator.retry)

def beginLogin (client : Client σ) (redirect? : Option String) (l : Live σ) :
    Except SessionError Url × Live σ :=
  l.atomically (client.coordinator.beginLogin redirect?)

def handleCallback (client : Client σ) (event : CallbackEvent) (l : Live σ) :
    Except SessionError LoginOutcome × Live σ :=
  l.atomically (client.coordinator.handleCallback event)

def currentToken (client : Client σ) (l : Live σ) :
    Except SessionError (Option AccessToken) × Live σ :=
  l.atomically (fun _ => client.coordinator.currentToken)

/-- Whether the store holds a token. -/
def isSessionValid (client : Client σ) (l : Live σ) : Except SessionError Bool × Live σ :=
  let (token, l) := client.currentToken l
  (token.map Option.isSome, l)

/-- Log out here, then ask the backend to revoke the token; its answer does not matter. -/
def logOut (client : Client σ) (l : Live σ) : Except SessionError Unit × Live σ :=
  match l.atomically (fun _ => client.coordinator.logOut) with
  | (.error e, l) => (.error e, l)
  | (.ok none, l) => (.ok (), l)
  | (.ok (some token), l) =>
    (.ok (), (client.send (client.coordinator.backend.revokeRequest token) l).2)

/-- Ask the backend whether it accepts a token. -/
def validate (client : Client σ) (token : AccessToken) (l : Live σ) :
    Except ApiError Bool × Live σ :=
  let (reply, l) := client.send (client.coordinator.backend.validateRequest token) l
  (Backend.readValidate reply, l)

/-- Ask the backend whether it accepts the stored token. -/
def validateRemote (client : Client σ) (l : Live σ) : Except SessionError Bool × Live σ :=
  match client.currentToken l with
  | (.error e, l) => (.error e, l)
  | (.ok none, l) => (.ok false, l)
  | (.ok (some token), l) =>
    let (accepted, l) := client.validate token l
    (accepted.mapError (fun e => .network e.message), l)

/-- Send a refresh token. -/
def requestRefresh (client : Client σ) (token : RefreshToken) (l : Live σ) :
    Except RefreshFailure RefreshResponse × Live σ :=
  let (reply, l) := client.send (client.coordinator.backend.refreshRequest token) l
  (Backend.readRefresh reply, l)

/-- Ask the backend on behalf of a flight, and take in its answer. -/
def ask (client : Client σ) (flight : Nat) (l : Live σ) : Live σ :=
  match l.machine.flights[flight]?.bind Coordinator.Flight.sent with
  | none => l
  | some token =>
    let (outcome, l) := client.requestRefresh token l
    let (now, l) := l.tick
    { l with machine := l.machine.finish client.coordinator flight outcome now }

/-- Run a flight that has not begun to its end. -/
def fly (client : Client σ) (l : Live σ) (flight : Nat) : Live σ :=
  match l.machine.flights[flight]?.map Coordinator.Flight.phase with
  | some .waiting =>
    client.ask flight { l with machine := l.machine.begin client.coordinator flight }
  | _ => l

/-- Run all flights to their ends. -/
def settle (client : Client σ) (l : Live σ) : Live σ :=
  (List.range l.machine.flights.length).foldl client.fly l

/-- Callers that arrive together; their results in the order of their arrival. -/
def refreshAll (client : Client σ) (stales : List AccessToken) (l : Live σ) :
    List (Except SessionError AccessToken) × Live σ :=
  let callers := List.range' l.machine.callers.length stales.length
  let l := callers.foldl Live.depart (client.settle (stales.foldl Live.arrive l))
  (callers.filterMap l.machine.returned?, l)

/-- One caller that waits for its result. -/
def refresh (client : Client σ) (stale : AccessToken) (l : Live σ) :
    Except SessionError AccessToken × Live σ :=
  let (results, l) := client.refreshAll [stale] l
  (results.headD (.error .sessionExpired), l)

/-- Carry out a call to the API. -/
def runCall {α : Type} (client : Client σ) : Call α → Live σ → α × Live σ
  | .done a, l => (a, l)
  | .token next, l =>
    let (token, l) := client.currentToken l
    client.runCall (next token) l
  | .send request next, l =>
    let (reply, l) := client.send request l
    client.runCall (next reply) l
  | .refresh stale next, l =>
    let (fresh, l) := client.refresh stale l
    client.runCall (next fresh) l

end Client

end RedirectLogin
