import RedirectLogin.Coordinator.Basic

/-!
# Shared refreshes

Many callers may find at the same time that their token was refused. They share one refresh: the
first starts a *flight*, a task of its own that runs the two sections of a refresh with a request
between them, and later callers join the flight that is in the slot. A caller that gives up does
not stop the flight.

`Machine` is everything that runs side by side, and an `Event` is the smallest step of it that can
be told apart from outside: a caller arriving, a section of a flight, a caller seeing a result, a
caller leaving with it, a caller giving up, or any other section of the coordinator. Every
interleaving is a list of events; events that cannot happen leave the machine as it is.

Principal results: `call_joins`, `call_departs` — a caller joins the flight in the slot unless
somebody has seen its result, and else starts a new one.
-/

set_option autoImplicit false

namespace RedirectLogin.Coordinator

variable {σ : Type}

/-- Where the task of a flight stands. -/
inductive Phase where
  /-- Before its first section. -/
  | waiting
  /-- Between its sections: the backend has been asked. -/
  | requesting
  | finished (result : Except SessionError AccessToken)

/-- A refresh that callers share. -/
structure Flight where
  /-- The refused token of the caller that started it. -/
  stale : AccessToken
  /-- The refresh token it sent, once it sent one. -/
  sent : Option RefreshToken
  phase : Phase
  /-- Whether a caller has seen its result. -/
  observed : Bool

namespace Flight

/-- A flight at its start. -/
def start (stale : AccessToken) : Flight :=
  ⟨stale, none, .waiting, false⟩

def result? (f : Flight) : Option (Except SessionError AccessToken) :=
  match f.phase with
  | .finished result => some result
  | _ => none

/-- The flight after its first section. -/
def afterBegin (f : Flight) : RefreshStart → Flight
  | .finished result => { f with phase := .finished result }
  | .request token => { f with sent := some token, phase := .requesting }

end Flight

/-- A caller that asked for a refresh. -/
inductive Caller where
  | waiting (flight : Nat)
  /-- It has seen the result and is about to leave. -/
  | holding (flight : Nat) (result : Except SessionError AccessToken)
  | returned (result : Except SessionError AccessToken)
  | cancelled

/-- A coordinator with all flights and callers so far, numbered from zero. -/
structure Machine (σ : Type) where
  state : State σ
  flights : List Flight
  /-- The flight that a new caller may join. -/
  slot : Option Nat
  callers : List Caller

/-- A section that has nothing to do with flights. -/
inductive Operation where
  | status
  | beginLogin (redirect? : Option String)
  | handleCallback (event : CallbackEvent)
  | retry
  | logOut
  | currentToken
  deriving DecidableEq, Repr

/-- What an operation answers. -/
inductive Answer where
  | status (status : SessionStatus)
  | login (url : Except SessionError Url)
  | callback (outcome : Except SessionError LoginOutcome)
  | loggedOut (revoke : Except SessionError (Option AccessToken))
  | token (token : Except SessionError (Option AccessToken))

/-- Run an operation at the time `now`. -/
def Operation.run (c : Coordinator σ) (now : Timestamp) (s : State σ) : Operation → Answer × State σ
  | .status => let (r, s) := c.status now s; (.status r, s)
  | .beginLogin redirect? => let (r, s) := c.beginLogin redirect? now s; (.login r, s)
  | .handleCallback event => let (r, s) := c.handleCallback event now s; (.callback r, s)
  | .retry => let (r, s) := Coordinator.retry s; (.status r, s)
  | .logOut => let (r, s) := c.logOut s; (.loggedOut r, s)
  | .currentToken => let (r, s) := c.currentToken s; (.token r, s)

inductive Event where
  /-- A caller arrives with a refused token. -/
  | call (stale : AccessToken)
  /-- A flight runs its first section. -/
  | begin (flight : Nat)
  /-- The backend's answer arrives, and a flight runs its second section. -/
  | finish (flight : Nat) (outcome : Except RefreshFailure RefreshResponse) (now : Timestamp)
  /-- A caller sees that its flight has finished. -/
  | observe (caller : Nat)
  /-- A caller empties the slot, if its flight is still there, and returns. -/
  | leave (caller : Nat)
  /-- A caller gives up waiting. -/
  | cancel (caller : Nat)
  | operation (operation : Operation) (now : Timestamp)

namespace Machine

/-- A machine before any call. -/
def start (c : Coordinator σ) (stored : σ) : Machine σ where
  state := c.start stored
  flights := []
  slot := none
  callers := []

/-- The flight in the slot, unless somebody has seen its result. -/
def joinable? (m : Machine σ) : Option Nat :=
  m.slot.filter (fun i => m.flights[i]?.any (fun f => !f.observed))

/-- A caller arrives. Its number is the number of callers before it. -/
def call (m : Machine σ) (stale : AccessToken) : Machine σ :=
  match m.joinable? with
  | some i => { m with callers := m.callers ++ [.waiting i] }
  | none =>
    { m with
      flights := m.flights ++ [.start stale]
      slot := some m.flights.length
      callers := m.callers ++ [.waiting m.flights.length] }

theorem call_joins {m : Machine σ} {i : Nat} (stale : AccessToken) (h : m.joinable? = some i) :
    m.call stale = { m with callers := m.callers ++ [.waiting i] } := by
  simp [call, h]

theorem call_departs {m : Machine σ} (stale : AccessToken) (h : m.joinable? = none) :
    m.call stale =
      { m with
        flights := m.flights ++ [.start stale]
        slot := some m.flights.length
        callers := m.callers ++ [.waiting m.flights.length] } := by
  simp [call, h]

/-- Run the first section of a flight that has not run it. -/
def begin (c : Coordinator σ) (m : Machine σ) (flight : Nat) : Machine σ :=
  match m.flights[flight]? with
  | some f =>
    match f.phase with
    | .waiting =>
      let (start, state) := c.beginRefresh f.stale m.state
      { m with state := state, flights := m.flights.set flight (f.afterBegin start) }
    | _ => m
  | none => m

/-- Run the second section of a flight that waits for the backend. -/
def finish (c : Coordinator σ) (m : Machine σ) (flight : Nat)
    (outcome : Except RefreshFailure RefreshResponse) (now : Timestamp) : Machine σ :=
  match m.flights[flight]? with
  | some f =>
    match f.phase with
    | .requesting =>
      let (result, state) := c.endRefresh outcome now m.state
      { m with
        state := state
        flights := m.flights.set flight { f with phase := .finished result } }
    | _ => m
  | none => m

def observe (m : Machine σ) (caller : Nat) : Machine σ :=
  match m.callers[caller]? with
  | some (.waiting i) =>
    match m.flights[i]? with
    | some f =>
      match f.phase with
      | .finished result =>
        { m with
          flights := m.flights.set i { f with observed := true }
          callers := m.callers.set caller (.holding i result) }
      | _ => m
    | none => m
  | _ => m

def leave (m : Machine σ) (caller : Nat) : Machine σ :=
  match m.callers[caller]? with
  | some (.holding i result) =>
    { m with
      slot := if m.slot = some i then none else m.slot
      callers := m.callers.set caller (.returned result) }
  | _ => m

def cancel (m : Machine σ) (caller : Nat) : Machine σ :=
  match m.callers[caller]? with
  | some (.waiting _) => { m with callers := m.callers.set caller .cancelled }
  | _ => m

def operate (c : Coordinator σ) (m : Machine σ) (operation : Operation) (now : Timestamp) :
    Machine σ :=
  { m with state := (operation.run c now m.state).2 }

def step (c : Coordinator σ) (m : Machine σ) : Event → Machine σ
  | .call stale => m.call stale
  | .begin flight => m.begin c flight
  | .finish flight outcome now => m.finish c flight outcome now
  | .observe caller => m.observe caller
  | .leave caller => m.leave caller
  | .cancel caller => m.cancel caller
  | .operation operation now => m.operate c operation now

def run (c : Coordinator σ) (m : Machine σ) (events : List Event) : Machine σ :=
  events.foldl (step c) m

@[simp] theorem run_nil (c : Coordinator σ) (m : Machine σ) : m.run c [] = m := rfl

@[simp] theorem run_cons (c : Coordinator σ) (m : Machine σ) (e : Event) (es : List Event) :
    m.run c (e :: es) = (m.step c e).run c es := rfl

theorem run_append (c : Coordinator σ) (m : Machine σ) (es fs : List Event) :
    m.run c (es ++ fs) = (m.run c es).run c fs := by
  simp [run]

/-- The result a caller returned with. -/
def returned? (m : Machine σ) (caller : Nat) : Option (Except SessionError AccessToken) :=
  match m.callers[caller]? with
  | some (.returned result) => some result
  | _ => none

end Machine

end RedirectLogin.Coordinator
