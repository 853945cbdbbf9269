import RedirectLogin.Loopback

/-!
# The listener at work

Every connection is served by a task of its own, so that a silent one holds nobody up. A task reads
until it has the head of a request or its time is up, and answers. If the request is for the callback,
it then hands the target over, through a channel that has room for one. The listener returns with the
first target that it takes out, or with an error: if no further connection can be accepted, or when
its own time is up. From then on nothing is accepted, and what tasks still hand over is lost.

`Listener` is everything that runs side by side, and an `Event` the smallest step of it that can be
told apart from outside. Every interleaving is a list of events; events that cannot happen leave the
listener as it is. How long things take is left open: a task may run out of time whenever it reads, and
the listener whenever it waits.
-/

set_option autoImplicit false

namespace RedirectLogin.Loopback

/-- Whether header lines have come to their end: to a blank line, or to one that is not text. -/
def endHeaders : List UInt8 → Bool
  | [] => false
  | b :: bs =>
    if (splitLine (b :: bs)).1.getLast? = some 10 then
      match Text.decode? (splitLine (b :: bs)).1 with
      | none => true
      | some line => line.all Text.isBlank || endHeaders (splitLine (b :: bs)).2
    else false
termination_by bs => bs.length
decreasing_by exact splitLine_rest_lt (List.cons_ne_nil b bs)

/-- Whether a task has all that it reads: up to the limit, or up to the end of the header lines. -/
def isWhole (arrived : List UInt8) : Bool :=
  headLimit ≤ arrived.length ||
    ((splitLine arrived).1.getLast? = some 10 &&
      ((Text.decode? (splitLine arrived).1).isNone || endHeaders (splitLine arrived).2))

/-- Where the task of a connection stands. -/
inductive Stage where
  | reading
  /-- The page is sent, and the target is to be handed over. -/
  | handing (target : String)
  | done (served : Served)
  deriving DecidableEq, Repr

structure Connection where
  /-- What has arrived while the task was reading. -/
  arrived : List UInt8
  /-- Whether the peer has closed its side. -/
  closed : Bool
  stage : Stage
  deriving DecidableEq, Repr

namespace Connection

/-- A connection that was just accepted. -/
def start : Connection :=
  ⟨[], false, .reading⟩

/-- What became of the connection, once it is answered or dropped. -/
def served? (c : Connection) : Option Served :=
  match c.stage with
  | .reading => none
  | .handing target => some (.callback target)
  | .done served => some served

/-- The target that is to be handed over. -/
def target? (c : Connection) : Option String :=
  match c.stage with
  | .handing target => some target
  | _ => none

def arrive (bytes : List UInt8) (c : Connection) : Connection :=
  if c.stage = .reading ∧ c.closed = false then { c with arrived := c.arrived ++ bytes } else c

def close (c : Connection) : Connection :=
  { c with closed := true }

/-- Whether there is nothing more to read. -/
def isRead (c : Connection) : Bool :=
  c.closed || isWhole c.arrived

/-- Answer what was read. -/
def answer (c : Connection) : Connection :=
  if c.stage = .reading ∧ c.isRead = true then
    match Served.ofStream c.arrived with
    | .callback target => { c with stage := .handing target }
    | served => { c with stage := .done served }
  else c

/-- Give up reading. -/
def expire (c : Connection) : Connection :=
  if c.stage = .reading then { c with stage := .done .dropped } else c

/-- The target is handed over, or nobody is there to take it. -/
def finish (c : Connection) : Connection :=
  match c.stage with
  | .handing target => { c with stage := .done (.callback target) }
  | _ => c

end Connection

structure Listener where
  port : Nat
  /-- All connections so far, numbered from zero. -/
  connections : List Connection
  /-- The target in the channel. -/
  channel : Option String
  /-- What was returned. -/
  result? : Option (Except SessionError CallbackEvent)

namespace Listener

inductive Event where
  /-- A connection is accepted. -/
  | accept
  | acceptFails (reason : String)
  | arrive (connection : Nat) (bytes : List UInt8)
  | close (connection : Nat)
  | answer (connection : Nat)
  | expire (connection : Nat)
  /-- A task hands its target over. -/
  | hand (connection : Nat)
  /-- The listener takes a target out of the channel, and returns. -/
  | take
  | timeOut

def start (port : Nat) : Listener :=
  ⟨port, [], none, none⟩

def accept (l : Listener) : Listener :=
  match l.result? with
  | none => { l with connections := l.connections ++ [.start] }
  | some _ => l

@[simp] theorem accept_port (l : Listener) : l.accept.port = l.port := by
  unfold accept
  split <;> rfl

/-- Return with an error, unless the listener has returned. -/
def fail (l : Listener) (e : SessionError) : Listener :=
  match l.result? with
  | none => { l with result? := some (.error e) }
  | some _ => l

@[simp] theorem fail_port (l : Listener) (e : SessionError) : (l.fail e).port = l.port := by
  unfold fail
  split <;> rfl

/-- Change one connection. -/
def update (l : Listener) (connection : Nat) (f : Connection → Connection) : Listener :=
  { l with connections := l.connections.modify connection f }

@[simp] theorem update_port (l : Listener) (connection : Nat) (f : Connection → Connection) :
    (l.update connection f).port = l.port := rfl

/-- Hand a target over if there is room in the channel. Once the listener has returned, targets are
lost. -/
def hand (l : Listener) (connection : Nat) : Listener :=
  match l.connections[connection]?.bind Connection.target? with
  | none => l
  | some target =>
    match l.result?, l.channel with
    | some _, _ => l.update connection .finish
    | none, none => { l.update connection .finish with channel := some target }
    | none, some _ => l

@[simp] theorem hand_port (l : Listener) (connection : Nat) :
    (l.hand connection).port = l.port := by
  unfold hand
  split
  · rfl
  · split <;> rfl

def take (l : Listener) : Listener :=
  match l.result?, l.channel with
  | none, some target =>
    { l with channel := none, result? := some (.ok (Loopback.event l.port target)) }
  | _, _ => l

@[simp] theorem take_port (l : Listener) : l.take.port = l.port := by
  unfold take
  split <;> rfl

def step (l : Listener) : Event → Listener
  | .accept => l.accept
  | .acceptFails reason => l.fail (.network ("Callback listener accept failed: " ++ reason))
  | .arrive connection bytes => l.update connection (.arrive bytes)
  | .close connection => l.update connection .close
  | .answer connection => l.update connection .answer
  | .expire connection => l.update connection .expire
  | .hand connection => l.hand connection
  | .take => l.take
  | .timeOut => l.fail .loginTimedOut

def run (l : Listener) (events : List Event) : Listener :=
  events.foldl step l

@[simp] theorem run_nil (l : Listener) : l.run [] = l := rfl

@[simp] theorem run_cons (l : Listener) (e : Event) (es : List Event) :
    l.run (e :: es) = (l.step e).run es := rfl

theorem run_append (l : Listener) (es fs : List Event) : l.run (es ++ fs) = (l.run es).run fs := by
  simp [run]

end Listener

end RedirectLogin.Loopback
