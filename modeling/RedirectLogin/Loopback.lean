import RedirectLogin.Callback
import RedirectLogin.Store.Files

/-!
# The loopback listener

A listener on this machine that a browser is redirected to. Of what a connection sends, at most the
first 16384 bytes are read: a request line, then header lines up to a blank one. A `GET` for the
callback's path gets a page and ends the wait; everything else gets a 404.

Principal results: `readTarget_append` — nothing behind the first 16384 bytes matters.
-/

set_option autoImplicit false

namespace RedirectLogin.Loopback

/-- The path that the backend redirects to. -/
def callbackPath : String := "/callback"

/-- How many bytes of a request are read. -/
def headLimit : Nat := 16384

def originText (port : Nat) : String :=
  "http://127.0.0.1:" ++ toString port

/-- The redirect URI to ask the backend for. -/
def redirectUri (port : Nat) : String :=
  originText port ++ callbackPath

/-- A line up to and including its newline, and what follows. -/
def splitLine : List UInt8 → List UInt8 × List UInt8
  | [] => ([], [])
  | b :: bs =>
    if b = 10 then ([b], bs)
    else
      let (line, rest) := splitLine bs
      (b :: line, rest)

theorem splitLine_rest_length (bs : List UInt8) : (splitLine bs).2.length ≤ bs.length := by
  induction bs with
  | nil => simp [splitLine]
  | cons b bs ih =>
    unfold splitLine
    split
    · simp
    · simp only [List.length_cons]
      omega

theorem splitLine_rest_lt {bs : List UInt8} (hne : bs ≠ []) :
    (splitLine bs).2.length < bs.length := by
  cases bs with
  | nil => exact absurd rfl hne
  | cons b bs =>
    rw [splitLine]
    split
    · exact Nat.lt_succ_self _
    · exact Nat.lt_succ_of_le (splitLine_rest_length bs)

/-- A line as text. -/
def readLine (bs : List UInt8) : Except IoError (List Char) :=
  match Text.decode? (splitLine bs).1 with
  | some line => .ok line
  | none => .error .notText

/-- Read header lines up to a blank one or to the end. -/
def skipHeaders : List UInt8 → Except IoError Unit
  | [] => .ok ()
  | b :: bs => do
    let line ← readLine (b :: bs)
    if line.all Text.isBlank then .ok () else skipHeaders (splitLine (b :: bs)).2
termination_by bs => bs.length
decreasing_by
  unfold splitLine
  split
  · simp
  · have h := splitLine_rest_length bs
    simp only [List.length_cons]
    omega

/-- What a request line asks to get. -/
def targetOf? (line : List Char) : Option String :=
  match Text.words line with
  | verb :: target :: _ =>
    if verb = "GET".toList then some (String.ofList target) else none
  | _ => none

/-- The target of the request at the start of a byte stream that then ends. -/
def readTarget (stream : List UInt8) : Except IoError (Option String) := do
  let head := stream.take headLimit
  let line ← readLine head
  if line.getLast? ≠ some '\n' then .ok none
  else do
    skipHeaders (splitLine head).2
    .ok (targetOf? line)

theorem readTarget_append (stream more : List UInt8) (h : headLimit ≤ stream.length) :
    readTarget (stream ++ more) = readTarget stream := by
  unfold readTarget
  rw [List.take_append_of_le_length h]

def successPage : String :=
  "<html><body><h2>Login received</h2>" ++
    "<p>You can close this window and return to the application.</p></body></html>"

/-- An answer with an HTML body. -/
def responseText (status body : String) : String :=
  "HTTP/1.1 " ++ status ++ "\r\nContent-Type: text/html; charset=utf-8\r\nContent-Length: " ++
    toString body.utf8ByteSize ++ "\r\nConnection: close\r\n\r\n" ++ body

/-- Whether a target is taken for the callback. -/
def isCallback (target : String) : Bool :=
  callbackPath.toList.isPrefixOf target.toList

/-- What becomes of a connection. -/
inductive Served where
  /-- The request could not be read; nothing is answered. -/
  | dropped
  | notFound
  | callback (target : String)
  deriving DecidableEq, Repr

namespace Served

def ofStream (stream : List UInt8) : Served :=
  match readTarget stream with
  | .error _ => .dropped
  | .ok none => .notFound
  | .ok (some target) => if isCallback target then .callback target else .notFound

def response? : Served → Option String
  | .dropped => none
  | .notFound => some (responseText "404 Not Found" "Not Found")
  | .callback _ => some (responseText "200 OK" successPage)

def target? : Served → Option String
  | .callback target => some target
  | _ => none

end Served

/-- The event of a callback. -/
def event (port : Nat) (target : String) : CallbackEvent :=
  ⟨.loopback, originText port ++ target⟩

/-- The event of the first callback among connections served one after another; without one the
wait times out. -/
def waitForCallback (port : Nat) (streams : List (List UInt8)) :
    Except SessionError CallbackEvent :=
  match streams.findSome? (fun s => (Served.ofStream s).target?) with
  | some target => .ok (event port target)
  | none => .error .loginTimedOut

/-- A port that is in use cannot be listened on. -/
def portInUse : SessionError :=
  .network "Failed to bind callback listener: Address already in use (os error 98)"

end RedirectLogin.Loopback
