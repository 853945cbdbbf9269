import RedirectLogin.Failure
import RedirectLogin.Http.Message

/-!
# Errors of API calls

An API call fails with what the answer's status means, with a transport error, or with the session
error behind it. Bodies of failed answers are quoted up to 500 bytes, never splitting a character.

Principal results: `isBoundary_cutFrom` — a body can be cut where the search for such a place ends;
`cutFrom_le` — and that is not behind the place where it began.
-/

set_option autoImplicit false

namespace RedirectLogin

inductive ApiError where
  | accessDenied (body : String)
  | unauthorized
  | notFound (body : String)
  | rateLimited
  | serverError (body : String)
  | network (error : TransportError)
  | invalidResponse (reason : String)
  | session (error : SessionError)
  deriving DecidableEq, Repr

/-- How many bytes of a body a message quotes. -/
def maxErrorBody : Nat := 500

/-- Whether a text can be cut in front of its byte number `n`: at both ends, and where that byte
begins a character. -/
def isBoundary (bs : List UInt8) (n : Nat) : Bool :=
  n = 0 || n = bs.length || bs[n]?.any (fun b => !Text.isContinuation b)

/-- The first place where a text can be cut, from byte number `n` back. -/
def cutFrom (bs : List UInt8) : Nat → Nat
  | 0 => 0
  | n + 1 => if isBoundary bs (n + 1) then n + 1 else cutFrom bs n

theorem cutFrom_le (bs : List UInt8) (n : Nat) : cutFrom bs n ≤ n := by
  induction n with
  | zero => exact Nat.le_refl 0
  | succ n ih =>
    unfold cutFrom
    split
    · exact Nat.le_refl _
    · exact Nat.le_succ_of_le ih

theorem isBoundary_cutFrom (bs : List UInt8) (n : Nat) : isBoundary bs (cutFrom bs n) = true := by
  induction n with
  | zero => rfl
  | succ n ih =>
    unfold cutFrom
    split
    · assumption
    · exact ih

/-- The first `n` bytes of a text, if they are a text themselves. -/
def textBefore? (body : String) (n : Nat) : Option String :=
  (Text.decode? ((Text.bytes body).take n)).map String.ofList

/-- A body as a message quotes it. -/
def truncateBody (body : String) : String :=
  if body.utf8ByteSize ≤ maxErrorBody then body
  else
    (textBefore? body (cutFrom (Text.bytes body) maxErrorBody)).getD "" ++ "... (truncated, " ++
      toString body.utf8ByteSize ++ " total bytes)"

namespace ApiError

/-- The name of the kind of error. -/
def label : ApiError → String
  | .accessDenied _ => "AccessDenied"
  | .unauthorized => "Unauthorized"
  | .notFound _ => "NotFound"
  | .rateLimited => "RateLimited"
  | .serverError _ => "ServerError"
  | .network _ => "NetworkError"
  | .invalidResponse _ => "InvalidResponse"
  | .session _ => "Session"

def message : ApiError → String
  | .accessDenied body => "Access denied: " ++ body
  | .unauthorized => "Unauthorized - token may be expired"
  | .notFound body => "Resource not found: " ++ body
  | .rateLimited => "Rate limited - please wait before retrying"
  | .serverError body => "Server error: " ++ body
  | .network error => "Network error: " ++ error.message
  | .invalidResponse reason => "Invalid response: " ++ reason
  | .session error => error.message

/-- What a status that is no success means. -/
def ofStatus (status : Nat) (body : String) : ApiError :=
  if status = 401 then .unauthorized
  else if status = 403 then .accessDenied (truncateBody body)
  else if status = 404 then .notFound (truncateBody body)
  else if status = 429 then .rateLimited
  else if Http.isServerError status then .serverError (truncateBody body)
  else .invalidResponse ("Status " ++ Http.statusText status ++ ": " ++ truncateBody body)

def ofResponse (r : Response) : ApiError :=
  ofStatus r.status r.text

def sessionError? : ApiError → Option SessionError
  | .session e => some e
  | _ => none

end ApiError

end RedirectLogin
