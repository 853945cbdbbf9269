import RedirectLogin.Http.Message

/-!
# Exchanges

A server is whatever answers requests. It may decide by everything it was sent before, so a
statement about all servers is one about every sequence of answers. Requests that cannot be built
never get to it. What carries requests belongs to the server: an answer is what comes back in the
end, after redirects that were followed on the way, or the reason why nothing does.
-/

set_option autoImplicit false

namespace RedirectLogin

/-- A request on its way to the URL it goes to. -/
structure SentRequest where
  request : Request
  url : Url
  deriving DecidableEq

/-- Answers a request, given those before it. -/
abbrev Server := List SentRequest → SentRequest → Reply

namespace Server

/-- The server on a network that cannot be reached. -/
def unreachable : Server :=
  fun _ sent =>
    .error (.sending sent.url.text
      ["client error (Connect)", "tcp connect error", "Network is unreachable (os error 101)"])

/-- Send a request after those in `log`. -/
def exchange (server : Server) (log : List SentRequest) (request : Request) :
    Reply × List SentRequest :=
  match request.prepare with
  | .error e => (.error e, log)
  | .ok url => (server log ⟨request, url⟩, log ++ [⟨request, url⟩])

end Server

end RedirectLogin
