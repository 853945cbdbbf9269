import RedirectLogin.Url.Address
import RedirectLogin.Url.Form

/-!
# URLs

A URL taken apart. All texts are in their written form (percent-encoded, lower-case scheme), so
`text` only puts the parts together again. A URL has an authority (`//` and what follows) or not;
the host of an authority may be empty. A path is empty, starts with `/`, or, without authority, is
any text at all.

Principal results: `addPair_query` — adding a pair changes the query alone; `queryPairs` is the
decoded view of the query.
-/

set_option autoImplicit false

namespace RedirectLogin

/-- A host that is not empty. -/
inductive Host where
  | name (text : String)
  | ipv4 (address : Nat)
  | ipv6 (pieces : List Nat)
  deriving DecidableEq, Repr

def Host.text : Host → String
  | .name text => text
  | .ipv4 address => String.ofList (Ipv4.text address)
  | .ipv6 pieces => "[" ++ String.ofList (Ipv6.text pieces) ++ "]"

/-- What stands behind `//`. A port that is the default of its scheme is left out. -/
structure Authority where
  username : String
  password : Option String
  host : Option Host
  port : Option Nat
  deriving DecidableEq, Repr

structure Url where
  scheme : String
  authority : Option Authority
  path : String
  query : Option String
  fragment : Option String
  deriving DecidableEq, Repr

/-- Why a text is no URL. -/
inductive UrlProblem where
  | relative
  | emptyHost
  | badDomain
  | badPort
  | badIpv4
  | badIpv6
  | badHostCharacter
  deriving DecidableEq, Repr

def UrlProblem.message : UrlProblem → String
  | .relative => "relative URL without a base"
  | .emptyHost => "empty host"
  | .badDomain => "invalid international domain name"
  | .badPort => "invalid port number"
  | .badIpv4 => "invalid IPv4 address"
  | .badIpv6 => "invalid IPv6 address"
  | .badHostCharacter => "invalid domain character"

namespace Authority

def userinfoText (a : Authority) : String :=
  match a.password with
  | some password => a.username ++ ":" ++ password ++ "@"
  | none => if a.username.isEmpty then "" else a.username ++ "@"

def hostText (a : Authority) : String :=
  match a.host with
  | some host => host.text
  | none => ""

def portText (a : Authority) : String :=
  match a.port with
  | some port => ":" ++ toString port
  | none => ""

def text (a : Authority) : String :=
  a.userinfoText ++ a.hostText ++ a.portText

end Authority

namespace Url

def host (u : Url) : Option Host :=
  u.authority.bind Authority.host

/-- The host as text, if there is one. -/
def hostText? (u : Url) : Option String :=
  u.host.map Host.text

def port (u : Url) : Option Nat :=
  u.authority.bind Authority.port

/-- Scheme, host and port: what requests to this URL are sent to. -/
def origin (u : Url) : String × Option Host × Option Nat :=
  (u.scheme, u.host, u.port)

def isWeb (u : Url) : Bool :=
  u.scheme == "http" || u.scheme == "https"

/-- Everything in front of the path. A path that starts with `//` where no authority stands gets
`/.` before it, so that it is not read as one. -/
def frontText (u : Url) : String :=
  match u.authority with
  | some a => u.scheme ++ "://" ++ a.text
  | none => u.scheme ++ ":" ++ (if u.path.startsWith "//" then "/." else "")

def queryText (u : Url) : String :=
  match u.query with
  | some q => "?" ++ q
  | none => ""

def fragmentText (u : Url) : String :=
  match u.fragment with
  | some f => "#" ++ f
  | none => ""

def text (u : Url) : String :=
  u.frontText ++ u.path ++ u.queryText ++ u.fragmentText

/-- The decoded pairs of the query. -/
def queryPairs (u : Url) : List (String × String) :=
  Form.parse (u.query.getD "")

/-- The decoded pairs of the fragment, read as if it were a query. -/
def fragmentPairs (u : Url) : List (String × String) :=
  Form.parse (u.fragment.getD "")

/-- Append a pair to the query, which is created if need be. -/
def addPair (u : Url) (name value : String) : Url :=
  let pair := String.ofList (Form.writePair name value)
  match u.query with
  | none => { u with query := some pair }
  | some q => { u with query := some (if q.isEmpty then pair else q ++ "&" ++ pair) }

/-- Adding a pair leaves all but the query alone. -/
theorem addPair_query (u : Url) (name value : String) :
    ∃ q, u.addPair name value = { u with query := some q } := by
  unfold addPair
  split
  · exact ⟨_, rfl⟩
  · exact ⟨_, rfl⟩

end Url

end RedirectLogin
