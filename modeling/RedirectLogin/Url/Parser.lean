import RedirectLogin.Text.Blank
import RedirectLogin.Url.Basic
import RedirectLogin.Url.Domain

/-!
# Reading URLs

`Url.parse` follows the rules of the URL standard for absolute URLs. The text is first cleaned:
controls and spaces at its ends, tabs and line ends anywhere are dropped. Then it is taken apart
from left to right: scheme, authority, path, query, fragment. The authority ends at the first
`/`, `?` or `#` (and, for special schemes, a backslash); so what is appended behind one of these
never changes it.
-/

set_option autoImplicit false

namespace RedirectLogin

namespace Url

/-- How a scheme is treated: the web-like ones need a host and read backslashes as slashes. -/
inductive SchemeKind where
  | web
  | file
  | other
  deriving DecidableEq, Repr

def SchemeKind.ofScheme (scheme : List Char) : SchemeKind :=
  let s := String.ofList scheme
  if s = "file" then .file
  else if s = "http" ∨ s = "https" ∨ s = "ws" ∨ s = "wss" ∨ s = "ftp" then .web
  else .other

def SchemeKind.isSpecial : SchemeKind → Bool
  | .other => false
  | _ => true

def defaultPort? (scheme : List Char) : Option Nat :=
  let s := String.ofList scheme
  if s = "http" ∨ s = "ws" then some 80
  else if s = "https" ∨ s = "wss" then some 443
  else if s = "ftp" then some 21
  else none

/-- The characters of a URL text that count. -/
def clean (cs : List Char) : List Char :=
  (Text.trimWhile (fun c => c.toNat ≤ 0x20) cs).filter
    (fun c => !(c = '\t' || c = '\n' || c = '\r'))

def isSchemeChar (c : Char) : Bool :=
  ('a' ≤ c && c ≤ 'z') || ('A' ≤ c && c ≤ 'Z') || ('0' ≤ c && c ≤ '9') ||
    c = '+' || c = '-' || c = '.'

def isLetter (c : Char) : Bool :=
  ('a' ≤ c && c ≤ 'z') || ('A' ≤ c && c ≤ 'Z')

/-- The scheme in lower case, and what is behind its colon. -/
def splitScheme (cs : List Char) : Option (List Char × List Char) :=
  match cs.dropWhile isSchemeChar with
  | ':' :: rest =>
    let scheme := cs.takeWhile isSchemeChar
    if scheme.head?.any isLetter then some (scheme.map Domain.lowerAscii, rest) else none
  | _ => none

def isSlash (kind : SchemeKind) (c : Char) : Bool :=
  c = '/' || (kind.isSpecial && c = '\x5c')

/-- Whether a character ends the authority. -/
def endsAuthority (kind : SchemeKind) (c : Char) : Bool :=
  isSlash kind c || c = '?' || c = '#'

/-- What is in front of the last at sign, and what is behind it. -/
def splitLastAt (cs : List Char) : Option (List Char × List Char) :=
  if cs.contains '@' then
    some ((cs.reverse.dropWhile (· ≠ '@')).drop 1 |>.reverse,
      (cs.reverse.takeWhile (· ≠ '@')).reverse)
  else none

/-- User name and password in their written form. An empty password is none. -/
def readUserinfo (cs : List Char) : String × Option String :=
  let username := cs.takeWhile (· ≠ ':')
  let password := (cs.dropWhile (· ≠ ':')).drop 1
  let written := fun part => String.ofList (Percent.encodeWith Percent.inUserinfoSet part)
  (written username, if password.isEmpty then none else some (written password))

/-- The host text: up to a colon outside square brackets. -/
def splitHost : Bool → List Char → List Char × List Char
  | _, [] => ([], [])
  | inside, c :: cs =>
    if c = ':' && !inside then ([], c :: cs)
    else
      let (host, rest) := splitHost (if c = '[' then true else if c = ']' then false else inside) cs
      (c :: host, rest)

/-- An address in square brackets. -/
def readBracketed (cs : List Char) : Except UrlProblem Host :=
  if cs.getLast? = some ']' ∧ 2 ≤ cs.length then
    match Ipv6.parse? ((cs.drop 1).dropLast) with
    | some pieces => .ok (.ipv6 pieces)
    | none => .error .badIpv6
  else .error .badIpv6

/-- Characters that the host of a scheme without rules of its own may not hold. -/
def isForbiddenInHost (c : Char) : Bool :=
  c.toNat = 0 || c = '\t' || c = '\n' || c = '\r' || c = ' ' || c = '#' || c = '/' || c = ':' ||
    c = '<' || c = '>' || c = '?' || c = '@' || c = '[' || c = '\x5c' || c = ']' ||
    c = '^' || c = '|'

/-- The host of a special scheme: an address or a domain. -/
def readSpecialHost (cs : List Char) : Except UrlProblem Host :=
  if cs.head? = some '[' then readBracketed cs
  else
    match Domain.toAscii? (Percent.decode (Text.encode cs)) with
    | none => .error .badDomain
    | some domain =>
      if domain.isEmpty then .error .emptyHost
      else
        let labels := Domain.splitLabels domain
        if Ipv4.endsInNumber labels then
          match Ipv4.ofLabels? labels with
          | some address => .ok (.ipv4 address)
          | none => .error .badIpv4
        else .ok (.name (String.ofList domain))

/-- The host of any other scheme: an address in brackets, or text that is only percent-encoded. -/
def readPlainHost (cs : List Char) : Except UrlProblem (Option Host) :=
  if cs.head? = some '[' then (readBracketed cs).map some
  else if cs.any isForbiddenInHost then .error .badHostCharacter
  else if cs.isEmpty then .ok none
  else .ok (some (.name (String.ofList (Percent.encodeWith Percent.isControl cs))))

def readHost (kind : SchemeKind) (cs : List Char) : Except UrlProblem (Option Host) :=
  if kind.isSpecial then
    if cs.isEmpty then .error .emptyHost else (readSpecialHost cs).map some
  else readPlainHost cs

/-- The digits of a port, and what follows them. Leading zeros do not count. -/
def readPort (cs : List Char) : Except UrlProblem (Option Nat × List Char) :=
  let ds := cs.takeWhile (fun c => '0' ≤ c && c ≤ '9')
  let n := ds.foldl (fun n c => n * 10 + (c.toNat - 48)) 0
  let rest := cs.dropWhile (fun c => '0' ≤ c && c ≤ '9')
  if 65535 < n then .error .badPort
  else
    match rest with
    | c :: _ =>
      if c = '/' || c = '\x5c' || c = '?' || c = '#' then
        .ok (if ds.isEmpty then none else some n, rest)
      else .error .badPort
    | [] => .ok (if ds.isEmpty then none else some n, [])

/-- The authority at the front of the text, and what is behind it. -/
def readAuthority (kind : SchemeKind) (scheme : List Char) (cs : List Char) :
    Except UrlProblem (Authority × List Char) := do
  let front := cs.takeWhile (fun c => !endsAuthority kind c)
  let behind := cs.dropWhile (fun c => !endsAuthority kind c)
  let (userinfo, hostPort) := (splitLastAt front).getD ([], front)
  if front.head? = some '@' ∧ userinfo.isEmpty ∧ hostPort.isEmpty ∧ !behind.isEmpty then
    .error .emptyHost
  else
    let (username, password) := readUserinfo userinfo
    let (hostCs, portCs) := splitHost false hostPort
    let host ← readHost kind hostCs
    if host.isNone ∧ !portCs.isEmpty then .error .emptyHost
    else
      let (port, rest) ← (match portCs with
        | _ :: digits => readPort (digits ++ behind)
        | [] => .ok (none, behind))
      let port := if port = defaultPort? scheme then none else port
      if host.isNone ∧ (!username.isEmpty ∨ password.isSome) then .error .emptyHost
      else .ok (⟨username, password, host, port⟩, rest)

/-- Pieces of a text between the characters that satisfy `p`; always at least one. -/
def splitOnChar (p : Char → Bool) : List Char → List (List Char)
  | [] => [[]]
  | c :: cs =>
    if p c then [] :: splitOnChar p cs
    else
      match splitOnChar p cs with
      | piece :: pieces => (c :: piece) :: pieces
      | [] => [[c]]

/-- A full stop, plain or percent-encoded, at the front. -/
def dropDot : List Char → Option (List Char)
  | '.' :: rest => some rest
  | '%' :: '2' :: e :: rest => if e = 'e' || e = 'E' then some rest else none
  | _ => none

def isSingleDot (segment : List Char) : Bool :=
  dropDot segment = some []

def isDoubleDot (segment : List Char) : Bool :=
  (dropDot segment).any isSingleDot

/-- A letter and a colon or bar: the name of a drive. -/
def isDrive (segment : List Char) : Bool :=
  match segment with
  | [c, d] => isLetter c && (d = ':' || d = '|')
  | _ => false

/-- A segment that names a drive, perhaps with a backslash behind it. No dot segment removes it. -/
def startsWithDrive (segment : List Char) : Bool :=
  isDrive segment || (isDrive (segment.take 2) && segment[2]? = some '\x5c')

/-- A path while its dot segments are being resolved. -/
structure Resolving where
  /-- The segments so far, the last one first. -/
  done : List (List Char)
  /-- Whether the path of a file begins with a drive. -/
  onDrive : Bool

/-- Take in the next segment; a dot segment at the end leaves an empty one. -/
def Resolving.push (kind : SchemeKind) (r : Resolving) (segment : List Char) (isLast : Bool) :
    Resolving :=
  let close := fun done : List (List Char) => if isLast then [] :: done else done
  if isDoubleDot segment then
    match r.done with
    | [] => { r with done := close [] }
    | last :: done => { r with done := close (if startsWithDrive last then last :: done else done) }
  else if isSingleDot segment then { r with done := close r.done }
  else if kind = .file ∧ r.done.isEmpty ∧ isDrive segment then
    ⟨[segment.take 1 ++ [':']], true⟩
  else { r with done := Percent.encodeWith Percent.inPathSet segment :: r.done }

/-- Resolve all segments. -/
def resolveSegments (kind : SchemeKind) (r : Resolving) : List (List Char) → Resolving
  | [] => r
  | segment :: rest => resolveSegments kind (r.push kind segment rest.isEmpty) rest

/-- The path of the segments behind the first slash, and whether it begins with a drive. In the path
of a file, empty segments at the front do not count. -/
def writePath (kind : SchemeKind) (segments : List (List Char)) : List Char × Bool :=
  let resolved := resolveSegments kind ⟨[], false⟩ segments
  let written := resolved.done.reverse
  let written := if kind = .file then
      (match written.dropWhile List.isEmpty with
        | [] => [[]]
        | kept => kept)
    else written
  (written.flatMap (fun segment => '/' :: segment), resolved.onDrive)

/-- The segments of a path text. -/
def splitPath (kind : SchemeKind) (cs : List Char) : List (List Char) :=
  splitOnChar (isSlash kind) cs

/-- A text without the slash at its front, if there is one. -/
def dropSlash (kind : SchemeKind) (cs : List Char) : List Char :=
  match cs with
  | c :: rest => if isSlash kind c then rest else c :: rest
  | [] => []

/-- The path text behind an authority. A special URL always has a path; elsewhere a missing path
stays missing. -/
def readPath (kind : SchemeKind) (cs : List Char) : List Char :=
  if cs.isEmpty ∧ !kind.isSpecial then []
  else (writePath kind (splitPath kind (dropSlash kind cs))).1

/-- Query and fragment at the end of the text. -/
def readQueryFragment (kind : SchemeKind) (cs : List Char) : Option String × Option String :=
  let query := match cs with
    | '?' :: rest =>
      let set := if kind.isSpecial then Percent.inSpecialQuerySet else Percent.inQuerySet
      some (String.ofList (Percent.encodeWith set (rest.takeWhile (· ≠ '#'))))
    | _ => none
  let fragment := match cs.dropWhile (· ≠ '#') with
    | _ :: rest => some (String.ofList (Percent.encodeWith Percent.inFragmentSet rest))
    | [] => none
  (query, fragment)

def isPathChar (c : Char) : Bool :=
  !(c = '?' || c = '#')

/-- Path, query and fragment behind an authority. -/
def finish (kind : SchemeKind) (scheme : List Char) (authority : Option Authority)
    (cs : List Char) : Url :=
  let path := readPath kind (cs.takeWhile isPathChar)
  let (query, fragment) := readQueryFragment kind (cs.dropWhile isPathChar)
  ⟨String.ofList scheme, authority, String.ofList path, query, fragment⟩

/-- The URL of a file, given its host and the text behind the slash that begins its path. A path on
a drive belongs to no host. -/
def finishFile (host : Option Host) (cs : List Char) : Url :=
  let (path, onDrive) := writePath .file (splitPath .file (cs.takeWhile isPathChar))
  let (query, fragment) := readQueryFragment .file (cs.dropWhile isPathChar)
  let host := if onDrive then none else host
  ⟨"file", some ⟨"", none, host, none⟩, String.ofList path, query, fragment⟩

/-- The URL of a file: an optional host behind two slashes, where `localhost` and a drive count as
none. Where such a host is missing, the slash behind it begins an empty segment. -/
def readFile (cs : List Char) : Except UrlProblem Url :=
  match cs with
  | a :: b :: rest =>
    if isSlash .file a && isSlash .file b then
      let hostCs := rest.takeWhile (fun c => !endsAuthority .file c)
      let behind := rest.dropWhile (fun c => !endsAuthority .file c)
      if isDrive hostCs then .ok (finishFile none rest)
      else if hostCs.isEmpty then .ok (finishFile none behind)
      else do
        let host ← readSpecialHost hostCs
        if host = .name "localhost" then .ok (finishFile none behind)
        else .ok (finishFile (some host) (dropSlash .file behind))
    else .ok (finishFile none (dropSlash .file cs))
  | cs => .ok (finishFile none (dropSlash .file cs))

/-- A URL without authority: a path with segments if it starts with a slash, else any text. -/
def readBare (scheme : List Char) (cs : List Char) : Url :=
  match cs with
  | '/' :: _ => finish .other scheme none cs
  | _ =>
    let path := Percent.encodeWith Percent.isControl (cs.takeWhile isPathChar)
    let (query, fragment) := readQueryFragment .other (cs.dropWhile isPathChar)
    ⟨String.ofList scheme, none, String.ofList path, query, fragment⟩

def parseChars (cs : List Char) : Except UrlProblem Url :=
  match splitScheme (clean cs) with
  | none => .error .relative
  | some (scheme, rest) =>
    match SchemeKind.ofScheme scheme with
    | .file => readFile rest
    | .web => do
      let (authority, rest) ← readAuthority .web scheme (rest.dropWhile (isSlash .web))
      .ok (finish .web scheme (some authority) rest)
    | .other =>
      match rest with
      | '/' :: '/' :: rest => do
        let (authority, rest) ← readAuthority .other scheme rest
        .ok (finish .other scheme (some authority) rest)
      | rest => .ok (readBare scheme rest)

/-- The URL that a text denotes. -/
def parse (s : String) : Except UrlProblem Url :=
  parseChars s.toList

def parse? (s : String) : Option Url :=
  (parse s).toOption

end Url

end RedirectLogin
