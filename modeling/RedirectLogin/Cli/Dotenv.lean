import RedirectLogin.Store.Files
import RedirectLogin.Text.Alphanumeric

/-!
# Environment files

A file of `NAME=value` lines that adds variables to the environment; variables that are set
already stay as they are. Values may be quoted, may hold escapes and may refer to other variables.
Reading stops silently at the first line that is not well-formed, or is no text.

The file is the nearest one of its name: in the working directory, or in one above it (`nearest?`).

A quoted value may go on over several lines, so the bytes are first cut into logical lines
(`logicalLines`), then each of them is read (`readLine`).

Principal results: `environment_keeps` — a variable that is set keeps its value.
-/

set_option autoImplicit false

namespace RedirectLogin

/-- The variables that are set, with their values. -/
abbrev Environment := List (String × String)

/-- The value of a variable. -/
def Environment.value? (env : Environment) (name : String) : Option String :=
  (env.find? (fun v => v.1 == name)).map (·.2)

/-- Set a variable unless it is set. -/
def Environment.define (env : Environment) (name value : String) : Environment :=
  if (env.value? name).isSome then env else env ++ [(name, value)]

theorem Environment.define_keeps {env : Environment} {name value : String}
    (h : env.value? name = some value) (other new : String) :
    (env.define other new).value? name = some value := by
  unfold define
  split
  · exact h
  · unfold value? at h ⊢
    rw [List.find?_append]
    cases hfound : env.find? (fun v => v.1 == name) with
    | none => simp [hfound] at h
    | some found => rwa [hfound] at h

namespace Dotenv

def fileName : String := ".env"

/-- The content of the file in one directory, which these names lead to in reverse. A directory of
that name does not count. -/
def contentIn (files : Files) (names : List String) : Except IoError (Option (List UInt8)) :=
  match files.lookup (.ofNames (names.reverse ++ [fileName])) with
  | .ok (.file bytes _) => .ok (some bytes)
  | .ok .directory | .error .notFound => .ok none
  | .error e => .error e

/-- The content of the nearest file: in that directory, or in one above it. The search ends where
one of them cannot be looked into. -/
def nearest? (files : Files) : List String → Option (List UInt8)
  | [] => (contentIn files []).toOption.join
  | name :: above =>
    match contentIn files (name :: above) with
    | .ok none => nearest? files above
    | found => found.toOption.join

/-- Where quotes stand within a logical line. -/
inductive Quoting where
  | none
  | space
  | escape
  | weak
  | weakEscape
  | strong
  | strongEscape
  deriving DecidableEq, Repr

/-- Quoting behind one more character outside quotes and escapes. -/
def Quoting.opened (c : Char) (otherwise : Quoting) : Quoting :=
  if c = '\x5c' then .escape
  else if c = '\x22' then .weak
  else if c = '\x27' then .strong
  else otherwise

/-- Quoting behind one more character; nothing if a comment starts with it. -/
def Quoting.after (q : Quoting) (c : Char) : Option Quoting :=
  match q with
  | .space => if c = '#' then Option.none else some (.opened c .none)
  | .none =>
    if Text.isBlank c && c ≠ '\n' && c ≠ '\r' then some .space else some (.opened c .none)
  | .escape => some .none
  | .weak => some (if c = '\x5c' then .weakEscape else if c = '\x22' then .none else .weak)
  | .weakEscape => some .weak
  | .strong => some (if c = '\x5c' then .strongEscape else if c = '\x27' then .none else .strong)
  | .strongEscape => some .strong

/-- Walk over a line: the quoting at its end, and the line up to a comment if there is one. -/
def scan (q : Quoting) (before : List Char) : List Char → Option Quoting × List Char
  | [] => (some q, before.reverse)
  | c :: cs =>
    match q.after c with
    | none => (none, before.reverse)
    | some q => scan q (c :: before) cs

/-- The lines of some bytes, each with the line feed at its end. -/
def physicalLines : List UInt8 → List (List UInt8)
  | [] => []
  | b :: bs =>
    if b = 0x0A then [b] :: physicalLines bs
    else
      match physicalLines bs with
      | line :: lines => (b :: line) :: lines
      | [] => [[b]]

/-- A line without the line end. -/
def withoutLineEnd (line : List Char) : List Char :=
  match line.reverse with
  | '\n' :: '\r' :: rest => rest.reverse
  | '\n' :: rest => rest.reverse
  | _ => line

def isComment (line : List Char) : Bool :=
  (line.dropWhile Text.isBlank).head? = some '#'

/-- Join lines that a quoted value spans; `held` is what is held back of the current one. A file
that ends within quotes ends with a line that cannot be read (`none`), and so does reading at a line
that is no text. -/
def joinLines (q : Quoting) (held : List Char) : List (List UInt8) → List (Option (List Char))
  | [] => if q = .none then [] else [none]
  | bytes :: lines =>
    match Text.decode? bytes with
    | none => [none]
    | some line =>
      if isComment (held ++ line) then some [] :: joinLines .none [] lines
      else
        match scan q [] line with
        | (none, kept) => some (held ++ kept) :: joinLines .none [] lines
        | (some .none, _) => some (withoutLineEnd (held ++ line)) :: joinLines .none [] lines
        | (some q, _) => joinLines q (held ++ line) lines

/-- What a text may begin with to say that it is one. -/
def byteOrderMark : List UInt8 := [0xEF, 0xBB, 0xBF]

/-- The logical lines of a file, less a byte order mark. -/
def logicalLines (bytes : List UInt8) : List (Option (List Char)) :=
  joinLines .none [] (physicalLines
    (if byteOrderMark.isPrefixOf bytes then bytes.drop byteOrderMark.length else bytes))

/-- Where the reader of a value stands; `weak` says whether double quotes are open around it. -/
inductive Mode where
  | plain
  | weak
  | strong
  | escape (weak : Bool)
  /-- Within the name of a variable, read so far in reverse. -/
  | name (weak : Bool) (read : List Char)
  | braced (weak : Bool) (read : List Char)
  /-- Behind the value; only blanks or a comment may follow. -/
  | ended
  | comment
  deriving DecidableEq, Repr

def Mode.unquoted (weak : Bool) : Mode :=
  if weak then .weak else .plain

/-- The value so far, in reverse, and where its reader stands. -/
structure Reading where
  mode : Mode
  out : List Char

/-- Append the value of the variable whose name was read in reverse. -/
def substitute (value : String → String) (read out : List Char) : List Char :=
  (value (String.ofList read.reverse)).toList.reverse ++ out

/-- Read one more character of a value. -/
def readChar (value : String → String) (s : Reading) (c : Char) : Option Reading :=
  match s.mode with
  | .comment => some s
  | .ended =>
    if c = ' ' || c = '\t' then some s
    else if c = '#' then some ⟨.comment, s.out⟩
    else none
  | .escape weak =>
    if c = '\x5c' || c = '\x27' || c = '\x22' || c = '$' || c = ' ' then
      some ⟨.unquoted weak, c :: s.out⟩
    else if c = 'n' then some ⟨.unquoted weak, '\n' :: s.out⟩
    else none
  | .strong => if c = '\x27' then some ⟨.plain, s.out⟩ else some ⟨.strong, c :: s.out⟩
  | .name weak read =>
    if Text.isAlphanumeric c then some ⟨.name weak (c :: read), s.out⟩
    else if c = '\x7b' && read.isEmpty then some ⟨.braced weak [], s.out⟩
    else
      let out := substitute value read s.out
      if c = '$' then some ⟨.name weak [], out⟩ else some ⟨.unquoted weak, c :: out⟩
  | .braced weak read =>
    if c = '\x7d' then some ⟨.unquoted weak, substitute value read s.out⟩
    else some ⟨.braced weak (c :: read), s.out⟩
  | .weak =>
    if c = '$' then some ⟨.name true [], s.out⟩
    else if c = '\x22' then some ⟨.plain, s.out⟩
    else if c = '\x5c' then some ⟨.escape true, s.out⟩
    else some ⟨.weak, c :: s.out⟩
  | .plain =>
    if c = '$' then some ⟨.name false [], s.out⟩
    else if c = '\x27' then some ⟨.strong, s.out⟩
    else if c = '\x22' then some ⟨.weak, s.out⟩
    else if c = '\x5c' then some ⟨.escape false, s.out⟩
    else if c = ' ' || c = '\t' then some ⟨.ended, s.out⟩
    else some ⟨.plain, c :: s.out⟩

/-- The value behind the equals sign; `value` gives the values of other variables. -/
def readValue (value : String → String) (cs : List Char) : Option String := do
  let s ← cs.foldlM (readChar value) ⟨.plain, []⟩
  match s.mode with
  | .plain | .ended | .comment | .escape false => some (String.ofList s.out.reverse)
  | .name false read => some (String.ofList (substitute value read s.out).reverse)
  | _ => none

def isKeyStart (c : Char) : Bool :=
  ('a' ≤ c && c ≤ 'z') || ('A' ≤ c && c ≤ 'Z') || c = '_'

def isKeyChar (c : Char) : Bool :=
  Text.isAsciiAlphanumeric c || c = '_' || c = '.'

/-- A name and what follows it. -/
def readKey (cs : List Char) : Option (String × List Char) :=
  if cs.head?.any isKeyStart then
    some (String.ofList (cs.takeWhile isKeyChar), (cs.dropWhile isKeyChar).dropWhile Text.isBlank)
  else none

/-- What follows an equals sign and blanks. -/
def readEquals : List Char → Option (List Char)
  | '=' :: cs => some (cs.dropWhile Text.isBlank)
  | _ => none

/-- The variable that a logical line sets, if it sets one; `none` for a line that cannot be read.
The word `export` may stand before the name. -/
def readLine (value : String → String) (line : List Char) : Option (Option (String × String)) := do
  let cs := (Text.trimEndWhile Text.isBlank line).dropWhile Text.isBlank
  if cs.isEmpty || cs.head? = some '#' then some none
  else
    let (key, rest) ← readKey cs
    let (key, rest) ←
      match readEquals rest with
      | some rest => some (key, rest)
      | none =>
        if key = "export" then do
          let (key, rest) ← readKey rest
          some (key, ← readEquals rest)
        else none
    if rest.isEmpty || rest.head? = some '#' then some (some (key, ""))
    else some (some (key, ← readValue value rest))

/-- The variables that were read from the file so far, the latest first; they stand in for those
that the environment does not set. -/
def valueFrom (env : Environment) (read : Environment) (name : String) : String :=
  ((env.value? name).orElse fun _ => read.value? name).getD ""

/-- Carry out the lines one after another. -/
def loadLines (env read : Environment) : List (Option (List Char)) → Environment
  | some line :: lines =>
    match readLine (valueFrom env read) line with
    | some (some (key, value)) => loadLines (env.define key value) ((key, value) :: read) lines
    | some none => loadLines env read lines
    | none => env
  | _ => env

theorem loadLines_keeps {env : Environment} {name value : String}
    (h : env.value? name = some value) (read : Environment) (lines : List (Option (List Char))) :
    (loadLines env read lines).value? name = some value := by
  induction env, read, lines using loadLines.induct with
  | case1 env read line lines key new hline ih =>
    rw [loadLines, hline]
    exact ih (env.define_keeps h key new)
  | case2 env read line lines hline ih =>
    rw [loadLines, hline]
    exact ih h
  | case3 env read line lines hline =>
    rw [loadLines, hline]
    exact h
  | case4 env read lines hlines =>
    rw [loadLines]
    · exact h
    · exact hlines

/-- The environment with the variables of a file added. -/
def load (bytes : List UInt8) (env : Environment) : Environment :=
  loadLines env [] (logicalLines bytes)

/-- The environment of a program that is started among these files. -/
def environment (files : Files) (env : Environment) : Environment :=
  match nearest? files files.here.reverse with
  | some bytes => load bytes env
  | none => env

/-- **A variable that is set keeps its value**, whatever an environment file says. -/
theorem environment_keeps (files : Files) {env : Environment} {name value : String}
    (h : env.value? name = some value) : (environment files env).value? name = some value := by
  unfold environment
  split
  · exact loadLines_keeps h _ _
  · exact h

end Dotenv

end RedirectLogin
