import RedirectLogin.Json.Token

/-!
# Outlines of JSON texts

What a JSON text looks like before any value is read from it: a tree in the order of the text, kept
also where a value is out of range, and kept up to the place where the text stops being JSON. So a
reader that skips a part need not care about the values in it, and one that reads in order meets the
first thing that is wrong, whatever that is.

The tree is built token by token from a stack of the containers that are open (`Frame`), which puts
no limit on how deeply they nest.

Principal results: `value?_outline` — a document that nests no deeper than allowed is read back from
its outline.
-/

set_option autoImplicit false

namespace RedirectLogin.Json

inductive Outline where
  | null
  | bool (b : Bool)
  | number (n : Number)
  | string (s : String)
  | array (items : List Outline)
  /-- A member has no key if its key has no value, or if none could be read. -/
  | object (members : List (Option String × Outline))
  /-- A number out of range or a string with a surrogate alone. -/
  | valueless
  /-- The text stops being JSON here. Nothing stands behind this. -/
  | broken
  deriving Repr, Inhabited

namespace Outline

mutual

/-- Whether the text stops being JSON within this part; that can only be at its end. -/
def isBroken : Outline → Bool
  | .broken => true
  | .array items => endsBroken items
  | .object members => endsBrokenMember members
  | _ => false

def endsBroken : List Outline → Bool
  | [] => false
  | [last] => isBroken last
  | _ :: next :: rest => endsBroken (next :: rest)

def endsBrokenMember : List (Option String × Outline) → Bool
  | [] => false
  | [(_, last)] => isBroken last
  | _ :: next :: rest => endsBrokenMember (next :: rest)

end

mutual

/-- The document, if every value is in range and at most `depth` containers nest. -/
def value? (depth : Nat) : Outline → Option Json
  | .null => some .null
  | .bool b => some (.bool b)
  | .number n => some (.number n)
  | .string s => some (.string s)
  | .array items =>
    match depth with
    | 0 => none
    | depth + 1 => (values? depth items).map .array
  | .object members =>
    match depth with
    | 0 => none
    | depth + 1 => (memberValues? depth members).map .object
  | .valueless => none
  | .broken => none

def values? (depth : Nat) : List Outline → Option (List Json)
  | [] => some []
  | o :: rest => do
    let j ← value? depth o
    let js ← values? depth rest
    some (j :: js)

def memberValues? (depth : Nat) : List (Option String × Outline) → Option (List (String × Json))
  | [] => some []
  | (key, o) :: rest => do
    let key ← key
    let j ← value? depth o
    let ms ← memberValues? depth rest
    some ((key, j) :: ms)

end

/-- The value of a token that is a whole value. -/
def ofToken? : Token → Option Outline
  | .null => some .null
  | .bool b => some (.bool b)
  | .number (some n) => some (.number n)
  | .string (some s) => some (.string s)
  | .number none | .string none => some .valueless
  | _ => none

/-- An open container with the parts read so far, the last one first. -/
inductive Frame where
  | array (done : List Outline)
  /-- With the key of the member that is being read. -/
  | object (done : List (Option String × Outline)) (key : Option String)

/-- The container that ends with one more part. -/
def Frame.close (part : Outline) : Frame → Outline
  | .array done => .array (part :: done).reverse
  | .object done key => .object ((key, part) :: done).reverse

/-- The container with one more part. -/
def Frame.push (part : Outline) : Frame → Frame
  | .array done => .array (part :: done)
  | .object done key => .object ((key, part) :: done) none

/-- What may come next. -/
inductive Next where
  | value
  /-- A value, or the end of an array without items. -/
  | valueOrEnd
  | key
  /-- A key, or the end of an object without members. -/
  | keyOrEnd
  | colon
  | separator
  deriving DecidableEq, Repr

/-- An outline while it is being built. -/
inductive Building where
  | inside (frames : List Frame) (next : Next)
  /-- The value is complete; `overrun` says whether more came behind it. -/
  | complete (value : Outline) (overrun : Bool)
  | failed (value : Outline)

namespace Building

/-- The text stops being JSON within these containers. -/
def fail (frames : List Frame) : Building :=
  .failed (frames.foldl Frame.close .broken)

/-- A value has ended. -/
def settle (value : Outline) : List Frame → Building
  | [] => .complete value false
  | frame :: frames => .inside (frame.push value :: frames) .separator

/-- A value begins, or is there at once. -/
def openValue (frames : List Frame) (token : Token) : Building :=
  match token with
  | .openArray => .inside (.array [] :: frames) .valueOrEnd
  | .openObject => .inside (.object [] none :: frames) .keyOrEnd
  | token =>
    match ofToken? token with
    | some value => settle value frames
    | none => fail frames

/-- A key that should stand here. -/
def openMember (frames : List Frame) (token : Token) : Building :=
  match frames, token with
  | .object done _ :: frames, .string key => .inside (.object done key :: frames) .colon
  | frames, _ => fail frames

/-- Take in one more token. -/
def step (b : Building) (token : Token) : Building :=
  match b with
  | .failed value => .failed value
  | .complete value _ => .complete value true
  | .inside frames .value => openValue frames token
  | .inside frames .valueOrEnd =>
    match frames, token with
    | .array _ :: outer, .closeArray => settle (.array []) outer
    | frames, token => openValue frames token
  | .inside frames .key => openMember frames token
  | .inside frames .keyOrEnd =>
    match frames, token with
    | .object _ _ :: outer, .closeObject => settle (.object []) outer
    | frames, token => openMember frames token
  | .inside frames .colon =>
    match token with
    | .colon => .inside frames .value
    | _ => fail frames
  | .inside frames .separator =>
    match frames, token with
    | .array _ :: _, .comma => .inside frames .value
    | .array done :: outer, .closeArray => settle (.array done.reverse) outer
    | .object _ _ :: _, .comma => .inside frames .key
    | .object done _ :: outer, .closeObject => settle (.object done.reverse) outer
    | frames, _ => fail frames

/-- The outline when the text ends, and whether the text is that value and nothing else. -/
def finish : Building → Outline × Bool
  | .inside frames _ => (frames.foldl Frame.close .broken, false)
  | .failed value => (value, false)
  | .complete value overrun => (value, !overrun)

end Building

/-- The outline of a sequence of tokens, and whether they are one value and nothing else. -/
def ofTokens (tokens : List Token) : Outline × Bool :=
  (tokens.foldl Building.step (.inside [] .value)).finish

/-- The outline of a text, and whether it is one value and nothing else. -/
def ofText (text : String) : Outline × Bool :=
  ofTokens (Token.scan text.toList)

end Outline

mutual

/-- The outline of a document. -/
def outline : Json → Outline
  | .null => .null
  | .bool b => .bool b
  | .number n => .number n
  | .string s => .string s
  | .array items => .array (outlines items)
  | .object members => .object (memberOutlines members)

def outlines : List Json → List Outline
  | [] => []
  | j :: rest => outline j :: outlines rest

def memberOutlines : List (String × Json) → List (Option String × Outline)
  | [] => []
  | (key, j) :: rest => (some key, outline j) :: memberOutlines rest

end

mutual

/-- How deeply containers nest. -/
def depth : Json → Nat
  | .array items => depthOf items + 1
  | .object members => depthOfMembers members + 1
  | _ => 0

def depthOf : List Json → Nat
  | [] => 0
  | j :: rest => max (depth j) (depthOf rest)

def depthOfMembers : List (String × Json) → Nat
  | [] => 0
  | (_, j) :: rest => max (depth j) (depthOfMembers rest)

end

mutual

theorem value?_outline (j : Json) (n : Nat) (h : depth j ≤ n) :
    (outline j).value? n = some j := by
  cases j with
  | null => simp [outline, Outline.value?]
  | bool b => simp [outline, Outline.value?]
  | number x => simp [outline, Outline.value?]
  | string s => simp [outline, Outline.value?]
  | array items =>
    cases n with
    | zero => simp [depth] at h
    | succ n =>
      simp only [depth, Nat.add_le_add_iff_right] at h
      simp [outline, Outline.value?, values?_outlines items n h]
  | object members =>
    cases n with
    | zero => simp [depth] at h
    | succ n =>
      simp only [depth, Nat.add_le_add_iff_right] at h
      simp [outline, Outline.value?, memberValues?_memberOutlines members n h]

theorem values?_outlines (js : List Json) (n : Nat) (h : depthOf js ≤ n) :
    Outline.values? n (outlines js) = some js := by
  cases js with
  | nil => simp [outlines, Outline.values?]
  | cons j rest =>
    simp only [depthOf, Nat.max_le] at h
    simp [outlines, Outline.values?, value?_outline j n h.1, values?_outlines rest n h.2]

theorem memberValues?_memberOutlines (ms : List (String × Json)) (n : Nat)
    (h : depthOfMembers ms ≤ n) :
    Outline.memberValues? n (memberOutlines ms) = some ms := by
  cases ms with
  | nil => simp [memberOutlines, Outline.memberValues?]
  | cons m rest =>
    obtain ⟨key, j⟩ := m
    simp only [depthOfMembers, Nat.max_le] at h
    simp [memberOutlines, Outline.memberValues?, value?_outline j n h.1,
      memberValues?_memberOutlines rest n h.2]

end

end RedirectLogin.Json
