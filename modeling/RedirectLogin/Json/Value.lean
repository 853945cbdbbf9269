import RedirectLogin.Decimal.Shortest

/-!
# JSON values

A JSON document as a tree. An object keeps its members in the order of the text, repeats
included, because which of two faults a reader reports depends on that order; `normal` is the
view for readers that do not care: the last of equal keys wins and keys are sorted.

Numbers keep the kind their text had: a natural number below `2 ^ 64`, a negative integer not
below `-2 ^ 63`, or a double (by its bits).
-/

set_option autoImplicit false

namespace RedirectLogin

/-- A number as written. -/
inductive Json.Number where
  | natural (n : Nat)
  /-- The number `-n`, with `n` positive. -/
  | negative (n : Nat)
  | float (bits : UInt64)
  deriving DecidableEq, Repr

/-- A JSON document. -/
inductive Json where
  | null
  | bool (b : Bool)
  | number (n : Json.Number)
  | string (s : String)
  | array (items : List Json)
  | object (members : List (String × Json))
  deriving Repr, Inhabited

namespace Json

def Number.text : Number → String
  | .natural n => toString n
  | .negative n => "-" ++ toString n
  | .float bits => Decimal.render bits

def nat (n : Nat) : Json :=
  .number (.natural n)

def int (n : Int) : Json :=
  if n < 0 then .number (.negative n.natAbs) else .nat n.natAbs

/-- An optional value; absence is `null`. -/
def ofOption {α : Type} (f : α → Json) : Option α → Json
  | none => .null
  | some a => f a

/-- The last member of that name. -/
def member? (members : List (String × Json)) (key : String) : Option Json :=
  (members.reverse.find? (fun m => m.1 == key)).map (·.2)

/-- Put `(key, v)` into a list sorted by key, in the place of a member with that key. Keys are
sorted by code point, which is also the order of their UTF-8 bytes. -/
def insertMember (key : String) (v : Json) : List (String × Json) → List (String × Json)
  | [] => [(key, v)]
  | (k, w) :: rest =>
    if key = k then (key, v) :: rest
    else if key < k then (key, v) :: (k, w) :: rest
    else (k, w) :: insertMember key v rest

mutual

/-- The same document with repeated keys resolved (the last one wins) and keys sorted. -/
def normal : Json → Json
  | .array items => .array (normalItems items)
  | .object members => .object (normalMembers members [])
  | j => j

def normalItems : List Json → List Json
  | [] => []
  | j :: rest => normal j :: normalItems rest

def normalMembers : List (String × Json) → List (String × Json) → List (String × Json)
  | [], done => done
  | (key, v) :: rest, done => normalMembers rest (insertMember key (normal v) done)

end

end Json

end RedirectLogin
