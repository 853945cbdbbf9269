import RedirectLogin.Json.Reader
import RedirectLogin.Json.Writer
import RedirectLogin.Text.Quoted
import RedirectLogin.Text.Utf8

/-!
# Typed reading of JSON texts

A decoder turns the outline of a text into a value or says what is wrong at the first place, in the
order of the text, where it does not have the expected shape. The error texts are part of what the
program prints, so `Problem` lists the causes and `Problem.message` their wording.

Records are read by `readRecord` from a list of fields: members of an object in any order, or the
items of an array in the order of the fields. Unknown members are skipped, whatever values they
hold; a repeated known one is an error where it is repeated, and what is missing is reported at the
end, field by field.

Principal results: `decode_eq_ok_iff` — a text is decoded when its outline is and nothing else
stands in it.
-/

set_option autoImplicit false

namespace RedirectLogin.Json

/-- Why a document does not decode. -/
inductive Problem where
  /-- The text is no JSON at all. -/
  | malformed
  | wrongType (found expected : String)
  | wrongValue (found expected : String)
  | wrongLength (found : Nat) (expected : String)
  | missing (field : String)
  | repeated (field : String)
  | unknownVariant (found : String) (known : List String)
  /-- An array goes on behind the last field of a record. -/
  | trailing
  | noValue
  /-- A string that is no timestamp. -/
  | badTimestamp
  /-- A value of the right shape that its type refuses. -/
  | refused (reason : String)
  deriving DecidableEq, Repr

/-- Field and variant names are shown between grave accents. -/
def ticked (s : String) : String :=
  "`" ++ s ++ "`"

/-- The known variants of an enumeration, as a message lists them. -/
def listVariants : List String → String
  | [] => "there are no variants"
  | [a] => "expected " ++ ticked a
  | [a, b] => "expected " ++ ticked a ++ " or " ++ ticked b
  | names => "expected one of " ++ String.intercalate ", " (names.map ticked)

def Problem.message : Problem → String
  | .malformed => "invalid JSON"
  | .wrongType found expected => "invalid type: " ++ found ++ ", expected " ++ expected
  | .wrongValue found expected => "invalid value: " ++ found ++ ", expected " ++ expected
  | .wrongLength found expected => "invalid length " ++ toString found ++ ", expected " ++ expected
  | .missing field => "missing field " ++ ticked field
  | .repeated field => "duplicate field " ++ ticked field
  | .unknownVariant found known => "unknown variant " ++ ticked found ++ ", " ++ listVariants known
  | .trailing => "trailing characters"
  | .noValue => "expected value"
  | .badTimestamp => "invalid timestamp"
  | .refused reason => reason

/-- How a message names a number. -/
def Number.describe : Number → String
  | .float bits => "floating point " ++ ticked (Decimal.render bits)
  | n => "integer " ++ ticked n.text

/-- How a message names what it found, if that could be read. -/
def Outline.describe? : Outline → Option String
  | .null => some "null"
  | .bool b => some ("boolean " ++ ticked (if b then "true" else "false"))
  | .number n => some n.describe
  | .string s => some ("string " ++ Text.quoted s)
  | .array _ => some "sequence"
  | .object _ => some "map"
  | .valueless | .broken => none

/-- A decoder for values of type `α`. -/
abbrev Decoder (α : Type) := Outline → Except Problem α

def expected {α : Type} (what : String) : Decoder α :=
  fun o =>
    match o.describe? with
    | some found => .error (.wrongType found what)
    | none => .error .malformed

/-- A string; `what` is the name of what it should spell. -/
def asStringOf (what : String) : Decoder String
  | .string s => .ok s
  | o => expected what o

def asString : Decoder String :=
  asStringOf "a string"

def asBool : Decoder Bool
  | .bool b => .ok b
  | o => expected "a boolean" o

/-- A natural number below `bound`; `what` is the name of that range. -/
def asNatural (bound : Nat) (what : String) : Decoder Nat
  | .number (.natural n) =>
    if n < bound then .ok n else .error (.wrongValue (Number.natural n).describe what)
  | .number (.negative n) => .error (.wrongValue (Number.negative n).describe what)
  | o => expected what o

/-- An integer of 64 bits with sign. -/
def asInteger : Decoder Int
  | .number (.natural n) =>
    if n < UInt64.size / 2 then .ok n else .error (.wrongValue (Number.natural n).describe "i64")
  | .number (.negative n) => .ok (-(n : Int))
  | o => expected "i64" o

/-- Any document that a strict reader accepts. -/
def asDocument : Decoder Json :=
  fun o =>
    match o.value? maxDepth with
    | some j => .ok j
    | none => .error .malformed

def asOptional {α : Type} (read : Decoder α) : Decoder (Option α)
  | .null => .ok none
  | o => (read o).map some

def asList {α : Type} (read : Decoder α) : Decoder (List α)
  | .array items => items.mapM read
  | o => expected "a sequence" o

/-- Where the document comes from: straight from the text, or kept aside while a tag was looked
for. The shapes accepted are the same, but some refusals are worded differently. -/
inductive Origin where
  | text
  | kept
  deriving DecidableEq, Repr

/-- The variant of that name. -/
def variant {α : Type} (variants : List (String × α)) (name : String) : Except Problem α :=
  match variants.find? (fun v => v.1 == name) with
  | some v => .ok v.2
  | none => .error (.unknownVariant name (variants.map (·.1)))

/-- The key of a member, which has to be there. -/
def keyOf : Option String → Except Problem String
  | some key => .ok key
  | none => .error .malformed

/-- An enumeration without payload: its name, or an object with the name as only key and nothing
for a value. -/
def asVariant {α : Type} (origin : Origin) (variants : List (String × α)) : Decoder α
  | .string s => variant variants s
  | .object members =>
    match origin, members with
    | .text, [] => .error .noValue
    | .kept, [] => .error (.wrongValue "map" "map with a single key")
    | .kept, _ :: _ :: _ => .error (.wrongValue "map" "map with a single key")
    | .text, (key, v) :: more => do
      let a ← variant variants (← keyOf key)
      match v with
      | .null => if more.isEmpty then .ok a else .error .noValue
      | o => expected "unit" o
    | .kept, [(key, v)] => do
      let a ← variant variants (← keyOf key)
      match v with
      | .null => .ok a
      | .object [] => .ok a
      | o => expected "unit" o
  | o =>
    match origin, o.describe? with
    | _, none => .error .malformed
    | .text, some _ => .error .noValue
    | .kept, some _ => expected "string or map" o

/-- A field of a record that is being read into a draft `σ`. -/
structure Field (σ : Type) where
  name : String
  /-- Whether an array may end before this field. -/
  defaulted : Bool
  read : Outline → σ → Except Problem σ

/-- Read the members of an object into the draft; `seen` are the names already read. -/
def readMembersInto {σ : Type} (fields : List (Field σ)) :
    List String → List (Option String × Outline) → σ → Except Problem σ
  | _, [], draft => .ok draft
  | seen, (key, o) :: rest, draft => do
    let key ← keyOf key
    match fields.find? (fun f => f.name == key) with
    | none => if o.isBroken then .error .malformed else readMembersInto fields seen rest draft
    | some f =>
      if seen.contains key then .error (.repeated key)
      else
        let draft ← f.read o draft
        readMembersInto fields (key :: seen) rest draft

def plural (n : Nat) : String :=
  if n = 1 then "1 element" else toString n ++ " elements"

/-- Read the items of an array into the draft, one per field. -/
def readItemsInto {σ : Type} (origin : Origin) (shape : String) (count : Nat) :
    Nat → List (Field σ) → List Outline → σ → Except Problem σ
  | _, [], [], draft => .ok draft
  | _, [], items, _ =>
    match origin with
    | .text => .error .trailing
    | .kept => .error (.wrongLength (count + items.length) (plural count ++ " in sequence"))
  | i, f :: fields, o :: items, draft => do
    let draft ← f.read o draft
    readItemsInto origin shape count (i + 1) fields items draft
  | i, f :: fields, [], draft =>
    if f.defaulted then readItemsInto origin shape count (i + 1) fields [] draft
    else .error (.wrongLength i (shape ++ " with " ++ plural count))

/-- Read a record named `shape` into the draft. -/
def readRecord {σ : Type} (origin : Origin) (shape : String) (fields : List (Field σ)) (draft : σ) :
    Decoder σ
  | .object members => readMembersInto fields [] members draft
  | .array items => readItemsInto origin shape fields.length 0 fields items draft
  | o => expected shape o

/-- A field that has to be there. -/
def required {α : Type} (name : String) : Option α → Except Problem α
  | some a => .ok a
  | none => .error (.missing name)

/-- Decode a whole text. What is wrong within the value comes before what stands behind it. -/
def decode {α : Type} (read : Decoder α) (text : String) : Except Problem α := do
  let a ← read (Outline.ofText text).1
  if (Outline.ofText text).2 then .ok a else .error .malformed

/-- What stands in a text for bytes that are no text: within a string, a surrogate alone, so that
the string has no value; behind a backslash or outside strings, no JSON at all. -/
def noText : List Char :=
  ['z', '\x5c', 'u', 'd', '8', '0', '0']

/-- Decode a whole byte sequence. A part that is skipped may hold strings that are not UTF-8. -/
def decodeBytes {α : Type} (read : Decoder α) (bs : List UInt8) : Except Problem α :=
  decode read (String.ofList (Text.decodeMarked noText bs))

theorem decode_eq_ok_iff {α : Type} {read : Decoder α} {text : String} {a : α} :
    decode read text = .ok a ↔
      read (Outline.ofText text).1 = .ok a ∧ (Outline.ofText text).2 = true := by
  unfold decode
  cases hread : read (Outline.ofText text).1 with
  | error e => simp [bind, Except.bind]
  | ok b =>
    by_cases h : (Outline.ofText text).2 = true
    · simp [bind, Except.bind, h]
    · simp [bind, Except.bind, h]

end RedirectLogin.Json
