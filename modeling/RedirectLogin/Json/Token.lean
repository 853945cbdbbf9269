import RedirectLogin.Json.Value
import RedirectLogin.Text.Hex

/-!
# Tokens of JSON

A JSON text is first cut into tokens: brackets, braces, signs, and values without parts. What the
grammar allows but no value can hold is a token all the same, without a value: a number beyond the
largest double, and a string with one half of a surrogate pair alone. Where no token begins, the
text counts as junk from there on.

Every token takes at least one character, so `scan` ends after as many steps as there are
characters.
-/

set_option autoImplicit false

namespace RedirectLogin.Json

def isSpace (c : Char) : Bool :=
  c = ' ' || c = '\t' || c = '\n' || c = '\r'

def skipSpace (cs : List Char) : List Char :=
  cs.dropWhile isSpace

def isDigit (c : Char) : Bool :=
  '0' ≤ c && c ≤ '9'

def digitValue (c : Char) : Nat :=
  c.toNat - 48

inductive Token where
  | openArray
  | closeArray
  | openObject
  | closeObject
  | colon
  | comma
  | null
  | bool (b : Bool)
  /-- A number, unless it is out of range. -/
  | number (value : Option Number)
  /-- A string, unless it holds a surrogate alone. -/
  | string (value : Option String)
  /-- What is no token. -/
  | junk
  deriving DecidableEq, Repr

/-- The code unit of four hexadecimal digits. -/
def codeUnit? (a b c d : Char) : Option Nat := do
  some ((((← Text.hexValue? a) * 16 + (← Text.hexValue? b)) * 16 + (← Text.hexValue? c)) * 16 +
    (← Text.hexValue? d))

/-- The second half of a surrogate pair, written as an escape, and what is behind it. -/
def readLowSurrogate : List Char → Option (Nat × List Char)
  | '\x5c' :: 'u' :: a :: b :: c :: d :: rest => do
    let v ← codeUnit? a b c d
    if 0xDC00 ≤ v ∧ v ≤ 0xDFFF then some (v, rest) else none
  | _ => none

/-- One character of a string literal, which is missing for a surrogate alone; `none` if the text
is no literal. -/
def readChar : List Char → Option (Option Char × List Char)
  | '\x5c' :: 'u' :: a :: b :: c :: d :: rest => do
    let u ← codeUnit? a b c d
    if 0xD800 ≤ u ∧ u ≤ 0xDBFF then
      match readLowSurrogate rest with
      | some (v, rest) => some (Char.ofNat (0x10000 + (u - 0xD800) * 1024 + (v - 0xDC00)), rest)
      | none => some (none, rest)
    else if 0xDC00 ≤ u ∧ u ≤ 0xDFFF then some (none, rest)
    else some (Char.ofNat u, rest)
  | '\x5c' :: c :: rest =>
    if c = '\x22' || c = '\x5c' || c = '/' then some (c, rest)
    else if c = 'b' then some (Char.ofNat 8, rest)
    else if c = 'f' then some (Char.ofNat 12, rest)
    else if c = 'n' then some ('\n', rest)
    else if c = 'r' then some ('\r', rest)
    else if c = 't' then some ('\t', rest)
    else none
  | c :: rest => if c.toNat < 0x20 || c = '\x5c' then none else some (c, rest)
  | [] => none

/-- The rest of a string literal, behind its opening quote; `read` holds the characters so far in
reverse, as long as all of them have a value. -/
def readString (read : Option (List Char)) : Nat → List Char →
    Option (Option String × List Char)
  | 0, _ => none
  | _ + 1, [] => none
  | fuel + 1, c :: cs =>
    if c = '\x22' then some (read.map (fun ds => String.ofList ds.reverse), cs)
    else
      match readChar (c :: cs) with
      | none => none
      | some (some d, rest) => readString (read.map (d :: ·)) fuel rest
      | some (none, rest) => readString none fuel rest

/-- Nearest double of a natural number. -/
def double (n : Nat) : Float :=
  n.toUInt64.toFloat

/-- The power of ten as a double. -/
def tenTo (k : Nat) : Float :=
  Float.ofScientific 1 false k

/-- `f / 10 ^ n` for `n` beyond the largest power: steps of 308 until nothing is left. -/
def scaleDown : Nat → Float → Nat → Float
  | 0, f, n => f / tenTo n
  | fuel + 1, f, n =>
    if n ≤ 308 then f / tenTo n
    else if f == 0.0 then f
    else scaleDown fuel (f / tenTo 308) (n - 308)

/-- The double for `significand * 10 ^ exponent`: one rounding for the significand (below
`2 ^ 64`), one for the scaling. `none` beyond the largest double. -/
def doubleOf? (isNegative : Bool) (significand : Nat) (exponent : Int) : Option Number :=
  let f := double significand
  let scaled : Option Float :=
    if 0 ≤ exponent then
      if exponent ≤ 308 then
        let g := f * tenTo exponent.toNat
        if g.isInf then none else some g
      else if significand = 0 then some f else none
    else some (scaleDown 4 f exponent.natAbs)
  scaled.map fun g => .float (if isNegative then (-g).toBits else g.toBits)

/-- Decimal digits accumulate into a significand below `2 ^ 64`; the first digit that does not fit
and all behind it only count. -/
structure Digits where
  significand : Nat
  full : Bool
  dropped : Nat

def Digits.push (d : Digits) (c : Char) : Digits :=
  let n := d.significand * 10 + digitValue c
  if d.full || UInt64.size ≤ n then { d with full := true, dropped := d.dropped + 1 }
  else { d with significand := n }

/-- The exponent part, if there is one: its value and the rest. -/
def readExponent? : List Char → Option (Option Int × List Char)
  | e :: cs =>
    if e = 'e' || e = 'E' then
      let (isNegative, rest) : Bool × List Char :=
        match cs with
        | '+' :: r => (false, r)
        | '-' :: r => (true, r)
        | r => (false, r)
      let ds := rest.takeWhile isDigit
      if ds.isEmpty then none
      else
        let n : Int := ds.foldl (fun n c => n * 10 + digitValue c) 0
        some (some (if isNegative then -n else n), rest.dropWhile isDigit)
    else some (none, e :: cs)
  | [] => some (none, [])

/-- A number without its sign, which is missing if it is out of range. Digits in front of the point
that do not fit raise the exponent, digits behind it that do fit lower it. -/
def readUnsigned (isNegative : Bool) (cs : List Char) : Option (Option Number × List Char) := do
  let whole := cs.takeWhile isDigit
  let rest := cs.dropWhile isDigit
  if whole.isEmpty || (whole.length > 1 && whole.head? == some '0') then none
  else
    let front := whole.foldl Digits.push ⟨0, false, 0⟩
    let (digits, exponent, rest, isWhole) ← (match rest with
      | '.' :: r =>
        let fraction := r.takeWhile isDigit
        if fraction.isEmpty then none
        else
          let all := fraction.foldl Digits.push ⟨front.significand, false, 0⟩
          some (all, (front.dropped : Int) - (fraction.length - all.dropped : Nat),
            r.dropWhile isDigit, false)
      | r => some (front, (front.dropped : Int), r, !front.full))
    let (shift, rest) ← readExponent? rest
    match shift with
    | some k => some (doubleOf? isNegative digits.significand (exponent + k), rest)
    | none =>
      if isWhole then
        if !isNegative then some (some (.natural digits.significand), rest)
        else if digits.significand = 0 || UInt64.size / 2 < digits.significand then
          some (some (.float (-(double digits.significand)).toBits), rest)
        else some (some (.negative digits.significand), rest)
      else some (doubleOf? isNegative digits.significand exponent, rest)

def readNumber : List Char → Option (Option Number × List Char)
  | '-' :: cs => readUnsigned true cs
  | cs => readUnsigned false cs

namespace Token

/-- The token at the front of a text that does not begin with a space. -/
def read : List Char → Option (Token × List Char)
  | '[' :: cs => some (.openArray, cs)
  | ']' :: cs => some (.closeArray, cs)
  | '\x7b' :: cs => some (.openObject, cs)
  | '\x7d' :: cs => some (.closeObject, cs)
  | ':' :: cs => some (.colon, cs)
  | ',' :: cs => some (.comma, cs)
  | 'n' :: 'u' :: 'l' :: 'l' :: cs => some (.null, cs)
  | 't' :: 'r' :: 'u' :: 'e' :: cs => some (.bool true, cs)
  | 'f' :: 'a' :: 'l' :: 's' :: 'e' :: cs => some (.bool false, cs)
  | '\x22' :: cs =>
    (readString (some []) cs.length.succ cs).map (fun (value, rest) => (.string value, rest))
  | cs => (readNumber cs).map (fun (value, rest) => (.number value, rest))

/-- The tokens of a text, put behind those that are `done`. -/
def scanFrom (done : List Token) : Nat → List Char → List Token
  | 0, _ => done.reverse
  | fuel + 1, cs =>
    match skipSpace cs with
    | [] => done.reverse
    | c :: cs =>
      match read (c :: cs) with
      | some (token, rest) => scanFrom (token :: done) fuel rest
      | none => (.junk :: done).reverse

def scan (cs : List Char) : List Token :=
  scanFrom [] cs.length cs

end Token

end RedirectLogin.Json
