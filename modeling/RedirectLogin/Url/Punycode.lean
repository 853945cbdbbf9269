/-!
# Punycode

The reversible ASCII form of the labels of international domain names. `encode?` and `decode?` are
the two directions; both carry the state of the bias adaptation along the list they walk, and the
encoder finds the next code point to insert by taking the least one not yet handled.
-/

set_option autoImplicit false

namespace RedirectLogin.Punycode

def base : Nat := 36

/-- Digit threshold at position `k` for a bias. -/
def threshold (k bias : Nat) : Nat :=
  if k ≤ bias then 1 else if bias + 26 ≤ k then 26 else k - bias

/-- The quotient loop of the bias adaptation: divide until at most 455 remains. -/
def reduceDelta : Nat → Nat → Nat → Nat × Nat
  | 0, delta, k => (delta, k)
  | fuel + 1, delta, k =>
    if 455 < delta then reduceDelta fuel (delta / 35) (k + base) else (delta, k)

def adapt (delta count : Nat) (first : Bool) : Nat :=
  let delta := if first then delta / 700 else delta / 2
  let (delta, k) := reduceDelta 12 (delta + delta / count) 0
  k + 36 * delta / (delta + 38)

/-- The digit characters: letters for 0 to 25, figures for 26 to 35. -/
def digit (n : Nat) : Char :=
  if n < 26 then Char.ofNat (n + 97) else Char.ofNat (n + 22)

def digitValue? (c : Char) : Option Nat :=
  if 'a' ≤ c && c ≤ 'z' then some (c.toNat - 97)
  else if 'A' ≤ c && c ≤ 'Z' then some (c.toNat - 65)
  else if '0' ≤ c && c ≤ '9' then some (c.toNat - 22)
  else none

/-- The variable-length digits of a delta. -/
def writeDelta : Nat → Nat → Nat → Nat → List Char
  | 0, _, _, _ => []
  | fuel + 1, q, k, bias =>
    let t := threshold k bias
    if q < t then [digit q]
    else digit (t + (q - t) % (base - t)) :: writeDelta fuel ((q - t) / (base - t)) (k + base) bias

/-- State of the encoder. -/
structure Encoder where
  delta : Nat
  bias : Nat
  handled : Nat
  first : Bool
  output : List Char

/-- Visit one code point of the label while the code point `n` is being inserted. -/
def Encoder.visit (n : Nat) (e : Encoder) (c : Nat) : Encoder :=
  if c < n then { e with delta := e.delta + 1 }
  else if c = n then
    { delta := 0, bias := adapt e.delta (e.handled + 1) e.first, handled := e.handled + 1
      first := false, output := e.output ++ writeDelta 40 e.delta base e.bias }
  else e

/-- Insert all code points from the least one not below `n` upwards. -/
def encodeFrom (label : List Nat) : Nat → Nat → Encoder → List Char
  | 0, _, e => e.output
  | fuel + 1, n, e =>
    match (label.filter (fun c => n ≤ c)).min? with
    | none => e.output
    | some m =>
      let start := { e with delta := e.delta + (m - n) * (e.handled + 1) }
      let e := label.foldl (Encoder.visit m) start
      encodeFrom label fuel (m + 1) { e with delta := e.delta + 1 }

/-- The ASCII characters of a label, a hyphen if there are any, then the insertions. -/
def encode (label : List Char) : List Char :=
  let ascii := label.filter (fun c => c.toNat < 128)
  let output := if ascii.isEmpty then [] else ascii ++ ['-']
  encodeFrom (label.map Char.toNat) label.length 128 ⟨0, 72, ascii.length, true, output⟩

/-- Deltas and the weights of their digits must stay below this. -/
def bound : Nat := UInt32.size

/-- Read one delta onto `i`; `none` if the digits end early or exceed the bound. -/
def readDelta : List Char → Nat → Nat → Nat → Nat → Option (Nat × List Char)
  | [], _, _, _, _ => none
  | c :: rest, i, w, k, bias => do
    let d ← digitValue? c
    let t := threshold k bias
    let i := i + d * w
    if bound ≤ i then none
    else if d < t then some (i, rest)
    else if bound ≤ w * (base - t) then none
    else readDelta rest i (w * (base - t)) (k + base) bias

/-- Read insertions until the text ends. -/
def decodeFrom : Nat → List Char → List Nat → Nat → Nat → Nat → Option (List Nat)
  | 0, _, _, _, _, _ => none
  | _ + 1, [], label, _, _, _ => some label
  | fuel + 1, cs, label, n, i, bias => do
    let (j, rest) ← readDelta cs i 1 base bias
    let count := label.length + 1
    let n := n + j / count
    if 0x10FFFF < n ∨ (0xD800 ≤ n ∧ n ≤ 0xDFFF) then none
    else
      let place := j % count
      decodeFrom fuel rest (label.take place ++ n :: label.drop place) n (place + 1)
        (adapt (j - i) count (i = 0))

/-- The label of a text: what stands before the last hyphen, with the insertions behind it. A hyphen
at the very front belongs to the insertions, where it is no digit. -/
def decode? (text : List Char) : Option (List Char) :=
  let reversed := text.reverse
  let tail := (reversed.takeWhile (· ≠ '-')).reverse
  let ascii := (reversed.dropWhile (· ≠ '-')).drop 1 |>.reverse
  let (ascii, tail) := if ascii.isEmpty then ([], text) else (ascii, tail)
  (decodeFrom (text.length + 1) tail (ascii.map Char.toNat) 128 0 72).map (List.map Char.ofNat)

end RedirectLogin.Punycode
