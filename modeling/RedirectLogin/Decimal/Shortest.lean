/-!
# Shortest decimal text of a binary fraction

A finite double is a number `m * 2 ^ q`. Its text has the fewest digits that read back as the
same double, and among those the ones nearest to it. The search runs over digit counts 1 to 17:
on each decimal grid only the two neighbours of the value have to be tried.

All arithmetic is exact, on natural numbers scaled so that the grid, the value and the ends of
its rounding interval are integers.
-/

set_option autoImplicit false

namespace RedirectLogin.Decimal

/-- The bits of a double, taken apart. -/
structure Binary where
  negative : Bool
  mantissa : Nat
  exponent : Int
  deriving DecidableEq, Repr

/-- How many values the fraction of a double has: `2 ^ 52`. -/
def fractions : Nat := 0x10000000000000

/-- A finite double; `none` for infinities and NaN. -/
def Binary.ofBits? (bits : UInt64) : Option Binary :=
  let n := bits.toNat
  let e : Nat := n / fractions % 2048
  let f : Nat := n % fractions
  let negative := n / (UInt64.size / 2) == 1
  if e = 2047 then none
  else if e = 0 then some ⟨negative, f, -1074⟩
  else some ⟨negative, fractions + f, (e : Int) - 1075⟩

/-- The value `n * 2 ^ q` times `10 ^ -k`, as a fraction. -/
def scaled (n : Nat) (q k : Int) : Nat × Nat :=
  (n * Nat.pow 2 q.toNat * Nat.pow 10 (-k).toNat,
   Nat.pow 2 (-q).toNat * Nat.pow 10 k.toNat)

/-- Whether `d * 10 ^ k` lies among the reals that round to `m * 2 ^ q`. The interval reaches half
a unit to each side (a quarter below a power of two) and holds its ends iff `m` is even. -/
def readsBack (m : Nat) (q : Int) (d : Nat) (k : Int) : Bool :=
  let (_, den) := scaled 1 (q - 2) k
  let (below, _) := scaled (4 * m - (if m = fractions ∧ q > -1074 then 1 else 2)) (q - 2) k
  let (above, _) := scaled (4 * m + 2) (q - 2) k
  let x := d * den
  if m % 2 = 0 then below ≤ x && x ≤ above else below < x && x < above

/-- The neighbour of `m * 2 ^ q` on the grid `10 ^ k` that reads back, the nearer one of two; a
tie goes to the even digit. -/
def onGrid? (m : Nat) (q k : Int) : Option Nat :=
  let (num, den) := scaled m q k
  let low := num / den
  let high := low + 1
  let lowOk := low ≠ 0 && readsBack m q low k
  let highOk := readsBack m q high k
  if lowOk && highOk then
    let twice := 2 * (num % den)
    if twice < den then some low
    else if den < twice then some high
    else if low % 2 = 0 then some low else some high
  else if lowOk then some low
  else if highOk then some high
  else none

/-- The decimal exponent of the leading digit: the largest `e` with `10 ^ e ≤ num / den`,
searched downwards from `start`. -/
def leadingExponent (m : Nat) (q : Int) : Nat → Int → Int
  | 0, e => e
  | fuel + 1, e =>
    let (num, den) := scaled m q e
    if den ≤ num then e else leadingExponent m q fuel (e - 1)

/-- Try grids of growing fineness. -/
def search (m : Nat) (q : Int) : Nat → Int → Nat × Int
  | 0, k =>
    let (num, den) := scaled m q k
    (num / den, k)
  | fuel + 1, k =>
    match onGrid? m q k with
    | some d => (d, k)
    | none => search m q fuel (k - 1)

/-- Drop the zeros at the end of the digits. -/
def strip : Nat → Nat → Int → Nat × Int
  | 0, d, k => (d, k)
  | fuel + 1, d, k => if d ≠ 0 ∧ d % 10 = 0 then strip fuel (d / 10) (k + 1) else (d, k)

/-- The digits `d` and exponent `k` of the shortest decimal `d * 10 ^ k` for `m * 2 ^ q`. -/
def shortest (m : Nat) (q : Int) : Nat × Int :=
  let e := leadingExponent m q 640 310
  let (d, k) := search m q 17 e
  strip 20 d k

/-- How doubles are written: positional from `1e-5` up to below `1e16`, otherwise with a signed
exponent; a whole number keeps a `.0`. -/
def render (bits : UInt64) : String :=
  match Binary.ofBits? bits with
  | none => "null"
  | some b =>
    let sign := if b.negative then "-" else ""
    if b.mantissa = 0 then sign ++ "0.0"
    else
      let (d, k) := shortest b.mantissa b.exponent
      let digits := Nat.toDigits 10 d
      let point : Int := digits.length + k
      if -5 < point ∧ point ≤ 16 then
        if 0 ≤ k then
          sign ++ String.ofList (digits ++ List.replicate k.toNat '0') ++ ".0"
        else if 0 < point then
          sign ++ String.ofList (digits.take point.toNat) ++ "." ++
            String.ofList (digits.drop point.toNat)
        else
          sign ++ "0." ++ String.ofList (List.replicate (-point).toNat '0' ++ digits)
      else
        let exponent := point - 1
        let expText := (if exponent < 0 then "e-" else "e+") ++ toString exponent.natAbs
        match digits with
        | [one] => sign ++ String.ofList [one] ++ expText
        | first :: more => sign ++ String.ofList [first] ++ "." ++ String.ofList more ++ expText
        | [] => sign

end RedirectLogin.Decimal
