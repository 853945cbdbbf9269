/-!
# Base64

The standard alphabet with mandatory padding. Reading is strict: every text has at most one
meaning and every byte list exactly one text, and a refusal says what is wrong and where.

The text is read in groups of four symbols. A group with others behind it must hold four
symbols of the alphabet; only the last group may be short or padded, so all rules about padding,
length and unused bits are rules about the last group (`readLast`).
-/

set_option autoImplicit false

namespace RedirectLogin.Text.Base64

/-- Why a text is not Base64; positions count bytes from the start of the text. -/
inductive Refusal where
  | symbol (offset : Nat) (byte : UInt8)
  | lastSymbol (offset : Nat) (byte : UInt8)
  | length (symbols : Nat)
  | padding
  deriving DecidableEq, Repr

def Refusal.message : Refusal → String
  | .symbol offset byte =>
    "Invalid symbol " ++ toString byte.toNat ++ ", offset " ++ toString offset ++ "."
  | .lastSymbol offset byte =>
    "Invalid last symbol " ++ toString byte.toNat ++ ", offset " ++ toString offset ++ "."
  | .length symbols => "Invalid input length: " ++ toString symbols
  | .padding => "Invalid padding"

/-- The symbol of a value below 64. -/
def symbol (n : Nat) : UInt8 :=
  if n < 26 then UInt8.ofNat (n + 65)
  else if n < 52 then UInt8.ofNat (n + 71)
  else if n < 62 then UInt8.ofNat (n - 4)
  else if n = 62 then 43
  else 47

/-- The value of a symbol, if it is one of the 64. -/
def value? (b : UInt8) : Option Nat :=
  if 65 ≤ b && b ≤ 90 then some (b.toNat - 65)
  else if 97 ≤ b && b ≤ 122 then some (b.toNat - 71)
  else if 48 ≤ b && b ≤ 57 then some (b.toNat + 4)
  else if b = 43 then some 62
  else if b = 47 then some 63
  else none

/-- The padding sign. -/
def pad : UInt8 := 61

/-- Three bytes become four symbols; what is left over is padded to four. -/
def encode : List UInt8 → List UInt8
  | [] => []
  | [a] =>
    let n := a.toNat * 16
    [symbol (n / 64), symbol (n % 64), pad, pad]
  | [a, b] =>
    let n := (a.toNat * 256 + b.toNat) * 4
    [symbol (n / 4096), symbol (n / 64 % 64), symbol (n % 64), pad]
  | a :: b :: c :: rest =>
    let n := (a.toNat * 256 + b.toNat) * 256 + c.toNat
    symbol (n / 262144) :: symbol (n / 4096 % 64) :: symbol (n / 64 % 64) :: symbol (n % 64) ::
      encode rest

/-- The written form as a string; every byte of it is ASCII. -/
def write (bs : List UInt8) : String :=
  String.ofList ((encode bs).map (fun b => Char.ofNat b.toNat))

/-- The values of the symbols in the last group up to the padding, and the number of padding
signs. Padding may start only behind two symbols and ends the group. -/
def readSymbols (start : Nat) : Nat → List UInt8 → Except Refusal (List Nat × Nat)
  | _, [] => .ok ([], 0)
  | i, b :: rest =>
    if b = pad then
      if i < 2 then .error (.symbol (start + i) b)
      else if rest.all (· == pad) then .ok ([], rest.length + 1)
      else .error (.symbol (start + i) b)
    else
      match value? b with
      | none => .error (.symbol (start + i) b)
      | some v => do
        let (vs, padding) ← readSymbols start (i + 1) rest
        .ok (v :: vs, padding)

/-- The last group: it needs two symbols, the padding must fill it up to four, and bits that
belong to no byte must be zero. -/
def readLast (start : Nat) (group : List UInt8) : Except Refusal (List UInt8) := do
  let (vs, padding) ← readSymbols start 0 group
  if !(start == 0 && group.isEmpty) && vs.length < 2 then .error (.length (start + vs.length))
  else if (vs.length + padding) % 4 ≠ 0 then .error .padding
  else
    match vs with
    | [v, w] =>
      if w % 16 ≠ 0 then .error (.lastSymbol (start + 1) (group.getD 1 0))
      else .ok [UInt8.ofNat (v * 4 + w / 16)]
    | [v, w, x] =>
      if x % 4 ≠ 0 then .error (.lastSymbol (start + 2) (group.getD 2 0))
      else
        let n := (v * 64 + w) * 16 + x / 4
        .ok [UInt8.ofNat (n / 256), UInt8.ofNat (n % 256)]
    | [v, w, x, y] =>
      let n := ((v * 64 + w) * 64 + x) * 64 + y
      .ok [UInt8.ofNat (n / 65536), UInt8.ofNat (n / 256 % 256), UInt8.ofNat (n % 256)]
    | _ => .ok []

/-- The value of the symbol at a position that must hold one. -/
def require (offset : Nat) (b : UInt8) : Except Refusal Nat :=
  match value? b with
  | some v => .ok v
  | none => .error (.symbol offset b)

def decodeFrom (start : Nat) : List UInt8 → Except Refusal (List UInt8)
  | a :: b :: c :: d :: e :: rest => do
    let v ← require start a
    let w ← require (start + 1) b
    let x ← require (start + 2) c
    let y ← require (start + 3) d
    let n := ((v * 64 + w) * 64 + x) * 64 + y
    let bs ← decodeFrom (start + 4) (e :: rest)
    .ok (UInt8.ofNat (n / 65536) :: UInt8.ofNat (n / 256 % 256) :: UInt8.ofNat (n % 256) :: bs)
  | group => readLast start group

/-- A text one symbol too long whose last byte is no symbol (a line end, say) is refused for that
byte before anything else. -/
def decode (text : List UInt8) : Except Refusal (List UInt8) :=
  match text.getLast? with
  | some b =>
    if text.length % 4 = 1 ∧ b ≠ pad ∧ (value? b).isNone then
      .error (.symbol (text.length - 1) b)
    else decodeFrom 0 text
  | none => .ok []

end RedirectLogin.Text.Base64
