import RedirectLogin.Text.Hex

/-!
# Numeric addresses

The numeric hosts of a URL. An IPv4 address may be written with one to four parts in decimal,
octal or hexadecimal, the last part filling all remaining bytes; it is printed as four decimal
bytes. An IPv6 address is printed with its longest run of zero pieces compressed.
-/

set_option autoImplicit false

namespace RedirectLogin

/-- A part of a dotted name as a number: `none` if it is no number, `some none` if it is one that
exceeds 32 bits. -/
def Ipv4.part? (cs : List Char) : Option (Option Nat) :=
  let isHex := fun c : Char => ('0' ≤ c && c ≤ '9') || ('a' ≤ c && c ≤ 'f') || ('A' ≤ c && c ≤ 'F')
  let value := fun c : Char =>
    if c ≤ '9' then c.toNat - 48 else if c ≤ 'F' then c.toNat - 55 else c.toNat - 87
  let number := fun (radix : Nat) (ds : List Char) =>
    let n := ds.foldl (fun n c => n * radix + value c) 0
    some (if n < UInt32.size then some n else none)
  match cs with
  | [] => none
  | '0' :: x :: ds =>
    if x = 'x' || x = 'X' then
      if ds.isEmpty then some (some 0) else if ds.all isHex then number 16 ds else none
    else if (x :: ds).all (fun c => '0' ≤ c && c ≤ '7') then number 8 (x :: ds)
    else none
  | ds => if ds.all (fun c => '0' ≤ c && c ≤ '9') then number 10 ds else none

/-- Whether a name must be read as an IPv4 address: its last label, or the one before a final dot,
is a number. -/
def Ipv4.endsInNumber (labels : List (List Char)) : Bool :=
  let last? := match labels.reverse with
    | [] :: last :: _ => some last
    | [] :: [] => none
    | last :: _ => some last
    | [] => none
  match last? with
  | none => false
  | some last =>
    (!last.isEmpty && last.all (fun c => '0' ≤ c && c ≤ '9')) || (Ipv4.part? last).isSome

/-- The address of a name that ends in a number, as one number of 32 bits. -/
def Ipv4.ofLabels? (labels : List (List Char)) : Option Nat := do
  let labels := if labels.getLast? = some [] then labels.dropLast else labels
  if 4 < labels.length then none
  else
    let numbers ← labels.mapM (fun l => (Ipv4.part? l).join)
    let last ← numbers.getLast?
    let front := numbers.dropLast
    if Nat.pow 256 (4 - front.length) ≤ last then none
    else if front.any (fun n => 255 < n) then none
    else
      some (front.zipIdx.foldl (fun n p => n + p.1 * Nat.pow 256 (3 - p.2)) last)

def Ipv4.text (n : Nat) : List Char :=
  (toString (n / 16777216) ++ "." ++ toString (n / 65536 % 256) ++ "." ++
    toString (n / 256 % 256) ++ "." ++ toString (n % 256)).toList

namespace Ipv6

/-- A byte in decimal without leading zeros, and the rest. -/
def readByte (cs : List Char) : Option (Nat × List Char) :=
  let ds := cs.takeWhile (fun c => '0' ≤ c && c ≤ '9')
  let n := ds.foldl (fun n c => n * 10 + (c.toNat - 48)) 0
  if ds.isEmpty || (1 < ds.length && ds.head? = some '0') || 255 < n then none
  else some (n, cs.drop ds.length)

/-- The two pieces of a dotted IPv4 tail that ends the text. -/
def readTail? (cs : List Char) : Option (List Nat) := do
  let (a, r) ← readByte cs
  let (b, r) ← dot r
  let (c, r) ← dot r
  let (d, r) ← dot r
  if r.isEmpty then some [a * 256 + b, c * 256 + d] else none
where
  dot : List Char → Option (Nat × List Char)
    | '.' :: r => readByte r
    | _ => none

/-- Pieces read so far, and how many of them stand before the compressed run. -/
structure Reading where
  pieces : List Nat
  compressed : Option Nat

/-- Read pieces until the text ends. -/
def readPieces : Nat → List Char → Reading → Option Reading
  | 0, _, _ => none
  | _ + 1, [], r => some r
  | fuel + 1, c :: cs, r =>
    let count := r.pieces.length + (if r.compressed.isSome then 1 else 0)
    if 8 ≤ count then none
    else if c = ':' then
      if r.compressed.isSome then none
      else readPieces fuel cs { r with compressed := some r.pieces.length }
    else
      let ds := ((c :: cs).take 4).takeWhile (fun d => (Text.hexValue? d).isSome)
      let n := ds.foldl (fun n d => n * 16 + (Text.hexValue? d).getD 0) 0
      match (c :: cs).drop ds.length with
      | [] => some { r with pieces := r.pieces ++ [n] }
      | '.' :: _ =>
        if ds.isEmpty || 6 < count then none
        else (readTail? (c :: cs)).map fun tail => { r with pieces := r.pieces ++ tail }
      | ':' :: rest =>
        if rest.isEmpty then none
        else readPieces fuel rest { r with pieces := r.pieces ++ [n] }
      | _ => none

/-- The eight pieces of an address. A leading colon must be doubled; a double colon stands for all
pieces that are missing. -/
def parse? (cs : List Char) : Option (List Nat) := do
  let r ← (match cs with
    | ':' :: ':' :: rest => readPieces (rest.length + 1) rest ⟨[], some 0⟩
    | ':' :: _ => none
    | [] => none
    | [_] => none
    | cs => readPieces (cs.length + 1) cs ⟨[], none⟩)
  match r.compressed with
  | none => if r.pieces.length = 8 then some r.pieces else none
  | some k =>
    if r.pieces.length ≤ 8 then
      some (r.pieces.take k ++ List.replicate (8 - r.pieces.length) 0 ++ r.pieces.drop k)
    else none

/-- Length of the run of zeros at the front. -/
def zeros (pieces : List Nat) : Nat :=
  (pieces.takeWhile (· = 0)).length

/-- Where the longest run of zeros starts and how long it is; the first of equals. -/
def longestRun : Nat → List Nat → Nat × Nat
  | _, [] => (0, 0)
  | i, p :: ps =>
    let here := zeros (p :: ps)
    let later := longestRun (i + 1) ps
    if later.2 ≤ here then (i, here) else later

def joinPieces (pieces : List Nat) : List Char :=
  (String.intercalate ":" (pieces.map (fun n => String.ofList (Nat.toDigits 16 n)))).toList

def text (pieces : List Nat) : List Char :=
  let (start, len) := longestRun 0 pieces
  if len < 2 then joinPieces pieces
  else joinPieces (pieces.take start) ++ ':' :: ':' :: joinPieces (pieces.drop (start + len))

end Ipv6

end RedirectLogin
