import RedirectLogin.Text.Blank
import RedirectLogin.Time.Calendar

/-!
# Timestamps

A moment in UTC with nanoseconds, and its RFC 3339 text. A leap second is kept as such: it is
second 59 with a fraction of at least one second, and it is written as second 60.

The writer prints no fraction, or three, six or nine digits, whichever is the fewest that loses
nothing. The reader is lenient: blanks may stand before every number and sign, a space may stand
for the `T`, the offset may lack its colon, and fraction digits behind the ninth are dropped.
-/

set_option autoImplicit false

namespace RedirectLogin

/-- A moment: whole seconds since 1970-01-01T00:00:00Z and nanoseconds on top of them. A value of
`nanos` from `10 ^ 9` on lies in the leap second behind `seconds`. -/
structure Timestamp where
  seconds : Int
  nanos : Nat
  deriving DecidableEq, Repr

namespace Timestamp

def nanosPerSecond : Nat := 1000000000

/-- The moment so many nanoseconds after 1970-01-01T00:00:00Z. -/
def ofNanos (n : Int) : Timestamp :=
  ⟨n.fdiv nanosPerSecond, (n - n.fdiv nanosPerSecond * nanosPerSecond).toNat⟩

/-- Nanoseconds from `b` to `a`. -/
def since (a b : Timestamp) : Int :=
  (a.seconds - b.seconds) * nanosPerSecond + ((a.nanos : Int) - b.nanos)

/-- Decimal digits, padded with zeros to `width`. -/
def padded (width n : Nat) : List Char :=
  let ds := Nat.toDigits 10 n
  List.replicate (width - ds.length) '0' ++ ds

/-- Four digits for the years 0 to 9999, a sign and at least four for the others. -/
def yearText (y : Int) : List Char :=
  if 0 ≤ y ∧ y ≤ 9999 then padded 4 y.toNat
  else if y < 0 then '-' :: padded 4 y.natAbs
  else '+' :: padded 4 y.natAbs

/-- The fraction of a second, with its point. -/
def fractionText (nanos : Nat) : List Char :=
  if nanos = 0 then []
  else if nanos % 1000000 = 0 then '.' :: padded 3 (nanos / 1000000)
  else if nanos % 1000 = 0 then '.' :: padded 6 (nanos / 1000)
  else '.' :: padded 9 nanos

def text (t : Timestamp) : String :=
  let day := t.seconds.fdiv 86400
  let second := (t.seconds - day * 86400).toNat
  let (y, m, d) := Time.civil day
  let leap := t.nanos / nanosPerSecond
  String.ofList (yearText y ++ '-' :: padded 2 m ++ '-' :: padded 2 d ++ 'T' ::
    padded 2 (second / 3600) ++ ':' :: padded 2 (second / 60 % 60) ++ ':' ::
    padded 2 (second % 60 + leap) ++ fractionText (t.nanos % nanosPerSecond) ++ ['Z'])

def isDigit (c : Char) : Bool :=
  '0' ≤ c && c ≤ '9'

def digitsValue (cs : List Char) : Nat :=
  cs.foldl (fun n c => n * 10 + (c.toNat - 48)) 0

def skipBlank (cs : List Char) : List Char :=
  cs.dropWhile Text.isBlank

/-- At least one and at most `width` digits. -/
def readDigits (width : Nat) (cs : List Char) : Option (Nat × List Char) :=
  let ds := (cs.take width).takeWhile isDigit
  if ds.isEmpty then none else some (digitsValue ds, cs.drop ds.length)

/-- A year: up to four digits, or a sign and any number of them. -/
def readYear (cs : List Char) : Option (Int × List Char) :=
  match skipBlank cs with
  | '-' :: r => (readDigits r.length r).map (fun p => (-(p.1 : Int), p.2))
  | '+' :: r => (readDigits r.length r).map (fun p => ((p.1 : Int), p.2))
  | r => (readDigits 4 r).map (fun p => ((p.1 : Int), p.2))

/-- A sign that must stand here, behind any blanks. -/
def readSign (c : Char) (cs : List Char) : Option (List Char) :=
  match skipBlank cs with
  | d :: r => if d = c then some r else none
  | [] => none

/-- A number of one or two digits, behind any blanks. -/
def readPart (cs : List Char) : Option (Nat × List Char) :=
  readDigits 2 (skipBlank cs)

/-- An optional fraction of a second, in nanoseconds. -/
def readFraction : List Char → Option (Nat × List Char)
  | '.' :: r =>
    (readDigits 9 r).map fun p =>
      (p.1 * Nat.pow 10 (9 - ((r.take 9).takeWhile isDigit).length), p.2.dropWhile isDigit)
  | r => some (0, r)

/-- An offset from UTC in seconds: `Z`, the letters `UTC`, or a sign, two digits of hours and two
of minutes, with colons and blanks between them skipped. -/
def readOffset (cs : List Char) : Option (Int × List Char) :=
  let upper := fun c : Char => c.toUpper
  match cs with
  | u :: t :: c :: r =>
    if upper u = 'U' ∧ upper t = 'T' ∧ upper c = 'C' then some (0, r) else signed cs
  | _ => signed cs
where
  signed : List Char → Option (Int × List Char)
    | s :: r =>
      if s = 'Z' ∨ s = 'z' then some (0, r)
      else if s = '+' then (hoursMinutes r).map (fun p => ((p.1 : Int), p.2))
      else if s = '-' ∨ s.toNat = 0x2212 then (hoursMinutes r).map (fun p => (-(p.1 : Int), p.2))
      else none
    | [] => none
  hoursMinutes : List Char → Option (Nat × List Char)
    | h :: k :: r =>
      if isDigit h && isDigit k then
        match r.dropWhile (fun c => c = ':' || Text.isBlank c) with
        | m :: n :: r =>
          if isDigit m && isDigit n && m ≤ '5' then
            some (digitsValue [h, k] * 3600 + digitsValue [m, n] * 60, r)
          else none
        | _ => none
      else none
    | _ => none

/-- The last year of dates. -/
def maxYear : Int := 262142

/-- The first year of dates. -/
def minYear : Int := -262143

/-- Whether a moment lies in a year that dates have. -/
def isDatable (t : Timestamp) : Bool :=
  Time.dayNumber minYear 1 1 * 86400 ≤ t.seconds &&
    t.seconds < Time.dayNumber (maxYear + 1) 1 1 * 86400

/-- The moment a text denotes. Both the date as written and the same moment in UTC must lie in a
year that dates have. -/
def parse? (s : String) : Option Timestamp := do
  let (y, r) ← readYear s.toList
  let r ← readSign '-' r
  let (m, r) ← readPart r
  let r ← readSign '-' r
  let (d, r) ← readPart r
  let r ← (match r with
    | c :: r => if c = 'T' ∨ c = 't' ∨ c = ' ' then some r else none
    | [] => none)
  let (hour, r) ← readPart r
  let r ← readSign ':' r
  let (minute, r) ← readPart r
  let r ← readSign ':' r
  let (second, r) ← readPart r
  let (fraction, r) ← readFraction r
  let (offset, r) ← readOffset (skipBlank r)
  if !(skipBlank r).isEmpty then none
  else if m < 1 ∨ 12 < m ∨ d < 1 ∨ Time.daysInMonth y m < d then none
  else if 23 < hour ∨ 59 < minute ∨ 60 < second then none
  else if offset ≤ -86400 ∨ 86400 ≤ offset then none
  else if y < minYear ∨ maxYear < y then none
  else
    let (second, leap) := if second = 60 then (59, nanosPerSecond) else (second, 0)
    let moment : Timestamp :=
      ⟨Time.dayNumber y m d * 86400 + (hour * 3600 + minute * 60 + second : Nat) - offset,
        fraction + leap⟩
    if moment.isDatable then some moment else none

end Timestamp

end RedirectLogin
