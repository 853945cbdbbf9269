/-!
# UTF-8

Texts as byte lists. `decode?` is the strict reader, `decodeMarked` the one that puts a mark in the
place of every maximal ill-formed part, U+FFFD in `decodeLossy`; both walk the bytes with `split`,
which takes one character or one ill-formed part off the front.

Principal results: `split_length_le` — `split` never gives back more than it was given;
`decodeMarked` and `decode?` therefore end on every input. `decodeMarked_eq_of_decode?` — bytes
that are a text are read as that text by both.
-/

set_option autoImplicit false

namespace RedirectLogin.Text

/-- The bytes of a text. -/
def encode (cs : List Char) : List UInt8 :=
  cs.flatMap String.utf8EncodeChar

/-- The bytes of a string. -/
def bytes (s : String) : List UInt8 :=
  encode s.toList

/-- A byte that can only continue a character. -/
def isContinuation (b : UInt8) : Bool :=
  0x80 ≤ b && b ≤ 0xBF

/-- The six bits that a continuation byte carries. -/
def payload (b : UInt8) : Nat :=
  b.toNat % 64

/-- Read `n` more continuation bytes onto `acc`. -/
def continueWith : Nat → Nat → List UInt8 → Option Char × List UInt8
  | 0, acc, rest => (some (Char.ofNat acc), rest)
  | n + 1, acc, b :: rest =>
    if isContinuation b then continueWith n (acc * 64 + payload b) rest else (none, b :: rest)
  | _ + 1, _, [] => (none, [])

/-- Read a second byte that must lie between `lo` and `hi`, then `n` continuation bytes. -/
def continueBetween (lo hi : UInt8) (n acc : Nat) : List UInt8 → Option Char × List UInt8
  | b :: rest =>
    if lo ≤ b && b ≤ hi then continueWith n (acc * 64 + payload b) rest else (none, b :: rest)
  | [] => (none, [])

/-- Take one character off the front, or (`none`) one maximal ill-formed part. The lead byte `b`
fixes the range of the second byte, which is how overlong forms, surrogates and code points
above U+10FFFF are refused. -/
def split (b : UInt8) (rest : List UInt8) : Option Char × List UInt8 :=
  if b < 0x80 then (some (Char.ofNat b.toNat), rest)
  else if b < 0xC2 then (none, rest)
  else if b < 0xE0 then continueWith 1 (b.toNat % 32) rest
  else if b = 0xE0 then continueBetween 0xA0 0xBF 1 0 rest
  else if b = 0xED then continueBetween 0x80 0x9F 1 13 rest
  else if b < 0xF0 then continueWith 2 (b.toNat % 16) rest
  else if b = 0xF0 then continueBetween 0x90 0xBF 2 0 rest
  else if b < 0xF4 then continueWith 3 (b.toNat % 8) rest
  else if b = 0xF4 then continueBetween 0x80 0x8F 2 4 rest
  else (none, rest)

theorem continueWith_length_le (n acc : Nat) (rest : List UInt8) :
    (continueWith n acc rest).2.length ≤ rest.length := by
  induction n generalizing acc rest with
  | zero => simp [continueWith]
  | succ n ih =>
    cases rest with
    | nil => simp [continueWith]
    | cons b rest =>
      by_cases h : isContinuation b
      · simp only [continueWith, h, if_true, List.length_cons]
        exact Nat.le_succ_of_le (ih _ _)
      · simp [continueWith, h]

theorem continueBetween_length_le (lo hi : UInt8) (n acc : Nat) (rest : List UInt8) :
    (continueBetween lo hi n acc rest).2.length ≤ rest.length := by
  cases rest with
  | nil => simp [continueBetween]
  | cons b rest =>
    by_cases h : (lo ≤ b && b ≤ hi) = true
    · simp only [continueBetween, h, if_true, List.length_cons]
      exact Nat.le_succ_of_le (continueWith_length_le _ _ _)
    · simp [continueBetween, h]

theorem split_length_le (b : UInt8) (rest : List UInt8) :
    (split b rest).2.length ≤ rest.length := by
  unfold split
  repeat' split
  all_goals first
    | exact Nat.le_refl _
    | exact continueWith_length_le _ _ _
    | exact continueBetween_length_le _ _ _ _ _

/-- Every byte must belong to a well-formed character. -/
def decode? : List UInt8 → Option (List Char)
  | [] => some []
  | b :: rest => (split b rest).1.bind fun c => (decode? (split b rest).2).map (c :: ·)
termination_by bs => bs.length
decreasing_by
  have hle := split_length_le b rest
  simp only [List.length_cons]
  omega

/-- Each maximal ill-formed part becomes the text `mark`. -/
def decodeMarked (mark : List Char) : List UInt8 → List Char
  | [] => []
  | b :: rest =>
    (match (split b rest).1 with
      | some c => [c]
      | none => mark) ++ decodeMarked mark (split b rest).2
termination_by bs => bs.length
decreasing_by
  have hle := split_length_le b rest
  simp only [List.length_cons]
  omega

theorem decodeMarked_eq_of_decode? (mark : List Char) {bs : List UInt8} {cs : List Char}
    (h : decode? bs = some cs) : decodeMarked mark bs = cs := by
  induction bs using decodeMarked.induct generalizing cs with
  | case1 =>
    simp only [decode?, Option.some.injEq] at h
    simp [decodeMarked, h]
  | case2 b rest ih =>
    rw [decode?] at h
    obtain ⟨c, hc, h⟩ := Option.bind_eq_some_iff.1 h
    obtain ⟨ds, hds, rfl⟩ := Option.map_eq_some_iff.1 h
    rw [decodeMarked, hc, ih hds]
    rfl

/-- Each maximal ill-formed part becomes one U+FFFD. -/
def decodeLossy : List UInt8 → List Char :=
  decodeMarked ['\ufffd']

end RedirectLogin.Text
