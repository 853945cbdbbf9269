import RedirectLogin.Url.Percent

/-!
# Form-encoded pairs

Names and values joined by `=` and `&`, as in the query of a URL. `parse` reads every text: empty
parts between `&` are skipped, a part without `=` has an empty value, and bytes that are not UTF-8
come out as U+FFFD. `writePair` is the other direction.
-/

set_option autoImplicit false

namespace RedirectLogin.Form

/-- Bytes that stand for themselves. -/
def isPlain (b : UInt8) : Bool :=
  (48 ≤ b && b ≤ 57) || (65 ≤ b && b ≤ 90) || (97 ≤ b && b ≤ 122) ||
    b = 42 || b = 45 || b = 46 || b = 95

def encodeByte (b : UInt8) : List Char :=
  if b = 32 then ['+'] else if isPlain b then [Char.ofNat b.toNat] else Percent.encodeByte b

def encode (cs : List Char) : List Char :=
  (Text.encode cs).flatMap encodeByte

def writePair (name value : String) : List Char :=
  encode name.toList ++ '=' :: encode value.toList

/-- The text a name or value stands for. -/
def decode (bs : List UInt8) : String :=
  String.ofList (Text.decodeLossy (Percent.decode (bs.map (fun b => if b = 43 then 32 else b))))

/-- The parts between ampersands; always at least one. -/
def splitParts : List UInt8 → List (List UInt8)
  | [] => [[]]
  | b :: rest =>
    if b = 38 then [] :: splitParts rest
    else
      match splitParts rest with
      | part :: parts => (b :: part) :: parts
      | [] => [[b]]

/-- A part up to its first `=`, and what is behind it. -/
def parsePart (part : List UInt8) : String × String :=
  (decode (part.takeWhile (· ≠ 61)), decode ((part.dropWhile (· ≠ 61)).drop 1))

def parseBytes (bs : List UInt8) : List (String × String) :=
  ((splitParts bs).filter (fun part => !part.isEmpty)).map parsePart

def parse (s : String) : List (String × String) :=
  parseBytes (Text.bytes s)

end RedirectLogin.Form
