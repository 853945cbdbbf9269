import RedirectLogin.Json.Value
import RedirectLogin.Text.Quoted

/-!
# Writing JSON

`compact` has no white space; `pretty` puts every item and member on a line of its own, indented
by two spaces per level, and leaves empty containers closed up. Both write strings by
`stringLiteral`: only quotes, backslashes and control characters are escaped.
-/

set_option autoImplicit false

namespace RedirectLogin.Json

/-- A control character in the form `\u00XX`. -/
def controlEscape (c : Char) : List Char :=
  let digits := Text.hexDigits c.toNat
  ['\x5c', 'u', '0', '0'] ++ (if digits.length < 2 then '0' :: digits else digits)

def escapeChar (c : Char) : List Char :=
  if c = '\x22' || c = '\x5c' then ['\x5c', c]
  else if 0x20 ≤ c.toNat then [c]
  else if c = '\n' then ['\x5c', 'n']
  else if c = '\r' then ['\x5c', 'r']
  else if c = '\t' then ['\x5c', 't']
  else if c.toNat = 8 then ['\x5c', 'b']
  else if c.toNat = 12 then ['\x5c', 'f']
  else controlEscape c

def stringLiteral (s : String) : List Char :=
  '\x22' :: s.toList.flatMap escapeChar ++ ['\x22']

mutual

def compactChars : Json → List Char
  | .null => ['n', 'u', 'l', 'l']
  | .bool true => ['t', 'r', 'u', 'e']
  | .bool false => ['f', 'a', 'l', 's', 'e']
  | .number n => n.text.toList
  | .string s => stringLiteral s
  | .array items => '[' :: compactItems items ++ [']']
  | .object members => '\x7b' :: compactMembers members ++ ['\x7d']

def compactItems : List Json → List Char
  | [] => []
  | [j] => compactChars j
  | j :: k :: rest => compactChars j ++ ',' :: compactItems (k :: rest)

def compactMembers : List (String × Json) → List Char
  | [] => []
  | [(key, v)] => stringLiteral key ++ ':' :: compactChars v
  | (key, v) :: m :: rest =>
    stringLiteral key ++ ':' :: (compactChars v ++ ',' :: compactMembers (m :: rest))

end

def compact (j : Json) : String :=
  String.ofList (compactChars j)

/-- A new line at nesting level `level`. -/
def lineBreak (level : Nat) : List Char :=
  '\n' :: List.replicate (2 * level) ' '

mutual

def prettyChars (level : Nat) : Json → List Char
  | .array [] => ['[', ']']
  | .array (j :: rest) => '[' :: prettyItems (level + 1) (j :: rest) ++ lineBreak level ++ [']']
  | .object [] => ['\x7b', '\x7d']
  | .object (m :: rest) =>
    '\x7b' :: prettyMembers (level + 1) (m :: rest) ++ lineBreak level ++ ['\x7d']
  | .null => ['n', 'u', 'l', 'l']
  | .bool true => ['t', 'r', 'u', 'e']
  | .bool false => ['f', 'a', 'l', 's', 'e']
  | .number n => n.text.toList
  | .string s => stringLiteral s

def prettyItems (level : Nat) : List Json → List Char
  | [] => []
  | [j] => lineBreak level ++ prettyChars level j
  | j :: k :: rest => lineBreak level ++ prettyChars level j ++ ',' :: prettyItems level (k :: rest)

def prettyMembers (level : Nat) : List (String × Json) → List Char
  | [] => []
  | [(key, v)] => lineBreak level ++ stringLiteral key ++ ':' :: ' ' :: prettyChars level v
  | (key, v) :: m :: rest =>
    lineBreak level ++ stringLiteral key ++ ':' :: ' ' :: prettyChars level v ++
      ',' :: prettyMembers level (m :: rest)

end

def pretty (j : Json) : String :=
  String.ofList (prettyChars 0 j)

end RedirectLogin.Json
