import RedirectLogin.Text.Utf8
import RedirectLogin.Url.Domain.Characters
import RedirectLogin.Url.Domain.Direction
import RedirectLogin.Url.Domain.Joiner
import RedirectLogin.Url.Punycode

/-!
# Domain names

A domain in a URL with a special scheme is brought to one spelling and then written in ASCII:
characters are replaced by what they stand for and composed, labels in `xn--` form are read, every
label is checked, and labels that are not ASCII are written in `xn--` form again. Characters that
divide a URL are refused however they were spelled.

`toAscii?` is total and its result is always ASCII. A domain of ASCII labels without `xn--` is only
folded to lower case; no table is looked at.

Principal results: `foldChar?_of_ascii` — an ASCII character becomes lower-case and nothing else.
-/

set_option autoImplicit false

namespace RedirectLogin.Domain

/-- What a character stands for; `none` if no domain may hold it. -/
def foldChar? (c : Char) : Option (List Char) :=
  if isAscii c then some [lowerAscii c]
  else
    match spelling? c with
    | some text => some text
    | none => if refused.contains c then none else some [c]

/-- The one spelling of a text. -/
def fold? (cs : List Char) : Option (List Char) :=
  (cs.mapM foldChar?).map (fun texts => compose texts.flatten)

/-- The labels between dots; always at least one. -/
def splitLabels : List Char → List (List Char)
  | [] => [[]]
  | c :: cs =>
    if c = '.' then [] :: splitLabels cs
    else
      match splitLabels cs with
      | label :: labels => (c :: label) :: labels
      | [] => [[c]]

def joinLabels : List (List Char) → List Char
  | [] => []
  | [label] => label
  | label :: labels => label ++ '.' :: joinLabels labels

/-- A label beyond ASCII may not be longer than this, in characters. -/
def maxLabelLength : Nat := 1000

/-- The part of a label behind `xn--` may not be longer than this. -/
def maxEncodedLength : Nat := 2000

/-- Whether a folded label beyond ASCII is in order on its own. -/
def isSound (label : List Char) : Bool :=
  !(label.head?.any isMark) && joinersFit [] label && label.length ≤ maxLabelLength

/-- The label that the text behind `xn--` writes. It must need that form, and be spelled as a
folded label is. -/
def decodeLabel? (text : List Char) : Option (List Char) :=
  if text.all isAscii ∧ text.length ≤ maxEncodedLength ∧ text.getLast? ≠ some '-' then
    (Punycode.decode? text).filter fun label =>
      !(label.all isAscii) && label.all isSettled && compose label == label &&
        !("xn--".toList.isPrefixOf label) && isSound label
  else none

/-- The meaning of a folded label. -/
def readLabel? : List Char → Option (List Char)
  | 'x' :: 'n' :: '-' :: '-' :: text => if text.isEmpty then none else decodeLabel? text
  | label => if label.all isAscii || isSound label then some label else none

/-- The written form of a label. -/
def writeLabel (label : List Char) : List Char :=
  if label.all isAscii then label else "xn--".toList ++ Punycode.encode label

/-- Whether all labels are ASCII, in which case they need not be checked for direction. -/
def areAscii (labels : List (List Char)) : Bool :=
  labels.all (fun label => label.all isAscii)

/-- The one spelling of a domain given by its bytes; `none` if it is no domain. -/
def toAscii? (bs : List UInt8) : Option (List Char) := do
  let folded ← fold? (← Text.decode? bs)
  if folded.any isForbidden then none
  else
    let labels ← (splitLabels folded).mapM readLabel?
    if areAscii labels || areInOrder labels then some (joinLabels (labels.map writeLabel)) else none

theorem foldChar?_of_ascii {c : Char} (h : isAscii c = true) :
    foldChar? c = some [lowerAscii c] := by
  simp [foldChar?, h]

end RedirectLogin.Domain
