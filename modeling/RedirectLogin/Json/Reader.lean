import RedirectLogin.Json.Outline

/-!
# Reading JSON

A strict reader: the text is one value and nothing else, with at most 127 nested containers, every
number fits a double, and no string holds a surrogate alone.
-/

set_option autoImplicit false

namespace RedirectLogin.Json

/-- How deep containers may nest. -/
def maxDepth : Nat := 127

/-- The document that makes up the whole text. -/
def parse? (text : String) : Option Json :=
  match Outline.ofText text with
  | (outline, true) => outline.value? maxDepth
  | (_, false) => none

end RedirectLogin.Json
