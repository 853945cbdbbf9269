import RedirectLogin.Text.Visible

/-!
# Quoted text

How a message shows a text it complains about: between double quotes, with escapes for quotes,
backslashes and every character a reader could not see or could not tell from its neighbours.
-/

set_option autoImplicit false

namespace RedirectLogin.Text

/-- How one character is shown. -/
def quotedChar (c : Char) : List Char :=
  if c.toNat = 0 then ['\x5c', '0']
  else if c = '\t' then ['\x5c', 't']
  else if c = '\r' then ['\x5c', 'r']
  else if c = '\n' then ['\x5c', 'n']
  else if c = '\x22' || c = '\x5c' then ['\x5c', c]
  else if isFormless c then
    ['\x5c', 'u', '\x7b'] ++ hexDigits c.toNat ++ ['\x7d']
  else [c]

def quoted (s : String) : String :=
  String.ofList ('\x22' :: s.toList.flatMap quotedChar ++ ['\x22'])

end RedirectLogin.Text
