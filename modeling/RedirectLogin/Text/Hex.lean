/-!
# Hexadecimal digits
-/

set_option autoImplicit false

namespace RedirectLogin.Text

/-- The value of a hexadecimal digit, of either case. -/
def hexValue? (c : Char) : Option Nat :=
  if '0' ≤ c && c ≤ '9' then some (c.toNat - 48)
  else if 'a' ≤ c && c ≤ 'f' then some (c.toNat - 87)
  else if 'A' ≤ c && c ≤ 'F' then some (c.toNat - 55)
  else none

/-- The number that digits write; what is no digit counts as zero. -/
def hexNumber (cs : List Char) : Nat :=
  cs.foldl (fun n c => n * 16 + (hexValue? c).getD 0) 0

/-- The bytes that pairs of digits write; a digit left over at the end does not count. -/
def hexBytes : List Char → List UInt8
  | high :: low :: rest => UInt8.ofNat (hexNumber [high, low]) :: hexBytes rest
  | _ => []

/-- The lower-case digits of a number, at least one. -/
def hexDigits (n : Nat) : List Char :=
  Nat.toDigits 16 n

end RedirectLogin.Text
