import RedirectLogin.Cipher.Words

/-!
# Poly1305

A tag of 16 bytes for a message under a key of 32 bytes that is used once: the message, cut into
blocks of 16 bytes, is a polynomial that is evaluated at the first half of the key and shifted by
the second.
-/

set_option autoImplicit false

namespace RedirectLogin.Cipher.Poly1305

def modulus : Nat := Nat.pow 2 130 - 5

/-- The point of evaluation: the first half of the key with 22 bits cleared. -/
def point (key : List UInt8) : Nat :=
  ofLittleEndian (key.take 16) &&& 0x0ffffffc0ffffffc0ffffffc0fffffff

/-- The value of a polynomial whose leading coefficients gave `sum`. A block counts with a one
behind its last byte. -/
def evaluate (r : Nat) (sum : Nat) (message : List UInt8) : Nat :=
  match message with
  | [] => sum
  | b :: bs =>
    let coefficient := ofLittleEndian ((b :: bs).take 16 ++ [1])
    evaluate r ((sum + coefficient) * r % modulus) ((b :: bs).drop 16)
termination_by message.length
decreasing_by simp only [List.length_drop, List.length_cons]; omega

def tag (key message : List UInt8) : List UInt8 :=
  littleEndian 16
    ((evaluate (point key) 0 message + ofLittleEndian ((key.drop 16).take 16)) % Nat.pow 2 128)

theorem tag_length (key message : List UInt8) : (tag key message).length = 16 :=
  littleEndian_length _ _

end RedirectLogin.Cipher.Poly1305
