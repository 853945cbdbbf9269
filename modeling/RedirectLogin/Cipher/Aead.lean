import RedirectLogin.Cipher.ChaCha20
import RedirectLogin.Cipher.Poly1305

/-!
# Encryption with authentication

A text that is hidden and signed: the ChaCha20 stream from its second block on hides the text, and
Poly1305 under the first block signs the hidden text. A sealed text is the hidden text and its tag
of 16 bytes.

Principal results: `decrypt?_encrypt` — what was sealed is read back; `decrypt?_eq_some_iff` —
nothing else is read at all.
-/

set_option autoImplicit false

namespace RedirectLogin.Cipher

/-- The key of the tag: the first half of the stream's first block. -/
def tagKey (key nonce : List UInt8) : List UInt8 :=
  (ChaCha20.block key nonce 0).take 32

/-- Zeros up to the next multiple of 16. -/
def padding (n : Nat) : List UInt8 :=
  List.replicate ((16 - n % 16) % 16) 0

/-- The tag of a hidden text; nothing else is signed. -/
def signature (key nonce hidden : List UInt8) : List UInt8 :=
  Poly1305.tag (tagKey key nonce)
    (hidden ++ padding hidden.length ++ littleEndian 8 0 ++ littleEndian 8 hidden.length)

/-- Hide a text, or show it again. -/
def mask (key nonce text : List UInt8) : List UInt8 :=
  xorBytes text (ChaCha20.keystream key nonce 1 text.length)

theorem mask_length (key nonce text : List UInt8) : (mask key nonce text).length = text.length :=
  xorBytes_length _ _ (Nat.le_of_eq (ChaCha20.keystream_length _ _ _ _).symm)

theorem mask_mask (key nonce text : List UInt8) : mask key nonce (mask key nonce text) = text := by
  have h : mask key nonce (mask key nonce text) =
      xorBytes (mask key nonce text) (ChaCha20.keystream key nonce 1 text.length) := by
    rw [mask, mask_length]
  rw [h, mask]
  exact xorBytes_cancel _ _ (Nat.le_of_eq (ChaCha20.keystream_length _ _ _ _).symm)

def encrypt (key nonce text : List UInt8) : List UInt8 :=
  mask key nonce text ++ signature key nonce (mask key nonce text)

/-- The text in a sealed text, if the tag at its end is right. -/
def decrypt? (key nonce sealed : List UInt8) : Option (List UInt8) :=
  let hidden := sealed.take (sealed.length - 16)
  if 16 ≤ sealed.length ∧ sealed.drop (sealed.length - 16) = signature key nonce hidden then
    some (mask key nonce hidden)
  else none

theorem signature_length (key nonce hidden : List UInt8) :
    (signature key nonce hidden).length = 16 :=
  Poly1305.tag_length _ _

theorem decrypt?_encrypt (key nonce text : List UInt8) :
    decrypt? key nonce (encrypt key nonce text) = some text := by
  have hlen : (encrypt key nonce text).length - 16 = (mask key nonce text).length := by
    simp [encrypt, signature_length]
  have hle : 16 ≤ (encrypt key nonce text).length := by
    simp [encrypt, signature_length]
  have htake : (encrypt key nonce text).take (mask key nonce text).length = mask key nonce text :=
    List.take_left' rfl
  have hdrop : (encrypt key nonce text).drop (mask key nonce text).length =
      signature key nonce (mask key nonce text) :=
    List.drop_left' rfl
  simp only [decrypt?, hlen, htake, hdrop, mask_mask]
  simp [hle]

theorem decrypt?_eq_some_iff {key nonce sealed text : List UInt8} :
    decrypt? key nonce sealed = some text ↔ sealed = encrypt key nonce text := by
  constructor
  · intro h
    unfold decrypt? at h
    simp only [Option.ite_none_right_eq_some, Option.some.injEq] at h
    obtain ⟨⟨_, htag⟩, rfl⟩ := h
    rw [encrypt, mask_mask, ← htag, List.take_append_drop]
  · rintro rfl
    exact decrypt?_encrypt key nonce text

end RedirectLogin.Cipher
