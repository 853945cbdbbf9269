/-!
# Words

Numbers as bytes, lowest byte first, and rotations: what the ciphers of the vault are built from.
-/

set_option autoImplicit false

namespace RedirectLogin.Cipher

/-- The lowest `n` bytes of a number, lowest first. -/
def littleEndian : Nat → Nat → List UInt8
  | 0, _ => []
  | n + 1, v => UInt8.ofNat (v % 256) :: littleEndian n (v / 256)

/-- The number with these bytes, lowest first. -/
def ofLittleEndian : List UInt8 → Nat
  | [] => 0
  | b :: bs => b.toNat + 256 * ofLittleEndian bs

theorem littleEndian_length (n v : Nat) : (littleEndian n v).length = n := by
  induction n generalizing v with
  | zero => rfl
  | succ n ih => simp [littleEndian, ih]

/-- Four bytes of a word of 32 bits. -/
def bytes32 (w : UInt32) : List UInt8 :=
  littleEndian 4 w.toNat

/-- Eight bytes of a word of 64 bits. -/
def bytes64 (w : UInt64) : List UInt8 :=
  littleEndian 8 w.toNat

/-- The word of 32 bits that stands at `offset`; bytes beyond the end count as zero. -/
def word32 (bs : List UInt8) (offset : Nat) : UInt32 :=
  UInt32.ofNat (ofLittleEndian ((bs.drop offset).take 4))

/-- The words of 64 bits in a byte list. -/
def words64 : List UInt8 → List UInt64
  | a :: b :: c :: d :: e :: f :: g :: h :: rest =>
    UInt64.ofNat (ofLittleEndian [a, b, c, d, e, f, g, h]) :: words64 rest
  | _ => []

/-- Turn a word of 32 bits left by `n` places, `0 < n < 32`. -/
@[inline] def rotateLeft32 (w n : UInt32) : UInt32 :=
  (w <<< n) ||| (w >>> (32 - n))

/-- Turn a word of 64 bits right by `n` places, `0 < n < 64`. -/
@[inline] def rotateRight64 (w n : UInt64) : UInt64 :=
  (w >>> n) ||| (w <<< (64 - n))

/-- Bytes combined place by place, up to the end of the shorter list. -/
def xorBytes (a b : List UInt8) : List UInt8 :=
  List.zipWith (· ^^^ ·) a b

theorem xorBytes_cancel (a b : List UInt8) (h : a.length ≤ b.length) :
    xorBytes (xorBytes a b) b = a := by
  induction a generalizing b with
  | nil => simp [xorBytes]
  | cons x a ih =>
    cases b with
    | nil => simp at h
    | cons y b =>
      simp only [List.length_cons, Nat.add_le_add_iff_right] at h
      have := ih b h
      simp only [xorBytes, List.zipWith_cons_cons, List.cons.injEq] at this ⊢
      exact ⟨by rw [UInt8.xor_assoc, UInt8.xor_self, UInt8.xor_zero], this⟩

theorem xorBytes_length (a b : List UInt8) (h : a.length ≤ b.length) :
    (xorBytes a b).length = a.length := by
  simp [xorBytes, Nat.min_eq_left h]

end RedirectLogin.Cipher
