import RedirectLogin.Cipher.Words

/-!
# ChaCha20

A stream of bytes from a key of 32 bytes, a nonce of 12 bytes and a block counter. A block is a
state of sixteen words, mixed in twenty rounds and added to itself unmixed.

Principal results: `block_length` — every block has 64 bytes; `keystream_length` — the stream is
as long as asked for.
-/

set_option autoImplicit false

namespace RedirectLogin.Cipher.ChaCha20

/-- How many words a state has. -/
abbrev size : Nat := 16

abbrev State := Vector UInt32 size

/-- The place of word `k`. -/
def place (k : Nat) : Fin size :=
  ⟨k % size, Nat.mod_lt k (by decide)⟩

/-- Mix four words of the state. -/
def quarterRound (s : State) (i j k l : Fin size) : State :=
  let a := s[i] + s[j]
  let d := rotateLeft32 (s[l] ^^^ a) 16
  let c := s[k] + d
  let b := rotateLeft32 (s[j] ^^^ c) 12
  let a := a + b
  let d := rotateLeft32 (d ^^^ a) 8
  let c := c + d
  let b := rotateLeft32 (b ^^^ c) 7
  (((s.set i a).set j b).set k c).set l d

/-- Mix the columns, then the diagonals. -/
def doubleRound (s : State) : State :=
  let mix := fun (s : State) (i j k l : Nat) =>
    quarterRound s (place i) (place j) (place k) (place l)
  let s := mix s 0 4 8 12
  let s := mix s 1 5 9 13
  let s := mix s 2 6 10 14
  let s := mix s 3 7 11 15
  let s := mix s 0 5 10 15
  let s := mix s 1 6 11 12
  let s := mix s 2 7 8 13
  mix s 3 4 9 14

/-- The state before mixing: four constants, the key, the counter, the nonce. -/
def initial (key nonce : List UInt8) (counter : UInt32) : State :=
  #v[0x61707865, 0x3320646e, 0x79622d32, 0x6b206574,
     word32 key 0, word32 key 4, word32 key 8, word32 key 12,
     word32 key 16, word32 key 20, word32 key 24, word32 key 28,
     counter, word32 nonce 0, word32 nonce 4, word32 nonce 8]

def mixed (s : State) : State :=
  Nat.repeat doubleRound 10 s

/-- One block of the stream. -/
def block (key nonce : List UInt8) (counter : UInt32) : List UInt8 :=
  let s := initial key nonce counter
  (Vector.zipWith (· + ·) (mixed s) s).toList.flatMap bytes32

theorem flatMap_bytes32_length (ws : List UInt32) :
    (ws.flatMap bytes32).length = 4 * ws.length := by
  induction ws with
  | nil => rfl
  | cons w ws ih => simp [bytes32, littleEndian_length] at ih ⊢; omega

theorem block_length (key nonce : List UInt8) (counter : UInt32) :
    (block key nonce counter).length = 64 := by
  simp only [block, flatMap_bytes32_length, Vector.length_toList, size]

/-- The first `n` bytes of the stream from block `first` on. -/
def keystream (key nonce : List UInt8) (first n : Nat) : List UInt8 :=
  ((List.range ((n + 63) / 64)).flatMap
    (fun i => block key nonce (UInt32.ofNat (first + i)))).take n

theorem flatMap_block_length (key nonce : List UInt8) (f : Nat → UInt32) (is : List Nat) :
    (is.flatMap (fun i => block key nonce (f i))).length = 64 * is.length := by
  induction is with
  | nil => rfl
  | cons i is ih =>
    rw [List.flatMap_cons, List.length_append, block_length, ih, List.length_cons]
    omega

theorem keystream_length (key nonce : List UInt8) (first n : Nat) :
    (keystream key nonce first n).length = n := by
  rw [keystream, List.length_take, flatMap_block_length, List.length_range]
  omega

end RedirectLogin.Cipher.ChaCha20
