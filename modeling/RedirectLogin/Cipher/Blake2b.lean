import RedirectLogin.Cipher.Words

/-!
# BLAKE2b

Digests of 1 to 64 bytes without a key. The message is padded with zeros to blocks of 128 bytes;
each block is mixed into a state of eight words together with the number of bytes so far.
-/

set_option autoImplicit false

namespace RedirectLogin.Cipher.Blake2b

/-- Four words. -/
structure Quad where
  a : UInt64
  b : UInt64
  c : UInt64
  d : UInt64

/-- Mix four words with two words of the message. -/
def mix (q : Quad) (x y : UInt64) : Quad :=
  let a := q.a + q.b + x
  let d := rotateRight64 (q.d ^^^ a) 32
  let c := q.c + d
  let b := rotateRight64 (q.b ^^^ c) 24
  let a := a + b + y
  let d := rotateRight64 (d ^^^ a) 16
  let c := c + d
  let b := rotateRight64 (b ^^^ c) 63
  ⟨a, b, c, d⟩

def initialWords : Vector UInt64 8 :=
  #v[0x6a09e667f3bcc908, 0xbb67ae8584caa73b, 0x3c6ef372fe94f82b, 0xa54ff53a5f1d36f1,
     0x510e527fade682d1, 0x9b05688c2b3e6c1f, 0x1f83d9abfb41bd6b, 0x5be0cd19137e2179]

/-- The order in which the twelve rounds take the words of a block. -/
def schedule : List (Vector (Fin 16) 16) :=
  [#v[0, 1, 2, 3, 4, 5, 6, 7, 8, 9, 10, 11, 12, 13, 14, 15],
   #v[14, 10, 4, 8, 9, 15, 13, 6, 1, 12, 0, 2, 11, 7, 5, 3],
   #v[11, 8, 12, 0, 5, 2, 15, 13, 10, 14, 3, 6, 7, 1, 9, 4],
   #v[7, 9, 3, 1, 13, 12, 11, 14, 2, 6, 5, 10, 4, 0, 15, 8],
   #v[9, 0, 5, 7, 2, 4, 10, 15, 14, 1, 11, 12, 6, 8, 3, 13],
   #v[2, 12, 6, 10, 0, 11, 8, 3, 4, 13, 7, 5, 15, 14, 1, 9],
   #v[12, 5, 1, 15, 14, 13, 4, 10, 0, 7, 6, 3, 9, 2, 8, 11],
   #v[13, 11, 7, 14, 12, 1, 3, 9, 5, 0, 15, 4, 8, 6, 2, 10],
   #v[6, 15, 14, 9, 11, 3, 0, 8, 12, 2, 13, 7, 1, 4, 10, 5],
   #v[10, 2, 8, 4, 7, 6, 1, 5, 15, 11, 9, 14, 3, 12, 13, 0],
   #v[0, 1, 2, 3, 4, 5, 6, 7, 8, 9, 10, 11, 12, 13, 14, 15],
   #v[14, 10, 4, 8, 9, 15, 13, 6, 1, 12, 0, 2, 11, 7, 5, 3]]

/-- The words of a round: the quads are its four columns. -/
abbrev Columns := Vector Quad 4

/-- Mix the columns, then the diagonals, with the block's words in the order `order`. -/
def round (block : Vector UInt64 16) (v : Columns) (order : Vector (Fin 16) 16) : Columns :=
  let m (i : Fin 16) : UInt64 := block[order[i]]
  let p := mix v[0] (m 0) (m 1)
  let q := mix v[1] (m 2) (m 3)
  let r := mix v[2] (m 4) (m 5)
  let s := mix v[3] (m 6) (m 7)
  let t := mix ⟨p.a, q.b, r.c, s.d⟩ (m 8) (m 9)
  let u := mix ⟨q.a, r.b, s.c, p.d⟩ (m 10) (m 11)
  let w := mix ⟨r.a, s.b, p.c, q.d⟩ (m 12) (m 13)
  let x := mix ⟨s.a, p.b, q.c, r.d⟩ (m 14) (m 15)
  #v[⟨t.a, x.b, w.c, u.d⟩, ⟨u.a, t.b, x.c, w.d⟩, ⟨w.a, u.b, t.c, x.d⟩, ⟨x.a, w.b, u.c, t.d⟩]

/-- Mix a block into the state; `count` bytes are then done, and `last` marks the last block. -/
def compress (h : Vector UInt64 8) (block : Vector UInt64 16) (count : Nat) (last : Bool) :
    Vector UInt64 8 :=
  let iv := initialWords
  let v : Columns :=
    #v[⟨h[0], h[4], iv[0], iv[4] ^^^ UInt64.ofNat count⟩,
       ⟨h[1], h[5], iv[1], iv[5] ^^^ UInt64.ofNat (count / UInt64.size)⟩,
       ⟨h[2], h[6], iv[2], if last then ~~~ iv[6] else iv[6]⟩,
       ⟨h[3], h[7], iv[3], iv[7]⟩]
  let v := schedule.foldl (round block) v
  #v[h[0] ^^^ v[0].a ^^^ v[0].c, h[1] ^^^ v[1].a ^^^ v[1].c,
     h[2] ^^^ v[2].a ^^^ v[2].c, h[3] ^^^ v[3].a ^^^ v[3].c,
     h[4] ^^^ v[0].b ^^^ v[0].d, h[5] ^^^ v[1].b ^^^ v[1].d,
     h[6] ^^^ v[2].b ^^^ v[2].d, h[7] ^^^ v[3].b ^^^ v[3].d]

/-- The words of a block; bytes that are missing at its end are zero. -/
def blockOfBytes (bs : List UInt8) : Vector UInt64 16 :=
  Vector.ofFn fun i => UInt64.ofNat (ofLittleEndian ((bs.drop (8 * i.val)).take 8))

/-- Mix in a message of which `count` bytes are done. The last block is never empty unless the
whole message is. -/
def absorb (h : Vector UInt64 8) (count : Nat) (message : List UInt8) : Vector UInt64 8 :=
  if _h : message.length ≤ 128 then
    compress h (blockOfBytes message) (count + message.length) true
  else
    absorb (compress h (blockOfBytes (message.take 128)) (count + 128) false) (count + 128)
      (message.drop 128)
termination_by message.length
decreasing_by simp only [List.length_drop]; omega

/-- The digest of `size` bytes, at most 64. -/
def digest (size : Nat) (message : List UInt8) : List UInt8 :=
  let start := initialWords.set 0 (initialWords[0] ^^^ 0x01010000 ^^^ UInt64.ofNat size)
  ((absorb start 0 message).toList.flatMap bytes64).take size

end RedirectLogin.Cipher.Blake2b
