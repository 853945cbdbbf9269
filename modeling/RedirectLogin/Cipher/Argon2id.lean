import RedirectLogin.Cipher.Blake2b

/-!
# Argon2id

The key of a passphrase, by version 0x13 of the scheme: blocks of 1024 bytes, computed one from
the one before it and an earlier one, fill a memory of `memory` KiB several times. The earlier
block is chosen without regard to the passphrase in the first half of the first pass, and by the
block before in all the rest.

The memory is `lanes` rows of blocks, cut into four slices; a block of another lane may be used
only from slices that are finished.
-/

set_option autoImplicit false

namespace RedirectLogin.Cipher.Argon2id

/-- Costs: memory in KiB, number of passes, number of lanes. -/
structure Params where
  memory : UInt32
  passes : UInt32
  lanes : UInt32
  deriving DecidableEq, Repr

/-- Why costs are refused. -/
inductive ParamError where
  | littleMemory
  | fewPasses
  | fewLanes
  | manyLanes
  deriving DecidableEq, Repr

def ParamError.message : ParamError → String
  | .littleMemory => "memory cost is too small"
  | .fewPasses => "time cost is too small"
  | .fewLanes => "not enough threads"
  | .manyLanes => "too many threads"

namespace Params

/-- The costs used unless others are asked for. -/
def default : Params := ⟨19456, 2, 1⟩

/-- A lane needs at least eight blocks; their number is counted in 32 bits. -/
def check (p : Params) : Except ParamError Unit :=
  if p.memory < 8 ∨ p.memory < p.lanes * 8 then .error .littleMemory
  else if p.passes < 1 then .error .fewPasses
  else if p.lanes < 1 then .error .fewLanes
  else if 0xFFFFFF < p.lanes then .error .manyLanes
  else .ok ()

def isAccepted (p : Params) : Bool :=
  p.check.isOk

/-- The number of blocks in a quarter of a lane. -/
def sliceLength (p : Params) : Nat :=
  p.memory.toNat / (4 * p.lanes.toNat)

def laneLength (p : Params) : Nat :=
  4 * p.sliceLength

end Params

/-- A block of memory: 128 words. -/
abbrev Block := Array UInt64

def zeroBlock : Block :=
  Array.replicate 128 0

def xorBlocks (a b : Block) : Block :=
  Array.zipWith (· ^^^ ·) a b

/-- Addition that also takes in the product of the lower halves. -/
@[inline] def addProduct (a b : UInt64) : UInt64 :=
  a + b + 2 * (a &&& 0xFFFFFFFF) * (b &&& 0xFFFFFFFF)

/-- Mix four words and hand them on. -/
@[inline] def mix {α : Type} (a b c d : UInt64)
    (next : UInt64 → UInt64 → UInt64 → UInt64 → α) : α :=
  let a := addProduct a b
  let d := rotateRight64 (d ^^^ a) 32
  let c := addProduct c d
  let b := rotateRight64 (b ^^^ c) 24
  let a := addProduct a b
  let d := rotateRight64 (d ^^^ a) 16
  let c := addProduct c d
  let b := rotateRight64 (b ^^^ c) 63
  next a b c d

/-- The word at an index. -/
@[inline] def word (z : Block) (i : Nat) : UInt64 :=
  z.getD i 0

/-- Mix sixteen words of a block, taken as a square of four by four: first its columns, then its
diagonals. The square consists of the pairs of words that start at `start`, `start + step`, and so
on. -/
def mixSquare (z : Block) (start step : Nat) : Block :=
  let i0 := start
  let i2 := start + step
  let i4 := start + 2 * step
  let i6 := start + 3 * step
  let i8 := start + 4 * step
  let i10 := start + 5 * step
  let i12 := start + 6 * step
  let i14 := start + 7 * step
  mix (word z i0) (word z i4) (word z i8) (word z i12) fun v0 v4 v8 v12 =>
  mix (word z (i0 + 1)) (word z (i4 + 1)) (word z (i8 + 1)) (word z (i12 + 1)) fun v1 v5 v9 v13 =>
  mix (word z i2) (word z i6) (word z i10) (word z i14) fun v2 v6 v10 v14 =>
  mix (word z (i2 + 1)) (word z (i6 + 1)) (word z (i10 + 1)) (word z (i14 + 1)) fun v3 v7 v11 v15 =>
  mix v0 v5 v10 v15 fun v0 v5 v10 v15 =>
  mix v1 v6 v11 v12 fun v1 v6 v11 v12 =>
  mix v2 v7 v8 v13 fun v2 v7 v8 v13 =>
  mix v3 v4 v9 v14 fun v3 v4 v9 v14 =>
  let z := z.setIfInBounds i0 v0
  let z := z.setIfInBounds (i0 + 1) v1
  let z := z.setIfInBounds i2 v2
  let z := z.setIfInBounds (i2 + 1) v3
  let z := z.setIfInBounds i4 v4
  let z := z.setIfInBounds (i4 + 1) v5
  let z := z.setIfInBounds i6 v6
  let z := z.setIfInBounds (i6 + 1) v7
  let z := z.setIfInBounds i8 v8
  let z := z.setIfInBounds (i8 + 1) v9
  let z := z.setIfInBounds i10 v10
  let z := z.setIfInBounds (i10 + 1) v11
  let z := z.setIfInBounds i12 v12
  let z := z.setIfInBounds (i12 + 1) v13
  let z := z.setIfInBounds i14 v14
  z.setIfInBounds (i14 + 1) v15

/-- Combine two blocks: mix the eight rows of their sum, then its eight columns, and add the sum. -/
def compress (x y : Block) : Block :=
  let r := xorBlocks x y
  let z := (List.range 8).foldl (fun z i => mixSquare z (16 * i) 2) r
  let z := (List.range 8).foldl (fun z i => mixSquare z (2 * i) 16) z
  xorBlocks z r

/-- Digests chained behind one another: half of each is output, and all of the last, which has
`size` bytes left to give. -/
def chain (v : List UInt8) : Nat → Nat → List UInt8
  | 0, size => Blake2b.digest size v
  | n + 1, size =>
    let w := Blake2b.digest 64 v
    w.take 32 ++ chain w n (size - 32)

/-- A digest of any length. -/
def longDigest (size : Nat) (message : List UInt8) : List UInt8 :=
  let message := littleEndian 4 size ++ message
  if size ≤ 64 then Blake2b.digest size message
  else
    let v := Blake2b.digest 64 message
    v.take 32 ++ chain v ((size + 31) / 32 - 3) (size - 32)

/-- The digest that everything starts from. -/
def seed (p : Params) (passphrase salt : List UInt8) (size : Nat) : List UInt8 :=
  Blake2b.digest 64
    (bytes32 p.lanes ++ littleEndian 4 size ++ bytes32 p.memory ++ bytes32 p.passes ++
      littleEndian 4 0x13 ++ littleEndian 4 2 ++
      littleEndian 4 passphrase.length ++ passphrase ++
      littleEndian 4 salt.length ++ salt ++ littleEndian 4 0 ++ littleEndian 4 0)

def blockOfBytes (bs : List UInt8) : Block :=
  (words64 bs).toArray

/-- The memory, lane behind lane. -/
abbrev Memory := Array Block

/-- A memory with the first two blocks of each lane. -/
def firstBlocks (p : Params) (h : List UInt8) : Memory :=
  (List.range p.lanes.toNat).foldl
    (fun m lane =>
      let first (i : Nat) : Block :=
        blockOfBytes (longDigest 1024 (h ++ littleEndian 4 i ++ littleEndian 4 lane))
      (m.setIfInBounds (lane * p.laneLength) (first 0)).setIfInBounds (lane * p.laneLength + 1)
        (first 1))
    (Array.replicate (p.lanes.toNat * p.laneLength) zeroBlock)

/-- A place in the fill: pass, slice, lane, and index within the slice. -/
structure Place where
  pass : Nat
  slice : Nat
  lane : Nat
  index : Nat

/-- The block of 128 pseudo-random words number `counter` that choose blocks where the choice must
not depend on the passphrase. -/
def addressBlock (p : Params) (pass slice lane counter : Nat) : Block :=
  let input : Block :=
    #[UInt64.ofNat pass, UInt64.ofNat lane, UInt64.ofNat slice,
      UInt64.ofNat (p.lanes.toNat * p.laneLength), p.passes.toUInt64, 2, UInt64.ofNat counter] ++
      Array.replicate 121 0
  compress zeroBlock (compress zeroBlock input)

/-- Whether the choice at a place must not depend on the passphrase. -/
def isIndependent (pass slice : Nat) : Bool :=
  pass = 0 && slice < 2

/-- Position within the memory of the block that the word `w` chooses. -/
def reference (p : Params) (place : Place) (w : UInt64) : Nat :=
  let lane :=
    if place.pass = 0 ∧ place.slice = 0 then place.lane
    else (w >>> 32).toNat % p.lanes.toNat
  let finished := if place.pass = 0 then place.slice * p.sliceLength else 3 * p.sliceLength
  let area :=
    if lane = place.lane then finished + place.index - 1
    else if place.index = 0 then finished - 1 else finished
  let x := (w &&& 0xFFFFFFFF).toNat
  let back := area * (x * x / UInt32.size) / UInt32.size
  let start := if place.pass = 0 ∨ place.slice = 3 then 0 else (place.slice + 1) * p.sliceLength
  lane * p.laneLength + (start + (area - 1 - back)) % p.laneLength

/-- Compute the block at a place; `addresses` are the current independent choices. -/
def fillBlock (p : Params) (place : Place) (addresses : Block) (m : Memory) : Memory :=
  let column := place.slice * p.sliceLength + place.index
  let here := place.lane * p.laneLength + column
  let before := if column = 0 then here + p.laneLength - 1 else here - 1
  let previous := m.getD before zeroBlock
  let w :=
    if isIndependent place.pass place.slice then word addresses (place.index % 128)
    else word previous 0
  let fresh := compress previous (m.getD (reference p place w) zeroBlock)
  if place.pass = 0 then m.setIfInBounds here fresh
  else
    let old := m.getD here zeroBlock
    m.setIfInBounds here (xorBlocks old fresh)

/-- The choices in force at an index: renewed every 128 blocks. -/
def addressesAt (p : Params) (pass slice lane index : Nat) (current : Block) : Block :=
  if isIndependent pass slice && (index % 128 == 0 || current.isEmpty) then
    addressBlock p pass slice lane (index / 128 + 1)
  else current

/-- Fill a slice of one lane. The first two blocks of a lane are there from the start. -/
def fillSlice (p : Params) (pass slice lane : Nat) (m : Memory) : Memory :=
  let skipped := if pass = 0 ∧ slice = 0 then 2 else 0
  ((List.range' skipped (p.sliceLength - skipped)).foldl
    (fun (s : Block × Memory) index =>
      let addresses := addressesAt p pass slice lane index s.1
      (addresses, fillBlock p ⟨pass, slice, lane, index⟩ addresses s.2))
    (#[], m)).2

def fillPass (p : Params) (m : Memory) (pass : Nat) : Memory :=
  (List.range 4).foldl
    (fun m slice =>
      (List.range p.lanes.toNat).foldl (fun m lane => fillSlice p pass slice lane m) m) m

/-- The sum of the last blocks of all lanes. -/
def lastBlocks (p : Params) (m : Memory) : Block :=
  (List.range p.lanes.toNat).foldl
    (fun sum lane => xorBlocks sum (m.getD ((lane + 1) * p.laneLength - 1) zeroBlock)) zeroBlock

/-- The key of `size` bytes for a passphrase and a salt. -/
def derive (p : Params) (passphrase salt : List UInt8) (size : Nat) : List UInt8 :=
  let filled :=
    (List.range p.passes.toNat).foldl (fillPass p) (firstBlocks p (seed p passphrase salt size))
  longDigest size ((lastBlocks p filled).toList.flatMap bytes64)

end RedirectLogin.Cipher.Argon2id
