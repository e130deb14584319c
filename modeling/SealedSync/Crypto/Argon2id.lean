import SealedSync.Crypto.Blake2b

/-!
# Argon2id

The memory-hard derivation of a key from a password and a salt, without secret or associated data.
The memory is a matrix of blocks, one row a lane, filled column by column in four slices a pass.
Each new block is mixed from the one before it and another one, which is chosen by position alone in
the first half of the first pass and by the contents of memory afterwards.
-/
namespace SealedSync.Argon2id

/-- Cost parameters: memory in kibibytes, passes over it, and lanes. -/
structure Cost where
  memory : Nat
  passes : Nat
  lanes : Nat
  deriving DecidableEq, Repr

/-- Why parameters are refused. -/
inductive CostFault where
  | memoryTooSmall
  | timeTooSmall
  | tooFewLanes
  | tooManyLanes
  deriving DecidableEq, Repr

def CostFault.message : CostFault → String
  | .memoryTooSmall => "memory cost is too small"
  | .timeTooSmall => "time cost is too small"
  | .tooFewLanes => "not enough threads"
  | .tooManyLanes => "too many threads"

/-- The first fault of the parameters. -/
def Cost.fault? (cost : Cost) : Option CostFault :=
  if cost.memory < 8 ∨ cost.memory < 8 * cost.lanes then some .memoryTooSmall
  else if cost.passes = 0 then some .timeTooSmall
  else if cost.lanes = 0 then some .tooFewLanes
  else if Nat.pow 2 24 ≤ cost.lanes then some .tooManyLanes
  else none

structure Quad where
  a : UInt64
  b : UInt64
  c : UInt64
  d : UInt64

def lowMask : UInt64 := 0xffffffff

@[inline]
def addProduct (x y : UInt64) : UInt64 := x + y + 2 * ((x &&& lowMask) * (y &&& lowMask))

def mix (a b c d : UInt64) : Quad :=
  let a := addProduct a b
  let d := Word.rotateRight (d ^^^ a) 32
  let c := addProduct c d
  let b := Word.rotateRight (b ^^^ c) 24
  let a := addProduct a b
  let d := Word.rotateRight (d ^^^ a) 16
  let c := addProduct c d
  let b := Word.rotateRight (b ^^^ c) 63
  ⟨a, b, c, d⟩

def permute (r : Row) : Row :=
  let q0 := mix r.w0 r.w4 r.w8 r.w12
  let q1 := mix r.w1 r.w5 r.w9 r.w13
  let q2 := mix r.w2 r.w6 r.w10 r.w14
  let q3 := mix r.w3 r.w7 r.w11 r.w15
  let q4 := mix q0.a q1.b q2.c q3.d
  let q5 := mix q1.a q2.b q3.c q0.d
  let q6 := mix q2.a q3.b q0.c q1.d
  let q7 := mix q3.a q0.b q1.c q2.d
  ⟨q4.a, q5.a, q6.a, q7.a, q7.b, q4.b, q5.b, q6.b,
    q6.c, q7.c, q4.c, q5.c, q5.d, q6.d, q7.d, q4.d⟩

/-- A block of a kibibyte. -/
structure Block where
  r0 : Row
  r1 : Row
  r2 : Row
  r3 : Row
  r4 : Row
  r5 : Row
  r6 : Row
  r7 : Row
  deriving Inhabited

namespace Block

def zero : Block :=
  ⟨Row.zero, Row.zero, Row.zero, Row.zero, Row.zero, Row.zero, Row.zero, Row.zero⟩

def xor (b c : Block) : Block :=
  ⟨b.r0.xor c.r0, b.r1.xor c.r1, b.r2.xor c.r2, b.r3.xor c.r3, b.r4.xor c.r4, b.r5.xor c.r5,
    b.r6.xor c.r6, b.r7.xor c.r7⟩

def permuteRows (b : Block) : Block :=
  ⟨permute b.r0, permute b.r1, permute b.r2, permute b.r3, permute b.r4, permute b.r5,
    permute b.r6, permute b.r7⟩

/-- Exchanges rows and columns of pairs of words. -/
def transpose (b : Block) : Block :=
  ⟨⟨b.r0.w0, b.r0.w1, b.r1.w0, b.r1.w1, b.r2.w0, b.r2.w1, b.r3.w0, b.r3.w1,
      b.r4.w0, b.r4.w1, b.r5.w0, b.r5.w1, b.r6.w0, b.r6.w1, b.r7.w0, b.r7.w1⟩,
    ⟨b.r0.w2, b.r0.w3, b.r1.w2, b.r1.w3, b.r2.w2, b.r2.w3, b.r3.w2, b.r3.w3,
      b.r4.w2, b.r4.w3, b.r5.w2, b.r5.w3, b.r6.w2, b.r6.w3, b.r7.w2, b.r7.w3⟩,
    ⟨b.r0.w4, b.r0.w5, b.r1.w4, b.r1.w5, b.r2.w4, b.r2.w5, b.r3.w4, b.r3.w5,
      b.r4.w4, b.r4.w5, b.r5.w4, b.r5.w5, b.r6.w4, b.r6.w5, b.r7.w4, b.r7.w5⟩,
    ⟨b.r0.w6, b.r0.w7, b.r1.w6, b.r1.w7, b.r2.w6, b.r2.w7, b.r3.w6, b.r3.w7,
      b.r4.w6, b.r4.w7, b.r5.w6, b.r5.w7, b.r6.w6, b.r6.w7, b.r7.w6, b.r7.w7⟩,
    ⟨b.r0.w8, b.r0.w9, b.r1.w8, b.r1.w9, b.r2.w8, b.r2.w9, b.r3.w8, b.r3.w9,
      b.r4.w8, b.r4.w9, b.r5.w8, b.r5.w9, b.r6.w8, b.r6.w9, b.r7.w8, b.r7.w9⟩,
    ⟨b.r0.w10, b.r0.w11, b.r1.w10, b.r1.w11, b.r2.w10, b.r2.w11, b.r3.w10, b.r3.w11,
      b.r4.w10, b.r4.w11, b.r5.w10, b.r5.w11, b.r6.w10, b.r6.w11, b.r7.w10, b.r7.w11⟩,
    ⟨b.r0.w12, b.r0.w13, b.r1.w12, b.r1.w13, b.r2.w12, b.r2.w13, b.r3.w12, b.r3.w13,
      b.r4.w12, b.r4.w13, b.r5.w12, b.r5.w13, b.r6.w12, b.r6.w13, b.r7.w12, b.r7.w13⟩,
    ⟨b.r0.w14, b.r0.w15, b.r1.w14, b.r1.w15, b.r2.w14, b.r2.w15, b.r3.w14, b.r3.w15,
      b.r4.w14, b.r4.w15, b.r5.w14, b.r5.w15, b.r6.w14, b.r6.w15, b.r7.w14, b.r7.w15⟩⟩

/-- Mixes two blocks. -/
def compress (b c : Block) : Block :=
  let r := b.xor c
  r.permuteRows.transpose.permuteRows.transpose.xor r

def toList (b : Block) : List Row := [b.r0, b.r1, b.r2, b.r3, b.r4, b.r5, b.r6, b.r7]

def bytes (b : Block) : List UInt8 := (b.toList.flatMap Row.toList).flatMap Word.bytes

def ofBytes (bytes : List UInt8) : Block :=
  let row := fun (i : Nat) => Row.ofList (Word.list 16 (bytes.drop (128 * i)))
  ⟨row 0, row 1, row 2, row 3, row 4, row 5, row 6, row 7⟩

/-- The word at a place from 0 to 127. -/
def word (b : Block) (i : Nat) : UInt64 := (b.toList.getD (i / 16) Row.zero).get (i % 16)

end Block

def le32 (n : Nat) : List UInt8 :=
  [UInt8.ofNat n, UInt8.ofNat (n / 256), UInt8.ofNat (n / 65536), UInt8.ofNat (n / 16777216)]

/-- Links digests, of which the last is whole and the others give half their bytes each. -/
def chain : Nat → Nat → List UInt8 → List UInt8
  | 0, length, digest => digest.take length
  | fuel + 1, length, digest =>
      if length ≤ 64 then digest.take length
      else
        let left := length - 32
        digest.take 32 ++ chain fuel left (Blake2b.hash (min left 64) digest)

/-- A digest of any length. -/
def longHash (length : Nat) (message : List UInt8) : List UInt8 :=
  chain (length / 32 + 1) length (Blake2b.hash (min length 64) (le32 length ++ message))

/-- The shape of the memory. -/
structure Layout where
  cost : Cost
  /-- Columns in a quarter of a lane. -/
  segment : Nat

namespace Layout

def ofCost (cost : Cost) : Layout := ⟨cost, cost.memory / (4 * cost.lanes)⟩

def laneLength (l : Layout) : Nat := 4 * l.segment

def blocks (l : Layout) : Nat := l.cost.lanes * l.laneLength

end Layout

/-- Where a block is filled. -/
structure Position where
  pass : Nat
  slice : Nat
  lane : Nat

/-- The other block is chosen by position alone. -/
def Position.isIndependent (p : Position) : Bool := p.pass == 0 && p.slice < 2

/-- The words that choose the other blocks at 128 columns of a segment. -/
def addresses (l : Layout) (p : Position) (counter : Nat) : Block :=
  let input : Row := ⟨UInt64.ofNat p.pass, UInt64.ofNat p.lane, UInt64.ofNat p.slice,
    UInt64.ofNat l.blocks, UInt64.ofNat l.cost.passes, 2, UInt64.ofNat counter, 0, 0, 0, 0, 0, 0, 0,
    0, 0⟩
  Block.zero.compress (Block.zero.compress { Block.zero with r0 := input })

/-- The index of the other block for a column of a segment. -/
def reference (l : Layout) (p : Position) (column : Nat) (choice : UInt64) : Nat :=
  let j1 := choice.toNat % Nat.pow 2 32
  let j2 := choice.toNat / Nat.pow 2 32
  let lane := if p.pass = 0 ∧ p.slice = 0 then p.lane else j2 % l.cost.lanes
  let finished := if p.pass = 0 then p.slice * l.segment else l.laneLength - l.segment
  let area :=
    if lane = p.lane then finished + column - 1
    else if column = 0 then finished - 1
    else finished
  let offset := area - 1 - area * (j1 * j1 / Nat.pow 2 32) / Nat.pow 2 32
  let start := if p.pass = 0 ∨ p.slice = 3 then 0 else (p.slice + 1) * l.segment
  lane * l.laneLength + (start + offset) % l.laneLength

/-- Fills the columns of a segment from the given one. -/
def fillColumns (l : Layout) (p : Position) :
    Nat → Nat → Block → Array Block → Array Block
  | 0, _, _, memory => memory
  | left + 1, column, chosen, memory =>
      let place := p.slice * l.segment + column
      let base := p.lane * l.laneLength
      let index := base + place
      let last := if place = 0 then base + l.laneLength - 1 else index - 1
      let before := memory.getD last Block.zero
      let chosen :=
        if p.isIndependent && column % 128 == 0 then addresses l p (column / 128 + 1) else chosen
      let choice := if p.isIndependent then chosen.word (column % 128) else before.r0.w0
      let other := memory.getD (reference l p column choice) Block.zero
      let mixed := before.compress other
      let block := if p.pass = 0 then mixed else mixed.xor (memory.getD index Block.zero)
      fillColumns l p left (column + 1) chosen (memory.setIfInBounds index block)

def fillSegment (l : Layout) (memory : Array Block) (p : Position) : Array Block :=
  let first := if p.pass = 0 ∧ p.slice = 0 then 2 else 0
  let chosen := if p.isIndependent then addresses l p 1 else Block.zero
  fillColumns l p (l.segment - first) first chosen memory

def positions (l : Layout) : List Position :=
  (List.range l.cost.passes).flatMap fun pass =>
    (List.range 4).flatMap fun slice =>
      (List.range l.cost.lanes).map fun lane => ⟨pass, slice, lane⟩

/-- The first two blocks of every lane. -/
def seed (l : Layout) (digest : List UInt8) (memory : Array Block) (lane : Nat) : Array Block :=
  let block := fun (i : Nat) => Block.ofBytes (longHash 1024 (digest ++ le32 i ++ le32 lane))
  let base := lane * l.laneLength
  (memory.setIfInBounds base (block 0)).setIfInBounds (base + 1) (block 1)

/-- The key of the given length for parameters without fault. -/
def derive (cost : Cost) (length : Nat) (password salt : List UInt8) : List UInt8 :=
  let l := Layout.ofCost cost
  let digest := Blake2b.hash 64 (le32 cost.lanes ++ le32 length ++ le32 cost.memory ++
    le32 cost.passes ++ le32 0x13 ++ le32 2 ++ le32 password.length ++ password ++
    le32 salt.length ++ salt ++ le32 0 ++ le32 0)
  let memory := (List.range cost.lanes).foldl (seed l digest) (Array.replicate l.blocks Block.zero)
  let memory := (positions l).foldl (fillSegment l) memory
  let last := (List.range cost.lanes).foldl
    (fun b lane => b.xor (memory.getD (lane * l.laneLength + l.laneLength - 1) Block.zero))
    Block.zero
  longHash length last.bytes

end SealedSync.Argon2id
