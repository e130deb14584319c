/-!
# Rows of sixteen words

Sixteen words of sixty-four bits are what a round of hashing works on, and an eighth of a block of
memory. Words are written with the low byte first.
-/
namespace SealedSync

structure Row where
  w0 : UInt64
  w1 : UInt64
  w2 : UInt64
  w3 : UInt64
  w4 : UInt64
  w5 : UInt64
  w6 : UInt64
  w7 : UInt64
  w8 : UInt64
  w9 : UInt64
  w10 : UInt64
  w11 : UInt64
  w12 : UInt64
  w13 : UInt64
  w14 : UInt64
  w15 : UInt64
  deriving Inhabited

namespace Row

def zero : Row := ⟨0, 0, 0, 0, 0, 0, 0, 0, 0, 0, 0, 0, 0, 0, 0, 0⟩

def xor (r s : Row) : Row :=
  ⟨r.w0 ^^^ s.w0, r.w1 ^^^ s.w1, r.w2 ^^^ s.w2, r.w3 ^^^ s.w3, r.w4 ^^^ s.w4, r.w5 ^^^ s.w5,
    r.w6 ^^^ s.w6, r.w7 ^^^ s.w7, r.w8 ^^^ s.w8, r.w9 ^^^ s.w9, r.w10 ^^^ s.w10, r.w11 ^^^ s.w11,
    r.w12 ^^^ s.w12, r.w13 ^^^ s.w13, r.w14 ^^^ s.w14, r.w15 ^^^ s.w15⟩

def get (r : Row) : Nat → UInt64
  | 0 => r.w0
  | 1 => r.w1
  | 2 => r.w2
  | 3 => r.w3
  | 4 => r.w4
  | 5 => r.w5
  | 6 => r.w6
  | 7 => r.w7
  | 8 => r.w8
  | 9 => r.w9
  | 10 => r.w10
  | 11 => r.w11
  | 12 => r.w12
  | 13 => r.w13
  | 14 => r.w14
  | _ => r.w15

def toList (r : Row) : List UInt64 :=
  [r.w0, r.w1, r.w2, r.w3, r.w4, r.w5, r.w6, r.w7, r.w8, r.w9, r.w10, r.w11, r.w12, r.w13, r.w14,
    r.w15]

/-- The row of the first sixteen words, filled up with zeros. -/
def ofList (ws : List UInt64) : Row :=
  let w := fun (i : Nat) => ws.getD i 0
  ⟨w 0, w 1, w 2, w 3, w 4, w 5, w 6, w 7, w 8, w 9, w 10, w 11, w 12, w 13, w 14, w 15⟩

end Row

namespace Word

@[inline]
def rotateRight (x : UInt64) (n : UInt64) : UInt64 := (x >>> n) ||| (x <<< (64 - n))

/-- The word of at most eight bytes, filled up with zeros. -/
def ofBytes (bytes : List UInt8) : UInt64 :=
  bytes.foldr (fun b w => (w <<< 8) ||| b.toUInt64) 0

def bytes (w : UInt64) : List UInt8 :=
  [w.toUInt8, (w >>> 8).toUInt8, (w >>> 16).toUInt8, (w >>> 24).toUInt8, (w >>> 32).toUInt8,
    (w >>> 40).toUInt8, (w >>> 48).toUInt8, (w >>> 56).toUInt8]

/-- The first `count` words of a byte sequence. -/
def list : Nat → List UInt8 → List UInt64
  | 0, _ => []
  | count + 1, bytes => ofBytes (bytes.take 8) :: list count (bytes.drop 8)

end Word

end SealedSync
