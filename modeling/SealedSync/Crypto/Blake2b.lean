import SealedSync.Crypto.Words

/-!
# BLAKE2b

The hash without a key, for any length of digest up to sixty-four bytes.
-/
namespace SealedSync.Blake2b

structure Quad where
  a : UInt64
  b : UInt64
  c : UInt64
  d : UInt64

def mix (a b c d x y : UInt64) : Quad :=
  let a := a + b + x
  let d := Word.rotateRight (d ^^^ a) 32
  let c := c + d
  let b := Word.rotateRight (b ^^^ c) 24
  let a := a + b + y
  let d := Word.rotateRight (d ^^^ a) 16
  let c := c + d
  let b := Word.rotateRight (b ^^^ c) 63
  ⟨a, b, c, d⟩

/-- One round: the columns, then the diagonals, with message words in the order given. -/
def round (m : Row) (order : List Nat) (r : Row) : Row :=
  let word := fun (i : Nat) => m.get (order.getD i 0)
  let q0 := mix r.w0 r.w4 r.w8 r.w12 (word 0) (word 1)
  let q1 := mix r.w1 r.w5 r.w9 r.w13 (word 2) (word 3)
  let q2 := mix r.w2 r.w6 r.w10 r.w14 (word 4) (word 5)
  let q3 := mix r.w3 r.w7 r.w11 r.w15 (word 6) (word 7)
  let q4 := mix q0.a q1.b q2.c q3.d (word 8) (word 9)
  let q5 := mix q1.a q2.b q3.c q0.d (word 10) (word 11)
  let q6 := mix q2.a q3.b q0.c q1.d (word 12) (word 13)
  let q7 := mix q3.a q0.b q1.c q2.d (word 14) (word 15)
  ⟨q4.a, q5.a, q6.a, q7.a, q7.b, q4.b, q5.b, q6.b,
    q6.c, q7.c, q4.c, q5.c, q5.d, q6.d, q7.d, q4.d⟩

def orders : List (List Nat) := [
  [0, 1, 2, 3, 4, 5, 6, 7, 8, 9, 10, 11, 12, 13, 14, 15],
  [14, 10, 4, 8, 9, 15, 13, 6, 1, 12, 0, 2, 11, 7, 5, 3],
  [11, 8, 12, 0, 5, 2, 15, 13, 10, 14, 3, 6, 7, 1, 9, 4],
  [7, 9, 3, 1, 13, 12, 11, 14, 2, 6, 5, 10, 4, 0, 15, 8],
  [9, 0, 5, 7, 2, 4, 10, 15, 14, 1, 11, 12, 6, 8, 3, 13],
  [2, 12, 6, 10, 0, 11, 8, 3, 4, 13, 7, 5, 15, 14, 1, 9],
  [12, 5, 1, 15, 14, 13, 4, 10, 0, 7, 6, 3, 9, 2, 8, 11],
  [13, 11, 7, 14, 12, 1, 3, 9, 5, 0, 15, 4, 8, 6, 2, 10],
  [6, 15, 14, 9, 11, 3, 0, 8, 12, 2, 13, 7, 1, 4, 10, 5],
  [10, 2, 8, 4, 7, 6, 1, 5, 15, 11, 9, 14, 3, 12, 13, 0],
  [0, 1, 2, 3, 4, 5, 6, 7, 8, 9, 10, 11, 12, 13, 14, 15],
  [14, 10, 4, 8, 9, 15, 13, 6, 1, 12, 0, 2, 11, 7, 5, 3]]

def startWords : List UInt64 := [
  0x6a09e667f3bcc908, 0xbb67ae8584caa73b, 0x3c6ef372fe94f82b, 0xa54ff53a5f1d36f1,
  0x510e527fade682d1, 0x9b05688c2b3e6c1f, 0x1f83d9abfb41bd6b, 0x5be0cd19137e2179]

/-- Compresses a block; `count` is the number of message bytes so far, which is below `2 ^ 64`. -/
def compress (h : List UInt64) (block : Row) (count : Nat) (last : Bool) : List UInt64 :=
  let tail := [startWords.getD 4 0 ^^^ UInt64.ofNat count, startWords.getD 5 0,
    if last then ~~~(startWords.getD 6 0) else startWords.getD 6 0, startWords.getD 7 0]
  let v := orders.foldl (fun v order => round block order v)
    (Row.ofList (h ++ startWords.take 4 ++ tail))
  let words := v.toList
  List.zipWith (fun x y => x ^^^ y) h
    (List.zipWith (fun x y => x ^^^ y) (words.take 8) (words.drop 8))

/-- Compresses all blocks but the last whole, and the last filled up with zeros. -/
def absorb : Nat → List UInt64 → Nat → List UInt8 → List UInt64
  | 0, h, _, _ => h
  | fuel + 1, h, count, bytes =>
      if bytes.length ≤ 128 then
        compress h (Row.ofList (Word.list 16 bytes)) (count + bytes.length) true
      else
        absorb fuel (compress h (Row.ofList (Word.list 16 bytes)) (count + 128) false)
          (count + 128) (bytes.drop 128)

/-- The digest of the given length. -/
def hash (length : Nat) (message : List UInt8) : List UInt8 :=
  let first := startWords.getD 0 0 ^^^ UInt64.ofNat (0x01010000 + length)
  let h := absorb (message.length / 128 + 1) (first :: startWords.drop 1) 0 message
  (h.flatMap Word.bytes).take length

end SealedSync.Blake2b
