import SealedSync.Crypto.FixedBytes

/-!
# ChaCha20

The key stream is a block of sixty-four bytes for each value of a counter. Text is enciphered and
deciphered alike, by adding the key stream byte by byte.
-/
namespace SealedSync.ChaCha20

structure State where
  w0 : UInt32
  w1 : UInt32
  w2 : UInt32
  w3 : UInt32
  w4 : UInt32
  w5 : UInt32
  w6 : UInt32
  w7 : UInt32
  w8 : UInt32
  w9 : UInt32
  w10 : UInt32
  w11 : UInt32
  w12 : UInt32
  w13 : UInt32
  w14 : UInt32
  w15 : UInt32

structure Quad where
  a : UInt32
  b : UInt32
  c : UInt32
  d : UInt32

@[inline]
def rotateLeft (x : UInt32) (n : UInt32) : UInt32 := (x <<< n) ||| (x >>> (32 - n))

def quarterRound (a b c d : UInt32) : Quad :=
  let a := a + b
  let d := rotateLeft (d ^^^ a) 16
  let c := c + d
  let b := rotateLeft (b ^^^ c) 12
  let a := a + b
  let d := rotateLeft (d ^^^ a) 8
  let c := c + d
  let b := rotateLeft (b ^^^ c) 7
  ⟨a, b, c, d⟩

/-- The columns, then the diagonals. -/
def doubleRound (s : State) : State :=
  let q0 := quarterRound s.w0 s.w4 s.w8 s.w12
  let q1 := quarterRound s.w1 s.w5 s.w9 s.w13
  let q2 := quarterRound s.w2 s.w6 s.w10 s.w14
  let q3 := quarterRound s.w3 s.w7 s.w11 s.w15
  let q4 := quarterRound q0.a q1.b q2.c q3.d
  let q5 := quarterRound q1.a q2.b q3.c q0.d
  let q6 := quarterRound q2.a q3.b q0.c q1.d
  let q7 := quarterRound q3.a q0.b q1.c q2.d
  ⟨q4.a, q5.a, q6.a, q7.a, q7.b, q4.b, q5.b, q6.b,
    q6.c, q7.c, q4.c, q5.c, q5.d, q6.d, q7.d, q4.d⟩

def rounds : Nat → State → State
  | 0, s => s
  | n + 1, s => rounds n (doubleRound s)

def add (s t : State) : State :=
  ⟨s.w0 + t.w0, s.w1 + t.w1, s.w2 + t.w2, s.w3 + t.w3, s.w4 + t.w4,
    s.w5 + t.w5, s.w6 + t.w6, s.w7 + t.w7, s.w8 + t.w8, s.w9 + t.w9,
    s.w10 + t.w10, s.w11 + t.w11, s.w12 + t.w12, s.w13 + t.w13, s.w14 + t.w14, s.w15 + t.w15⟩

/-- The little-endian word of the four bytes from a place on. -/
def word (bytes : List UInt8) (i : Nat) : UInt32 :=
  ((bytes.drop (4 * i)).take 4).foldr (fun b w => (w <<< 8) ||| b.toUInt32) 0

def wordBytes (w : UInt32) : List UInt8 :=
  [w.toUInt8, (w >>> 8).toUInt8, (w >>> 16).toUInt8, (w >>> 24).toUInt8]

def start (key : FixedBytes 32) (nonce : FixedBytes 12) (counter : Nat) : State :=
  let k := word key.val
  let n := word nonce.val
  ⟨0x61707865, 0x3320646e, 0x79622d32, 0x6b206574, k 0, k 1, k 2, k 3, k 4, k 5, k 6, k 7,
    UInt32.ofNat counter, n 0, n 1, n 2⟩

/-- The sixty-four bytes of the key stream at a counter. -/
def block (key : FixedBytes 32) (nonce : FixedBytes 12) (counter : Nat) : List UInt8 :=
  let s := start key nonce counter
  let t := add (rounds 10 s) s
  [t.w0, t.w1, t.w2, t.w3, t.w4, t.w5, t.w6, t.w7, t.w8, t.w9, t.w10, t.w11, t.w12, t.w13, t.w14,
    t.w15].flatMap wordBytes

theorem length_block (key : FixedBytes 32) (nonce : FixedBytes 12) (counter : Nat) :
    (block key nonce counter).length = 64 := rfl

/-- As many blocks of the key stream as a text of the given length needs, from counter one on. -/
def stream (key : FixedBytes 32) (nonce : FixedBytes 12) (length : Nat) : List UInt8 :=
  (List.range ((length + 63) / 64)).flatMap fun i => block key nonce (i + 1)

/-- Adds the key stream to a text. -/
def apply (key : FixedBytes 32) (nonce : FixedBytes 12) (bytes : List UInt8) : List UInt8 :=
  List.zipWith (fun b k => b ^^^ k) bytes (stream key nonce bytes.length)

end SealedSync.ChaCha20
