import SealedSync.Crypto.FixedBytes

/-!
# Poly1305

A message is cut into blocks of sixteen bytes; each, with a one behind its last byte, is a
coefficient of a polynomial that is evaluated modulo `2 ^ 130 - 5` at a secret point. A second
secret is added to the value, and the low sixteen bytes are the tag.
-/
namespace SealedSync.Poly1305

def prime : Nat := Nat.pow 2 130 - 5

/-- The bits that a point may have. -/
def pointMask : Nat := 0x0ffffffc0ffffffc0ffffffc0fffffff

def littleEndian (bytes : List UInt8) : Nat := bytes.foldr (fun b n => n * 256 + b.toNat) 0

def toBytes : Nat → Nat → List UInt8
  | 0, _ => []
  | count + 1, n => UInt8.ofNat n :: toBytes count (n / 256)

theorem length_toBytes (count n : Nat) : (toBytes count n).length = count := by
  induction count generalizing n with
  | zero => rfl
  | succ count ih => exact congrArg Nat.succ (ih (n / 256))

/-- The coefficient of a block of at most sixteen bytes. -/
def coefficient (block : List UInt8) : Nat := littleEndian block + Nat.pow 256 block.length

/-- Evaluates the polynomial of a message; the fuel is at least its number of blocks. -/
def evaluate (point : Nat) : Nat → Nat → List UInt8 → Nat
  | 0, sum, _ => sum
  | fuel + 1, sum, bytes =>
      if bytes.isEmpty then sum
      else
        evaluate point fuel ((sum + coefficient (bytes.take 16)) * point % prime) (bytes.drop 16)

/-- The tag of a message under a key of two secrets. -/
def tag (key : List UInt8) (message : List UInt8) : FixedBytes 16 :=
  let point := littleEndian (key.take 16) &&& pointMask
  let addend := littleEndian ((key.drop 16).take 16)
  let value := evaluate point (message.length / 16 + 1) 0 message
  ⟨toBytes 16 (value + addend), length_toBytes 16 _⟩

end SealedSync.Poly1305
