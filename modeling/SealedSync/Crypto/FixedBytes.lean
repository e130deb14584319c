/-!
# Byte sequences of a fixed length
-/
namespace SealedSync

abbrev FixedBytes (n : Nat) := { bytes : List UInt8 // bytes.length = n }

namespace FixedBytes

def ofList? (n : Nat) (bytes : List UInt8) : Option (FixedBytes n) :=
  if h : bytes.length = n then some ⟨bytes, h⟩ else none

/-- The first `n` bytes, filled up with zeros. -/
def fit (n : Nat) (bytes : List UInt8) : FixedBytes n :=
  ⟨(bytes ++ List.replicate n 0).take n, by simp⟩

theorem ofList?_val {n : Nat} (bytes : FixedBytes n) : ofList? n bytes.val = some bytes :=
  dif_pos bytes.property

end FixedBytes

end SealedSync
