/-!
# UTF-8

A text is written as bytes character by character. Bytes are read one at a time by a machine that
knows how many continuation bytes it still owes and which values the next of them may have; where
the bytes stop being UTF-8 it yields one gap for the longest part that could still have become a
character, and starts again at the byte that ruled it out.
-/
namespace SealedSync.Utf8

/-- The bytes of a text. -/
def encode (text : String) : List UInt8 :=
  text.toList.flatMap String.utf8EncodeChar

/-- A character whose first bytes have been read. -/
structure Partial where
  value : Nat
  owed : Nat
  low : UInt8
  high : UInt8

/-- What a byte between two characters begins. -/
inductive Lead where
  | character (c : Char)
  | started (p : Partial)
  | gap

def lead (b : UInt8) : Lead :=
  if b < 0x80 then .character (Char.ofNat b.toNat)
  else if b < 0xC2 then .gap
  else if b < 0xE0 then .started ⟨b.toNat - 0xC0, 1, 0x80, 0xBF⟩
  else if b = 0xE0 then .started ⟨0, 2, 0xA0, 0xBF⟩
  else if b = 0xED then .started ⟨13, 2, 0x80, 0x9F⟩
  else if b < 0xF0 then .started ⟨b.toNat - 0xE0, 2, 0x80, 0xBF⟩
  else if b = 0xF0 then .started ⟨0, 3, 0x90, 0xBF⟩
  else if b < 0xF4 then .started ⟨b.toNat - 0xF0, 3, 0x80, 0xBF⟩
  else if b = 0xF4 then .started ⟨4, 3, 0x80, 0x8F⟩
  else .gap

/-- Reads bytes in the middle of a character, or between two of them. -/
def decodeFrom : Option Partial → List UInt8 → List (Option Char)
  | none, [] => []
  | some _, [] => [none]
  | none, b :: rest =>
      match lead b with
      | .character c => some c :: decodeFrom none rest
      | .started p => decodeFrom (some p) rest
      | .gap => none :: decodeFrom none rest
  | some p, b :: rest =>
      if p.low ≤ b ∧ b ≤ p.high then
        let value := p.value * 64 + (b.toNat - 0x80)
        if p.owed = 1 then some (Char.ofNat value) :: decodeFrom none rest
        else decodeFrom (some ⟨value, p.owed - 1, 0x80, 0xBF⟩) rest
      else
        match lead b with
        | .character c => none :: some c :: decodeFrom none rest
        | .started q => none :: decodeFrom (some q) rest
        | .gap => none :: none :: decodeFrom none rest

/-- The characters of a byte sequence, with a gap wherever it is not UTF-8. -/
def decode (bytes : List UInt8) : List (Option Char) := decodeFrom none bytes

/-- The text of a byte sequence, with U+FFFD in each gap. -/
def decodeLossy (bytes : List UInt8) : String :=
  String.ofList ((decode bytes).map fun c => c.getD (Char.ofNat 0xFFFD))

/-- The text of a byte sequence that is UTF-8 throughout. -/
def decode? (bytes : List UInt8) : Option String :=
  ((decode bytes).mapM id).map String.ofList

end SealedSync.Utf8
