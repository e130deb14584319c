/-!
# Hexadecimal

Two lower-case digits a byte, the high one first. Reading takes either case.
-/
namespace SealedSync.Hex

def digit (n : Nat) : Char :=
  if n < 10 then Char.ofNat (48 + n) else Char.ofNat (87 + n)

def digitUpper (n : Nat) : Char :=
  if n < 10 then Char.ofNat (48 + n) else Char.ofNat (55 + n)

def value? (c : Char) : Option Nat :=
  if '0' ≤ c ∧ c ≤ '9' then some (c.toNat - 48)
  else if 'a' ≤ c ∧ c ≤ 'f' then some (c.toNat - 87)
  else if 'A' ≤ c ∧ c ≤ 'F' then some (c.toNat - 55)
  else none

/-- The digits of a byte. -/
def ofByte (b : UInt8) : List Char := [digit (b.toNat / 16), digit (b.toNat % 16)]

def encode (bytes : List UInt8) : String := String.ofList (bytes.flatMap ofByte)

def decodeChars : List Char → Option (List UInt8)
  | [] => some []
  | high :: low :: rest => do
      let h ← value? high
      let l ← value? low
      let bytes ← decodeChars rest
      return UInt8.ofNat (16 * h + l) :: bytes
  | [_] => none

def decode? (text : String) : Option (List UInt8) := decodeChars text.toList

/-- A number in base sixteen without leading zeros. -/
def ofNat (n : Nat) : String := String.ofList (Nat.toDigits 16 n)

end SealedSync.Hex
