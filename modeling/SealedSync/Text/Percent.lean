import SealedSync.Text.Utf8
import SealedSync.Text.Hex

/-!
# Percent encoding

In a path segment letters, digits and `-`, `_`, `.`, `~` stand for themselves; every other byte of
the UTF-8 form is written as `%` and two upper-case hexadecimal digits. No `/`, `?` or `#` is left
in the result. Decoding takes either case and leaves alone what is no escape.
-/
namespace SealedSync.Percent

def isUnreserved (b : UInt8) : Bool :=
  (65 ≤ b && b ≤ 90) || (97 ≤ b && b ≤ 122) || (48 ≤ b && b ≤ 57) ||
    b == 45 || b == 95 || b == 46 || b == 126

/-- A byte as `%` and two digits. -/
def escape (b : UInt8) : List Char :=
  ['%', Hex.digitUpper (b.toNat / 16), Hex.digitUpper (b.toNat % 16)]

def encodeByte (b : UInt8) : List Char :=
  if isUnreserved b then [Char.ofNat b.toNat] else escape b

def encode (text : String) : String := String.ofList ((Utf8.encode text).flatMap encodeByte)

/-- A text in which only controls, characters beyond ASCII and those of a set are escaped. -/
def encodeBeyond (set : List Char) (text : List Char) : String :=
  String.ofList (text.flatMap fun c =>
    if 0x20 ≤ c.toNat ∧ c.toNat < 0x7F ∧ c ∉ set then [c]
    else (String.utf8EncodeChar c).flatMap escape)

/-- The bytes that a text stands for. -/
def decodeChars : List Char → List UInt8
  | [] => []
  | '%' :: high :: low :: rest =>
      match Hex.decodeChars [high, low] with
      | some bytes => bytes ++ decodeChars rest
      | none => 37 :: decodeChars (high :: low :: rest)
  | c :: rest => String.utf8EncodeChar c ++ decodeChars rest

end SealedSync.Percent
