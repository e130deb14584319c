import SealedSync.Text.Utf8

/-!
# Base64

Three bytes are written as four symbols. The standard form pads the last group with `=`; the form
for identifiers uses `-` and `_` and no padding. Reading accepts the standard form alone, with its
padding and with no stray bits in the last symbol, so each byte sequence has one text.
-/
namespace SealedSync.Base64

inductive Alphabet where
  | standard
  | urlSafe
  deriving DecidableEq

def Alphabet.symbol (alphabet : Alphabet) (n : Nat) : Char :=
  if n < 26 then Char.ofNat (65 + n)
  else if n < 52 then Char.ofNat (71 + n)
  else if n < 62 then Char.ofNat (n - 4)
  else match alphabet, n with
    | .standard, 62 => '+'
    | .standard, _ => '/'
    | .urlSafe, 62 => '-'
    | .urlSafe, _ => '_'

/-- The number that a byte of standard base64 stands for. -/
def value? (b : UInt8) : Option Nat :=
  if 65 ≤ b ∧ b ≤ 90 then some (b.toNat - 65)
  else if 97 ≤ b ∧ b ≤ 122 then some (b.toNat - 71)
  else if 48 ≤ b ∧ b ≤ 57 then some (b.toNat + 4)
  else if b = 43 then some 62
  else if b = 47 then some 63
  else none

def encodeChars (alphabet : Alphabet) (padding : List Char) : List UInt8 → List Char
  | [] => []
  | [a] =>
      alphabet.symbol (a.toNat / 4) :: alphabet.symbol (a.toNat % 4 * 16) :: (padding ++ padding)
  | [a, b] =>
      alphabet.symbol (a.toNat / 4) :: alphabet.symbol (a.toNat % 4 * 16 + b.toNat / 16) ::
        alphabet.symbol (b.toNat % 16 * 4) :: padding
  | a :: b :: c :: rest =>
      alphabet.symbol (a.toNat / 4) :: alphabet.symbol (a.toNat % 4 * 16 + b.toNat / 16) ::
        alphabet.symbol (b.toNat % 16 * 4 + c.toNat / 64) :: alphabet.symbol (c.toNat % 64) ::
          encodeChars alphabet padding rest

/-- The padded standard form. -/
def encode (bytes : List UInt8) : String := String.ofList (encodeChars .standard ['='] bytes)

/-- The unpadded form that is safe inside a URL. -/
def encodeUrlSafe (bytes : List UInt8) : String := String.ofList (encodeChars .urlSafe [] bytes)

/-- Why a text is not the standard form of any byte sequence. -/
inductive Fault where
  | symbol (byte : UInt8) (offset : Nat)
  | length (count : Nat)
  | lastSymbol (byte : UInt8) (offset : Nat)
  | padding
  deriving DecidableEq, Repr

def Fault.message : Fault → String
  | .symbol byte offset => s!"Invalid symbol {byte.toNat}, offset {offset}."
  | .length count => s!"Invalid input length: {count}"
  | .lastSymbol byte offset => s!"Invalid last symbol {byte.toNat}, offset {offset}."
  | .padding => "Invalid padding"

def pad : UInt8 := 61

def symbolAt (byte : UInt8) (offset : Nat) : Except Fault Nat :=
  match value? byte with
  | some n => .ok n
  | none => .error (.symbol byte offset)

/-- The symbols of the last group with their offsets, up to its padding, and the count of `=` after
them. A `=` comes third or fourth, and only `=` follows it. -/
def readLast (start index padded : Nat) : List UInt8 → Except Fault (List (UInt8 × Nat) × Nat)
  | [] => .ok ([], padded)
  | b :: rest =>
      if b = pad then
        if index < 2 then .error (.symbol b (start + index))
        else readLast start (index + 1) (padded + 1) rest
      else if padded > 0 then .error (.symbol pad (start + index - padded))
      else do
        let n ← symbolAt b (start + index)
        let (symbols, padded) ← readLast start (index + 1) padded rest
        return ((b, n) :: symbols, padded)

/-- The bytes of a last group of at most four symbols. -/
def decodeLast (start : Nat) (group : List UInt8) : Except Fault (List UInt8) := do
  let (symbols, padded) ← readLast start 0 0 group
  if (symbols.length + padded) % 4 ≠ 0 ∧ symbols.length ≥ 2 then throw .padding
  match symbols with
  | [] => if group.isEmpty then return [] else throw (.length start)
  | [_] => throw (.length (start + 1))
  | [(_, a), (byte, b)] =>
      if b % 16 = 0 then return [UInt8.ofNat (a * 4 + b / 16)]
      else throw (.lastSymbol byte (start + 1))
  | [(_, a), (_, b), (byte, c)] =>
      if c % 4 = 0 then
        return [UInt8.ofNat (a * 4 + b / 16), UInt8.ofNat (b % 16 * 16 + c / 4)]
      else throw (.lastSymbol byte (start + 2))
  | (_, a) :: (_, b) :: (_, c) :: (_, d) :: _ =>
      return [UInt8.ofNat (a * 4 + b / 16), UInt8.ofNat (b % 16 * 16 + c / 4),
        UInt8.ofNat (c % 4 * 64 + d)]

/-- Reads group by group; only the last one may be padded. -/
def decodeGroups (start : Nat) : List UInt8 → Except Fault (List UInt8)
  | a :: b :: c :: d :: e :: rest => do
      let m ← symbolAt a start
      let n ← symbolAt b (start + 1)
      let o ← symbolAt c (start + 2)
      let p ← symbolAt d (start + 3)
      let bytes ← decodeGroups (start + 4) (e :: rest)
      return UInt8.ofNat (m * 4 + n / 16) :: UInt8.ofNat (n % 16 * 16 + o / 4) ::
        UInt8.ofNat (o % 4 * 64 + p) :: bytes
  | group => decodeLast start group

/-- The byte that stands alone in the last group, if it is neither a symbol nor padding: it is named
before anything else, as it is most often a stray line end. -/
def strayLast? (bytes : List UInt8) : Option UInt8 :=
  if bytes.length % 4 = 1 then
    bytes.getLast?.filter fun b => b ≠ pad && (value? b).isNone
  else none

def decodeBytes (bytes : List UInt8) : Except Fault (List UInt8) :=
  match strayLast? bytes with
  | some b => .error (.symbol b (bytes.length - 1))
  | none => decodeGroups 0 bytes

/-- The bytes that a text is the padded standard form of. -/
def decode (text : String) : Except Fault (List UInt8) := decodeBytes (Utf8.encode text)

end SealedSync.Base64
