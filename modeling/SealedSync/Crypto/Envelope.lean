import SealedSync.Crypto.ChaCha20
import SealedSync.Crypto.Key
import SealedSync.Crypto.Poly1305

/-!
# Sealed data

Data is sealed under a key and a nonce with ChaCha20 and Poly1305: the ciphertext is the enciphered
text followed by a tag of sixteen bytes, and it is opened only if the tag is the right one. Sealed
data is written as JSON with its nonce and ciphertext in base64.
-/
namespace SealedSync

abbrev Nonce := FixedBytes 12

structure Envelope where
  nonce : Nonce
  ciphertext : List UInt8
  deriving DecidableEq, Repr

namespace Envelope

def tagSize : Nat := 16

/-- Zeros up to a whole number of blocks of sixteen. -/
def padTo16 (bytes : List UInt8) : List UInt8 :=
  bytes ++ List.replicate ((16 - bytes.length % 16) % 16) 0

/-- The tag of an enciphered text, which covers its length and no other data. -/
def tagOf (key : Key) (nonce : Nonce) (body : List UInt8) : FixedBytes 16 :=
  Poly1305.tag ((ChaCha20.block key.bytes nonce 0).take 32)
    (padTo16 body ++ Poly1305.toBytes 8 0 ++ Poly1305.toBytes 8 body.length)

/-- Seals data. -/
def encrypt (key : Key) (nonce : Nonce) (plaintext : List UInt8) : Envelope :=
  let body := ChaCha20.apply key.bytes nonce plaintext
  ⟨nonce, body ++ (tagOf key nonce body).val⟩

/-- The ciphertext before the tag. -/
def body (e : Envelope) : List UInt8 := e.ciphertext.take (e.ciphertext.length - tagSize)

def tag (e : Envelope) : List UInt8 := e.ciphertext.drop (e.ciphertext.length - tagSize)

/-- Opens sealed data. -/
def decrypt (key : Key) (e : Envelope) : Except CryptoError (List UInt8) :=
  if e.ciphertext.length < tagSize then
    .error (.decryption s!"ciphertext too short: {e.ciphertext.length} bytes")
  else if e.tag = (tagOf key e.nonce e.body).val then
    .ok (ChaCha20.apply key.bytes e.nonce e.body)
  else .error (.decryption "wrong key or tampered data")

def toJson (e : Envelope) : Json :=
  .fields [("nonce", .text (Base64.encode e.nonce.val)),
    ("ciphertext", .text (Base64.encode e.ciphertext))]

def decodeBytes : Decoder (List UInt8) := fun value => do
  match Base64.decode (← Json.decodeString value) with
  | .ok bytes => return bytes
  | .error fault => throw (.invalidContent fault.message)

def decodeNonce : Decoder Nonce := fun value => do
  let bytes ← decodeBytes value
  match FixedBytes.ofList? 12 bytes with
  | some nonce => return nonce
  | none => throw (.invalidContent s!"nonce must be 12 bytes, got {bytes.length}")

/-- The fields read so far. -/
structure Draft where
  nonce : Option Nonce := none
  ciphertext : Option (List UInt8) := none

def Draft.read (d : Draft) (name : String) (value : Json) : Except DecodeError Draft :=
  match name with
  | "nonce" => do return { d with nonce := ← Json.readField name d.nonce decodeNonce value }
  | "ciphertext" => do
      return { d with ciphertext := ← Json.readField name d.ciphertext decodeBytes value }
  | _ => do
      value.skip
      return d

def ofMembers (members : Json.Members) : Except DecodeError Envelope := do
  let d ← members.fold Draft.read {}
  return ⟨← Json.requireField "nonce" d.nonce, ← Json.requireField "ciphertext" d.ciphertext⟩

def ofItems (items : Json.Items) : Except DecodeError Envelope := do
  let expected := "struct EncryptedData with 2 elements"
  let (nonce, items) ← items.next 0 expected decodeNonce
  let (ciphertext, items) ← items.next 1 expected decodeBytes
  items.finish
  return ⟨nonce, ciphertext⟩

def decode : Decoder Envelope := Json.decodeRecord "EncryptedData" ofMembers ofItems

end Envelope

end SealedSync
