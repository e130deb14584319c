import SealedSync.Crypto.Argon2id
import SealedSync.Crypto.Error
import SealedSync.Crypto.FixedBytes
import SealedSync.Crypto.Sha256
import SealedSync.Json.Decode
import SealedSync.Json.Writer
import SealedSync.Text.Base64

/-!
# Keys

A symmetric key is thirty-two bytes, written in base64. The key that protects an account's key
bundle is derived from the passphrase, with a salt that depends on the account alone, so every
device with the passphrase derives the same key.
-/
namespace SealedSync

structure Key where
  bytes : FixedBytes 32
  deriving DecidableEq

namespace Key

def size : Nat := 32

/-- What is shown of a key where it might be printed. -/
def redacted : String := "DerivedKey(<redacted>)"

instance : Repr Key := ⟨fun _ _ => redacted⟩

def ofBytes (bytes : List UInt8) : Except CryptoError Key :=
  match FixedBytes.ofList? 32 bytes with
  | some bytes => .ok ⟨bytes⟩
  | none => .error (.invalidKeyLength size bytes.length)

def toBase64 (key : Key) : String := Base64.encode key.bytes.val

def toHex (key : Key) : String := Hex.encode key.bytes.val

def ofBase64 (text : String) : Except CryptoError Key :=
  match Base64.decode text with
  | .ok bytes => ofBytes bytes
  | .error fault => .error (.encoding s!"key is not valid base64: {fault.message}")

end Key

abbrev Salt := FixedBytes 16

/-- Sets the salts of accounts apart from other uses of the hash. -/
def Salt.domain : String := "cairn-account-salt\x00"

def Salt.ofAccount (account : String) : Salt :=
  .fit 16 (Sha256.hash (Utf8.encode Salt.domain ++ Utf8.encode account))

/-- The cost of deriving a key from a passphrase. -/
structure KdfParams where
  memoryKib : Nat
  iterations : Nat
  parallelism : Nat
  deriving DecidableEq, Repr

namespace KdfParams

def standard : KdfParams := ⟨19456, 2, 1⟩

/-- The least cost that is still a realistic run; for tests. -/
def fast : KdfParams := ⟨256, 1, 1⟩

def cost (p : KdfParams) : Argon2id.Cost := ⟨p.memoryKib, p.iterations, p.parallelism⟩

def toJson (p : KdfParams) : Json :=
  .fields [("memory_kib", .nat p.memoryKib), ("iterations", .nat p.iterations),
    ("parallelism", .nat p.parallelism)]

/-- The fields read so far. -/
structure Draft where
  memoryKib : Option Nat := none
  iterations : Option Nat := none
  parallelism : Option Nat := none

def Draft.read (d : Draft) (name : String) (value : Json) : Except DecodeError Draft :=
  match name with
  | "memory_kib" => do
      return { d with memoryKib := ← Json.readField name d.memoryKib Json.decodeNat32 value }
  | "iterations" => do
      return { d with iterations := ← Json.readField name d.iterations Json.decodeNat32 value }
  | "parallelism" => do
      return { d with parallelism := ← Json.readField name d.parallelism Json.decodeNat32 value }
  | _ => do
      value.skip
      return d

def ofMembers (members : Json.Members) : Except DecodeError KdfParams := do
  let d ← members.fold Draft.read {}
  return ⟨← Json.requireField "memory_kib" d.memoryKib,
    ← Json.requireField "iterations" d.iterations,
    ← Json.requireField "parallelism" d.parallelism⟩

def ofItems (items : Json.Items) : Except DecodeError KdfParams := do
  let expected := "struct KdfParams with 3 elements"
  let (memoryKib, items) ← items.next 0 expected Json.decodeNat32
  let (iterations, items) ← items.next 1 expected Json.decodeNat32
  let (parallelism, items) ← items.next 2 expected Json.decodeNat32
  items.finish
  return ⟨memoryKib, iterations, parallelism⟩

def decode : Decoder KdfParams := Json.decodeRecord "KdfParams" ofMembers ofItems

end KdfParams

/-- The key of a passphrase. -/
def deriveKey (passphrase : String) (salt : Salt) (params : KdfParams) : Except CryptoError Key :=
  match params.cost.fault? with
  | some fault => .error (.keyDerivation s!"invalid argon2 parameters: {fault.message}")
  | none => .ok ⟨.fit 32 (Argon2id.derive params.cost 32 (Utf8.encode passphrase) salt.val)⟩

end SealedSync
