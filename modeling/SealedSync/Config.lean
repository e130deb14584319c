import SealedSync.CollectionIndex
import SealedSync.Crypto.Key
import SealedSync.Error

/-!
# Configuration of a session

A configuration names the data collections, each once, and none of the two that hold metadata and
keys. Its remote timeout and its storage version are positive.
-/
namespace SealedSync

/-- A data collection and the engine version that this client writes for it. -/
structure CollectionConfig where
  name : String
  version : Nat
  deriving DecidableEq, Repr

namespace CollectionConfig

def ofName (name : String) : CollectionConfig := ⟨name, 1⟩

def toJson (c : CollectionConfig) : Json :=
  .fields [("name", .text c.name), ("version", .nat c.version)]

/-- The fields read so far. -/
structure Draft where
  name : Option String := none
  version : Option Nat := none

def Draft.read (d : Draft) (name : String) (value : Json) : Except DecodeError Draft :=
  match name with
  | "name" => do return { d with name := ← Json.readField name d.name Json.decodeString value }
  | "version" => do
      return { d with version := ← Json.readField name d.version Json.decodeNat32 value }
  | _ => do
      value.skip
      return d

def ofMembers (members : Json.Members) : Except DecodeError CollectionConfig := do
  let d ← members.fold Draft.read {}
  return ⟨← Json.requireField "name" d.name, ← Json.requireField "version" d.version⟩

def ofItems (items : Json.Items) : Except DecodeError CollectionConfig := do
  let expected := "struct CollectionConfig with 2 elements"
  let (name, items) ← items.next 0 expected Json.decodeString
  let (version, items) ← items.next 1 expected Json.decodeNat32
  items.finish
  return ⟨name, version⟩

def decode : Decoder CollectionConfig := Json.decodeRecord "CollectionConfig" ofMembers ofItems

end CollectionConfig

structure SyncConfig where
  collections : List CollectionConfig
  storageVersion : Nat
  remoteTimeoutMs : Nat
  kdf : KdfParams
  statePath : Option String
  deriving DecidableEq, Repr

namespace SyncConfig

def standardCollections : List String :=
  ["clients", "bookmarks", "forms", "history", "passwords", "prefs", "tabs"]

/-- The standard configuration for the given collections. -/
def ofCollections (names : List String) : SyncConfig :=
  ⟨names.map .ofName, currentStorageVersion, 30000, .standard, none⟩

def standard : SyncConfig := ofCollections standardCollections

def remoteTimeout (c : SyncConfig) : Duration := .ofMillis c.remoteTimeoutMs

def collectionNames (c : SyncConfig) : List String := c.collections.map (·.name)

/-- Checks names in order against those before them. -/
def checkNames (seen : List String) : List String → Except SyncError Unit
  | [] => .ok ()
  | name :: rest =>
      if name.isEmpty then .error (.config "empty collection name")
      else if name = metaCollection ∨ name = cryptoCollection then
        .error (.config s!"collection name {name} is reserved")
      else if name ∈ seen then .error (.config s!"duplicate collection {name}")
      else checkNames (name :: seen) rest

def validate (c : SyncConfig) : Except SyncError Unit :=
  if c.collections.isEmpty then .error (.config "no collections configured")
  else if c.remoteTimeoutMs = 0 then .error (.config "remote_timeout_ms must be positive")
  else if c.storageVersion = 0 then .error (.config "storage_version must be positive")
  else checkNames [] c.collectionNames

def toJson (c : SyncConfig) : Json :=
  .fields [("collections", .list (c.collections.map CollectionConfig.toJson)),
    ("storage_version", .nat c.storageVersion), ("remote_timeout_ms", .nat c.remoteTimeoutMs),
    ("kdf", c.kdf.toJson), ("state_path", Json.optional .text c.statePath)]

def decodePath : Decoder (Option String) :=
  Json.decodeOptional (Json.decodeStringAs "path string")

/-- The fields read so far. -/
structure Draft where
  collections : Option (List CollectionConfig) := none
  storageVersion : Option Nat := none
  remoteTimeoutMs : Option Nat := none
  kdf : Option KdfParams := none
  statePath : Option (Option String) := none

def Draft.read (d : Draft) (name : String) (value : Json) : Except DecodeError Draft :=
  match name with
  | "collections" => do
      return { d with
        collections := ← Json.readField name d.collections
          (Json.decodeList CollectionConfig.decode) value }
  | "storage_version" => do
      return { d with
        storageVersion := ← Json.readField name d.storageVersion Json.decodeNat32 value }
  | "remote_timeout_ms" => do
      return { d with
        remoteTimeoutMs := ← Json.readField name d.remoteTimeoutMs Json.decodeNat64 value }
  | "kdf" => do return { d with kdf := ← Json.readField name d.kdf KdfParams.decode value }
  | "state_path" => do
      return { d with statePath := ← Json.readField name d.statePath decodePath value }
  | _ => do
      value.skip
      return d

def ofMembers (members : Json.Members) : Except DecodeError SyncConfig := do
  let d ← members.fold Draft.read {}
  return ⟨← Json.requireField "collections" d.collections,
    ← Json.requireField "storage_version" d.storageVersion,
    ← Json.requireField "remote_timeout_ms" d.remoteTimeoutMs,
    ← Json.requireField "kdf" d.kdf, d.statePath.join⟩

def ofItems (items : Json.Items) : Except DecodeError SyncConfig := do
  let expected := "struct SyncConfig with 5 elements"
  let (collections, items) ← items.next 0 expected (Json.decodeList CollectionConfig.decode)
  let (storageVersion, items) ← items.next 1 expected Json.decodeNat32
  let (remoteTimeoutMs, items) ← items.next 2 expected Json.decodeNat64
  let (kdf, items) ← items.next 3 expected KdfParams.decode
  let (statePath, items) ← items.next 4 expected decodePath
  items.finish
  return ⟨collections, storageVersion, remoteTimeoutMs, kdf, statePath⟩

/-- The state path may be missing. -/
def decode : Decoder SyncConfig := Json.decodeRecord "SyncConfig" ofMembers ofItems

end SyncConfig

/-- What an account needs: the name and password it has on the server, and the passphrase that
protects its keys. -/
structure Credentials where
  account : String
  credential : String
  passphrase : String

namespace Credentials

/-- What is shown of credentials where they might be printed: the account alone. -/
def redacted (c : Credentials) : String :=
  "AccountCredentials \x7b account_id: " ++ Quoted.quote c.account ++
    ", credential: \"<redacted>\", passphrase: \"<redacted>\" \x7d"

end Credentials

end SealedSync
