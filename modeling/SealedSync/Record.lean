import SealedSync.Json.Decode
import SealedSync.Json.Writer
import SealedSync.NameMap

/-!
# Records on the server

A record carries an opaque text. The global metadata record names the sync epoch, the storage format
and the engines that write to the account.
-/
namespace SealedSync

structure RemoteRecord where
  id : String
  modified : Binary64
  payload : String
  deriving DecidableEq, Repr

namespace RemoteRecord

/-- A record that has not been stored yet. -/
def ofPayload (id payload : String) : RemoteRecord := ⟨id, .zero, payload⟩

def toJson (r : RemoteRecord) : Json :=
  .fields [("id", .text r.id), ("modified", .float r.modified), ("payload", .text r.payload)]

/-- The fields read so far. -/
structure Draft where
  id : Option String := none
  modified : Option Binary64 := none
  payload : Option String := none

def Draft.read (d : Draft) (name : String) (value : Json) : Except DecodeError Draft :=
  match name with
  | "id" => do return { d with id := ← Json.readField name d.id Json.decodeString value }
  | "modified" => do
      return { d with modified := ← Json.readField name d.modified Json.decodeFloat value }
  | "payload" => do
      return { d with payload := ← Json.readField name d.payload Json.decodeString value }
  | _ => do
      value.skip
      return d

def ofMembers (members : Json.Members) : Except DecodeError RemoteRecord := do
  let d ← members.fold Draft.read {}
  return ⟨← Json.requireField "id" d.id, d.modified.getD .zero,
    ← Json.requireField "payload" d.payload⟩

def ofItems (items : Json.Items) : Except DecodeError RemoteRecord := do
  let expected := "struct RemoteRecord with 3 elements"
  let (id, items) ← items.next 0 expected Json.decodeString
  let (modified, items) ← items.nextOr .zero Json.decodeFloat
  let (payload, items) ← items.next 2 expected Json.decodeString
  items.finish
  return ⟨id, modified, payload⟩

/-- The time of a record may be missing. -/
def decode : Decoder RemoteRecord := Json.decodeRecord "RemoteRecord" ofMembers ofItems

end RemoteRecord

/-- What the metadata record says of an engine. -/
structure EngineMetadata where
  version : Nat
  syncId : String
  deriving DecidableEq, Repr

namespace EngineMetadata

def toJson (e : EngineMetadata) : Json :=
  .fields [("version", .nat e.version), ("syncID", .text e.syncId)]

/-- The fields read so far. -/
structure Draft where
  version : Option Nat := none
  syncId : Option String := none

def Draft.read (d : Draft) (name : String) (value : Json) : Except DecodeError Draft :=
  match name with
  | "version" => do
      return { d with version := ← Json.readField name d.version Json.decodeNat32 value }
  | "syncID" => do
      return { d with syncId := ← Json.readField name d.syncId Json.decodeString value }
  | _ => do
      value.skip
      return d

def ofMembers (members : Json.Members) : Except DecodeError EngineMetadata := do
  let d ← members.fold Draft.read {}
  return ⟨← Json.requireField "version" d.version, ← Json.requireField "syncID" d.syncId⟩

def ofItems (items : Json.Items) : Except DecodeError EngineMetadata := do
  let expected := "struct EngineMeta with 2 elements"
  let (version, items) ← items.next 0 expected Json.decodeNat32
  let (syncId, items) ← items.next 1 expected Json.decodeString
  items.finish
  return ⟨version, syncId⟩

def decode : Decoder EngineMetadata := Json.decodeRecord "EngineMeta" ofMembers ofItems

end EngineMetadata

/-- The metadata of an account: its sync epoch and its storage format. -/
structure GlobalMetadata where
  syncId : String
  storageVersion : Nat
  engines : NameMap EngineMetadata
  deriving DecidableEq, Repr

namespace GlobalMetadata

def toJson (m : GlobalMetadata) : Json :=
  .fields [("syncID", .text m.syncId), ("storageVersion", .nat m.storageVersion),
    ("engines", .fields (m.engines.entries.map fun e => (e.1, e.2.toJson)))]

def addEngine (engines : NameMap EngineMetadata) (name : String) (value : Json) :
    Except DecodeError (NameMap EngineMetadata) := do
  return engines.insert name (← EngineMetadata.decode value)

/-- Of an engine that is repeated the last entry counts. -/
def decodeEngines : Decoder (NameMap EngineMetadata)
  | .object members => members.fold addEngine .empty
  | value => .error (value.mismatch "a map")

/-- The fields read so far. -/
structure Draft where
  syncId : Option String := none
  storageVersion : Option Nat := none
  engines : Option (NameMap EngineMetadata) := none

def Draft.read (d : Draft) (name : String) (value : Json) : Except DecodeError Draft :=
  match name with
  | "syncID" => do
      return { d with syncId := ← Json.readField name d.syncId Json.decodeString value }
  | "storageVersion" => do
      return { d with
        storageVersion := ← Json.readField name d.storageVersion Json.decodeNat32 value }
  | "engines" => do
      return { d with engines := ← Json.readField name d.engines decodeEngines value }
  | _ => do
      value.skip
      return d

def ofMembers (members : Json.Members) : Except DecodeError GlobalMetadata := do
  let d ← members.fold Draft.read {}
  return ⟨← Json.requireField "syncID" d.syncId,
    ← Json.requireField "storageVersion" d.storageVersion, d.engines.getD .empty⟩

def ofItems (items : Json.Items) : Except DecodeError GlobalMetadata := do
  let expected := "struct GlobalMetadataRecord with 3 elements"
  let (syncId, items) ← items.next 0 expected Json.decodeString
  let (storageVersion, items) ← items.next 1 expected Json.decodeNat32
  let (engines, items) ← items.nextOr .empty decodeEngines
  items.finish
  return ⟨syncId, storageVersion, engines⟩

/-- The engines may be missing. -/
def decode : Decoder GlobalMetadata := Json.decodeRecord "GlobalMetadataRecord" ofMembers ofItems

end GlobalMetadata

end SealedSync
