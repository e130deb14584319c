import SealedSync.Json.Decode
import SealedSync.Json.Writer
import SealedSync.Time.Instant

/-!
# Local bookkeeping

What is remembered between cycles: the epoch and the index of the last cycle that completed, and
when it did. Nothing of it is secret.
-/
namespace SealedSync

structure LocalState where
  lastSyncId : Option String
  indexFingerprint : Option String
  lastSyncAt : Option Instant
  deriving DecidableEq

namespace LocalState

def empty : LocalState := ⟨none, none, none⟩

def isEmpty (s : LocalState) : Bool := s = empty

def toJson (s : LocalState) : Json :=
  .fields [("last_sync_id", Json.optional .text s.lastSyncId),
    ("index_fingerprint", Json.optional .text s.indexFingerprint),
    ("last_sync_at", Json.optional (fun i => .text (Instant.text i)) s.lastSyncAt)]

def decodeInstant : Decoder Instant := fun value => do
  let text ← Json.decodeStringAs "an RFC 3339 formatted date and time string" value
  match Instant.read text.toList with
  | some instant => return instant
  | none => throw (.invalidContent "<datetime>")

/-- The fields read so far. -/
structure Draft where
  lastSyncId : Option (Option String) := none
  indexFingerprint : Option (Option String) := none
  lastSyncAt : Option (Option Instant) := none

def Draft.read (d : Draft) (name : String) (value : Json) : Except DecodeError Draft :=
  match name with
  | "last_sync_id" => do
      return { d with
        lastSyncId := ← Json.readField name d.lastSyncId
          (Json.decodeOptional Json.decodeString) value }
  | "index_fingerprint" => do
      return { d with
        indexFingerprint := ← Json.readField name d.indexFingerprint
          (Json.decodeOptional Json.decodeString) value }
  | "last_sync_at" => do
      return { d with
        lastSyncAt := ← Json.readField name d.lastSyncAt
          (Json.decodeOptional decodeInstant) value }
  | _ => do
      value.skip
      return d

def ofMembers (members : Json.Members) : Except DecodeError LocalState := do
  let d ← members.fold Draft.read {}
  return ⟨d.lastSyncId.join, d.indexFingerprint.join, d.lastSyncAt.join⟩

def ofItems (items : Json.Items) : Except DecodeError LocalState := do
  let expected := "struct LocalSyncState with 3 elements"
  let (lastSyncId, items) ← items.next 0 expected (Json.decodeOptional Json.decodeString)
  let (indexFingerprint, items) ← items.next 1 expected (Json.decodeOptional Json.decodeString)
  let (lastSyncAt, items) ← items.next 2 expected (Json.decodeOptional decodeInstant)
  items.finish
  return ⟨lastSyncId, indexFingerprint, lastSyncAt⟩

/-- Each field of an object may be missing. -/
def decode : Decoder LocalState := Json.decodeRecord "LocalSyncState" ofMembers ofItems

end LocalState

end SealedSync
