import SealedSync.KeyBundle
import SealedSync.Program

/-!
# Reading the server's bookkeeping

The index, the metadata record and the key bundle are fetched under a time limit. An absent record
is told apart from one that cannot be decoded.
-/
namespace SealedSync.RemoteState

variable {σ : Type}

def fetchIndex (limit : Duration) : Program σ CollectionIndex := do
  let index ← Program.remote limit "collection index fetch" .index
  Program.note (.indexListed index.names)
  return index

def fetchRecord (limit : Duration) (operation collection id : String) :
    Program σ RemoteRecord := do
  match ← Program.remote limit operation (.fetch collection id) with
  | some record => return record
  | none => Program.fail (.notFound s!"{collection}/{id}")

/-- The metadata that the payload of its record holds. -/
def decodeMetadata (payload : String) : Except SyncError GlobalMetadata :=
  match Json.decodeText GlobalMetadata.decode payload with
  | .ok m => .ok m
  | .error e => .error (.malformed s!"{metaCollection}/{globalRecordId}: {e.message}")

def fetchMetadata (limit : Duration) : Program σ GlobalMetadata := do
  let record ← fetchRecord limit "global metadata fetch" metaCollection globalRecordId
  Program.ofExcept (decodeMetadata record.payload)

def fetchBundle (limit : Duration) (sealingKey : Key) : Program σ KeyBundle := do
  let record ← fetchRecord limit "key bundle fetch" cryptoCollection keysRecordId
  Program.ofExcept (KeyBundle.ofPayload record.payload sealingKey)

end SealedSync.RemoteState
