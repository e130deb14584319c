import SealedSync.CollectionIndex
import SealedSync.Error
import SealedSync.LocalState
import SealedSync.Record

/-!
# Evaluation of the server's state

Metadata and keys are needed together: if either is missing or cannot be used, only a fresh start
helps. Data in a newer storage format must not be wiped; this client is too old for it.
-/
namespace SealedSync

inductive FreshStartReason where
  | missingMetadata
  | missingKeys
  | unusableMetadata
  | unusableKeys
  | outdatedStorage (remoteVersion : Nat)
  deriving DecidableEq, Repr

namespace FreshStartReason

def text : FreshStartReason → String
  | .missingMetadata => "metadata collection missing"
  | .missingKeys => "key-bundle collection missing"
  | .unusableMetadata => "metadata record unusable"
  | .unusableKeys => "key bundle unusable"
  | .outdatedStorage remoteVersion => s!"server storage version {remoteVersion} is outdated"

def toJson : FreshStartReason → Json
  | .missingMetadata => .text "missing_metadata"
  | .missingKeys => .text "missing_keys"
  | .unusableMetadata => .text "unusable_metadata"
  | .unusableKeys => .text "unusable_keys"
  | .outdatedStorage remoteVersion =>
      .fields [("outdated_storage", .fields [("remote", .nat remoteVersion)])]

end FreshStartReason

inductive Decision where
  | consistent
  | needsFreshStart (reason : FreshStartReason)
  deriving DecidableEq, Repr

namespace Decision

def isFreshStart : Decision → Bool
  | .consistent => false
  | .needsFreshStart _ => true

end Decision

/-- What the index alone decides. -/
def CollectionIndex.evaluate (index : CollectionIndex) : Decision :=
  if !index.contains metaCollection then .needsFreshStart .missingMetadata
  else if !index.contains cryptoCollection then .needsFreshStart .missingKeys
  else .consistent

namespace GlobalMetadata

/-- What the storage format of the server decides. -/
def evaluate (m : GlobalMetadata) (storageVersion : Nat) : Except SyncError Decision :=
  if m.storageVersion = storageVersion then .ok .consistent
  else if m.storageVersion < storageVersion then
    .ok (.needsFreshStart (.outdatedStorage m.storageVersion))
  else .error (.clientOutdated m.storageVersion storageVersion)

/-- What the result of fetching the metadata decides. A record that cannot be trusted is a
divergence; any other failure is passed on. -/
def evaluateFetch (fetched : Except SyncError GlobalMetadata) (storageVersion : Nat) :
    Except SyncError (Decision × Option GlobalMetadata) :=
  match fetched with
  | .ok m => (m.evaluate storageVersion).map fun d => (d, some m)
  | .error e =>
      if e.isAbsentOrMalformed then .ok (.needsFreshStart .unusableMetadata, none) else .error e

/-- The server is in another epoch than the one of the last completed cycle. -/
def epochChanged (m : GlobalMetadata) (state : LocalState) : Bool :=
  state.lastSyncId != some m.syncId

end GlobalMetadata

end SealedSync
