import SealedSync.CollectionIndex
import SealedSync.Crypto.Key
import SealedSync.Error
import SealedSync.Record
import SealedSync.Synchronizer
import SealedSync.Time.Instant

/-!
# Requests to the world

A program asks the world around it for everything that it cannot compute: calls to the storage
server, the work of synchronizers, files, random bytes and the time. It also waits for work that is
done elsewhere. Each request has its own type of reply, and the world may answer in any way that the
type admits.
-/
namespace SealedSync

/-- The four calls that a storage server takes. -/
inductive RemoteCall where
  | index
  | fetch (collection id : String)
  | store (collection : String) (record : RemoteRecord)
  | wipe
  deriving DecidableEq, Repr

/-- What a call returns when it succeeds. -/
abbrev RemoteCall.Answer : RemoteCall → Type
  | .index => CollectionIndex
  | .fetch .. => Option RemoteRecord
  | .store .. => Binary64
  | .wipe => Unit

/-- Why a file operation failed. -/
inductive FileFault where
  | notFound
  | notDirectory
  | isDirectory
  | busy
  | nameTooLong
  | nulCharacter
  | other (text : String)
  deriving DecidableEq, Repr

def FileFault.message : FileFault → String
  | .notFound => "No such file or directory (os error 2)"
  | .notDirectory => "Not a directory (os error 20)"
  | .isDirectory => "Is a directory (os error 21)"
  | .busy => "Device or resource busy (os error 16)"
  | .nameTooLong => "File name too long (os error 36)"
  | .nulCharacter => "file name contained an unexpected NUL byte"
  | .other text => text

/-- What random bytes are drawn for. -/
inductive Draw where
  | epochId
  | engineId
  | collectionKey
  | nonce
  deriving DecidableEq, Repr

def Draw.size : Draw → Nat
  | .epochId | .engineId => 9
  | .collectionKey => 32
  | .nonce => 12

inductive Request where
  | remote (limit : Duration) (call : RemoteCall)
  | resetClient (synchronizer : Synchronizer)
  | synchronize (synchronizer : Synchronizer) (key : Key)
  /-- The end of a key derivation, which runs in a thread of its own. -/
  | deriveKey
  | readFile (path : String)
  | writeFile (path : String) (bytes : List UInt8)
  | renameFile (source target : String)
  | random (draw : Draw)
  | clock
  deriving DecidableEq

/-- A remote call is answered by nothing when its time limit passes first. What a derivation comes to is
settled by what it is given, so the reply to it is only that it is over. -/
abbrev Request.Reply : Request → Type
  | .remote _ call => Option (Except SyncError call.Answer)
  | .resetClient _ => Except SyncError Unit
  | .synchronize .. => Except SyncError Unit
  | .deriveKey => Unit
  | .readFile _ => Except FileFault (List UInt8)
  | .writeFile .. => Except FileFault Unit
  | .renameFile .. => Except FileFault Unit
  | .random draw => FixedBytes draw.size
  | .clock => Instant

end SealedSync
