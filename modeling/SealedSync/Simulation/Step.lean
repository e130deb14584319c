import SealedSync.Session

/-!
# Steps of a simulated run and their results
-/
namespace SealedSync.Simulation

/-- Whose keys a step works with. -/
structure Holder where
  account : String
  passphrase : String
  kdf : KdfParams
  limit : Duration

namespace Holder

def access (h : Holder) : KeyAccess := .ofPassphrase h.account h.passphrase h.kdf h.limit

end Holder

inductive Step where
  | openSession (name : String) (holder : Holder) (config : SyncConfig)
  | register (name synchronizer : String)
  | sync (name : String)
  | cancel (name : String)
  | isCancelled (name : String)
  | isSyncing (name : String)
  | freshStarts (name : String)
  | state (name : String)
  | manager (name : String) (holder : Holder)
  | bind (name epoch : String) (modified : Option Binary64)
  | refresh (name : String)
  | key (name collection : String)
  | invalidate (name : String)
  | keyState (name : String)
  | sealingKey (name : String)
  | fetchIndex (limit : Duration)
  | fetchMetadata (limit : Duration)
  | fetchBundle (holder : Holder) (queries : List String)
  | recover (name : Option String) (holder : Holder) (plan : FreshStartPlan) (state : LocalState)
      (synchronizers : List String)
  | load (file : StateFile)
  | save (file : StateFile) (state : LocalState)
  | writeFile (file : String) (bytes : List UInt8)
  | writeText (file text : String)
  | showFile (file : String)
  | listFiles
  | makeDirectory (file : String)
  | removeDirectory (file : String)
  | putRaw (collection id payload : String)
  | putBundle (holder : Holder) (bundle : Option KeyBundle)
  | putSealed (holder : Holder) (plaintext : String)
  | deleteRecord (collection id : String)
  | removeIndex (collection : String)
  | setIndex (collection : String) (modified : Binary64)
  | respondEmpty (on : Bool)
  | dropWrites (on : Bool)
  | failCalls (on : String) (error : SyncError) (times : Option Nat)
  | clearFaults
  | delay (on : String) (limit : Duration)
  | clearDelays
  | during (on : String) (actions : List Step)
  | listServer

namespace Step

mutual

/-- How many steps in a step queue actions, which is how deep actions can be nested. -/
def depth : Step → Nat
  | .during _ actions => depths actions + 1
  | _ => 0

def depths : List Step → Nat
  | [] => 0
  | s :: rest => s.depth + depths rest

end

end Step

/-- What can be seen of a session. -/
structure SessionView where
  localState : LocalState
  freshStarts : Nat
  syncing : Bool
  loaded : Bool
  epoch : Option String

namespace SessionView

def ofSession (s : Session) : SessionView :=
  ⟨s.book.localState, s.freshStarts, s.isSyncing, s.book.keyring.isLoaded, s.book.keyring.epoch⟩

end SessionView

/-- A record as it is shown: its text, or the text that it seals under a key of the run. -/
structure ShownRecord where
  collection : String
  id : String
  modified : Binary64
  payload : String
  isSealed : Bool

inductive Result where
  | done
  | failed (error : SyncError)
  /-- No key could be derived. -/
  | refused (error : CryptoError)
  | flag (b : Bool)
  | count (n : Nat)
  | time (x : Binary64)
  | key (k : Key)
  | opened (account : String) (collections : List String) (view : SessionView)
  | synced (result : Except SyncError CycleReport) (view : SessionView)
  | view (view : SessionView)
  | keyState (loaded : Bool) (epoch : Option String)
  | index (index : CollectionIndex)
  | metadata (m : GlobalMetadata)
  | bundle (b : KeyBundle) (queries : List String)
  | recovered (result : Except SyncError GlobalMetadata) (state : LocalState) (loaded : Bool)
      (epoch : Option String)
  | loaded (hasPath : Bool) (state : LocalState)
  | text (content : Option String)
  | names (names : List String)
  | server (index : CollectionIndex) (records : List ShownRecord)

namespace Result

def ofExcept {α : Type} (f : α → Result) : Except SyncError α → Result
  | .ok a => f a
  | .error e => .failed e

end Result

end SealedSync.Simulation
