import SealedSync.CycleReport
import SealedSync.FreshStart

/-!
# Sessions

A session runs one cycle at a time for an account. A cycle looks at the server's index and metadata,
makes a fresh start if they do not fit together, makes sure of the keys, hands each synchronizer its
key and records the epoch. The sealing key is there before anything is destroyed, so a failed derivation
leaves the server as it is. A cancellation is honoured between states, so a fresh start that has
begun is completed. The local state changes only when a cycle ends well, and in a fresh start.
-/
namespace SealedSync

/-- What stays the same while a session lives. -/
structure Profile where
  account : String
  config : SyncConfig
  sealingKey : Except CryptoError Key

namespace Profile

def limit (p : Profile) : Duration := p.config.remoteTimeout

def keyAccess (p : Profile) : KeyAccess := ⟨p.limit, p.sealingKey⟩

end Profile

structure Session where
  book : Bookkeeping
  /-- Whether the sealing key has been derived. -/
  keyDerived : Bool
  synchronizers : List Synchronizer
  cancelRequested : Bool
  /-- The report of the cycle that is running, if one is. -/
  cycle : Option CycleReport
  /-- How many fresh starts have begun. -/
  freshStarts : Nat

namespace Session

variable {α : Type}

def ofLocalState (state : LocalState) : Session := ⟨⟨.empty, state⟩, false, [], false, none, 0⟩

def isSyncing (s : Session) : Bool := s.cycle.isSome

def onBook (program : Program Bookkeeping α) : Program Session α :=
  program.zoom (·.book) fun book s => { s with book }

def onKeyring (program : Program Keyring α) : Program Session α :=
  onBook (Bookkeeping.onKeyring program)

/-- Works on the keyring and the sealing key. -/
def onKeys (program : Program KeyManager α) : Program Session α :=
  program.zoom (fun s => ⟨s.book.keyring, s.keyDerived⟩) fun m s =>
    { s with book := { s.book with keyring := m.keyring }, keyDerived := m.derived }

/-- The sealing key, which a cycle has before it refreshes its keyring or looks for a key there. -/
def sealingKey (p : Profile) : Program Session Key := onKeys (KeyManager.sealingKey p.keyAccess)

/-- Asks the running cycle to stop at the next boundary between states. -/
def cancel (s : Session) : Session := { s with cancelRequested := true }

def register (name : String) : Program Session Unit := do
  Program.note (.registered name)
  Program.modify fun s =>
    { s with synchronizers := s.synchronizers ++ [⟨name, s.synchronizers.length⟩] }

/-- The report of the running cycle. -/
def report : Program Session CycleReport := do
  let s ← Program.get
  return s.cycle.getD .start

def updateReport (f : CycleReport → CycleReport) : Program Session Unit :=
  Program.modify fun s => { s with cycle := s.cycle.map f }

def enter (state : CycleState) : Program Session Unit := do
  let r ← report
  Program.note (.entered r.state state)
  updateReport (·.enter state)

/-- A boundary between states, at which a cancellation ends the cycle. -/
def checkpoint (p : Profile) : Program Session Unit := do
  let s ← Program.get
  if s.cancelRequested then
    let r ← report
    Program.note (.cycleCancelled p.account r.state)
    Program.fail (.cancelled r.state)

/-- What the server's index and metadata come to. -/
inductive Evaluated where
  | current (m : GlobalMetadata)
  | diverged (reason : FreshStartReason)

def evaluateRemote (p : Profile) (index : CollectionIndex) : Program Session Evaluated := do
  match index.evaluate with
  | .needsFreshStart reason => do
      Program.note (.indexInconsistent reason)
      return .diverged reason
  | .consistent => do
      let fetched ← (RemoteState.fetchMetadata p.limit).attempt
      match ← Program.ofExcept (GlobalMetadata.evaluateFetch fetched p.config.storageVersion) with
      | (.consistent, some m) => return .current m
      | (.needsFreshStart reason, _) => do
          Program.note (.metadataInconsistent reason)
          return .diverged reason
      | (.consistent, none) => return .diverged .unusableMetadata

/-- Resets synchronizers until one fails. -/
def resetForEpoch : List Synchronizer → Program Session Unit
  | [] => return ()
  | s :: rest => do
      match ← Program.request (.resetClient s) with
      | .ok () => resetForEpoch rest
      | .error e => do
          Program.note (.epochResetFailed s.name e)
          Program.fail e

/-- Resets keys and synchronizers if another client has begun a new epoch. -/
def observeEpoch (m : GlobalMetadata) : Program Session Unit := do
  let s ← Program.get
  if m.epochChanged s.book.localState then
    Program.note (.epochSeen m.syncId)
    updateReport fun r => { r with epochChanged := true }
    onKeyring Keyring.invalidate
    let s ← Program.get
    resetForEpoch s.synchronizers

def freshStart (p : Profile) (sealingKey : Key) (reason : FreshStartReason) :
    Program Session GlobalMetadata := do
  enter .freshStart
  updateReport fun r => { r with freshStart := some reason }
  Program.modify fun s => { s with freshStarts := s.freshStarts + 1 }
  Program.note (.freshStartBegun p.account reason)
  let s ← Program.get
  onBook (FreshStart.perform (.ofConfig p.config) sealingKey s.synchronizers)

/-- The time of the key bundle by the index, which says nothing once a fresh start has replaced
it. -/
def keysModified (index : CollectionIndex) (r : CycleReport) : Option Binary64 :=
  if r.performedFreshStart then none else index.modified? cryptoCollection

def bindKeys (index : CollectionIndex) (m : GlobalMetadata) : Program Session Unit := do
  let r ← report
  let _ ← onKeyring (Keyring.bind m.syncId (keysModified index r))

def refreshKeys (p : Profile) : Program Session Unit := onKeyring (Keyring.refresh p.keyAccess)

/-- Makes sure of the keys, by a fresh start if the bundle cannot be used and none has been made. -/
def secureKeys (p : Profile) (sealingKey : Key) (index : CollectionIndex) (m : GlobalMetadata) :
    Program Session GlobalMetadata := do
  enter .keyRefresh
  bindKeys index m
  match ← (refreshKeys p).attempt with
  | .ok () => return m
  | .error e => do
      let r ← report
      if e.isAbsentOrMalformed && !r.performedFreshStart then
        Program.note (.keysUnusable e)
        let m ← freshStart p sealingKey .unusableKeys
        enter .keyRefresh
        bindKeys index m
        refreshKeys p
        return m
      else Program.fail e

def checkKeys (p : Profile) : List String → Program Session Unit
  | [] => return ()
  | name :: rest => do
      let _ ← onKeyring (Keyring.keyFor p.keyAccess name)
      checkKeys p rest

/-- Hands a synchronizer its key and lets it work. -/
def delegateOne (p : Profile) (s : Synchronizer) : Program Session Outcome := do
  match ← (onKeyring (Keyring.keyFor p.keyAccess s.name)).attempt with
  | .ok key => do
      match ← Program.request (.synchronize s key) with
      | .ok () => return .synced
      | .error e => do
          Program.note (.synchronizerFailed s.name e)
          return .failed e.message
  | .error e => do
      Program.note (.synchronizerSkipped s.name e)
      return .skipped e.message

/-- Lets every synchronizer work in turn; the last of a name decides what is reported. -/
def delegate (p : Profile) : List Synchronizer → Program Session Unit
  | [] => return ()
  | s :: rest => do
      let outcome ← delegateOne p s
      updateReport fun r => { r with outcomes := r.outcomes.insert s.name outcome }
      delegate p rest

/-- Records the epoch. The index is worth remembering only if no fresh start has replaced it. -/
def commit (p : Profile) (index : CollectionIndex) (m : GlobalMetadata) : Program Session Unit := do
  let r ← report
  let now ← Program.request .clock
  let fingerprint := if r.performedFreshStart then none else some index.fingerprint
  let next : LocalState := ⟨some m.syncId, fingerprint, some now⟩
  StateFile.save p.config.statePath next
  Program.modify fun s => { s with book := { s.book with localState := next } }
  updateReport fun r => { r with syncId := some m.syncId }

/-- The metadata to go on with. -/
def settleEpoch (p : Profile) (sealingKey : Key) : Evaluated → Program Session GlobalMetadata
  | .current m => do
      observeEpoch m
      return m
  | .diverged reason => freshStart p sealingKey reason

def runCycle (p : Profile) : Program Session Unit := do
  enter .fetchingState
  let index ← RemoteState.fetchIndex p.limit
  checkpoint p
  enter .evaluating
  let evaluated ← evaluateRemote p index
  let sealingKey ← sealingKey p
  checkpoint p
  let m ← settleEpoch p sealingKey evaluated
  checkpoint p
  let m ← secureKeys p sealingKey index m
  checkKeys p p.config.collectionNames
  checkpoint p
  enter .delegating
  let s ← Program.get
  delegate p s.synchronizers
  commit p index m

/-- Ends the running cycle and returns its report. -/
def finish : Program Session CycleReport := do
  let r ← report
  Program.modify fun s => { s with cycle := none }
  return r

/-- Runs a cycle, unless one is running. -/
def sync (p : Profile) : Program Session CycleReport := do
  let s ← Program.get
  if s.isSyncing then
    Program.note (.cycleRefused p.account)
    Program.fail .cycleInFlight
  else
    Program.modify fun s => { s with cancelRequested := false, cycle := some .start }
    match ← (runCycle p).attempt with
    | .ok () => do
        enter .done
        let r ← finish
        Program.note (.cycleDone p.account r.performedFreshStart r.epochChanged)
        return r
    | .error e => do
        let r ← report
        enter .failed
        Program.note (.cycleFailed p.account r.state e)
        let _ ← finish
        Program.fail e

/-- Checks a configuration and begins a session with the state that was kept. -/
def begin (credentials : Credentials) (config : SyncConfig) : Program Unit (Profile × Session) := do
  Program.ofExcept config.validate
  let state ← StateFile.load config.statePath
  Program.note (.sessionOpened credentials.account config.collections.length)
  let access := KeyAccess.ofPassphrase credentials.account credentials.passphrase config.kdf
    config.remoteTimeout
  return (⟨credentials.account, config, access.sealingKey⟩, ofLocalState state)

end Session

end SealedSync
