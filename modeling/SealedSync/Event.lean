import SealedSync.Evaluation

/-!
# Events

What is noted while a session runs, with the words and the level under which it appears in a log.
-/
namespace SealedSync

inductive Level where
  | debug
  | info
  | warn
  | error
  deriving DecidableEq, Repr

def Level.label : Level → String
  | .debug => "DEBUG"
  | .info => "INFO"
  | .warn => "WARN"
  | .error => "ERROR"

inductive Event where
  | sessionOpened (account : String) (collections : Nat)
  | registered (synchronizer : String)
  | cycleRefused (account : String)
  | entered (source target : CycleState)
  | cycleDone (account : String) (freshStart epochChanged : Bool)
  | cycleFailed (account : String) (state : CycleState) (error : SyncError)
  | cycleCancelled (account : String) (state : CycleState)
  | keysUnusable (error : SyncError)
  | indexInconsistent (reason : FreshStartReason)
  | metadataInconsistent (reason : FreshStartReason)
  | epochSeen (syncId : String)
  | epochResetFailed (synchronizer : String) (error : SyncError)
  | freshStartBegun (account : String) (reason : FreshStartReason)
  | synchronizerFailed (synchronizer : String) (error : SyncError)
  | synchronizerSkipped (synchronizer : String) (error : SyncError)
  | wiping
  | stepFailed (step : RecoveryStep) (error : SyncError)
  | syncIdGenerated (syncId : String)
  | keyGenerated
  | published (collection id : String) (modified : Binary64)
  | resetFailed (synchronizer : String) (error : SyncError)
  | resetNotSaved (error : SyncError)
  | freshStartComplete (syncId : String)
  | keysForgotten
  | bundleModified
  | epochRebound (syncId : String)
  | bundleLoaded (epoch : String)
  | indexListed (names : List String)
  | stateAbsent (path : String)
  | stateDiscarded (path : String) (error : DecodeError)
  deriving DecidableEq, Repr

namespace Event

def level : Event → Level
  | .sessionOpened .. | .cycleDone .. | .cycleCancelled .. | .indexInconsistent _
  | .metadataInconsistent _ | .epochSeen _ | .freshStartBegun .. | .wiping
  | .freshStartComplete _ | .bundleModified | .epochRebound _ => .info
  | .registered _ | .entered .. | .syncIdGenerated _ | .keyGenerated | .published ..
  | .keysForgotten | .bundleLoaded _ | .indexListed _ | .stateAbsent _ => .debug
  | .cycleRefused _ | .keysUnusable _ | .epochResetFailed .. | .synchronizerFailed ..
  | .synchronizerSkipped .. | .resetFailed .. | .resetNotSaved _ | .stateDiscarded .. => .warn
  | .stepFailed .. => .error
  | .cycleFailed _ _ error => if error.isRetryable then .warn else .error

def text : Event → String
  | .sessionOpened account collections =>
      s!"sync session opened for {account} ({collections} collections)"
  | .registered synchronizer => s!"registered synchronizer for {synchronizer}"
  | .cycleRefused account => s!"sync requested for {account} while a cycle is in flight"
  | .entered source target => s!"sync cycle: {source.label} -> {target.label}"
  | .cycleDone account freshStart epochChanged =>
      s!"sync cycle for {account} done (fresh start: {freshStart}, epoch changed: {epochChanged})"
  | .cycleFailed account state error =>
      s!"sync cycle for {account} failed in {state.label}: {error.message}"
  | .cycleCancelled account state => s!"sync cycle for {account} cancelled at {state.label}"
  | .keysUnusable error => s!"key bundle unusable ({error.message}), fresh start required"
  | .indexInconsistent reason => s!"collection index inconsistent: {reason.text}"
  | .metadataInconsistent reason => s!"global metadata inconsistent: {reason.text}"
  | .epochSeen syncId => s!"server sync epoch is {syncId}, resetting local collections"
  | .epochResetFailed synchronizer error =>
      s!"failed to reset {synchronizer} for new epoch: {error.message}"
  | .freshStartBegun account reason => s!"performing fresh start for {account}: {reason.text}"
  | .synchronizerFailed synchronizer error =>
      s!"synchronizer {synchronizer} failed: {error.message}"
  | .synchronizerSkipped synchronizer error =>
      s!"no key for {synchronizer}, skipping: {error.message}"
  | .wiping => "fresh start: wiping server storage"
  | .stepFailed step error => s!"fresh start step {step.text}: {error.message}"
  | .syncIdGenerated syncId => s!"fresh start: new sync identifier {syncId}"
  | .keyGenerated => "fresh start: generated new default key"
  | .published collection id modified => s!"published {collection}/{id} at {modified.twoPlaces}"
  | .resetFailed synchronizer error => s!"failed to reset {synchronizer}: {error.message}"
  | .resetNotSaved error => s!"failed to persist reset sync state: {error.message}"
  | .freshStartComplete syncId => s!"fresh start complete, sync epoch is now {syncId}"
  | .keysForgotten => "collection key cache invalidated"
  | .bundleModified => "key bundle modified on server, dropping cached collection keys"
  | .epochRebound syncId => s!"sync epoch changed to {syncId}, dropping cached collection keys"
  | .bundleLoaded epoch => s!"loaded key bundle for epoch {epoch}"
  | .indexListed names =>
      s!"collection index lists {names.length} collections: " ++ String.intercalate ", " names
  | .stateAbsent path => s!"no local sync state at {path}"
  | .stateDiscarded path error =>
      s!"discarding unreadable local sync state at {path}: {error.message}"

def line (event : Event) : String := event.level.label ++ " " ++ event.text

end Event

end SealedSync
