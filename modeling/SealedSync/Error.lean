import SealedSync.Crypto.Error
import SealedSync.CycleState
import SealedSync.Time.Duration

/-!
# Errors of synchronization

Some errors may clear by themselves before the next cycle. An absent record and a malformed one are
alike: neither can be trusted.
-/
namespace SealedSync

inductive SyncError where
  | unreachable (reason : String)
  | timeout (operation : String) (limit : Duration)
  | notFound (what : String)
  | malformed (reason : String)
  | decryptFailed
  | partialFailure (step : RecoveryStep) (reason : String)
  | notAvailable (reason : String)
  | clientOutdated (remoteVersion localVersion : Nat)
  | authFailed (reason : String)
  | cycleInFlight
  | cancelled (state : CycleState)
  | localState (reason : String)
  | config (reason : String)
  | serialization (error : DecodeError)
  | crypto (error : CryptoError)
  deriving DecidableEq, Repr

namespace SyncError

def message : SyncError → String
  | .unreachable reason => s!"storage server unreachable: {reason}"
  | .timeout operation limit => s!"{operation} timed out after {limit.text}"
  | .notFound what => s!"not found: {what}"
  | .malformed reason => s!"malformed remote record: {reason}"
  | .decryptFailed =>
      "key bundle could not be decrypted (wrong passphrase or corrupted bundle)"
  | .partialFailure step reason => s!"fresh start interrupted at step {step.text}: {reason}"
  | .notAvailable reason => s!"collection keys not available: {reason}"
  | .clientOutdated remoteVersion localVersion =>
      s!"server storage version {remoteVersion} is newer than supported version {localVersion}"
  | .authFailed reason => s!"authentication failed: {reason}"
  | .cycleInFlight => "a sync cycle is already in flight for this account"
  | .cancelled state => s!"sync cycle cancelled at {state.label}"
  | .localState reason => s!"local sync state error: {reason}"
  | .config reason => s!"invalid configuration: {reason}"
  | .serialization error => s!"serialization error: {error.message}"
  | .crypto error => s!"crypto error: {error.message}"

/-- The next cycle may not meet the error again. -/
def isRetryable : SyncError → Bool
  | .unreachable _ | .timeout .. | .partialFailure .. | .cycleInFlight => true
  | _ => false

def isAbsentOrMalformed : SyncError → Bool
  | .notFound _ | .malformed _ => true
  | _ => false

end SyncError

end SealedSync
