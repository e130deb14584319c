import SealedSync.Json.Decode

/-!
# States of a cycle and steps of a fresh start
-/
namespace SealedSync

/-- The states that a cycle enters, each at most twice. -/
inductive CycleState where
  | start
  | fetchingState
  | evaluating
  | freshStart
  | keyRefresh
  | delegating
  | done
  | failed
  deriving DecidableEq, Repr

namespace CycleState

/-- The name in messages. -/
def label : CycleState → String
  | .start => "START"
  | .fetchingState => "FETCHING_STATE"
  | .evaluating => "EVALUATING"
  | .freshStart => "FRESH_START"
  | .keyRefresh => "KEY_REFRESH"
  | .delegating => "DELEGATING"
  | .done => "DONE"
  | .failed => "FAILED"

/-- The name in JSON. -/
def name : CycleState → String
  | .start => "start"
  | .fetchingState => "fetching_state"
  | .evaluating => "evaluating"
  | .freshStart => "fresh_start"
  | .keyRefresh => "key_refresh"
  | .delegating => "delegating"
  | .done => "done"
  | .failed => "failed"

def all : List CycleState :=
  [.start, .fetchingState, .evaluating, .freshStart, .keyRefresh, .delegating, .done, .failed]

def toJson (s : CycleState) : Json := .text s.name

def decode : Decoder CycleState := Json.decodeVariant (all.map fun s => (s.name, s))

end CycleState

/-- The steps of a fresh start, in the order in which they are taken. -/
inductive RecoveryStep where
  | wipe
  | generateSyncId
  | generateKeys
  | publishKeys
  | publishMetadata
  | resetLocal
  deriving DecidableEq, Repr

namespace RecoveryStep

def number : RecoveryStep → Nat
  | .wipe => 1
  | .generateSyncId => 2
  | .generateKeys => 3
  | .publishKeys => 4
  | .publishMetadata => 5
  | .resetLocal => 6

def label : RecoveryStep → String
  | .wipe => "wipe server"
  | .generateSyncId => "generate sync identifier"
  | .generateKeys => "generate keys"
  | .publishKeys => "publish key bundle"
  | .publishMetadata => "publish metadata"
  | .resetLocal => "reset local state"

/-- The name in JSON. -/
def name : RecoveryStep → String
  | .wipe => "wipe"
  | .generateSyncId => "generate_sync_id"
  | .generateKeys => "generate_keys"
  | .publishKeys => "publish_keys"
  | .publishMetadata => "publish_metadata"
  | .resetLocal => "reset_local"

def all : List RecoveryStep :=
  [.wipe, .generateSyncId, .generateKeys, .publishKeys, .publishMetadata, .resetLocal]

def text (s : RecoveryStep) : String := s!"{s.number} ({s.label})"

def toJson (s : RecoveryStep) : Json := .text s.name

end RecoveryStep

end SealedSync
