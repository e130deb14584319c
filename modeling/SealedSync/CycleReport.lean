import SealedSync.Evaluation
import SealedSync.Synchronizer

/-!
# The report of a cycle
-/
namespace SealedSync

structure CycleReport where
  /-- The states entered, in order. -/
  states : List CycleState
  freshStart : Option FreshStartReason
  epochChanged : Bool
  syncId : Option String
  outcomes : NameMap Outcome
  deriving DecidableEq, Repr

namespace CycleReport

def start : CycleReport := ⟨[.start], none, false, none, .empty⟩

def performedFreshStart (r : CycleReport) : Bool := r.freshStart.isSome

/-- The state entered last. -/
def state (r : CycleReport) : CycleState := r.states.getLastD .start

def enter (r : CycleReport) (s : CycleState) : CycleReport := { r with states := r.states ++ [s] }

def toJson (r : CycleReport) : Json :=
  .fields [("states", .list (r.states.map CycleState.toJson)),
    ("fresh_start", Json.optional FreshStartReason.toJson r.freshStart),
    ("epoch_changed", .bool r.epochChanged), ("sync_id", Json.optional .text r.syncId),
    ("outcomes", .fields (r.outcomes.entries.map fun e => (e.1, e.2.toJson)))]

end CycleReport

end SealedSync
