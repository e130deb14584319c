import SealedSync.Json.Decode

/-!
# Synchronizers

A synchronizer owns one collection and does the work on it once keys can be trusted. Two of them may
carry the same name, so each is known by the place at which it was registered.
-/
namespace SealedSync

structure Synchronizer where
  name : String
  place : Nat
  deriving DecidableEq, Repr

/-- What became of a collection in a cycle. -/
inductive Outcome where
  | synced
  | failed (reason : String)
  | skipped (reason : String)
  deriving DecidableEq, Repr

namespace Outcome

def toJson : Outcome → Json
  | .synced => .fields [("status", .text "synced")]
  | .failed reason => .fields [("status", .text "failed"), ("detail", .text reason)]
  | .skipped reason => .fields [("status", .text "skipped"), ("detail", .text reason)]

end Outcome

end SealedSync
