import SealedSync.Config
import SealedSync.Keyring
import SealedSync.StateFile

/-!
# The fresh start

The server is wiped and given a new epoch: a key bundle with one new key, then the metadata record.
Only then is everything local reset. The steps are taken in order; a failure of the wipe is passed
on as it is, and any later failure names the step at which the fresh start broke off. Whatever
fails before the metadata is published leaves a server that asks for a fresh start again.
-/
namespace SealedSync

/-- What a fresh start publishes and where the state is kept. -/
structure FreshStartPlan where
  limit : Duration
  storageVersion : Nat
  collections : List CollectionConfig
  file : StateFile

def FreshStartPlan.ofConfig (c : SyncConfig) : FreshStartPlan :=
  ⟨c.remoteTimeout, c.storageVersion, c.collections, c.statePath⟩

/-- What a fresh start resets. -/
structure Bookkeeping where
  keyring : Keyring
  localState : LocalState

namespace Bookkeeping

variable {α : Type}

def onKeyring (program : Program Keyring α) : Program Bookkeeping α :=
  program.zoom (·.keyring) fun keyring book => { book with keyring }

end Bookkeeping

namespace FreshStart

variable {σ α : Type}

def generateId (draw : Draw) : Program σ String := do
  let bytes ← Program.request (.random draw)
  return Base64.encodeUrlSafe bytes.val

/-- One entry with an identifier of its own for each collection. -/
def generateEngines (engines : NameMap EngineMetadata) :
    List CollectionConfig → Program σ (NameMap EngineMetadata)
  | [] => return engines
  | c :: rest => do
      let syncId ← generateId .engineId
      generateEngines (engines.insert c.name ⟨c.version, syncId⟩) rest

def publish (limit : Duration) (operation collection : String) (record : RemoteRecord) :
    Program σ Unit := do
  let modified ← Program.remote limit operation (.store collection record)
  Program.note (.published collection record.id modified)

/-- Takes a step, naming it if it fails. -/
def step (s : RecoveryStep) (program : Program σ α) : Program σ α := do
  match ← program.attempt with
  | .ok a => return a
  | .error e => do
      Program.note (.stepFailed s e)
      Program.fail (.partialFailure s e.message)

def wipe (plan : FreshStartPlan) : Program σ Unit := do
  Program.note .wiping
  match ← (Program.remote plan.limit "server wipe" .wipe).attempt with
  | .ok () => return ()
  | .error e => do
      Program.note (.stepFailed .wipe e)
      Program.fail e

def generateBundle : Program σ KeyBundle := do
  let bytes ← Program.request (.random .collectionKey)
  Program.note .keyGenerated
  return .ofDefault ⟨bytes⟩

def publishKeys (plan : FreshStartPlan) (sealingKey : Key) (bundle : KeyBundle) :
    Program σ Unit := do
  let nonce ← Program.request (.random .nonce)
  step .publishKeys (publish plan.limit "key bundle publish" cryptoCollection
    (.ofPayload keysRecordId (bundle.toPayload sealingKey nonce)))

def publishMetadata (plan : FreshStartPlan) (m : GlobalMetadata) : Program σ Unit :=
  step .publishMetadata (publish plan.limit "metadata publish" metaCollection
    (.ofPayload globalRecordId m.toJson.render))

/-- Resets every synchronizer and returns what went wrong. -/
def resetAll : List Synchronizer → Program σ (List String)
  | [] => return []
  | s :: rest => do
      match ← Program.request (.resetClient s) with
      | .ok () => resetAll rest
      | .error e => do
          Program.note (.resetFailed s.name e)
          let failures ← resetAll rest
          return s!"{s.name}: {e.message}" :: failures

/-- Forgets everything local. All of it is tried, and what went wrong is told together. -/
def resetLocal (plan : FreshStartPlan) (synchronizers : List Synchronizer) :
    Program Bookkeeping Unit := do
  Bookkeeping.onKeyring Keyring.invalidate
  let failures ← resetAll synchronizers
  Program.modify fun book => { book with localState := .empty }
  let saved ← (StateFile.save plan.file .empty).attempt
  let failures ← match saved with
    | .ok () => pure failures
    | .error e => do
        Program.note (.resetNotSaved e)
        pure (failures ++ [e.message])
  if failures.isEmpty then return ()
  else Program.fail (.partialFailure .resetLocal (String.intercalate "; " failures))

/-- Takes all steps and returns the metadata that is then on the server. -/
def perform (plan : FreshStartPlan) (sealingKey : Key) (synchronizers : List Synchronizer) :
    Program Bookkeeping GlobalMetadata := do
  wipe plan
  let syncId ← generateId .epochId
  Program.note (.syncIdGenerated syncId)
  let bundle ← generateBundle
  publishKeys plan sealingKey bundle
  let engines ← generateEngines .empty plan.collections
  let m : GlobalMetadata := ⟨syncId, plan.storageVersion, engines⟩
  publishMetadata plan m
  resetLocal plan synchronizers
  Program.note (.freshStartComplete m.syncId)
  return m

end FreshStart

end SealedSync
