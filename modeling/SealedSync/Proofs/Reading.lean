import SealedSync.Proofs.Execution

/-!
# What reads come to

Each read of the server's bookkeeping is one request, and what it comes to is a function of the
reply. The same holds of the evaluation that index and metadata lead to.
-/
namespace SealedSync

variable {ω σ α : Type} {env : Environment ω σ} {before after : ω} {exchanges : List (Exchange σ)}
  {state : σ}

namespace SyncError

/-- What was asked for is not there, or it is there and cannot be understood. -/
def Unusable (e : SyncError) : Prop := (∃ what, e = .notFound what) ∨ ∃ what, e = .malformed what

theorem isAbsentOrMalformed_iff {e : SyncError} : e.isAbsentOrMalformed = true ↔ e.Unusable := by
  unfold Unusable
  cases e <;> simp [isAbsentOrMalformed]

instance : DecidablePred Unusable := fun _ => decidable_of_iff _ isAbsentOrMalformed_iff

end SyncError

namespace RemoteState

abbrev indexRequest (limit : Duration) : Request := .remote limit .index

abbrev metadataRequest (limit : Duration) : Request :=
  .remote limit (.fetch metaCollection globalRecordId)

abbrev bundleRequest (limit : Duration) : Request :=
  .remote limit (.fetch cryptoCollection keysRecordId)

theorem metadataRequest_ne_bundleRequest (limit : Duration) :
    metadataRequest limit ≠ bundleRequest limit := by
  simp [metaCollection, cryptoCollection]

def indexFrom (limit : Duration) (reply : (indexRequest limit).Reply) :
    Except SyncError CollectionIndex :=
  Program.outcome limit "collection index fetch" reply

/-- An absent record is an error of its own. -/
def recordFrom (limit : Duration) (operation collection id : String)
    (reply : Option (Except SyncError (Option RemoteRecord))) : Except SyncError RemoteRecord := do
  match ← Program.outcome limit operation reply with
  | some record => .ok record
  | none => .error (.notFound s!"{collection}/{id}")

def metadataFrom (limit : Duration) (reply : (metadataRequest limit).Reply) :
    Except SyncError GlobalMetadata := do
  let record ← recordFrom limit "global metadata fetch" metaCollection globalRecordId reply
  decodeMetadata record.payload

def bundleFrom (limit : Duration) (sealingKey : Key) (reply : (bundleRequest limit).Reply) :
    Except SyncError KeyBundle := do
  let record ← recordFrom limit "key bundle fetch" cryptoCollection keysRecordId reply
  KeyBundle.ofPayload record.payload sealingKey

theorem metadataFrom_record (limit : Duration) (record : RemoteRecord) :
    metadataFrom limit (some (.ok (some record))) = decodeMetadata record.payload := rfl

theorem bundleFrom_record (limit : Duration) (sealingKey : Key) (record : RemoteRecord) :
    bundleFrom limit sealingKey (some (.ok (some record))) =
      KeyBundle.ofPayload record.payload sealingKey := rfl

theorem fetchMetadata_eq (limit : Duration) :
    (fetchMetadata limit : Program σ GlobalMetadata) =
      Program.request (metadataRequest limit) >>= fun reply =>
        Program.ofExcept (metadataFrom limit reply) := by
  funext state
  refine congrArg (Run.waiting (metadataRequest limit) state) (funext fun reply => ?_)
  match reply with
  | some (.ok (some _)) => rfl
  | some (.ok none) => rfl
  | some (.error _) => rfl
  | none => rfl

theorem fetchBundle_eq (limit : Duration) (sealingKey : Key) :
    (fetchBundle limit sealingKey : Program σ KeyBundle) =
      Program.request (bundleRequest limit) >>= fun reply =>
        Program.ofExcept (bundleFrom limit sealingKey reply) := by
  funext state
  refine congrArg (Run.waiting (bundleRequest limit) state) (funext fun reply => ?_)
  match reply with
  | some (.ok (some _)) => rfl
  | some (.ok none) => rfl
  | some (.error _) => rfl
  | none => rfl

theorem fetchIndex_eq (limit : Duration) :
    (fetchIndex limit : Program σ CollectionIndex) =
      Program.request (indexRequest limit) >>= fun reply => do
        let index ← Program.ofExcept (indexFrom limit reply)
        Program.note (.indexListed index.names)
        return index := by
  rw [fetchIndex, Program.remote_eq]
  rfl

theorem takes_fetchIndex {limit : Duration} {ending : Ending σ CollectionIndex} :
    (fetchIndex limit).Takes env state before exchanges ending after ↔
      exchanges = [env.exchange (indexRequest limit) state before] ∧
        ending = .ofExcept (indexFrom limit (env.reply (indexRequest limit) before))
          (env.touch (indexRequest limit) before state) ∧
        after = env.next (indexRequest limit) before := by
  rw [fetchIndex_eq, ← Program.takes_call, Program.takes_request_bind, Program.takes_request_bind]
  cases indexFrom limit (env.reply (indexRequest limit) before) <;> exact Iff.rfl

end RemoteState

/-- The index lists the collections of the metadata and of the keys. -/
def CollectionIndex.ListsBookkeeping (index : CollectionIndex) : Prop :=
  index.contains metaCollection = true ∧ index.contains cryptoCollection = true

theorem CollectionIndex.evaluate_eq_consistent {index : CollectionIndex} :
    index.evaluate = .consistent ↔ index.ListsBookkeeping := by
  unfold evaluate ListsBookkeeping
  cases index.contains metaCollection <;> cases index.contains cryptoCollection <;> simp

namespace Session

open RemoteState

/-- What index and metadata come to, once the metadata have been asked for. -/
def evaluatedFrom (fetched : Except SyncError GlobalMetadata) (storageVersion : Nat) :
    Except SyncError Evaluated := do
  match ← GlobalMetadata.evaluateFetch fetched storageVersion with
  | (.consistent, some m) => .ok (.current m)
  | (.needsFreshStart reason, _) => .ok (.diverged reason)
  | (.consistent, none) => .ok (.diverged .unusableMetadata)

theorem evaluatedFrom_ok (m : GlobalMetadata) (storageVersion : Nat) :
    evaluatedFrom (.ok m) storageVersion =
      if m.storageVersion = storageVersion then .ok (.current m)
      else if m.storageVersion < storageVersion then
        .ok (.diverged (.outdatedStorage m.storageVersion))
      else .error (.clientOutdated m.storageVersion storageVersion) := by
  simp only [evaluatedFrom, GlobalMetadata.evaluateFetch, GlobalMetadata.evaluate]
  split
  · rfl
  · split <;> rfl

theorem evaluatedFrom_error (error : SyncError) (storageVersion : Nat) :
    evaluatedFrom (.error error) storageVersion =
      if error.isAbsentOrMalformed then .ok (.diverged .unusableMetadata) else .error error := by
  simp only [evaluatedFrom, GlobalMetadata.evaluateFetch]
  split <;> rfl

theorem evaluatedFrom_eq_current {fetched : Except SyncError GlobalMetadata} {storageVersion : Nat}
    {m : GlobalMetadata} :
    evaluatedFrom fetched storageVersion = .ok (.current m) ↔
      fetched = .ok m ∧ m.storageVersion = storageVersion := by
  cases fetched with
  | error error => rw [evaluatedFrom_error]; split <;> simp
  | ok found =>
      rw [evaluatedFrom_ok]
      by_cases same : found.storageVersion = storageVersion
      · rw [if_pos same]
        simp only [Except.ok.injEq, Evaluated.current.injEq]
        exact ⟨fun equal => ⟨equal, equal ▸ same⟩, And.left⟩
      · rw [if_neg same]
        constructor
        · split <;> simp
        · rintro ⟨⟨⟩, equal⟩
          exact absurd equal same

/-- The server is found to need a fresh start if its metadata cannot be used or are of an older
format. -/
theorem evaluatedFrom_eq_diverged {fetched : Except SyncError GlobalMetadata}
    {storageVersion : Nat} :
    (∃ reason, evaluatedFrom fetched storageVersion = .ok (.diverged reason)) ↔
      (∃ error, fetched = .error error ∧ error.Unusable) ∨
      (∃ m, fetched = .ok m ∧ m.storageVersion < storageVersion) := by
  cases fetched with
  | error error =>
      rw [evaluatedFrom_error]
      simp only [← SyncError.isAbsentOrMalformed_iff]
      split <;> simp [*]
  | ok found =>
      rw [evaluatedFrom_ok]
      split
      · simp [*]
      · split <;> simp [*]

theorem takes_evaluateRemote_diverged {p : Profile} {index : CollectionIndex}
    {reason : FreshStartReason} {s : Session} {env : Environment ω Session}
    {exchanges : List (Exchange Session)} {ending : Ending Session Evaluated}
    (diverged : index.evaluate = .needsFreshStart reason) :
    (evaluateRemote p index).Takes env s before exchanges ending after ↔
      exchanges = [] ∧ ending = .returned (.diverged reason) s ∧ after = before := by
  simp only [evaluateRemote, diverged, Program.takes_note_bind, Program.takes_pure]

theorem takes_evaluateRemote_consistent {p : Profile} {index : CollectionIndex} {s : Session}
    {env : Environment ω Session} {exchanges : List (Exchange Session)}
    {ending : Ending Session Evaluated} (consistent : index.evaluate = .consistent) :
    (evaluateRemote p index).Takes env s before exchanges ending after ↔
      exchanges = [env.exchange (metadataRequest p.limit) s before] ∧
        ending = .ofExcept (evaluatedFrom
            (metadataFrom p.limit (env.reply (metadataRequest p.limit) before))
            p.config.storageVersion)
          (env.touch (metadataRequest p.limit) before s) ∧
        after = env.next (metadataRequest p.limit) before := by
  simp only [evaluateRemote, consistent, fetchMetadata_eq]
  refine Program.takes_attempt_call (metadataFrom p.limit)
    (evaluatedFrom · p.config.storageVersion) fun fetched last world rest => ?_
  rw [← Program.takes_ofExcept]
  unfold evaluatedFrom
  rcases GlobalMetadata.evaluateFetch fetched p.config.storageVersion with
    error | ⟨_ | reason, _ | m⟩ <;> exact Iff.rfl

end Session

end SealedSync
