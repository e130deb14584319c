import SealedSync.Proofs.Cycle
import SealedSync.Proofs.RecordRoundTrip
import SealedSync.Simulation.Server

/-!
# Storage servers that are what they say

An index of collections and the records in them are all that a client can learn from a storage
server. An honest server answers reads from them and confirms a write only if it was carried out; a
write that it does not confirm was carried out as a whole or not at all. A faithful server is honest
and nothing that is asked of it fails. Collections other than those of the metadata and the keys may
change at any time.
-/
namespace SealedSync

namespace NameMap

variable {α : Type}

theorem lookup_cons (name other : String) (a : α) (entries : List (String × α)) :
    ((name, a) :: entries).lookup other = if other = name then some a else entries.lookup other := by
  by_cases same : other = name
  · simp [same]
  · have different : (other == name) = false := beq_false_of_ne same
    simp [List.lookup_cons, same, different]

theorem lookup_insertEntry (name other : String) (a : α) (entries : List (String × α)) :
    (insertEntry name a entries).lookup other =
      if other = name then some a else entries.lookup other := by
  induction entries with
  | nil => exact lookup_cons name other a []
  | cons head rest ih =>
      obtain ⟨first, b⟩ := head
      unfold insertEntry
      split
      · rw [lookup_cons]
      · split
        · rename_i equal
          rw [lookup_cons, lookup_cons, ← equal]
          split <;> rfl
        · rename_i different
          rw [lookup_cons, ih, lookup_cons]
          by_cases same : other = name
          · subst same
            simp [different]
          · simp [same]

theorem get?_insert (m : NameMap α) (name other : String) (a : α) :
    (m.insert name a).get? other = if other = name then some a else m.get? other :=
  lookup_insertEntry name other a m.entries

end NameMap

namespace CollectionIndex

theorem modified?_insert (index : CollectionIndex) (name other : String) (time : Binary64) :
    (index.insert name time).modified? other =
      if other = name then some time else index.modified? other :=
  index.entries.get?_insert name other time

theorem contains_eq (index : CollectionIndex) (name : String) :
    index.contains name = (index.modified? name).isSome := rfl

end CollectionIndex

/-- What a storage server holds. -/
structure Storage where
  index : CollectionIndex
  records : String → String → Option RemoteRecord

namespace Storage

def empty : Storage := ⟨.empty, fun _ _ => none⟩

/-- The storage after a record was put into a collection at a time. -/
def store (st : Storage) (collection : String) (record : RemoteRecord) (time : Binary64) :
    Storage where
  index := st.index.insert collection time
  records := fun c id =>
    if c = collection ∧ id = record.id then some { record with modified := time }
    else st.records c id

theorem records_store (st : Storage) (collection : String) (record : RemoteRecord)
    (time : Binary64) : (st.store collection record time).records collection record.id =
      some { record with modified := time } :=
  if_pos ⟨rfl, rfl⟩

/-- Both hold the same in a collection and list it with the same time. -/
def SameIn (collection : String) (st other : Storage) : Prop :=
  st.index.modified? collection = other.index.modified? collection ∧
    st.records collection = other.records collection

theorem SameIn.trans {name : String} {st other third : Storage} (first : SameIn name st other)
    (second : SameIn name other third) : SameIn name st third :=
  ⟨first.1.trans second.1, first.2.trans second.2⟩

/-- A collection is not touched by what is put into another. -/
theorem sameIn_store {name collection : String} (different : name ≠ collection) (st : Storage)
    (record : RemoteRecord) (time : Binary64) :
    SameIn name (st.store collection record time) st := by
  constructor
  · simp [store, CollectionIndex.modified?_insert, different]
  · funext id
    simp [store, different]

/-- Both hold the same metadata and the same keys. -/
structure SameBookkeeping (st other : Storage) : Prop where
  metadata : SameIn metaCollection st other
  keys : SameIn cryptoCollection st other

namespace SameBookkeeping

variable {st other third : Storage}

theorem refl (st : Storage) : SameBookkeeping st st := ⟨⟨rfl, rfl⟩, ⟨rfl, rfl⟩⟩

theorem symm (same : SameBookkeeping st other) : SameBookkeeping other st :=
  ⟨⟨same.metadata.1.symm, same.metadata.2.symm⟩, ⟨same.keys.1.symm, same.keys.2.symm⟩⟩

theorem trans (first : SameBookkeeping st other) (second : SameBookkeeping other third) :
    SameBookkeeping st third :=
  ⟨⟨first.metadata.1.trans second.metadata.1, first.metadata.2.trans second.metadata.2⟩,
    ⟨first.keys.1.trans second.keys.1, first.keys.2.trans second.keys.2⟩⟩

theorem store_in {name : String} (same : SameIn name st other) (collection : String)
    (record : RemoteRecord) (time : Binary64) :
    SameIn name (st.store collection record time) (other.store collection record time) := by
  constructor
  · simp only [Storage.store, CollectionIndex.modified?_insert, same.1]
  · funext id
    simp only [Storage.store, same.2]

/-- Storages that hold the same bookkeeping still do once the same record is put into both. -/
theorem store (same : SameBookkeeping st other) (collection : String) (record : RemoteRecord)
    (time : Binary64) :
    SameBookkeeping (st.store collection record time) (other.store collection record time) :=
  ⟨store_in same.metadata collection record time, store_in same.keys collection record time⟩

end SameBookkeeping

/-! ## What reads find -/

/-- The metadata that a fetch finds. -/
def metadata (st : Storage) : Except SyncError GlobalMetadata :=
  match st.records metaCollection globalRecordId with
  | some record => RemoteState.decodeMetadata record.payload
  | none => .error (.notFound s!"{metaCollection}/{globalRecordId}")

/-- The key bundle that a fetch finds with a key. -/
def bundle (st : Storage) (key : Key) : Except SyncError KeyBundle :=
  match st.records cryptoCollection keysRecordId with
  | some record => KeyBundle.ofPayload record.payload key
  | none => .error (.notFound s!"{cryptoCollection}/{keysRecordId}")

/-- The time at which the keys were last modified, by the index. -/
def keysTime (st : Storage) : Option Binary64 := st.index.modified? cryptoCollection

/-- What the index and the metadata come to. -/
def evaluated (st : Storage) (storageVersion : Nat) : Except SyncError Session.Evaluated :=
  match st.index.evaluate with
  | .needsFreshStart reason => .ok (.diverged reason)
  | .consistent => Session.evaluatedFrom st.metadata storageVersion

/-- The time of the keys, if there is one, is a number. -/
def Timed (st : Storage) : Prop := ∀ time, st.keysTime = some time → time.isNaN = false

section Same

variable {st other : Storage} (same : SameBookkeeping st other)

include same

theorem metadata_congr : st.metadata = other.metadata := by
  rw [metadata, metadata, same.metadata.2]

theorem bundle_congr (key : Key) : st.bundle key = other.bundle key := by
  rw [bundle, bundle, same.keys.2]

theorem keysTime_congr : st.keysTime = other.keysTime := same.keys.1

theorem contains_metadata_congr :
    st.index.contains metaCollection = other.index.contains metaCollection :=
  congrArg Option.isSome same.metadata.1

theorem contains_keys_congr :
    st.index.contains cryptoCollection = other.index.contains cryptoCollection :=
  congrArg Option.isSome same.keys.1

theorem lists_congr : st.index.ListsBookkeeping ↔ other.index.ListsBookkeeping := by
  rw [CollectionIndex.ListsBookkeeping, contains_metadata_congr same, contains_keys_congr same]
  exact Iff.rfl

theorem evaluate_congr : st.index.evaluate = other.index.evaluate := by
  rw [CollectionIndex.evaluate, contains_metadata_congr same, contains_keys_congr same]
  rfl

theorem evaluated_congr (storageVersion : Nat) :
    st.evaluated storageVersion = other.evaluated storageVersion := by
  rw [evaluated, evaluated, evaluate_congr same, metadata_congr same]

theorem timed_congr : st.Timed ↔ other.Timed := by
  rw [Timed, Timed, keysTime_congr same]

end Same

/-- Metadata that cannot be read are absent or malformed. -/
theorem metadata_error {st : Storage} {e : SyncError} (failed : st.metadata = .error e) :
    e.Unusable := by
  unfold metadata at failed
  split at failed
  · exact RemoteState.decodeMetadata_error failed
  · exact .inl ⟨_, (Except.error.inj failed).symm⟩

theorem bundle_error {st : Storage} {key : Key} {e : SyncError}
    (failed : st.bundle key = .error e) : e.Unusable ∨ e = .decryptFailed := by
  unfold bundle at failed
  split at failed
  · exact KeyBundle.ofPayload_error failed
  · exact .inl (.inl ⟨_, (Except.error.inj failed).symm⟩)

end Storage

/-! ## Honest and faithful servers -/

/-- The request changes what the server holds. -/
def Request.isWrite : Request → Bool
  | .remote _ (.store ..) => true
  | .remote _ .wipe => true
  | _ => false

theorem Request.isWrite_eq_false_of_not_isRemote {r : Request} (h : r.isRemote = false) :
    r.isWrite = false := by
  cases r with
  | remote limit call => cases h
  | _ => rfl

theorem Request.isWrite_eq_false_of_isFileWrite {r : Request} (h : r.isFileWrite = true) :
    r.isWrite = false :=
  isWrite_eq_false_of_not_isRemote (isRemote_eq_false_of_isFileWrite h)

theorem Request.isWrite_of_isWipe {r : Request} (h : r.isWipe = true) : r.isWrite = true := by
  cases r with
  | remote limit call => cases call <;> first | rfl | cases h
  | _ => cases h

namespace Oracle

variable {ω : Type}

/-- Reads find what the server holds. A write that is confirmed was carried out, and one that is not
was carried out or not. Nothing else changes the metadata or the keys. -/
structure Honest (oracle : Oracle ω) (content : ω → Storage) : Prop where
  index : ∀ limit w, oracle.reply (.remote limit .index) w = some (.ok (content w).index)
  fetch : ∀ limit collection id w, oracle.reply (.remote limit (.fetch collection id)) w =
    some (.ok ((content w).records collection id))
  store : ∀ limit collection record w,
    let next := content (oracle.next (.remote limit (.store collection record)) w)
    (∃ time, time.isNaN = false ∧ next.SameBookkeeping ((content w).store collection record time)) ∨
      (next.SameBookkeeping (content w) ∧
        ∀ time, oracle.reply (.remote limit (.store collection record)) w ≠ some (.ok time))
  wipe : ∀ limit w,
    let next := content (oracle.next (.remote limit .wipe) w)
    next.SameBookkeeping .empty ∨
      (next.SameBookkeeping (content w) ∧ oracle.reply (.remote limit .wipe) w ≠ some (.ok ()))
  others : ∀ r w, r.isWrite = false → (content (oracle.next r w)).SameBookkeeping (content w)

/-- An honest server on which every write succeeds, among synchronizers whose resets succeed and
files that can be written. -/
structure Faithful (oracle : Oracle ω) (content : ω → Storage) : Prop
    extends oracle.Honest content where
  stored : ∀ limit collection record w,
    ∃ time, oracle.reply (.remote limit (.store collection record)) w = some (.ok time)
  wiped : ∀ limit w, oracle.reply (.remote limit .wipe) w = some (.ok ())
  reset : ∀ c w, oracle.reply (.resetClient c) w = .ok ()
  written : ∀ path bytes w, oracle.reply (.writeFile path bytes) w = .ok ()
  renamed : ∀ source target w, oracle.reply (.renameFile source target) w = .ok ()

namespace Honest

open RemoteState

variable {oracle : Oracle ω} {content : ω → Storage} (honest : oracle.Honest content)

include honest

theorem indexFrom (limit : Duration) (w : ω) :
    RemoteState.indexFrom limit (oracle.reply (indexRequest limit) w) = .ok (content w).index := by
  rw [RemoteState.indexFrom, honest.index]
  rfl

theorem metadataFrom (limit : Duration) (w : ω) :
    RemoteState.metadataFrom limit (oracle.reply (metadataRequest limit) w) =
      (content w).metadata := by
  rw [RemoteState.metadataFrom, honest.fetch, Storage.metadata]
  cases (content w).records metaCollection globalRecordId <;> rfl

theorem bundleFrom (limit : Duration) (key : Key) (w : ω) :
    RemoteState.bundleFrom limit key (oracle.reply (bundleRequest limit) w) =
      (content w).bundle key := by
  rw [RemoteState.bundleFrom, honest.fetch, Storage.bundle]
  cases (content w).records cryptoCollection keysRecordId <;> rfl

/-- Requests that write nothing leave the bookkeeping as it is. -/
theorem quiet {σ : Type} {before : ω} {exchanges : List (Exchange σ)}
    (reads : ∀ x ∈ exchanges, x.request.isWrite = false) :
    (content (oracle.world before exchanges)).SameBookkeeping (content before) := by
  let same (w : ω) : Prop := (content w).SameBookkeeping (content before)
  have kept : ∀ x ∈ exchanges, ∀ w, same w → same (oracle.next x.request w) :=
    fun x member w holds => (honest.others x.request w (reads x member)).trans holds
  exact Oracle.world_preserves kept (Storage.SameBookkeeping.refl _)

end Honest

end Oracle

end SealedSync
