import SealedSync.Proofs.Storage

/-!
# What a fresh start leaves behind

After the wipe the keys are published first and the metadata last. So a fresh start that breaks off
leaves a server without metadata, unless the metadata arrived although their arrival was not
confirmed; and if they arrived, the keys that belong to them are there as well.
-/
namespace SealedSync

variable {ω σ α β : Type}

namespace Program

theorem outcome_eq_ok {limit : Duration} {operation : String} {reply : Option (Except SyncError α)}
    {value : α} : outcome limit operation reply = .ok value ↔ reply = some (.ok value) := by
  match reply with
  | some (.ok _) => simp [outcome]
  | some (.error _) => simp [outcome]
  | none => simp [outcome]

end Program

/-- Some write is not confirmed. -/
def Oracle.Refuses (oracle : Oracle ω) : Prop :=
  (∃ limit collection record w, ∀ time,
    oracle.reply (.remote limit (.store collection record)) w ≠ some (.ok time)) ∨
  ∃ limit w, oracle.reply (.remote limit .wipe) w ≠ some (.ok ())

/-- The versions in a configuration have thirty-two bits. -/
structure SyncConfig.Fits (c : SyncConfig) : Prop where
  storageVersion : c.storageVersion < Nat.pow 2 32
  collections : ∀ collection ∈ c.collections, collection.version < Nat.pow 2 32

theorem SyncConfig.fits_ofCollections (names : List String) : (ofCollections names).Fits where
  storageVersion := (by decide : currentStorageVersion < Nat.pow 2 32)
  collections collection listed := by
    obtain ⟨name, -, rfl⟩ := List.mem_map.mp listed
    exact (by decide : 1 < Nat.pow 2 32)

namespace FreshStart

abbrev storeRequest (limit : Duration) (collection : String) (record : RemoteRecord) : Request :=
  .remote limit (.store collection record)

theorem step_publish_eq (s : RecoveryStep) (limit : Duration) (operation collection : String)
    (record : RemoteRecord) :
    (step s (publish limit operation collection record) : Program σ Unit) =
      (Program.request (storeRequest limit collection record) >>= fun reply =>
        match Program.outcome limit operation reply with
        | .ok modified => Program.note (.published collection record.id modified)
        | .error e => do
            Program.note (.stepFailed s e)
            Program.fail (.partialFailure s e.message)) := by
  funext state
  refine congrArg (Run.waiting (storeRequest limit collection record) state)
    (funext fun reply => ?_)
  match reply with
  | some (.ok _) => rfl
  | some (.error _) => rfl
  | none => rfl

section Takes

variable {env : Environment ω σ} {s : σ} {before after : ω} {exchanges : List (Exchange σ)}
  {ending : Ending σ α}

theorem takes_generateId_bind {draw : Draw} {next : String → Program σ α} :
    (generateId draw >>= next).Takes env s before exchanges ending after ↔
      ∃ rest, exchanges = env.exchange (.random draw) s before :: rest ∧
        (next (Base64.encodeUrlSafe (env.reply (.random draw) before).val)).Takes env
          (env.touch (.random draw) before s) (env.next (.random draw) before) rest ending
          after := by
  simp only [generateId, bind_assoc, pure_bind]
  exact Program.takes_request_bind

theorem takes_generateBundle_bind {next : KeyBundle → Program σ α} :
    (generateBundle >>= next).Takes env s before exchanges ending after ↔
      ∃ rest, exchanges = env.exchange (.random .collectionKey) s before :: rest ∧
        (next (.ofDefault ⟨env.reply (.random .collectionKey) before⟩)).Takes env
          (env.touch (.random .collectionKey) before s) (env.next (.random .collectionKey) before)
          rest ending after := by
  simp only [generateBundle, bind_assoc, pure_bind]
  exact Program.takes_request_bind

/-- A step of publication stores a record, and goes on only if that is confirmed. -/
theorem takes_publish_bind {r : RecoveryStep} {limit : Duration} {operation collection : String}
    {record : RemoteRecord} {next : Unit → Program σ α} :
    (step r (publish limit operation collection record) >>= next).Takes env s before exchanges
        ending after ↔
      ∃ rest, exchanges = env.exchange (storeRequest limit collection record) s before :: rest ∧
        let world := env.next (storeRequest limit collection record) before
        let s := env.touch (storeRequest limit collection record) before s
        match Program.outcome limit operation
          (env.reply (storeRequest limit collection record) before) with
        | .ok _ => (next ()).Takes env s world rest ending after
        | .error e => rest = [] ∧ ending = .failed (.partialFailure r e.message) s ∧
            after = world := by
  rw [step_publish_eq, bind_assoc, Program.takes_request_bind]
  cases Program.outcome limit operation
      (env.reply (storeRequest limit collection record) before) with
  | ok modified => exact Iff.rfl
  | error e =>
      refine exists_congr fun rest => and_congr Iff.rfl ?_
      show (Program.fail (.partialFailure r e.message) : Program σ α).Takes env _ _ _ _ _ ↔ _
      exact Program.takes_fail

/-- A new epoch begins with three draws: its identifier, its key, and the nonce to seal that with. -/
theorem takes_publishAnew {plan : FreshStartPlan} {key : Key} {ending : Ending σ GlobalMetadata} :
    (publishAnew plan key).Takes env s before exchanges ending after ↔
      let keying := env.next (.random .epochId) before
      let sealing := env.next (.random .collectionKey) keying
      let t := env.touch (.random .epochId) before s
      let u := env.touch (.random .collectionKey) keying t
      let bundle := KeyBundle.ofDefault ⟨env.reply (.random .collectionKey) keying⟩
      ∃ rest, exchanges = env.exchange (.random .epochId) s before ::
          env.exchange (.random .collectionKey) t keying ::
          env.exchange (.random .nonce) u sealing :: rest ∧
        (do
          step .publishKeys (publish plan.limit "key bundle publish" cryptoCollection
            (.ofPayload keysRecordId (bundle.toPayload key (env.reply (.random .nonce) sealing))))
          publishEngines plan
            (Base64.encodeUrlSafe (env.reply (.random .epochId) before).val)
          : Program σ GlobalMetadata).Takes env (env.touch (.random .nonce) sealing u)
            (env.next (.random .nonce) sealing) rest ending after := by
  unfold publishAnew
  rw [takes_generateId_bind]
  simp only [Program.takes_note_bind, takes_generateBundle_bind, publishKeys, bind_assoc]
  constructor
  · rintro ⟨_, rfl, _, rfl, taken⟩
    obtain ⟨rest, rfl, publishing⟩ := Program.takes_request_bind.mp taken
    exact ⟨rest, rfl, publishing⟩
  · rintro ⟨rest, rfl, publishing⟩
    exact ⟨_, rfl, _, rfl, Program.takes_request_bind.mpr ⟨rest, rfl, publishing⟩⟩

/-- Every engine carries the version of a collection. -/
theorem takes_generateEngines {collections : List CollectionConfig}
    {engines : NameMap EngineMetadata} {ending : Ending σ (NameMap EngineMetadata)}
    (taken : (generateEngines engines collections).Takes env s before exchanges ending after) :
    (∀ x ∈ exchanges, x.request = .random .engineId) ∧
      ∃ generated last, ending = .returned generated last ∧
        (∀ e ∈ generated.entries, e ∈ engines.entries ∨ ∃ c ∈ collections, e.2.version = c.version) ∧
        ((∀ r w t, env.touch r w t = t) → last = s) := by
  induction collections generalizing engines s before exchanges with
  | nil =>
      obtain ⟨rfl, rfl, rfl⟩ := Program.takes_pure.mp taken
      exact ⟨by simp, engines, s, rfl, fun e member => .inl member, fun _ => rfl⟩
  | cons c rest ih =>
      obtain ⟨tail, rfl, continued⟩ := takes_generateId_bind.mp taken
      obtain ⟨draws, generated, last, rfl, versions, untouched⟩ := ih continued
      refine ⟨?_, generated, last, rfl, fun e member => ?_, fun alone => ?_⟩
      · intro x member
        rcases List.mem_cons.mp member with rfl | member
        · rfl
        · exact draws x member
      · rcases versions e member with found | ⟨c', listed, same⟩
        · rcases NameMap.mem_insertEntry found with rfl | found
          · exact .inr ⟨c, List.mem_cons_self, rfl⟩
          · exact .inl found
        · exact .inr ⟨c', List.mem_cons_of_mem _ listed, same⟩
      · rw [untouched alone, alone]

end Takes

end FreshStart

/-- The server has metadata of the current format, and keys that open. -/
structure Storage.Sound (st : Storage) (storageVersion : Nat) (key : Key) (m : GlobalMetadata) :
    Prop where
  listed : st.index.ListsBookkeeping
  metadata : st.metadata = .ok m
  current : m.storageVersion = storageVersion
  keys : ∃ b, st.bundle key = .ok b
  timed : st.Timed

theorem Storage.Sound.congr {st other : Storage} {storageVersion : Nat} {key : Key}
    {m : GlobalMetadata} (sound : other.Sound storageVersion key m)
    (same : st.SameBookkeeping other) : st.Sound storageVersion key m where
  listed := (Storage.lists_congr same).mpr sound.listed
  metadata := (Storage.metadata_congr same).trans sound.metadata
  current := sound.current
  keys := by
    rw [Storage.bundle_congr same]
    exact sound.keys
  timed := (Storage.timed_congr same).mpr sound.timed

/-- The exchange draws an identifier for a new epoch. -/
def Exchange.DrawsEpoch (x : Exchange σ) (syncId : String) : Prop :=
  ∃ asked bytes resumed, x = ⟨.random .epochId, asked, bytes, resumed⟩ ∧
    syncId = Base64.encodeUrlSafe bytes.val

/-- A metadata record that was to be stored is on the server. -/
def MetadataReached (exchanges : List (Exchange σ)) (st : Storage) : Prop :=
  ∃ limit record held,
    (∃ x ∈ exchanges, x.request = .remote limit (.store metaCollection record)) ∧
    st.records metaCollection record.id = some held ∧ held.payload = record.payload

theorem MetadataReached.mono {first second : List (Exchange σ)} {st : Storage}
    (contained : first ⊆ second) (reached : MetadataReached first st) :
    MetadataReached second st := by
  obtain ⟨limit, record, held, ⟨x, member, request⟩, found⟩ := reached
  exact ⟨limit, record, held, ⟨x, contained member, request⟩, found⟩

theorem MetadataReached.congr {exchanges : List (Exchange σ)} {st other : Storage}
    (same : Storage.SameIn metaCollection other st) :
    MetadataReached exchanges other ↔ MetadataReached exchanges st := by
  unfold MetadataReached
  rw [same.2]

theorem MetadataReached.map {τ : Type} {exchanges : List (Exchange σ)} {st : Storage} {f : σ → τ}
    (reached : MetadataReached exchanges st) : MetadataReached (exchanges.map (·.map f)) st := by
  obtain ⟨limit, record, held, ⟨x, member, request⟩, found⟩ := reached
  exact ⟨limit, record, held, ⟨x.map f, List.mem_map_of_mem member, request⟩, found⟩

theorem Exchange.DrawsEpoch.map {τ : Type} {x : Exchange σ} {syncId : String} {f : σ → τ}
    (drawn : x.DrawsEpoch syncId) : (x.map f).DrawsEpoch syncId := by
  obtain ⟨asked, bytes, resumed, rfl, named⟩ := drawn
  exact ⟨_, bytes, _, rfl, named⟩

namespace FreshStart

/-- Keys and metadata that were stored one after the other on an empty server are sound. -/
theorem sound_of_stored {m : GlobalMetadata} (fits : m.Fits) (bundle : KeyBundle) (key : Key)
    (nonce : Nonce) {first last : Binary64} (timed : first.isNaN = false) :
    ((Storage.empty.store cryptoCollection
        (.ofPayload keysRecordId (bundle.toPayload key nonce)) first).store metaCollection
        (.ofPayload globalRecordId m.toJson.render) last).Sound m.storageVersion key m where
  listed := by
    simp [CollectionIndex.ListsBookkeeping, CollectionIndex.contains_eq, Storage.store,
      CollectionIndex.modified?_insert, metaCollection, cryptoCollection]
  metadata := by
    show RemoteState.decodeMetadata m.toJson.render = .ok m
    exact RemoteState.decodeMetadata_render fits
  current := rfl
  keys := by
    refine ⟨bundle, ?_⟩
    show KeyBundle.ofPayload (bundle.toPayload key nonce) key = .ok bundle
    exact KeyBundle.ofPayload_toPayload bundle key nonce
  timed := by
    intro time found
    have same : some first = some time := found
    exact Option.some.inj same ▸ timed

/-- How the publication of a new epoch ends: the metadata have arrived, and this is confirmed or
not, or they have not arrived. -/
inductive Publication (oracle : Oracle ω) (c : SyncConfig) (key : Key) (syncId : String) (s : σ)
    (st : Storage) (exchanges : List (Exchange σ)) : Ending σ GlobalMetadata → Prop where
  | confirmed (m : GlobalMetadata) (named : m.syncId = syncId)
      (sound : st.Sound c.storageVersion key m) (reached : MetadataReached exchanges st) :
      Publication oracle c key syncId s st exchanges (.returned m s)
  | unconfirmed (m : GlobalMetadata) (e : SyncError) (named : m.syncId = syncId)
      (sound : st.Sound c.storageVersion key m) (reached : MetadataReached exchanges st)
      (refused : oracle.Refuses) : Publication oracle c key syncId s st exchanges (.failed e s)
  | missing (e : SyncError) (absent : Storage.SameIn metaCollection st .empty)
      (refused : oracle.Refuses) : Publication oracle c key syncId s st exchanges (.failed e s)

theorem refuses_of_store {oracle : Oracle ω} {limit : Duration} {operation collection : String}
    {record : RemoteRecord} {w : ω} {e : SyncError}
    (failed : Program.outcome limit operation
      (oracle.reply (storeRequest limit collection record) w) = .error e) : oracle.Refuses := by
  refine .inl ⟨limit, collection, record, w, fun time confirmed => ?_⟩
  rw [Program.outcome_eq_ok.mpr confirmed] at failed
  cases failed

theorem refuses_of_wipe {oracle : Oracle ω} {limit : Duration} {operation : String} {w : ω}
    {e : SyncError} (failed : Program.outcome limit operation
      (oracle.reply (wipeRequest limit) w) = .error e) : oracle.Refuses := by
  refine .inr ⟨limit, w, fun confirmed => ?_⟩
  rw [Program.outcome_eq_ok.mpr confirmed] at failed
  cases failed

theorem Publication.append {oracle : Oracle ω} {c : SyncConfig} {key : Key} {syncId : String}
    {s : σ} {st : Storage} (first : List (Exchange σ)) {second : List (Exchange σ)}
    {ending : Ending σ GlobalMetadata} (published : Publication oracle c key syncId s st second ending) :
    Publication oracle c key syncId s st (first ++ second) ending := by
  have contained : second ⊆ first ++ second := List.subset_append_right ..
  cases published with
  | confirmed m named sound reached =>
      exact .confirmed m named sound (MetadataReached.mono contained reached)
  | unconfirmed m e named sound reached refused =>
      exact .unconfirmed m e named sound (MetadataReached.mono contained reached) refused
  | missing e absent refused => exact .missing e absent refused

section Publish

variable {oracle : Oracle ω} {content : ω → Storage} (honest : oracle.Honest content)
  {c : SyncConfig} (fits : c.Fits) {key : Key} {s : σ} {before after : ω}
  {exchanges : List (Exchange σ)} {ending : Ending σ GlobalMetadata}

/-- The last step of the publication. -/
theorem takes_publishMetadata {m : GlobalMetadata}
    (taken : (do
      publishMetadata (.ofConfig c) m
      return m : Program σ GlobalMetadata).Takes oracle.alone s before exchanges ending after) :
    let request := storeRequest c.remoteTimeout metaCollection
      (.ofPayload globalRecordId m.toJson.render)
    exchanges = [oracle.alone.exchange request s before] ∧ after = oracle.next request before ∧
      ((ending = .returned m s ∧ ∃ time, oracle.reply request before = some (.ok time)) ∨
        ∃ e, ending = .failed e s ∧ oracle.Refuses) := by
  obtain ⟨rest, rfl, published⟩ := takes_publish_bind.mp taken
  simp only [Oracle.toOracle_alone, Oracle.touch_alone] at published
  split at published
  · rename_i time confirmed
    obtain ⟨rfl, rfl, rfl⟩ := Program.takes_pure.mp published
    exact ⟨rfl, rfl, .inl ⟨rfl, time, Program.outcome_eq_ok.mp confirmed⟩⟩
  · rename_i e failed
    obtain ⟨rfl, rfl, rfl⟩ := published
    exact ⟨rfl, rfl, .inr ⟨_, rfl, refuses_of_store failed⟩⟩

include honest fits

/-- With the keys on the server, the metadata make it sound, or they are not there. -/
theorem publishMetadata_honest {syncId : String} {bundle : KeyBundle} {nonce : Nonce}
    {first : Binary64} (timed : first.isNaN = false)
    (stored : (content before).SameBookkeeping (Storage.empty.store cryptoCollection
      (.ofPayload keysRecordId (bundle.toPayload key nonce)) first))
    (taken : (publishEngines (.ofConfig c) syncId).Takes oracle.alone s before exchanges ending after) :
    Publication oracle c key syncId s (content after) exchanges ending := by
  obtain ⟨inner, middle, draws, tail, generating, rfl, publishing⟩ := taken.split
  obtain ⟨drawn, engines, _, rfl, versions, untouched⟩ := takes_generateEngines generating
  obtain rfl := (untouched fun _ _ _ => rfl).symm
  have quiet : (content middle).SameBookkeeping (content before) := by
    rw [generating.world_eq]
    exact honest.quiet fun x member => by rw [drawn x member]; rfl
  let m : GlobalMetadata := ⟨syncId, c.storageVersion, engines⟩
  have fit : m.Fits := by
    refine ⟨fits.storageVersion, fun e member => ?_⟩
    rcases versions e member with impossible | ⟨collection, listed, same⟩
    · cases impossible
    · exact same ▸ fits.collections collection listed
  obtain ⟨rfl, rfl, ended⟩ := takes_publishMetadata publishing
  let record : RemoteRecord := .ofPayload globalRecordId m.toJson.render
  rcases honest.store c.remoteTimeout metaCollection record middle with
    ⟨time, -, arrived⟩ | ⟨same, unconfirmed⟩
  · have held := arrived.trans ((quiet.trans stored).store metaCollection _ time)
    have sound := (sound_of_stored fit bundle key nonce timed).congr held
    have found : (content (oracle.next (storeRequest c.remoteTimeout metaCollection record)
        middle)).records metaCollection globalRecordId = some { record with modified := time } := by
      rw [held.metadata.2]
      exact Storage.records_store ..
    refine .append draws ?_
    have reached : MetadataReached [oracle.alone.exchange
          (storeRequest c.remoteTimeout metaCollection record) s middle]
        (content (oracle.next (storeRequest c.remoteTimeout metaCollection record) middle)) :=
      ⟨c.remoteTimeout, record, _, ⟨_, List.mem_cons_self, rfl⟩, found, rfl⟩
    rcases ended with ⟨rfl, -⟩ | ⟨e, rfl, refused⟩
    · exact .confirmed m rfl sound reached
    · exact .unconfirmed m e rfl sound reached refused
  · rcases ended with ⟨-, time, confirmed⟩ | ⟨e, rfl, refused⟩
    · exact absurd confirmed (unconfirmed time)
    · have kept := (same.trans (quiet.trans stored)).metadata
      exact .missing e (kept.trans (Storage.sameIn_store (by decide) _ _ _)) refused

/-- On an empty server the keys are stored first. -/
theorem publishKeys_honest {syncId : String} {bundle : KeyBundle} {nonce : Nonce}
    (blank : (content before).SameBookkeeping .empty)
    (taken : (do
      step .publishKeys (publish c.remoteTimeout "key bundle publish" cryptoCollection
        (.ofPayload keysRecordId (bundle.toPayload key nonce)))
      publishEngines (.ofConfig c) syncId : Program σ GlobalMetadata).Takes oracle.alone s before exchanges ending after) :
    Publication oracle c key syncId s (content after) exchanges ending := by
  obtain ⟨rest, rfl, publishing⟩ := takes_publish_bind.mp taken
  simp only [Oracle.toOracle_alone, Oracle.touch_alone] at publishing
  let record : RemoteRecord := .ofPayload keysRecordId (bundle.toPayload key nonce)
  have carriedOut := honest.store c.remoteTimeout cryptoCollection record before
  split at publishing
  · rename_i confirmed
    have confirmed := Program.outcome_eq_ok.mp confirmed
    rcases carriedOut with ⟨time, timed, arrived⟩ | ⟨-, unconfirmed⟩
    · have stored := arrived.trans (blank.store cryptoCollection record time)
      exact (publishMetadata_honest honest fits timed stored publishing).append [_]
    · exact absurd confirmed (unconfirmed _)
  · rename_i failed
    obtain ⟨rfl, rfl, rfl⟩ := publishing
    refine .missing _ ?_ (refuses_of_store failed)
    rcases carriedOut with ⟨time, -, arrived⟩ | ⟨same, -⟩
    · exact (arrived.trans (blank.store cryptoCollection record time)).metadata.trans
        (Storage.sameIn_store (by decide) _ _ _)
    · exact (same.trans blank).metadata

/-- On an empty server a new epoch is published with a new identifier. -/
theorem publishAnew_honest (wiped : (content before).SameBookkeeping .empty)
    (taken : (publishAnew (.ofConfig c) key).Takes oracle.alone s before exchanges ending after) :
    ∃ syncId, (∃ x ∈ exchanges, x.DrawsEpoch syncId) ∧
      Publication oracle c key syncId s (content after) exchanges ending := by
  obtain ⟨_, rfl, publishing⟩ := takes_publishAnew.mp taken
  simp only [Oracle.toOracle_alone, Oracle.touch_alone] at publishing
  have blank := (honest.others (.random .nonce) _ rfl).trans
    ((honest.others (.random .collectionKey) _ rfl).trans
      ((honest.others (.random .epochId) before rfl).trans wiped))
  refine ⟨_, ⟨_, List.mem_cons_self, _, _, _, rfl, rfl⟩, ?_⟩
  exact (publishKeys_honest honest fits blank publishing).append [_, _, _]

end Publish

end FreshStart

/-! ## What is reset locally -/

namespace Oracle

/-- Synchronizers can be reset and files can be written. -/
structure Obliging (oracle : Oracle ω) : Prop where
  reset : ∀ c w, oracle.reply (.resetClient c) w = .ok ()
  written : ∀ path bytes w, oracle.reply (.writeFile path bytes) w = .ok ()
  renamed : ∀ source target w, oracle.reply (.renameFile source target) w = .ok ()

theorem Faithful.confirms {oracle : Oracle ω} {content : ω → Storage}
    (faithful : oracle.Faithful content) : ¬oracle.Refuses := by
  rintro (⟨limit, collection, record, w, refused⟩ | ⟨limit, w, refused⟩)
  · obtain ⟨time, confirmed⟩ := faithful.stored limit collection record w
    exact refused time confirmed
  · exact refused (faithful.wiped limit w)

theorem Faithful.obliging {oracle : Oracle ω} {content : ω → Storage}
    (faithful : oracle.Faithful content) : oracle.Obliging :=
  ⟨faithful.reset, faithful.written, faithful.renamed⟩

end Oracle

section Resets

variable {oracle : Oracle ω} {s : σ} {before after : ω} {exchanges : List (Exchange σ)}

theorem StateFile.takes_save {file : StateFile} {state : LocalState} {ending : Ending σ Unit}
    (taken : (save file state).Takes oracle.alone s before exchanges ending after) :
    (∀ x ∈ exchanges, x.request.isFileWrite = true) ∧
      ∃ result, ending = .ofExcept result s ∧ (oracle.Obliging → result = .ok ()) := by
  cases file with
  | none =>
      obtain ⟨rfl, rfl, -⟩ := Program.takes_pure.mp taken
      exact ⟨by simp, .ok (), rfl, fun _ => rfl⟩
  | some path =>
      obtain ⟨rest, rfl, writing⟩ := Program.takes_request_bind.mp taken
      simp only [Oracle.toOracle_alone, Oracle.touch_alone] at writing
      split at writing
      · rename_i fault failed
        obtain ⟨rfl, rfl, -⟩ := Program.takes_fail.mp writing
        refine ⟨by simp [Environment.exchange, Request.isFileWrite], .error _, rfl, fun obliging => ?_⟩
        cases (obliging.written _ _ _).symm.trans failed
      · obtain ⟨rest, rfl, replacing⟩ := Program.takes_request_bind.mp writing
        simp only [Oracle.toOracle_alone, Oracle.touch_alone] at replacing
        split at replacing
        · rename_i fault failed
          obtain ⟨rfl, rfl, -⟩ := Program.takes_fail.mp replacing
          refine ⟨by simp [Environment.exchange, Request.isFileWrite], .error _, rfl,
            fun obliging => ?_⟩
          cases (obliging.renamed _ _ _).symm.trans failed
        · obtain ⟨rfl, rfl, -⟩ := Program.takes_pure.mp replacing
          exact ⟨by simp [Environment.exchange, Request.isFileWrite], .ok (), rfl, fun _ => rfl⟩

/-- The failure of a reset, if the exchange is one that failed. -/
def Exchange.resetFailure : Exchange σ → Option String
  | ⟨.resetClient c, _, .error e, _⟩ => some s!"{c.name}: {e.message}"
  | _ => none

namespace FreshStart

/-- Every synchronizer is reset, whatever becomes of the others, and what failed is returned. -/
theorem takes_resetAll {synchronizers : List Synchronizer} {ending : Ending σ (List String)}
    (taken : (resetAll synchronizers).Takes oracle.alone s before exchanges ending after) :
    exchanges.map (·.request) = synchronizers.map .resetClient ∧ (∀ x ∈ exchanges, x.asked = s) ∧
      ending = .returned (exchanges.filterMap (·.resetFailure)) s ∧
      (oracle.Obliging → exchanges.filterMap (·.resetFailure) = []) := by
  induction synchronizers generalizing before exchanges ending after with
  | nil =>
      obtain ⟨rfl, rfl, -⟩ := Program.takes_pure.mp taken
      exact ⟨rfl, by simp, rfl, fun _ => rfl⟩
  | cons c rest ih =>
      obtain ⟨tail, rfl, resetting⟩ := Program.takes_request_bind.mp taken
      simp only [Oracle.toOracle_alone, Oracle.touch_alone] at resetting
      have exchanged : oracle.alone.exchange (.resetClient c) s before =
          ⟨.resetClient c, s, oracle.reply (.resetClient c) before, s⟩ := rfl
      rw [exchanged]
      split at resetting
      · rename_i replied
        obtain ⟨requests, asked, rfl, none⟩ := ih resetting
        rw [replied]
        exact ⟨congrArg (_ :: ·) requests, List.forall_mem_cons.mpr ⟨rfl, asked⟩, rfl, none⟩
      · rename_i e replied
        rw [Program.takes_note_bind] at resetting
        obtain ⟨inner, middle, head, tail, resets, rfl, told⟩ := resetting.split
        obtain ⟨requests, asked, rfl, -⟩ := ih resets
        obtain ⟨rfl, rfl, -⟩ := Program.takes_pure.mp told
        rw [List.append_nil, replied]
        refine ⟨congrArg (_ :: ·) requests, List.forall_mem_cons.mpr ⟨rfl, asked⟩, rfl, ?_⟩
        intro obliging
        cases (obliging.reset _ _).symm.trans replied

/-- What a reset comes to that met with some failures. -/
def concluded (failures : List String) : Except SyncError Unit :=
  if failures.isEmpty then .ok ()
  else .error (.partialFailure .resetLocal (String.intercalate "; " failures))

theorem takes_told {failures : List String} {ending : Ending σ Unit} :
    (if failures.isEmpty then return ()
      else Program.fail (.partialFailure .resetLocal (String.intercalate "; " failures)) :
        Program σ Unit).Takes oracle.alone s before exchanges ending after ↔
      exchanges = [] ∧ ending = .ofExcept (concluded failures) s ∧ after = before := by
  unfold concluded
  cases failures with
  | nil => exact Program.takes_pure
  | cons failure rest => exact Program.takes_fail

/-- What a save adds to the failures of the resets before it. -/
def saveFailures : Except SyncError Unit → List String
  | .ok _ => []
  | .error e => [e.message]

/-- Everything local is forgotten, even if a part of it cannot be reset, and what failed is told
together. -/
theorem takes_resetLocal {plan : FreshStartPlan} {synchronizers : List Synchronizer}
    {book : Bookkeeping} {exchanges : List (Exchange Bookkeeping)}
    {ending : Ending Bookkeeping Unit}
    (taken : (resetLocal plan synchronizers).Takes oracle.alone book before exchanges ending after) :
    ∃ resets saves saved, exchanges = resets ++ saves ∧
      resets.map (·.request) = synchronizers.map .resetClient ∧
      (∀ x ∈ resets, x.asked = { book with keyring := .empty }) ∧
      (StateFile.save plan.file .empty : Program Bookkeeping Unit).Takes oracle.alone ⟨.empty, .empty⟩
        (oracle.world before resets) saves (.ofExcept saved ⟨.empty, .empty⟩) after ∧
      let failures := resets.filterMap (·.resetFailure) ++ saveFailures saved
      ending = .ofExcept (concluded failures) ⟨.empty, .empty⟩ ∧
        (oracle.Obliging → failures = []) := by
  unfold resetLocal at taken
  obtain ⟨_, _, _, _, invalidated, rfl, forgotten⟩ := taken.split
  have invalidated : (Run.returned () { book with keyring := .empty }).Takes oracle.alone before _ _
    _ := invalidated
  obtain ⟨rfl, rfl, rfl⟩ := Run.takes_returned.mp invalidated
  obtain ⟨inner, middle, resets, saves, resetting, rfl, saving⟩ := Program.Takes.split forgotten
  obtain ⟨requests, asked, rfl, succeeded⟩ := takes_resetAll resetting
  obtain rfl := resetting.world_eq
  have saving := Program.takes_modify_bind.mp saving
  obtain ⟨inner, last, saves, told, saved, telling, rfl⟩ := Program.takes_attempt_bind.mp saving
  obtain ⟨-, result, rfl, written⟩ := StateFile.takes_save saved
  rw [Ending.result_ofExcept, Ending.state_ofExcept] at telling
  refine ⟨resets, saves, result, ?_⟩
  cases result with
  | ok _ =>
      obtain ⟨rfl, rfl, rfl⟩ := takes_told.mp telling
      rw [saveFailures, List.append_nil, List.append_nil, List.nil_append]
      exact ⟨rfl, requests, asked, saved, rfl, succeeded⟩
  | error e =>
      obtain ⟨rfl, rfl, rfl⟩ := takes_told.mp (Program.takes_note_bind.mp telling)
      rw [List.append_nil, List.nil_append]
      refine ⟨rfl, requests, asked, saved, rfl, fun obliging => ?_⟩
      cases written obliging

end FreshStart

end Resets

/-! ## The fresh start as a whole -/

section Whole

variable {oracle : Oracle ω} {content : ω → Storage} (honest : oracle.Honest content)
  {before after : ω}

namespace FreshStart

/-- How a fresh start goes on after the wipe: a new epoch is published or not, and once this is
confirmed everything local is forgotten. -/
inductive Republication (oracle : Oracle ω) (c : SyncConfig) (key : Key)
    (synchronizers : List Synchronizer) (book : Bookkeeping) (st : Storage)
    (exchanges : List (Exchange Bookkeeping)) : Ending Bookkeeping GlobalMetadata → Prop where
  | missing (e : SyncError) (absent : Storage.SameIn metaCollection st .empty)
      (refused : oracle.Refuses) :
      Republication oracle c key synchronizers book st exchanges (.failed e book)
  | unconfirmed (m : GlobalMetadata) (e : SyncError) (sound : st.Sound c.storageVersion key m)
      (drawn : ∃ x ∈ exchanges, x.DrawsEpoch m.syncId) (reached : MetadataReached exchanges st)
      (refused : oracle.Refuses) :
      Republication oracle c key synchronizers book st exchanges (.failed e book)
  | confirmed (m : GlobalMetadata) (result : Except SyncError GlobalMetadata)
      (sound : st.Sound c.storageVersion key m)
      (drawn : ∃ x ∈ exchanges, x.DrawsEpoch m.syncId) (reached : MetadataReached exchanges st)
      (resets : ∀ c ∈ synchronizers, ∃ x ∈ exchanges, x.request = .resetClient c)
      (returned : oracle.Obliging → result = .ok m) :
      Republication oracle c key synchronizers book st exchanges
        (.ofExcept result ⟨.empty, .empty⟩)

include honest

/-- What is reset locally leaves the server as it is, and every synchronizer is asked. -/
theorem resetLocal_honest {plan : FreshStartPlan} {synchronizers : List Synchronizer}
    {book : Bookkeeping} {exchanges : List (Exchange Bookkeeping)} {ending : Ending Bookkeeping Unit}
    (taken : (resetLocal plan synchronizers).Takes oracle.alone book before exchanges ending after) :
    (content after).SameBookkeeping (content before) ∧
      (∀ c ∈ synchronizers, ∃ x ∈ exchanges, x.request = .resetClient c) ∧
      ∃ result, ending = .ofExcept result ⟨.empty, .empty⟩ ∧ (oracle.Obliging → result = .ok ()) := by
  obtain ⟨resets, saves, saving, rfl, requests, -, saved, rfl, obliged⟩ := takes_resetLocal taken
  have files := (StateFile.takes_save saved).1
  have kept : ∀ r ∈ synchronizers.map Request.resetClient, r.isWrite = false := by
    intro r listed
    obtain ⟨c, -, rfl⟩ := List.mem_map.mp listed
    rfl
  refine ⟨?_, fun c registered => ?_, _, rfl, fun obliging => ?_⟩
  · rw [taken.world_eq]
    refine honest.quiet fun x member => ?_
    rcases List.mem_append.mp member with reset | save
    · exact Exchange.forall_of_requests requests kept x reset
    · exact Request.isWrite_eq_false_of_not_isRemote
        (Request.isRemote_eq_false_of_isFileWrite (files x save))
  · have listed := List.mem_map_of_mem (f := Request.resetClient) registered
    rw [← requests] at listed
    obtain ⟨x, reset, same⟩ := List.mem_map.mp listed
    exact ⟨x, List.mem_append_left _ reset, same⟩
  · rw [obliged obliging]
    rfl

theorem republish_honest {c : SyncConfig} (fits : c.Fits) {key : Key}
    {synchronizers : List Synchronizer} {book : Bookkeeping}
    {exchanges : List (Exchange Bookkeeping)} {ending : Ending Bookkeeping GlobalMetadata}
    (wiped : (content before).SameBookkeeping .empty)
    (taken : (republish (.ofConfig c) key synchronizers).Takes oracle.alone book before exchanges
      ending after) :
    Republication oracle c key synchronizers book (content after) exchanges ending := by
  rw [republish_eq] at taken
  obtain ⟨inner, middle, publishing, resetting, published, rfl, continued⟩ := taken.split
  obtain ⟨syncId, ⟨x, member, drawn⟩, outcome⟩ := publishAnew_honest honest fits wiped published
  cases outcome with
  | missing e absent refused =>
      obtain ⟨rfl, rfl, rfl⟩ := continued
      exact .missing e absent refused
  | unconfirmed m e named sound reached refused =>
      obtain ⟨rfl, rfl, rfl⟩ := continued
      rw [List.append_nil]
      exact .unconfirmed m e sound ⟨x, member, named ▸ drawn⟩ reached refused
  | confirmed m named sound reached =>
      obtain ⟨inner, last, head, tail, forgotten, rfl, closing⟩ := Program.Takes.split continued
      obtain ⟨quiet, asked, result, rfl, obliged⟩ := resetLocal_honest honest forgotten
      have ended : after = last ∧ tail = [] ∧
          ending = .ofExcept (result.map fun _ => m) ⟨.empty, .empty⟩ := by
        cases result with
        | ok _ =>
            have closing := Program.takes_note_bind.mp closing
            obtain ⟨rfl, rfl, rfl⟩ := Program.takes_pure.mp closing
            exact ⟨rfl, rfl, rfl⟩
        | error e =>
            obtain ⟨rfl, rfl, rfl⟩ := closing
            exact ⟨rfl, rfl, rfl⟩
      obtain ⟨rfl, rfl, rfl⟩ := ended
      rw [List.append_nil]
      refine .confirmed m _ (sound.congr quiet)
        ⟨x, List.mem_append_left _ member, named ▸ drawn⟩ ?_ ?_ fun obliging => ?_
      · exact (MetadataReached.congr quiet.metadata).mpr
          (MetadataReached.mono (List.subset_append_left ..) reached)
      · intro c registered
        obtain ⟨x, reset, same⟩ := asked c registered
        exact ⟨x, List.mem_append_right _ reset, same⟩
      · rw [obliged obliging]
        rfl

end FreshStart

namespace Session

open FreshStart

def withBook (s : Session) (book : Bookkeeping) : Session := { s with book }

theorem takes_onBook {α : Type} {program : Program Bookkeeping α} {s : Session}
    {exchanges : List (Exchange Session)} {ending : Ending Session α}
    (taken : (onBook program).Takes oracle.alone s before exchanges ending after) :
    ∃ called inner, program.Takes oracle.alone s.book before called inner after ∧
      exchanges = called.map (·.map s.withBook) ∧ ending = inner.map s.withBook :=
  Run.takes_zoom (by intros; rfl) (by intros; rfl) taken

/-- How a fresh start ends, between what the server held before and what it holds after. -/
inductive Renewal (oracle : Oracle ω) (p : Profile) (key : Key) (s : Session) (old new : Storage)
    (exchanges : List (Exchange Session)) : Ending Session GlobalMetadata → Prop where
  | unwiped (e : SyncError) (same : new.SameBookkeeping old)
      (unstored : ∀ x ∈ exchanges, x.request = wipeRequest p.limit) (refused : oracle.Refuses) :
      Renewal oracle p key s old new exchanges (.failed e s)
  | missing (e : SyncError) (absent : Storage.SameIn metaCollection new .empty)
      (refused : oracle.Refuses) : Renewal oracle p key s old new exchanges (.failed e s)
  | unconfirmed (m : GlobalMetadata) (e : SyncError)
      (sound : new.Sound p.config.storageVersion key m)
      (drawn : ∃ x ∈ exchanges, x.DrawsEpoch m.syncId) (reached : MetadataReached exchanges new)
      (refused : oracle.Refuses) : Renewal oracle p key s old new exchanges (.failed e s)
  | confirmed (m : GlobalMetadata) (result : Except SyncError GlobalMetadata)
      (sound : new.Sound p.config.storageVersion key m)
      (drawn : ∃ x ∈ exchanges, x.DrawsEpoch m.syncId) (reached : MetadataReached exchanges new)
      (resets : ∀ c ∈ s.synchronizers, ∃ x ∈ exchanges, x.request = .resetClient c)
      (returned : oracle.Obliging → result = .ok m) :
      Renewal oracle p key s old new exchanges
        (.ofExcept result (s.withBook ⟨.empty, .empty⟩))

theorem Renewal.of_republication {p : Profile} {key : Key} {s : Session} {old new : Storage}
    {x : Exchange Session} {called : List (Exchange Bookkeeping)}
    {inner : Ending Bookkeeping GlobalMetadata}
    (republished : Republication oracle p.config key s.synchronizers s.book new called inner) :
    Renewal oracle p key s old new (x :: called.map (·.map s.withBook)) (inner.map s.withBook) := by
  have contained := List.subset_cons_self x (called.map (·.map s.withBook))
  have lifted {y : Exchange Bookkeeping} (member : y ∈ called) :
      y.map s.withBook ∈ x :: called.map (·.map s.withBook) :=
    contained (List.mem_map_of_mem member)
  have reaching (reached : MetadataReached called new) :
      MetadataReached (x :: called.map (·.map s.withBook)) new :=
    MetadataReached.mono contained (MetadataReached.map reached)
  cases republished with
  | missing e absent refused => exact .missing e absent refused
  | unconfirmed m e sound drawn reached refused =>
      obtain ⟨y, member, drawn⟩ := drawn
      exact .unconfirmed m e sound ⟨_, lifted member, drawn.map⟩ (reaching reached) refused
  | confirmed m result sound drawn reached resets returned =>
      obtain ⟨y, member, drawn⟩ := drawn
      rw [Ending.map_ofExcept]
      refine .confirmed m result sound ⟨_, lifted member, drawn.map⟩ (reaching reached)
        (fun c registered => ?_) returned
      obtain ⟨z, reset, request⟩ := resets c registered
      exact ⟨_, lifted reset, request⟩

theorem freshStart_honest (honest : oracle.Honest content) {p : Profile} (fits : p.config.Fits)
    {key : Key} {s : Session}
    {reason : FreshStartReason} {exchanges : List (Exchange Session)}
    {ending : Ending Session GlobalMetadata}
    (taken : (freshStart p key reason).Takes oracle.alone s before exchanges ending after) :
    Renewal oracle p key (s.startingAfresh reason) (content before) (content after) exchanges
      ending := by
  obtain ⟨rest, rfl, renewing⟩ := takes_freshStart.mp taken
  simp only [Oracle.toOracle_alone, Oracle.touch_alone] at renewing
  have carriedOut := honest.wipe p.limit before
  split at renewing
  · rename_i confirmed
    have confirmed := Program.outcome_eq_ok.mp confirmed
    rcases carriedOut with wiped | ⟨-, unconfirmed⟩
    · obtain ⟨called, inner, republished, rfl, rfl⟩ := takes_onBook renewing
      exact .of_republication (republish_honest honest fits wiped republished)
    · exact absurd confirmed unconfirmed
  · rename_i e failed
    obtain ⟨rfl, rfl, rfl⟩ := renewing
    rcases carriedOut with wiped | ⟨same, -⟩
    · exact .missing e wiped.metadata (refuses_of_wipe failed)
    · refine .unwiped e same (fun x member => ?_) (refuses_of_wipe failed)
      rw [List.mem_singleton.mp member]
      rfl

end Session

end Whole

end SealedSync
