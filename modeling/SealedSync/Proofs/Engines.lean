import SealedSync.Proofs.PublishedRecords

/-!
# The engines of a configuration

A configuration is accepted if it names collections, each once and none of the two that are reserved, and
if its time limit and its format are positive. Metadata that a fresh start of an accepted configuration
publishes have one entry for each collection, with an identifier that was drawn for it, and no other entry:
no collection takes the place of another.
-/
namespace SealedSync

namespace NameMap

variable {α : Type}

theorem perm_insertEntry {name : String} {a : α} {entries : List (String × α)}
    (new : name ∉ entries.map (·.1)) :
    (insertEntry name a entries).Perm ((name, a) :: entries) := by
  induction entries with
  | nil => exact .refl _
  | cons head rest ih =>
      obtain ⟨other, b⟩ := head
      obtain ⟨distinct, later⟩ := not_or.mp (mt List.mem_cons.mpr new)
      have other_ne : ¬name = other := distinct
      rw [insertEntry, if_neg other_ne]
      split
      · exact .refl _
      · exact ((ih later).cons (other, b)).trans (.swap ..)

/-- Values of new names, each set once, come to those of the map. -/
theorem perm_foldl_insert {entries : List (String × α)} {m : NameMap α}
    (distinct : ((entries ++ m.entries).map (·.1)).Nodup) :
    (entries.foldl (fun m e => m.insert e.1 e.2) m).entries.Perm (entries ++ m.entries) := by
  induction entries generalizing m with
  | nil => exact .refl _
  | cons head rest ih =>
      have new : head.1 ∉ (rest ++ m.entries).map (·.1) := (List.nodup_cons.mp distinct).1
      have absent : head.1 ∉ m.entries.map (·.1) := fun found =>
        new (by rw [List.map_append]; exact List.mem_append_right _ found)
      have placed : (m.insert head.1 head.2).entries.Perm (head :: m.entries) :=
        perm_insertEntry absent
      have moved : (rest ++ (m.insert head.1 head.2).entries).Perm (head :: rest ++ m.entries) :=
        (placed.append_left rest).trans List.perm_middle
      exact (ih ((moved.map (·.1)).nodup_iff.mpr distinct)).trans moved

/-- A map has the entries that it is built from if their names are distinct. -/
theorem perm_ofList {entries : List (String × α)} (distinct : (entries.map (·.1)).Nodup) :
    (ofList entries).entries.Perm entries := by
  have appended : ((entries ++ (empty : NameMap α).entries).map (·.1)).Nodup := by
    rwa [empty, List.append_nil]
  exact (perm_foldl_insert appended).trans (by rw [empty, List.append_nil])

end NameMap

namespace SyncConfig

/-! ## Acceptance -/

/-- The name is one that a data collection may have. -/
structure IsDataName (name : String) : Prop where
  filled : name ≠ ""
  notMeta : name ≠ "meta"
  notCrypto : name ≠ "crypto"

/-- What is asked of a configuration. -/
structure Acceptable (c : SyncConfig) : Prop where
  collections : c.collections ≠ []
  remoteTimeout : 0 < c.remoteTimeoutMs
  storageVersion : 0 < c.storageVersion
  names : ∀ name ∈ c.collectionNames, IsDataName name
  distinct : c.collectionNames.Nodup

theorem checkNames_cons_eq_ok {seen : List String} {name : String} {rest : List String} :
    checkNames seen (name :: rest) = .ok () ↔
      (IsDataName name ∧ name ∉ seen) ∧ checkNames (name :: seen) rest = .ok () := by
  rw [checkNames]
  split
  · rename_i empty
    exact iff_of_false nofun fun checked => checked.1.1.filled (by simpa using empty)
  · rename_i filled
    split
    · rename_i reserved
      exact iff_of_false nofun fun checked =>
        reserved.elim checked.1.1.notMeta checked.1.1.notCrypto
    · rename_i unreserved
      obtain ⟨notMeta, notCrypto⟩ := not_or.mp unreserved
      split
      · rename_i found
        exact iff_of_false nofun fun checked => checked.1.2 found
      · rename_i new
        exact (and_iff_right ⟨⟨by simpa using filled, notMeta, notCrypto⟩, new⟩).symm

/-- Names pass if they are those of data collections, no two of them the same, and none was seen. -/
theorem checkNames_eq_ok {seen names : List String} :
    checkNames seen names = .ok () ↔
      (∀ name ∈ names, IsDataName name ∧ name ∉ seen) ∧ names.Nodup := by
  induction names generalizing seen with
  | nil => exact iff_of_true rfl ⟨by simp, .nil⟩
  | cons name rest ih =>
      have widened : (∀ other ∈ rest, IsDataName other ∧ other ∉ name :: seen) ↔
          (∀ other ∈ rest, IsDataName other ∧ other ∉ seen) ∧ name ∉ rest := by
        simp only [List.mem_cons, not_or]
        grind
      rw [checkNames_cons_eq_ok, ih, widened, List.forall_mem_cons, List.nodup_cons]
      simp only [and_assoc]

/-- The configurations that are accepted are the acceptable ones. -/
theorem validate_eq_ok {c : SyncConfig} : c.validate = .ok () ↔ c.Acceptable := by
  unfold validate
  split
  · rename_i none
    exact iff_of_false nofun fun acceptable => acceptable.collections (List.isEmpty_iff.mp none)
  · rename_i some
    split
    · rename_i zero
      exact iff_of_false nofun fun acceptable => Nat.ne_of_gt acceptable.remoteTimeout zero
    · rename_i limited
      split
      · rename_i zero
        exact iff_of_false nofun fun acceptable => Nat.ne_of_gt acceptable.storageVersion zero
      · rename_i numbered
        rw [checkNames_eq_ok]
        constructor
        · rintro ⟨names, distinct⟩
          exact ⟨mt List.isEmpty_iff.mpr some, Nat.pos_of_ne_zero limited,
            Nat.pos_of_ne_zero numbered, fun name listed => (names name listed).1, distinct⟩
        · intro acceptable
          exact ⟨fun name listed => ⟨acceptable.names name listed, List.not_mem_nil⟩,
            acceptable.distinct⟩

end SyncConfig

/-! ## What a fresh start announces -/

variable {ω σ : Type}

/-- The entry of a collection among the engines. -/
def CollectionConfig.engine (c : CollectionConfig) (syncId : String) : String × EngineMetadata :=
  (c.name, ⟨c.version, syncId⟩)

namespace Exchange

/-- The identifier of an engine that the exchange draws. -/
def drawnEngineId? : Exchange σ → Option String
  | ⟨.random .engineId, _, bytes, _⟩ => some (Base64.encodeUrlSafe bytes.val)
  | _ => none

/-- The record that is put among the metadata. -/
def putMetadata? : Exchange σ → Option RemoteRecord
  | ⟨.remote _ (.store collection record), _, _, _⟩ =>
      if collection = metaCollection then some record else none
  | _ => none

end Exchange

/-- The identifiers of engines that are drawn, in their order. -/
def engineIds (xs : List (Exchange σ)) : List String := xs.filterMap Exchange.drawnEngineId?

/-- The records that are put among the metadata, whatever comes of it. -/
def metadataPuts (xs : List (Exchange σ)) : List RemoteRecord := xs.filterMap Exchange.putMetadata?

theorem engineIds_append (xs ys : List (Exchange σ)) :
    engineIds (xs ++ ys) = engineIds xs ++ engineIds ys := List.filterMap_append

theorem metadataPuts_append (xs ys : List (Exchange σ)) :
    metadataPuts (xs ++ ys) = metadataPuts xs ++ metadataPuts ys := List.filterMap_append

/-- The request neither puts metadata nor draws an identifier of an engine. -/
def Request.isAside : Request → Bool
  | .remote _ (.store collection _) => collection != metaCollection
  | .random .engineId => false
  | _ => true

theorem Exchange.eq_none_of_isAside {x : Exchange σ} (aside : x.request.isAside = true) :
    x.putMetadata? = none ∧ x.drawnEngineId? = none := by
  obtain ⟨request, asked, reply, resumed⟩ := x
  cases request with
  | remote limit call =>
      cases call with
      | store collection record =>
          have other : (collection != metaCollection) = true := aside
          exact ⟨if_neg (by simpa using other), rfl⟩
      | _ => exact ⟨rfl, rfl⟩
  | random draw =>
      cases draw with
      | engineId => cases aside
      | _ => exact ⟨rfl, rfl⟩
  | _ => exact ⟨rfl, rfl⟩

theorem nothing_of_isAside {xs : List (Exchange σ)} (aside : ∀ x ∈ xs, x.request.isAside = true) :
    metadataPuts xs = [] ∧ engineIds xs = [] := by
  constructor
  · exact List.filterMap_eq_nil_iff.mpr fun x member => (Exchange.eq_none_of_isAside (aside x member)).1
  · exact List.filterMap_eq_nil_iff.mpr fun x member => (Exchange.eq_none_of_isAside (aside x member)).2

theorem CollectionConfig.map_engine_fst {collections : List CollectionConfig} {ids : List String}
    (enough : ids.length = collections.length) :
    (List.zipWith engine collections ids).map (·.1) = collections.map (·.name) := by
  induction collections generalizing ids with
  | nil => rfl
  | cons c rest ih =>
      obtain ⟨id, more, rfl⟩ := List.exists_cons_of_length_eq_add_one enough
      exact congrArg (List.cons c.name) (ih (Nat.succ.inj enough))

namespace FreshStart

/-- The metadata that are put have one engine for each collection, with an identifier drawn for it. -/
structure Announced (c : SyncConfig) (m : GlobalMetadata) (puts : List RemoteRecord)
    (ids : List String) : Prop where
  puts : puts = [.ofPayload globalRecordId m.toJson.render]
  storageVersion : m.storageVersion = c.storageVersion
  drawn : ids.length = c.collections.length
  engines : m.engines.entries.Perm (List.zipWith CollectionConfig.engine c.collections ids)
  readable : c.Fits → RemoteState.decodeMetadata m.toJson.render = .ok m

/-- What a fresh start announces before it ends. -/
inductive Announces (c : SyncConfig) (puts : List RemoteRecord) (ids : List String) :
    Except SyncError GlobalMetadata → Prop where
  | nothing (e : SyncError) (unpublished : puts = []) : Announces c puts ids (.error e)
  | broken (e : SyncError) {m : GlobalMetadata} (announced : Announced c m puts ids) :
      Announces c puts ids (.error e)
  | complete {m : GlobalMetadata} (announced : Announced c m puts ids) : Announces c puts ids (.ok m)

section Takes

variable {env : Environment ω σ} {c : SyncConfig} {key : Key} {s : σ} {before after : ω}
  {xs : List (Exchange σ)} {ending : Ending σ GlobalMetadata}

/-- An identifier is drawn for one collection after another. -/
theorem generateEngines_drawn {collections : List CollectionConfig}
    {engines : NameMap EngineMetadata} {ending : Ending σ (NameMap EngineMetadata)}
    (taken : (generateEngines engines collections).Takes env s before xs ending after) :
    metadataPuts xs = [] ∧ (engineIds xs).length = collections.length ∧ ∃ last,
      ending = .returned ((List.zipWith CollectionConfig.engine collections (engineIds xs)).foldl
        (fun m e => m.insert e.1 e.2) engines) last := by
  induction collections generalizing engines s before xs with
  | nil =>
      obtain ⟨rfl, rfl, rfl⟩ := Program.takes_pure.mp taken
      exact ⟨rfl, rfl, s, rfl⟩
  | cons c rest ih =>
      obtain ⟨tail, rfl, continued⟩ := takes_generateId_bind.mp taken
      obtain ⟨puts, ids, last, rfl⟩ := ih continued
      exact ⟨puts, congrArg Nat.succ ids, last, rfl⟩

/-- The engines of distinct collections do not get in each other's way. -/
theorem announced_of_drawn (distinct : c.collectionNames.Nodup) {ids : List String}
    (drawn : ids.length = c.collections.length) (syncId : String) :
    let m : GlobalMetadata :=
      ⟨syncId, c.storageVersion, .ofList (List.zipWith CollectionConfig.engine c.collections ids)⟩
    Announced c m [.ofPayload globalRecordId m.toJson.render] ids := by
  intro m
  have engines : m.engines.entries.Perm (List.zipWith CollectionConfig.engine c.collections ids) :=
    NameMap.perm_ofList (by rwa [CollectionConfig.map_engine_fst drawn])
  refine ⟨rfl, rfl, drawn, engines, fun fits => ?_⟩
  refine RemoteState.decodeMetadata_render ⟨fits.storageVersion, fun e member => ?_⟩
  obtain ⟨i, bound, rfl⟩ := List.getElem_of_mem (engines.mem_iff.mp member)
  rw [List.getElem_zipWith]
  exact fits.collections _ (List.getElem_mem _)

theorem Announced.put {m : GlobalMetadata} {record : RemoteRecord} {draws : List (Exchange σ)}
    (announced : Announced c m [record] (engineIds draws)) (unpublished : metadataPuts draws = [])
    (limit : Duration) (s : σ) (world : ω) :
    let x := env.exchange (storeRequest limit metaCollection record) s world
    Announced c m (metadataPuts (draws ++ [x])) (engineIds (draws ++ [x])) := by
  intro x
  have put : x.putMetadata? = some record := by
    show (if metaCollection = metaCollection then some record else none) = some record
    exact if_pos rfl
  have puts : metadataPuts [x] = [record] := List.filterMap_cons_some put
  have ids : engineIds [x] = [] := rfl
  rwa [metadataPuts_append, engineIds_append, unpublished, puts, ids, List.append_nil]

/-- Once the keys are published the engines are drawn, and the metadata are put. -/
theorem announces_publishMetadata (distinct : c.collectionNames.Nodup) {syncId : String}
    (taken : (publishEngines (.ofConfig c) syncId).Takes env s before xs ending after) :
    Announces c (metadataPuts xs) (engineIds xs) ending.result := by
  obtain ⟨inner, middle, draws, tail, generating, rfl, publishing⟩ := taken.split
  obtain ⟨unpublished, drawn, last, rfl⟩ := generateEngines_drawn generating
  have announced := announced_of_drawn distinct drawn syncId
  obtain ⟨rest, rfl, published⟩ := takes_publish_bind.mp publishing
  split at published
  · obtain ⟨rfl, rfl, -⟩ := Program.takes_pure.mp published
    exact .complete (announced.put unpublished _ _ _)
  · obtain ⟨rfl, rfl, -⟩ := published
    exact .broken _ (announced.put unpublished _ _ _)

theorem Announces.cons {x : Exchange σ} {result : Except SyncError GlobalMetadata}
    (aside : x.request.isAside = true) (announces : Announces c (metadataPuts xs) (engineIds xs) result) :
    Announces c (metadataPuts (x :: xs)) (engineIds (x :: xs)) result := by
  obtain ⟨put, drawn⟩ := Exchange.eq_none_of_isAside aside
  rwa [metadataPuts, engineIds, List.filterMap_cons_none put, List.filterMap_cons_none drawn]

theorem announces_publishAnew (distinct : c.collectionNames.Nodup)
    (taken : (publishAnew (.ofConfig c) key).Takes env s before xs ending after) :
    Announces c (metadataPuts xs) (engineIds xs) ending.result := by
  obtain ⟨_, rfl, publishing⟩ := takes_publishAnew.mp taken
  obtain ⟨_, rfl, published⟩ := takes_publish_bind.mp publishing
  refine .cons rfl (.cons rfl (.cons rfl (.cons rfl ?_)))
  split at published
  · exact announces_publishMetadata distinct published
  · obtain ⟨rfl, rfl, -⟩ := published
    exact .nothing _ rfl

end Takes

section Perform

variable {env : Environment ω Bookkeeping} {c : SyncConfig} {key : Key} {book : Bookkeeping}
  {before after : ω} {synchronizers : List Synchronizer} {xs : List (Exchange Bookkeeping)}
  {ending : Ending Bookkeeping GlobalMetadata}

theorem aside_resetLocal {plan : FreshStartPlan} {ending : Ending Bookkeeping Unit}
    (taken : (resetLocal plan synchronizers).Takes env book before xs ending after) :
    ∀ x ∈ xs, x.request.isAside = true := by
  have kept : (resetLocal plan synchronizers).Keeps (fun _ => True) fun r => r.isAside = true := by
    refine keeps_resetLocal (fun _ => rfl) (fun r file => ?_) plan synchronizers
    cases r with
    | writeFile path bytes => rfl
    | renameFile source target => rfl
    | _ => cases file
  exact fun x member => ((kept.takes trivial (fun _ _ _ h => h) taken).1 x member).2.1

/-- What follows the announcement can only break off. -/
theorem announces_republish (distinct : c.collectionNames.Nodup)
    (taken : (republish (.ofConfig c) key synchronizers).Takes env book before xs ending after) :
    Announces c (metadataPuts xs) (engineIds xs) ending.result := by
  rw [republish_eq] at taken
  obtain ⟨inner, _, head, tail, publishing, rfl, resetting⟩ := Program.Takes.split taken
  have announces := announces_publishAnew distinct publishing
  cases inner with
  | failed e last =>
      obtain ⟨rfl, rfl, -⟩ := resetting
      rwa [List.append_nil]
  | returned m last =>
      obtain ⟨reset, _, resets, rest, forgetting, rfl, closing⟩ := Program.Takes.split resetting
      obtain ⟨unpublished, undrawn⟩ := nothing_of_isAside (aside_resetLocal forgetting)
      cases announces with
      | complete announced =>
          have still : Announced c m (metadataPuts (head ++ resets)) (engineIds (head ++ resets)) := by
            rwa [metadataPuts_append, engineIds_append, unpublished, undrawn, List.append_nil,
              List.append_nil]
          cases reset with
          | failed e last =>
              obtain ⟨rfl, rfl, -⟩ := closing
              rw [List.append_nil]
              exact .broken e still
          | returned done last =>
              have closing := Program.takes_note_bind.mp closing
              obtain ⟨rfl, rfl, -⟩ := Program.takes_pure.mp closing
              rw [List.append_nil]
              exact .complete still

theorem announces_perform (distinct : c.collectionNames.Nodup)
    (taken : (perform (.ofConfig c) key synchronizers).Takes env book before xs ending after) :
    Announces c (metadataPuts xs) (engineIds xs) ending.result := by
  rw [perform_eq, Program.takes_note_bind] at taken
  obtain ⟨rest, rfl, renewing⟩ := Program.takes_request_bind.mp taken
  refine .cons rfl ?_
  split at renewing
  · exact announces_republish distinct renewing
  · obtain ⟨rfl, rfl, -⟩ := Program.takes_fail.mp (Program.takes_note_bind.mp renewing)
    exact .nothing _ rfl

end Perform

end FreshStart

end SealedSync
