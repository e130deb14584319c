import SealedSync.Proofs.Amendments
import SealedSync.Proofs.Cancellation
import SealedSync.Proofs.Preparation

/-!
# Metadata that others have added to

A cycle asks for the metadata once, and all that it reads of them is what their payload decodes to. So where
others have added to the payload, the cycle goes the way that it would have gone without.
-/
namespace SealedSync

open RemoteState (metadataRequest metadataFrom decodeMetadata)

variable {ω υ σ α : Type}

/-! ## Environments that tell the same -/

/-- In related worlds both environments answer alike and stay related. Their answers to the fetch of metadata
may differ, as far as is allowed. -/
structure Environment.Echoes (env : Environment ω σ) (env' : Environment υ σ) (limit : Duration)
    (answers : (metadataRequest limit).Reply → (metadataRequest limit).Reply → Prop)
    (related : ω → υ → Prop) : Prop where
  replied : ∀ r w w', related w w' → r ≠ metadataRequest limit → env'.reply r w' = env.reply r w
  fetched : ∀ w w', related w w' →
    answers (env.reply (metadataRequest limit) w) (env'.reply (metadataRequest limit) w')
  touched : ∀ r w w' s, related w w' → env'.touch r w' s = env.touch r w s
  next : ∀ r w w', related w w' → related (env.next r w) (env'.next r w')

theorem Environment.Echoes.imp {env : Environment ω σ} {env' : Environment υ σ} {limit : Duration}
    {answers others : (metadataRequest limit).Reply → (metadataRequest limit).Reply → Prop}
    {related : ω → υ → Prop} (echoes : env.Echoes env' limit answers related)
    (implies : ∀ reply reply', answers reply reply' → others reply reply') :
    env.Echoes env' limit others related :=
  { echoes with fetched := fun w w' begun => implies _ _ (echoes.fetched w w' begun) }

/-- Both answers come to the same metadata, or to the same error. -/
def RemoteState.ToldAlike (limit : Duration) (reply reply' : (metadataRequest limit).Reply) : Prop :=
  metadataFrom limit reply' = metadataFrom limit reply

section Echoes

variable {env : Environment ω σ} {env' : Environment υ σ} {limit : Duration}
  {answers : (metadataRequest limit).Reply → (metadataRequest limit).Reply → Prop}
  {related : ω → υ → Prop} {w : ω} {w' : υ}

/-- A run that does not ask for metadata goes the same way. -/
theorem Run.Keeps.parallel {run : Run σ α}
    (kept : run.Keeps (fun _ => True) fun r => r ≠ metadataRequest limit)
    (echoes : env.Echoes env' limit answers related) (begun : related w w') :
    (run.course env w).Parallel related (run.course env' w') := by
  induction run generalizing w w' with
  | returned value state => exact ⟨rfl, begun, rfl⟩
  | failed error state => exact ⟨rfl, begun, rfl⟩
  | noted event rest ih => exact ih kept begun
  | waiting request state resume ih =>
      obtain ⟨-, other, onward⟩ := kept
      obtain ⟨ending, world, requests⟩ := ih _ _ (onward (env.reply request w) (env.touch request w state)
        trivial) (echoes.next request w w' begun)
      simp only [Run.course, echoes.replied request w w' begun other, echoes.touched request w w' state begun]
      exact ⟨ending, world, congrArg (request :: ·) requests⟩

end Echoes

namespace Session

open RemoteState

variable {env : Environment ω Session} {env' : Environment υ Session} {p : Profile}
  {related : ω → υ → Prop} {w : ω} {w' : υ}

/-- Once the server's state is evaluated, a cycle does not ask for metadata again. -/
theorem keeps_proceed (index : CollectionIndex) (evaluated : Evaluated) :
    (proceed p index evaluated).Keeps (fun _ => True) fun r => r ≠ metadataRequest p.limit := by
  have keys (name : String) : (onKeyring (Keyring.keyFor p.keyAccess name)).Keeps (fun _ => True)
      fun r => r ≠ metadataRequest p.limit :=
    preparatory_true.keeps_onKeyring (Keyring.keeps_keyFor (metadataRequest_ne_bundleRequest p.limit).symm name)
  have concluding (r : Request) (closing : r.isConclusion = true) : r ≠ metadataRequest p.limit := by
    rintro rfl
    cases closing
  refine .bind (preparatory_true.keeps_sealingKey nofun) fun key => .bind keeps_checkpoint fun _ => ?_
  refine .bind (preparatory_true.keeps_settleEpoch (fun _ _ other => other) evaluated) fun m => ?_
  refine .bind keeps_checkpoint fun _ => .bind (preparatory_true.keeps_secureKeys (fun _ _ other => other) index m)
    fun m => ?_
  exact keeps_conclude keys (fun _ _ _ _ => trivial) concluding (fun _ _ => trivial) (fun _ _ _ => trivial)
    index m

theorem evaluateRemote_parallel (echoes : env.Echoes env' p.limit (ToldAlike p.limit) related)
    (begun : related w w') (index : CollectionIndex) (s : Session) :
    ((evaluateRemote p index s).course env w).Parallel related ((evaluateRemote p index s).course env' w') := by
  cases decision : index.evaluate with
  | needsFreshStart reason =>
      have run {χ : Type} (env : Environment χ Session) (w : χ) :
          (evaluateRemote p index s).course env w = ⟨.returned (.diverged reason) s, w, []⟩ :=
        (takes_evaluateRemote_diverged decision).mpr ⟨rfl, rfl, rfl⟩
      rw [run, run]
      exact ⟨rfl, begun, rfl⟩
  | consistent =>
      have run {χ : Type} (env : Environment χ Session) (w : χ) :
          (evaluateRemote p index s).course env w = ⟨.ofExcept (evaluatedFrom (metadataFrom p.limit
            (env.reply (metadataRequest p.limit) w)) p.config.storageVersion)
            (env.touch (metadataRequest p.limit) w s), env.next (metadataRequest p.limit) w,
            [env.exchange (metadataRequest p.limit) s w]⟩ :=
        (takes_evaluateRemote_consistent decision).mpr ⟨rfl, rfl, rfl⟩
      rw [run, run]
      refine ⟨?_, echoes.next _ w w' begun, rfl⟩
      rw [echoes.fetched w w' begun, echoes.touched _ w w' s begun]

theorem runCycle_parallel (echoes : env.Echoes env' p.limit (ToldAlike p.limit) related)
    (begun : related w w') (s : Session) :
    ((runCycle p s).course env w).Parallel related ((runCycle p s).course env' w') := by
  have entering (state : CycleState) : (enter state).Keeps (fun _ => True)
      fun r => r ≠ metadataRequest p.limit :=
    .bind (.bind .get fun _ => .pure _) fun _ => .bind (.note _) fun _ => .modify fun _ _ => trivial
  have listing : (fetchIndex p.limit).Keeps (fun _ : Session => True) fun r => r ≠ metadataRequest p.limit :=
    .bind (.remote nofun) fun _ => .bind (.note _) fun _ => .pure _
  -- The program up to the evaluation, the evaluation, and the program from there on.
  refine Run.parallel_bind ((entering .fetchingState s trivial).parallel echoes begun) fun _ s v v' begun => ?_
  refine Run.parallel_bind ((listing s trivial).parallel echoes begun) fun index s v v' begun => ?_
  refine Run.parallel_bind ((keeps_checkpoint s trivial).parallel echoes begun) fun _ s v v' begun => ?_
  refine Run.parallel_bind ((entering .evaluating s trivial).parallel echoes begun) fun _ s v v' begun => ?_
  refine Run.parallel_bind (evaluateRemote_parallel echoes begun index s) fun evaluated s v v' begun => ?_
  exact (keeps_proceed index evaluated s trivial).parallel echoes begun

/-- A cycle goes the same way where metadata come to the same. -/
theorem sync_parallel (echoes : env.Echoes env' p.limit (ToldAlike p.limit) related) (begun : related w w')
    (s : Session) :
    ((sync p s).course env w).Parallel related ((sync p s).course env' w') := by
  rw [course_sync, course_sync]
  split
  · exact ⟨rfl, begun, rfl⟩
  · obtain ⟨ending, world, requests⟩ := runCycle_parallel echoes begun s.starting
    exact ⟨congrArg closed ending, world, requests⟩

/-- Courses in which the same is asked for wipe the server alike. -/
theorem wipes_of_parallel {c : Course ω Session α} {d : Course υ Session α} (parallel : c.Parallel related d) :
    Wipes d.exchanges ↔ Wipes c.exchanges := by
  have asked (xs : List (Exchange Session)) :
      Wipes xs ↔ ∃ r ∈ xs.map (·.request), r.isWipe = true := by simp [Wipes]
  rw [asked, asked, parallel.requests]

end Session

/-! ## Additions -/

namespace GlobalMetadata

theorem decodeMetadata_eq_ok {payload : String} {m : GlobalMetadata} :
    decodeMetadata payload = .ok m ↔ Json.decodeText decode payload = .ok m := by
  unfold decodeMetadata
  split
  · rename_i decoded
    rw [decoded, Except.ok.injEq, Except.ok.injEq]
  · rename_i failed
    rw [failed]
    simp

/-- Others have added to the payload. -/
abbrev AddedTo (admitted : Option String → Prop) (payload payload' : String) : Prop :=
  Json.RelatesTexts (Amended admitted) payload payload'

/-- Metadata that others have added to are read as before. -/
theorem decodeMetadata_of_addedTo {payload payload' : String} {m : GlobalMetadata}
    (decodes : decodeMetadata payload = .ok m) (added : AddedTo Json.Spelled payload payload') :
    decodeMetadata payload' = .ok m := by
  rw [decodeMetadata_eq_ok] at decodes ⊢
  refine added.decodeText (fun value value' m intact intact' amended decoded => ?_) decodes
  exact decode_of_amended (fun _ spelled => spelled) intact intact' amended decoded

/-- The answers are the same, or both are metadata that decode, and others have added to the second. -/
inductive Additions (limit : Duration) : (metadataRequest limit).Reply → (metadataRequest limit).Reply → Prop
  | same (reply : (metadataRequest limit).Reply) : Additions limit reply reply
  | record {record record' : RemoteRecord} {m : GlobalMetadata}
      (decodes : decodeMetadata record.payload = .ok m)
      (added : AddedTo Json.Spelled record.payload record'.payload) :
      Additions limit (some (.ok (some record))) (some (.ok (some record')))

theorem Additions.toldAlike {limit : Duration} {reply reply' : (metadataRequest limit).Reply}
    (additions : Additions limit reply reply') : RemoteState.ToldAlike limit reply reply' := by
  cases additions with
  | same => rfl
  | record decodes added =>
      rw [RemoteState.ToldAlike, RemoteState.metadataFrom_record, RemoteState.metadataFrom_record, decodes,
        decodeMetadata_of_addedTo decodes added]

end GlobalMetadata

namespace Session

open RemoteState

/-- Metadata that decode are JSON, and however others add to them under names of their own, they are read as
before, with the same decision and the same epoch. So is the record that holds them. Thus a cycle goes as it
would have gone without the additions, and they never make it wipe the server. -/
theorem additions_unnoticed :
    (∀ payload m, decodeMetadata payload = .ok m →
      (∃ value, Json.IsText payload value) ∧
      ∀ payload', GlobalMetadata.AddedTo Json.Spelled payload payload' →
        decodeMetadata payload' = .ok m ∧
        (∀ version, GlobalMetadata.evaluateFetch (decodeMetadata payload') version =
          GlobalMetadata.evaluateFetch (decodeMetadata payload) version) ∧
        ∀ m', decodeMetadata payload' = .ok m' → ∀ known, m'.epochChanged known = m.epochChanged known) ∧
    (∀ text r, Json.decodeText RemoteRecord.decode text = .ok r →
      (∃ value, Json.IsText text value) ∧
      ∀ text', Json.RelatesTexts (RemoteRecord.Amended Json.Spelled) text text' →
        Json.decodeText RemoteRecord.decode text' = .ok r) ∧
    ∀ (env : Environment ω Session) (env' : Environment υ Session) (p : Profile) (related : ω → υ → Prop)
      (w : ω) (w' : υ) (s : Session),
      env.Echoes env' p.limit (GlobalMetadata.Additions p.limit) related → related w w' →
      let c := (sync p s).course env w
      let d := (sync p s).course env' w'
      c.Parallel related d ∧ (Wipes d.exchanges ↔ Wipes c.exchanges) := by
  refine ⟨fun payload m decodes => ⟨?_, fun payload' added => ?_⟩, fun text r decodes => ⟨?_, ?_⟩, ?_⟩
  · exact GlobalMetadata.thorough_decode.exists_isText (GlobalMetadata.decodeMetadata_eq_ok.mp decodes)
  · have same := GlobalMetadata.decodeMetadata_of_addedTo decodes added
    refine ⟨same, fun version => by rw [same, decodes], fun m' decodes' known => ?_⟩
    obtain rfl : m = m' := Except.ok.inj (same.symm.trans decodes')
    rfl
  · exact RemoteRecord.thorough_decode.exists_isText decodes
  · intro text' added
    refine added.decodeText (fun value value' r intact intact' amended decoded => ?_) decodes
    exact RemoteRecord.decode_of_amended (fun _ spelled => spelled) intact intact' amended decoded
  · intro env env' p related w w' s echoes begun
    have parallel := sync_parallel (echoes.imp fun _ _ additions => additions.toldAlike) begun s
    exact ⟨parallel, wipes_of_parallel parallel⟩

/-- What another client might say of an engine, and then say more in another order. -/
def engineEntries : List Json.Entry := [(some "version", .nat 2), (some "syncID", .text "b")]

def engineAddition : Json.Entry := (some "since", .list [.list [], .null])

def metadataEntries (engine : Json) : List Json.Entry :=
  [(some "syncID", .text "q"), (some "storageVersion", .nat 5),
    (some "engines", .object (.ofEntries [(some "tabs", engine)]))]

def metadataAddition : Json.Entry := (some "note", .object (.ofEntries [(some "by", .text "a")]))

def plainEngine : Json := .object (.ofEntries engineEntries)

def fullerEngine : Json := .object (.ofEntries (engineEntries ++ [engineAddition]).reverse)

def plainMetadata : Json := .object (.ofEntries (metadataEntries plainEngine))

def fullerMetadata : Json :=
  .object (.ofEntries (metadataEntries fullerEngine ++ [metadataAddition]).reverse)

theorem amended_fullerEngine : EngineMetadata.Amended Json.Spelled plainEngine fullerEngine := by
  refine .inr (.object (List.forall₂_same.mpr fun e _ => ⟨rfl, fun _ _ _ => rfl⟩) ?_ (List.reverse_perm _))
  simp [engineAddition, Json.Spelled]

theorem amended_fullerMetadata : GlobalMetadata.Amended Json.Spelled plainMetadata fullerMetadata := by
  have tabs : List.Forall₂ (Json.Entry.Changes fun _ => EngineMetadata.Amended Json.Spelled)
      [(some "tabs", plainEngine)] [(some "tabs", fullerEngine)] := .cons ⟨rfl, amended_fullerEngine⟩ .nil
  have engines : GlobalMetadata.AmendedWithin Json.Spelled (some "engines")
      (.object (.ofEntries [(some "tabs", plainEngine)]))
      (.object (.ofEntries [(some "tabs", fullerEngine)])) :=
    ⟨fun _ => .object tabs fun _ => rfl, by simp [Json.Steady]⟩
  have changed : List.Forall₂ (Json.Entry.Changes (GlobalMetadata.AmendedWithin Json.Spelled))
      (metadataEntries plainEngine) (metadataEntries fullerEngine) :=
    .cons ⟨rfl, .same (by decide) _⟩ (.cons ⟨rfl, .same (by decide) _⟩ (.cons ⟨rfl, engines⟩ .nil))
  refine .object changed ?_ (List.reverse_perm _)
  simp [metadataAddition, Json.Spelled]

theorem legible_plainMetadata : plainMetadata.Legible := by
  have engine : plainEngine.Legible :=
    Json.Members.legible_ofEntries (by simp [engineEntries, Json.legible_nat, Json.legible_text])
  have engines : (Json.object (.ofEntries [(some "tabs", plainEngine)])).Legible :=
    Json.Members.legible_ofEntries (by simp [engine])
  exact Json.Members.legible_ofEntries
    (by simp [metadataEntries, Json.legible_nat, Json.legible_text, engines])

theorem legible_fullerMetadata : fullerMetadata.Legible := by
  have since : (Json.list [.list [], .null]).Legible := ⟨trivial, trivial, trivial⟩
  have engine : fullerEngine.Legible :=
    Json.Members.legible_ofEntries
      (by simp [engineEntries, engineAddition, Json.legible_nat, Json.legible_text, since])
  have engines : (Json.object (.ofEntries [(some "tabs", fullerEngine)])).Legible :=
    Json.Members.legible_ofEntries (by simp [engine])
  have note : (Json.object (.ofEntries [(some "by", .text "a")])).Legible :=
    Json.Members.legible_ofEntries (by simp [Json.legible_text])
  exact Json.Members.legible_ofEntries
    (by simp [metadataEntries, metadataAddition, Json.legible_nat, Json.legible_text, engines, note])

theorem decodes_plainMetadata :
    GlobalMetadata.decode plainMetadata = .ok ⟨"q", 5, .ofList [("tabs", ⟨2, "b"⟩)]⟩ := by
  rfl

/-- A server without a key bundle that holds some payload as its metadata. -/
def tellingOracle (payload : String) : Oracle Unit :=
  { keylessOracle with
    reply
      | .remote limit (.fetch collection id), world =>
          if Request.remote limit (.fetch collection id) = metadataRequest keylessProfile.limit then
            some (.ok (some (.ofPayload id payload)))
          else keylessOracle.reply (.remote limit (.fetch collection id)) world
      | request, world => keylessOracle.reply request world }

theorem replied_tellingOracle (payload payload' : String) (world : Unit) {r : Request}
    (other : r ≠ metadataRequest keylessProfile.limit) :
    (tellingOracle payload').reply r world = (tellingOracle payload).reply r world := by
  cases r with
  | remote limit call =>
      cases call with
      | fetch collection id =>
          show (if _ then _ else _) = (if _ then _ else _)
          rw [if_neg other, if_neg other]
      | _ => rfl
  | _ => rfl

theorem echoes_tellingOracle {payload payload' : String} {m : GlobalMetadata}
    (decodes : decodeMetadata payload = .ok m)
    (added : GlobalMetadata.AddedTo Json.Spelled payload payload') :
    ((tellingOracle payload).alone : Environment Unit Session).Echoes (tellingOracle payload').alone
      keylessProfile.limit (GlobalMetadata.Additions keylessProfile.limit) fun _ _ => True where
  replied _ w _ _ other := replied_tellingOracle payload payload' w other
  fetched _ _ _ := .record decodes added
  touched _ _ _ _ _ := rfl
  next _ _ _ _ := trivial

def recordEntries (payload : String) : List Json.Entry :=
  [(some "id", .text globalRecordId), (some "payload", .text payload)]

def plainRecord (payload : String) : Json := .object (.ofEntries (recordEntries payload))

def fullerRecord (payload : String) : Json :=
  .object (.ofEntries (recordEntries payload ++ [metadataAddition]).reverse)

theorem fuller_metadata_unnoticed :
    let m : GlobalMetadata := ⟨"q", 5, .ofList [("tabs", ⟨2, "b"⟩)]⟩
    let payload := plainMetadata.render
    let payload' := fullerMetadata.render
    let r := RemoteRecord.ofPayload globalRecordId payload
    let env : Environment Unit Session := (tellingOracle payload).alone
    let env' : Environment Unit Session := (tellingOracle payload').alone
    let limit := keylessProfile.limit
    (decodeMetadata payload = .ok m ∧ GlobalMetadata.AddedTo Json.Spelled payload payload' ∧
      decodeMetadata payload' = .ok m) ∧
    (Json.decodeText RemoteRecord.decode (plainRecord payload).render = .ok r ∧
      Json.RelatesTexts (RemoteRecord.Amended Json.Spelled) (plainRecord payload).render
        (fullerRecord payload).render ∧
      Json.decodeText RemoteRecord.decode (fullerRecord payload).render = .ok r) ∧
    env.Echoes env' limit (GlobalMetadata.Additions limit) (fun _ _ => True) ∧
    (Wipes ((sync keylessProfile keylessSession).course env' ()).exchanges ↔
      Wipes ((sync keylessProfile keylessSession).course env ()).exchanges) := by
  intro m payload payload' r env env' limit
  have decodes : decodeMetadata payload = .ok m := by
    rw [GlobalMetadata.decodeMetadata_eq_ok, Json.decodeText_render _ legible_plainMetadata]
    exact decodes_plainMetadata
  have added : GlobalMetadata.AddedTo Json.Spelled payload payload' :=
    ⟨_, _, Json.isText_render legible_plainMetadata, Json.isText_render legible_fullerMetadata,
      amended_fullerMetadata⟩
  have legible : (plainRecord payload).Legible :=
    Json.Members.legible_ofEntries (by simp [recordEntries, Json.legible_text])
  have legible' : (fullerRecord payload).Legible := by
    have note : metadataAddition.2.Legible := Json.Members.legible_ofEntries (by simp [Json.legible_text])
    exact Json.Members.legible_ofEntries
      (by simp [recordEntries, Json.legible_text, note, show metadataAddition.1.isSome = true from rfl])
  have read : Json.decodeText RemoteRecord.decode (plainRecord payload).render = .ok r := by
    rw [Json.decodeText_render _ legible]
    rfl
  have amended : RemoteRecord.Amended Json.Spelled (plainRecord payload) (fullerRecord payload) := by
    refine .object (List.forall₂_same.mpr fun e _ => ⟨rfl, fun _ _ _ => rfl⟩) ?_ (List.reverse_perm _)
    simp [metadataAddition, Json.Spelled]
  have around : Json.RelatesTexts (RemoteRecord.Amended Json.Spelled) (plainRecord payload).render
      (fullerRecord payload).render :=
    ⟨_, _, Json.isText_render legible, Json.isText_render legible', amended⟩
  have echoes := echoes_tellingOracle decodes added
  have unnoticed := @additions_unnoticed Unit Unit
  exact ⟨⟨decodes, added, ((unnoticed.1 payload m decodes).2 payload' added).1⟩,
    ⟨read, around, (unnoticed.2.1 _ r read).2 _ around⟩, echoes,
    (unnoticed.2.2 env env' keylessProfile _ () () keylessSession echoes trivial).2⟩

/-- The name of the first member is half of an escaped character. -/
theorem isText_unspelled : Json.IsText "\x7b\"\\ud800\":0,\"syncID\":\"q\",\"storageVersion\":5\x7d"
    (.object (.ofEntries [(none, .nat 0), (some "syncID", .text "q"), (some "storageVersion", .nat 5)])) := by
  have half : Json.hex4? 'd' '8' '0' '0' = some 0xd800 := by rfl
  have unspelled : Json.Denotes (.ofText "\"\\ud800\"") (.string none) := .string (.code half .nil)
  have zero := (Json.denotes_render (.nat 0) (Json.legible_nat 0)).fills
  have five := (Json.denotes_render (.nat 5) (Json.legible_nat 5)).fills
  have plain := Json.Members.Denoted.more (Json.denotes_quoted "syncID").fills (Json.denotes_quoted "q").fills
    (.last (Json.denotes_quoted "storageVersion").fills five)
  exact (Json.Denotes.object (.more unspelled.fills zero plain)).fills

/-- It is not so that metadata are read as before whatever names are added. -/
theorem unspelled_addition_noticed :
    ¬∀ payload payload' m, decodeMetadata payload = .ok m →
      GlobalMetadata.AddedTo (fun _ => True) payload payload' → decodeMetadata payload' = .ok m := by
  intro unnoticed
  let entries : List Json.Entry := [(some "syncID", .text "q"), (some "storageVersion", .nat 5)]
  have legible : (Json.object (.ofEntries entries)).Legible :=
    Json.Members.legible_ofEntries (by simp [entries, Json.legible_text, Json.legible_nat])
  have decodes : decodeMetadata (Json.object (.ofEntries entries)).render = .ok ⟨"q", 5, .empty⟩ := by
    rw [GlobalMetadata.decodeMetadata_eq_ok, Json.decodeText_render _ legible]
    rfl
  have changed : List.Forall₂ (Json.Entry.Changes (GlobalMetadata.AmendedWithin fun _ => True))
      entries entries :=
    .cons ⟨rfl, .same (by decide) _⟩ (.cons ⟨rfl, .same (by decide) _⟩ .nil)
  have amended : GlobalMetadata.Amended (fun _ => True) (.object (.ofEntries entries))
      (.object (.ofEntries ((none, .nat 0) :: entries))) :=
    .object changed (List.forall_mem_singleton.mpr ⟨trivial, by simp⟩) (List.perm_append_singleton _ _).symm
  have read := unnoticed _ _ _ decodes ⟨_, _, Json.isText_render legible, isText_unspelled, amended⟩
  rw [GlobalMetadata.decodeMetadata_eq_ok, Json.decodeText, isText_unspelled.decodeSource] at read
  cases read

end Session

end SealedSync
