import SealedSync.Proofs.Assurance
import SealedSync.Proofs.Cycle

/-!
# What the parts of a cycle leave alone

Most parts of a cycle ask for something and go on with whatever state they find. So they sustain every
invariant that no answer breaks, and the requests that they make are known.
-/
namespace SealedSync

open Program (Stable)

variable {ω σ α β : Type}

section Parts

variable {answering : Answering ω σ} {inv : ω → σ → Prop} {allowed : Request → Prop}
  (stable : Stable answering inv)

include stable

theorem StateFile.sustains_save (saving : ∀ r, r.isFileWrite = true → allowed r) (file : StateFile)
    (state : LocalState) : (save file state : Program σ Unit).Sustains answering allowed inv := by
  cases file with
  | none => exact .pure ()
  | some path =>
      refine .bind (.request (saving _ rfl) stable) fun written => ?_
      cases written with
      | error fault => exact .fail _
      | ok _ =>
          refine .bind (.request (saving _ rfl) stable) fun renamed => ?_
          cases renamed with
          | error fault => exact .fail _
          | ok _ => exact .pure ()

namespace FreshStart

/-- The requests by which a fresh start publishes an epoch. -/
inductive Publishes (plan : FreshStartPlan) (sealingKey : Key) : Request → Prop where
  | draws (draw : Draw) : Publishes plan sealingKey (.random draw)
  | keys (bundle : KeyBundle) (nonce : Nonce) : Publishes plan sealingKey (.remote plan.limit
      (.store cryptoCollection (.ofPayload keysRecordId (bundle.toPayload sealingKey nonce))))
  | metadata (m : GlobalMetadata) (current : m.storageVersion = plan.storageVersion)
      (versions : ∀ e ∈ m.engines.entries, ∃ c ∈ plan.collections, e.2.version = c.version) :
      Publishes plan sealingKey
        (.remote plan.limit (.store metaCollection (.ofPayload globalRecordId m.toJson.render)))

omit stable in
theorem Publishes.isPublication {plan : FreshStartPlan} {sealingKey : Key} {r : Request}
    (publishes : Publishes plan sealingKey r) : r.isPublication = true := by
  cases publishes <;> rfl

theorem sustains_generateId {draw : Draw} (drawing : allowed (.random draw)) :
    (generateId draw : Program σ String).Sustains answering allowed inv :=
  .bind (.request drawing stable) fun _ => .pure _

/-- Every engine carries the version of a collection. -/
theorem assures_generateEngines (drawing : allowed (.random .engineId))
    (collections : List CollectionConfig) (engines : NameMap EngineMetadata) :
    (generateEngines engines collections : Program σ _).Assures answering
      (fun world state r => inv world state ∧ allowed r) inv
      (fun generated world state => inv world state ∧ ∀ e ∈ generated.entries,
        e ∈ engines.entries ∨ ∃ c ∈ collections, e.2.version = c.version) inv := by
  induction collections generalizing engines with
  | nil => exact .pure fun world state holds => ⟨holds, fun e member => .inl member⟩
  | cons c rest ih =>
      refine .bind (sustains_generateId stable drawing) fun syncId => ?_
      refine (ih (engines.insert c.name ⟨c.version, syncId⟩)).conseq (fun _ _ _ permitted => permitted)
        (fun _ _ holds => holds) ?_ fun _ _ holds => holds
      rintro generated world state ⟨holds, versions⟩
      refine ⟨holds, fun e member => ?_⟩
      rcases versions e member with found | ⟨c', listed, same⟩
      · rcases NameMap.mem_insertEntry found with rfl | found
        · exact .inr ⟨c, List.mem_cons_self, rfl⟩
        · exact .inl found
      · exact .inr ⟨c', List.mem_cons_of_mem _ listed, same⟩

theorem sustains_publish {limit : Duration} {collection : String} {record : RemoteRecord}
    (storing : allowed (.remote limit (.store collection record))) (operation : String) :
    (publish limit operation collection record : Program σ Unit).Sustains answering allowed inv :=
  .bind (.remote storing stable) fun _ => .note _

omit stable in
theorem sustains_step {program : Program σ α} (sustains : program.Sustains answering allowed inv)
    (s : RecoveryStep) : (step s program).Sustains answering allowed inv := by
  refine .bind sustains.attempt fun result => ?_
  cases result with
  | ok a => exact .pure a
  | error e => exact .bind (.note _) fun _ => .fail _

theorem sustains_publishAnew {plan : FreshStartPlan} {sealingKey : Key}
    (publishing : ∀ r, Publishes plan sealingKey r → allowed r) :
    (publishAnew plan sealingKey : Program σ _).Sustains answering allowed inv := by
  have drawing (draw : Draw) : allowed (.random draw) := publishing _ (.draws draw)
  refine .bind (sustains_generateId stable (drawing _)) fun syncId => .bind (.note _) fun _ => ?_
  refine .bind (.bind (.request (drawing _) stable) fun _ => .bind (.note _) fun _ => .pure _)
    fun bundle => ?_
  refine .bind (.bind (.request (drawing _) stable) fun nonce => ?_) fun _ => ?_
  · exact sustains_step (sustains_publish stable (publishing _ (.keys bundle nonce)) _) _
  · refine Program.Assures.bind (assures_generateEngines stable (drawing _) _ _) fun engines => ?_
    -- The engines matter to the metadata that are asked to be stored.
    intro world state generated
    obtain ⟨holds, versions⟩ := generated
    let m : GlobalMetadata := ⟨syncId, plan.storageVersion, engines⟩
    have listed : ∀ e ∈ m.engines.entries, ∃ c ∈ plan.collections, e.2.version = c.version :=
      fun e member => (versions e member).resolve_left (by simp [NameMap.empty])
    have storing := publishing _ (.metadata m rfl listed)
    have sustains : (publishMetadata plan m >>= fun _ => pure m : Program σ _).Sustains answering
        allowed inv :=
      .bind (sustains_step (sustains_publish stable storing _) _) fun _ => .pure _
    exact sustains world state holds

theorem sustains_resetAll (resetting : ∀ c, allowed (.resetClient c))
    (synchronizers : List Synchronizer) :
    (resetAll synchronizers : Program σ _).Sustains answering allowed inv := by
  induction synchronizers with
  | nil => exact .pure _
  | cons c rest ih =>
      refine .bind (.request (resetting c) stable) fun reply => ?_
      cases reply with
      | error e => exact .bind (.note _) fun _ => .bind ih fun _ => .pure _
      | ok _ => exact ih

end FreshStart

end Parts

namespace Session

open RemoteState FreshStart

variable {answering : Answering ω Session} {inv : ω → Session → Prop} {allowed : Request → Prop}
  {p : Profile}

theorem sustains_checkpoint : (checkpoint p).Sustains answering allowed inv := by
  refine .bind .get fun s => ?_
  split
  · exact .bind (.bind .get fun _ => .pure _) fun _ => .bind (.note _) fun _ => .fail _
  · exact .pure ()

theorem sustains_report : report.Sustains answering allowed inv := .bind .get fun _ => .pure _

theorem sustains_enter {state : CycleState}
    (entering : ∀ world s, inv world s → inv world (s.entering state)) :
    (enter state).Sustains answering allowed inv :=
  .bind sustains_report fun _ => .bind (.note _) fun _ => .modify entering

section Stable

variable (stable : Stable answering inv)

include stable

theorem sustains_resetForEpoch (resetting : ∀ c, allowed (.resetClient c))
    (synchronizers : List Synchronizer) :
    (resetForEpoch synchronizers).Sustains answering allowed inv := by
  induction synchronizers with
  | nil => exact .pure _
  | cons c rest ih =>
      refine .bind (.request (resetting c) stable) fun reply => ?_
      cases reply with
      | error e => exact .bind (.note _) fun _ => .fail _
      | ok _ => exact ih

theorem sustains_observeEpoch (resetting : ∀ c, allowed (.resetClient c))
    (forgetting : ∀ world s, inv world s → inv world s.forgetting) (m : GlobalMetadata) :
    (observeEpoch m).Sustains answering allowed inv := by
  refine .bind .get fun s => ?_
  split
  · refine .bind (.note _) fun _ => ?_
    intro world s holds
    exact sustains_resetForEpoch stable resetting s.synchronizers world s.forgetting
      (forgetting world s holds)
  · exact .pure ()

/-- Only an index that lists the bookkeeping is evaluated to an epoch. -/
theorem assures_evaluateRemote (permitted : allowed (metadataRequest p.limit)) (index : CollectionIndex) :
    (evaluateRemote p index).Assures answering (fun world s r => inv world s ∧ allowed r) inv
      (fun evaluated world s => inv world s ∧ ∀ m, evaluated = .current m → index.ListsBookkeeping)
      inv := by
  unfold evaluateRemote
  split
  · exact .note_bind (.pure fun _ _ holds => ⟨holds, nofun⟩)
  · rename_i consistent
    have listed := CollectionIndex.evaluate_eq_consistent.mp consistent
    rw [fetchMetadata_eq]
    have fetching : (Program.request (metadataRequest p.limit) >>= fun reply =>
        Program.ofExcept (metadataFrom p.limit reply)).Sustains answering allowed inv :=
      .bind (.request permitted stable) fun _ => .ofExcept _
    refine .attempt_bind fetching (fun m => ?_) fun e => ?_
    all_goals
      refine .bind (Program.Sustains.ofExcept _) fun evaluated => ?_
      split
      · exact .pure fun _ _ holds => ⟨holds, fun _ _ => listed⟩
      · exact .note_bind (.pure fun _ _ holds => ⟨holds, nofun⟩)
      · exact .pure fun _ _ holds => ⟨holds, nofun⟩

theorem sustains_evaluateRemote (permitted : allowed (metadataRequest p.limit))
    (index : CollectionIndex) : (evaluateRemote p index).Sustains answering allowed inv :=
  (assures_evaluateRemote stable permitted index).conseq (fun _ _ _ asked => asked)
    (fun _ _ holds => holds) (fun _ _ _ holds => holds.1) fun _ _ holds => holds

/-- The key that is waited for is the one that the passphrase makes, whatever goes on meanwhile. -/
theorem assures_sealingKey (permitted : allowed .deriveKey)
    (keyed : ∀ world s, inv world s → inv world s.keyed) :
    (sealingKey p).Assures answering (fun world s r => inv world s ∧ allowed r) inv
      (fun key world s => inv world s ∧ p.sealingKey = .ok key) inv := by
  have unsealing : (Program.ofExcept p.keyAccess.key : Program Session Key).Assures answering
      (fun world s r => inv world s ∧ allowed r) inv
      (fun key world s => inv world s ∧ p.sealingKey = .ok key) inv := by
    have found : p.keyAccess.key = p.sealingKey.mapError .crypto := rfl
    rw [found]
    cases p.sealingKey with
    | ok key => exact .pure fun _ _ holds => ⟨holds, rfl⟩
    | error e => exact .fail fun _ _ holds => holds
  rw [sealingKey_eq]
  refine .bind Program.Sustains.get fun s => ?_
  split
  · exact unsealing
  · refine .bind (Program.Sustains.request permitted stable) fun _ => unsealing.bind fun key => ?_
    refine .given fun usable => .bind (Program.Sustains.modify keyed) fun _ => ?_
    exact .pure fun _ _ holds => ⟨holds, usable⟩

theorem sustains_sealingKey (permitted : allowed .deriveKey)
    (keyed : ∀ world s, inv world s → inv world s.keyed) :
    (sealingKey p).Sustains answering allowed inv :=
  (assures_sealingKey stable permitted keyed).conseq (fun _ _ _ asked => asked)
    (fun _ _ holds => holds) (fun _ _ _ holds => holds.1) fun _ _ holds => holds

section Conclude

variable {granted : String → Key → Prop} (keys : ∀ name,
  (onKeyring (Keyring.keyFor p.keyAccess name)).Assures answering
    (fun world s r => inv world s ∧ allowed r) inv
    (fun key world s => inv world s ∧ granted name key) inv)

include keys

omit stable in
theorem sustains_checkKeys (names : List String) :
    (checkKeys p names).Sustains answering allowed inv := by
  induction names with
  | nil => exact .pure _
  | cons name rest ih =>
      have onward (key : Key) (world : ω) (s : Session) (found : inv world s ∧ granted name key) :=
        ih world s found.1
      exact Program.Assures.bind (keys name) onward

theorem sustains_delegateOne (handing : ∀ c key, granted c.name key → allowed (.synchronize c key))
    (c : Synchronizer) : (delegateOne p c).Sustains answering allowed inv := by
  refine Program.Assures.attempt_bind (keys c.name) (fun key => .given fun known => ?_) fun e => ?_
  · have handed : (Program.request (.synchronize c key)).Sustains answering allowed inv :=
      .request (handing c key known) stable
    refine Program.Sustains.bind handed fun reply => ?_
    cases reply with
    | error e => exact .bind (.note _) fun _ => .pure _
    | ok _ => exact .pure _
  · exact Program.Sustains.bind (.note _) fun _ => .pure _

variable (reporting : ∀ world s f, (∀ r, (f r).freshStart = r.freshStart ∧
  (f r).states = r.states ∧ (f r).epochChanged = r.epochChanged) → inv world s →
    inv world (s.withReport f))

include reporting

theorem sustains_delegate (handing : ∀ c key, granted c.name key → allowed (.synchronize c key))
    (synchronizers : List Synchronizer) : (delegate p synchronizers).Sustains answering allowed inv := by
  induction synchronizers with
  | nil => exact .pure _
  | cons c rest ih =>
      refine .bind (sustains_delegateOne stable keys handing c) fun outcome => .bind (.modify ?_) fun _ => ih
      exact fun world s => reporting world s _ fun _ => ⟨rfl, rfl, rfl⟩

omit keys in
theorem sustains_commit (timing : allowed .clock) (saving : ∀ r, r.isFileWrite = true → allowed r)
    (committing : ∀ world s localState, inv world s →
      inv world { s with book := { s.book with localState := localState } })
    (index : CollectionIndex) (m : GlobalMetadata) : (commit p index m).Sustains answering allowed inv := by
  refine .bind sustains_report fun _ => .bind (.request timing stable) fun now => ?_
  refine .bind (StateFile.sustains_save stable saving _ _) fun _ => ?_
  refine .bind (.modify fun world s => committing world s _) fun _ => .modify ?_
  exact fun world s => reporting world s _ fun _ => ⟨rfl, rfl, rfl⟩

/-- What follows once the keys are secured asks the server for keys at most, and hands out keys that
the keyring grants. -/
theorem sustains_conclude (handing : ∀ c key, granted c.name key → allowed (.synchronize c key))
    (timing : allowed .clock) (saving : ∀ r, r.isFileWrite = true → allowed r)
    (entering : ∀ world s, inv world s → inv world (s.entering .delegating))
    (committing : ∀ world s localState, inv world s →
      inv world { s with book := { s.book with localState := localState } })
    (index : CollectionIndex) (m : GlobalMetadata) :
    (conclude p index m).Sustains answering allowed inv := by
  refine .bind (sustains_checkKeys keys _) fun _ => .bind sustains_checkpoint fun _ => ?_
  refine .bind (sustains_enter entering) fun _ => .bind .get fun s => ?_
  exact .bind (sustains_delegate stable keys reporting handing _) fun _ =>
    sustains_commit stable reporting timing saving committing index m

end Conclude

end Stable

end Session

end SealedSync
