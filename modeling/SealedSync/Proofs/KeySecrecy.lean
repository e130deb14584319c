import SealedSync.Proofs.Recovery
import SealedSync.Proofs.Veiling

/-!
# Keys stay secret

A program that works with keys goes the same way with any others, as long as each bundle can be opened or
not in the same way. So of two accounts that differ in their passphrases, cycle for cycle, whoever sees all
requests but for the payload of the key bundle, all that is noted and reported, what is remembered and what
is on the disk, sees the same.
-/
namespace SealedSync

open Program (Alike)

variable {ω σ α : Type} {p : Profile} {other : Except CryptoError Key} {kin : σ → σ → Prop}

/-- A key can be made of both passphrases, or of neither for one reason. -/
def Profile.Rekeys (p : Profile) (other : Except CryptoError Key) : Prop :=
  (p.sealingKey.map fun _ => ()) = other.map fun _ => ()

/-- Both keys can be had, or neither. -/
theorem KeyAccess.alike_key (rekeys : p.Rekeys other) :
    (Program.ofExcept p.keyAccess.key : Program σ Key).Alike p other kin
      (fun a b => p.sealingKey = .ok a ∧ other = .ok b)
      (Program.ofExcept (p.rekeyed other).keyAccess.key) := by
  apply Alike.ofExcept
  show Likewise _ (p.sealingKey.mapError _) (other.mapError _)
  unfold Profile.Rekeys at rekeys
  cases first : p.sealingKey with
  | ok a =>
      cases second : other with
      | ok b => exact .ok ⟨rfl, rfl⟩
      | error f => simp [first, second, Except.map] at rekeys
  | error e =>
      cases second : other with
      | ok b => simp [first, second, Except.map] at rekeys
      | error f =>
          simp only [first, second, Except.map, Except.error.injEq] at rekeys
          rw [rekeys]
          exact .error _

/-! ## Keyrings -/

namespace Keyring

variable {k l : Keyring}

theorem akin_empty : empty.Akin empty := ⟨rfl, rfl, rfl⟩

theorem Akin.isBoundTo (akin : k.Akin l) (syncId : String) (modified : Option Binary64) :
    k.isBoundTo syncId modified = l.isBoundTo syncId modified := by
  rw [Keyring.isBoundTo, Keyring.isBoundTo, akin.epoch, akin.modified]

theorem Akin.rebind (akin : k.Akin l) (syncId : String) (modified : Option Binary64) :
    (k.rebind syncId modified).Akin (l.rebind syncId modified) := by
  unfold Keyring.rebind
  rw [akin.isBoundTo]
  split
  · exact akin
  · exact ⟨rfl, rfl, rfl⟩

/-- Both keyrings hold a bundle, or neither does. -/
theorem Akin.bundles (akin : k.Akin l) :
    (∃ a b, k.bundle = some a ∧ l.bundle = some b) ∨ (k.bundle = none ∧ l.bundle = none) := by
  have loaded := akin.isLoaded
  unfold Keyring.isLoaded at loaded
  cases first : k.bundle with
  | some a =>
      cases second : l.bundle with
      | some b => exact .inl ⟨a, b, rfl, rfl⟩
      | none => simp [first, second] at loaded
  | none =>
      cases second : l.bundle with
      | some b => simp [first, second] at loaded
      | none => exact .inr ⟨rfl, rfl⟩

theorem alike_bind (syncId : String) (modified : Option Binary64) :
    (bind syncId modified).Alike p other Akin Eq (bind syncId modified) := by
  intro k l akin
  rw [bind_run, bind_run, akin.isBoundTo, akin.isLoaded, akin.epoch]
  split
  · exact .returned rfl akin
  · split
    · exact .noted _ (.returned rfl (akin.rebind syncId modified))
    · exact .returned rfl (akin.rebind syncId modified)

/-- A bundle that can be opened in the one run can be opened in the other. -/
theorem alike_fetchBundle {a b : Key} (usable : p.sealingKey = .ok a) (usable' : other = .ok b)
    (limit : Duration) : (RemoteState.fetchBundle limit a : Program σ _).Alike p other kin
      (fun _ _ => True) (RemoteState.fetchBundle limit b) := by
  rw [RemoteState.fetchBundle_eq, RemoteState.fetchBundle_eq]
  refine .bind (.request rfl) fun reply answer deals => .ofExcept (.of_outcomes ?_)
  have opened := deals.opening
  simp only [Deal.opening?, and_self, if_true, Option.some.injEq] at opened
  rw [Session.openedFrom_eq usable, Session.openedFrom_eq (p := p.rekeyed other) usable'] at opened
  exact opened

theorem alike_refresh (rekeys : p.Rekeys other) :
    (refresh p.keyAccess).Alike p other Akin Eq (refresh (p.rekeyed other).keyAccess) := by
  refine .bind (KeyAccess.alike_key rekeys) fun a b ⟨usable, usable'⟩ => .bind .get fun k l akin => ?_
  rw [akin.isLoaded, akin.epoch]
  split
  · exact .pure rfl
  · split
    · exact .fail _
    · refine .bind (alike_fetchBundle usable usable' _) fun _ _ _ => .bind_same (.note _) fun _ => ?_
      exact .modify fun k l akin => { akin with isLoaded := rfl }

/-- A key is found for a collection in both keyrings, or in neither. -/
theorem alike_keyFor (rekeys : p.Rekeys other) (collection : String) :
    (keyFor p.keyAccess collection).Alike p other Akin (fun _ _ => True)
      (keyFor (p.rekeyed other).keyAccess collection) := by
  refine .bind .get fun k l akin => ?_
  rcases akin.bundles with ⟨a, b, held, holds⟩ | ⟨absent, lacks⟩
  · rw [held, holds]
    exact .pure trivial
  · rw [absent, lacks]
    refine .bind_same (alike_refresh rekeys) fun _ => .bind .get fun k l akin => ?_
    rcases akin.bundles with ⟨a, b, held, holds⟩ | ⟨absent, lacks⟩
    · rw [held, holds]
      exact .pure trivial
    · rw [absent, lacks]
      exact .fail _

theorem alike_invalidate : invalidate.Alike p other Akin Eq invalidate :=
  .bind_same (.modify fun _ _ _ => akin_empty) fun _ => .note _

end Keyring

/-! ## The fresh start -/

namespace FreshStart

theorem alike_generateId {draw : Draw} (plain : (Request.random draw).Plain) :
    (generateId draw : Program σ String).Alike p other kin Eq (generateId draw) :=
  .bind_same (.request_plain plain) fun _ => .pure rfl

theorem alike_generateEngines (collections : List CollectionConfig) (engines : NameMap EngineMetadata) :
    (generateEngines engines collections : Program σ _).Alike p other kin Eq
      (generateEngines engines collections) := by
  induction collections generalizing engines with
  | nil => exact .pure rfl
  | cons c rest ih => exact .bind_same (alike_generateId fun _ _ same => same) fun _ => ih _

/-- The records that are published may differ under the veil. -/
theorem alike_publish {collection : String} {record second : RemoteRecord}
    (same : record.veiledAt collection record.id = second.veiledAt collection second.id)
    (named : record.id = second.id) (limit : Duration) (operation : String) :
    (publish limit operation collection record : Program σ Unit).Alike p other kin Eq
      (publish limit operation collection second) := by
  have requests : (Request.remote limit (.store collection record)).veiled =
      (Request.remote limit (.store collection second)).veiled :=
    congrArg (fun record => Request.remote limit (.store collection record)) same
  unfold publish
  rw [Program.remote_eq, Program.remote_eq, named]
  refine .bind_same (.bind (.request requests) fun reply answer deals => ?_) fun modified => .note _
  have told : reply = answer := eq_of_heq deals.seen
  exact .ofExcept (.of_eq (congrArg (Program.outcome limit operation) told))

theorem alike_step {program second : Program σ α} (alike : program.Alike p other kin Eq second)
    (s : RecoveryStep) : (step s program).Alike p other kin Eq (step s second) := by
  refine .bind alike.attempt fun _ _ results => ?_
  cases results with
  | ok same => exact .pure same
  | error e => exact .bind_same (.note _) fun _ => .fail _

theorem alike_wipe (plan : FreshStartPlan) :
    (wipe plan : Program σ Unit).Alike p other kin Eq (wipe plan) := by
  have plain : (Request.remote plan.limit .wipe).Plain := fun _ _ same => same
  refine .bind_same (.note _) fun _ => .bind (Alike.remote_plain plain).attempt fun _ _ results => ?_
  cases results with
  | ok _ => exact .pure rfl
  | error e => exact .bind_same (.note _) fun _ => .fail e

/-- The bundles that are generated may hold any keys. -/
theorem alike_generateBundle :
    (generateBundle : Program σ KeyBundle).Alike p other kin (fun _ _ => True) generateBundle :=
  .bind (.request rfl) fun _ _ _ => .bind_same (.note _) fun _ => .pure trivial

/-- Under the veil all payloads of the key bundle are the same. -/
theorem alike_publishPayload (payload second : String) (limit : Duration) (operation : String) :
    (publish limit operation cryptoCollection (.ofPayload keysRecordId payload) : Program σ Unit).Alike p
      other kin Eq (publish limit operation cryptoCollection (.ofPayload keysRecordId second)) := by
  apply alike_publish
  · rfl
  · rfl

theorem alike_publishKeys (plan : FreshStartPlan) (a b : Key) (bundle second : KeyBundle) :
    (publishKeys plan a bundle : Program σ Unit).Alike p other kin Eq (publishKeys plan b second) :=
  .bind (.request rfl) fun _ _ _ => alike_step (alike_publishPayload _ _ _ _) _

theorem alike_publishMetadata (plan : FreshStartPlan) (m : GlobalMetadata) :
    (publishMetadata plan m : Program σ Unit).Alike p other kin Eq (publishMetadata plan m) :=
  alike_step (alike_publish rfl rfl _ _) _

theorem alike_resetAll (synchronizers : List Synchronizer) :
    (resetAll synchronizers : Program σ _).Alike p other kin Eq (resetAll synchronizers) := by
  induction synchronizers with
  | nil => exact .pure rfl
  | cons c rest ih =>
      refine .bind_same (.request_plain fun _ _ same => same) fun reply => ?_
      cases reply with
      | ok _ => exact ih
      | error e => exact .bind_same (.note _) fun _ => .bind_same ih fun _ => .pure rfl

end FreshStart

theorem StateFile.alike_save (file : StateFile) (state : LocalState) :
    (save file state : Program σ Unit).Alike p other kin Eq (save file state) := by
  cases file with
  | none => exact .pure rfl
  | some path =>
      refine .bind_same (.request_plain fun _ _ same => same) fun written => ?_
      cases written with
      | error fault => exact .fail _
      | ok _ =>
          refine .bind_same (.request_plain fun _ _ same => same) fun renamed => ?_
          cases renamed with
          | error fault => exact .fail _
          | ok _ => exact .pure rfl

theorem Bookkeeping.alike_onKeyring {like : α → α → Prop} {program second : Program Keyring α}
    (alike : program.Alike p other Keyring.Akin like second) :
    (onKeyring program).Alike p other Akin like (onKeyring second) :=
  fun _ _ akin => (alike _ _ akin.keyring).zoom (fun _ _ akin => akin.keyring)
    (fun _ _ _ _ keyring akin => { akin with keyring }) akin

namespace FreshStart

theorem alike_resetLocal (plan : FreshStartPlan) (synchronizers : List Synchronizer) :
    (resetLocal plan synchronizers).Alike p other Bookkeeping.Akin Eq (resetLocal plan synchronizers) := by
  refine .bind_same (Bookkeeping.alike_onKeyring Keyring.alike_invalidate) fun _ => ?_
  refine .bind_same (alike_resetAll synchronizers) fun failures => ?_
  refine .bind_same (.modify fun _ _ akin => { akin with localState := rfl }) fun _ => ?_
  refine .bind (StateFile.alike_save _ _).attempt fun _ _ results => ?_
  have telling (failures : List String) :
      (if failures.isEmpty then return ()
        else Program.fail (.partialFailure .resetLocal (String.intercalate "; " failures)) :
          Program Bookkeeping Unit).Alike p other Bookkeeping.Akin Eq
      (if failures.isEmpty then return ()
        else Program.fail (.partialFailure .resetLocal (String.intercalate "; " failures))) := by
    split
    · exact .pure rfl
    · exact .fail _
  cases results with
  | ok _ => exact .bind_same (.pure rfl) telling
  | error e => exact .bind_same (.note _) fun _ => .bind_same (.pure rfl) telling

/-- A fresh start shows nothing of the keys that it makes. -/
theorem alike_perform (plan : FreshStartPlan) (a b : Key) (synchronizers : List Synchronizer) :
    (perform plan a synchronizers).Alike p other Bookkeeping.Akin Eq (perform plan b synchronizers) := by
  refine .bind_same (alike_wipe plan) fun _ => ?_
  refine .bind_same (alike_generateId fun _ _ same => same) fun syncId => .bind_same (.note _) fun _ => ?_
  refine .bind alike_generateBundle fun _ _ _ => .bind_same (alike_publishKeys plan a b _ _) fun _ => ?_
  refine .bind_same (alike_generateEngines _ _) fun engines => ?_
  refine .bind_same (alike_publishMetadata plan _) fun _ => ?_
  exact .bind_same (alike_resetLocal plan synchronizers) fun _ => .bind_same (.note _) fun _ => .pure rfl

end FreshStart

/-! ## The steps of a cycle -/

namespace Session

variable {like : α → α → Prop}

theorem alike_onBook {program second : Program Bookkeeping α}
    (alike : program.Alike p other Bookkeeping.Akin like second) :
    (onBook program).Alike p other Akin like (onBook second) :=
  fun _ _ akin => (alike _ _ akin.book).zoom (fun _ _ akin => akin.book)
    (fun _ _ _ _ book akin => { akin with book }) akin

theorem alike_onKeyring {program second : Program Keyring α}
    (alike : program.Alike p other Keyring.Akin like second) :
    (onKeyring program).Alike p other Akin like (onKeyring second) :=
  alike_onBook (Bookkeeping.alike_onKeyring alike)

theorem alike_report : report.Alike p other Akin Eq report :=
  .bind .get fun _ _ akin => .pure (congrArg (Option.getD · CycleReport.start) akin.cycle)

theorem alike_updateReport (f : CycleReport → CycleReport) :
    (updateReport f).Alike p other Akin Eq (updateReport f) :=
  .modify fun _ _ akin => { akin with cycle := congrArg (Option.map f) akin.cycle }

theorem alike_enter (state : CycleState) : (enter state).Alike p other Akin Eq (enter state) :=
  .bind_same alike_report fun _ => .bind_same (.note _) fun _ => alike_updateReport _

theorem alike_checkpoint : (checkpoint p).Alike p other Akin Eq (checkpoint (p.rekeyed other)) := by
  refine .bind .get fun s t akin => ?_
  rw [akin.cancelRequested]
  split
  · exact .bind_same alike_report fun r => .bind_same (.note _) fun _ => .fail _
  · exact .pure rfl

theorem alike_fetchIndex (limit : Duration) :
    (RemoteState.fetchIndex limit : Program Session _).Alike p other Akin Eq
      (RemoteState.fetchIndex limit) := by
  have plain : (Request.remote limit .index).Plain := fun _ _ same => same
  exact .bind_same (.remote_plain plain) fun _ => .bind_same (.note _) fun _ => .pure rfl

/-- The veil hides nothing of the metadata. -/
theorem plain_metadataRequest (limit : Duration) : (RemoteState.metadataRequest limit).Plain := by
  have whole : RemoteRecord.veiledAt metaCollection globalRecordId = id :=
    funext fun _ => if_neg (by decide)
  have seen (reply : (RemoteState.metadataRequest limit).Reply) :
      (RemoteState.metadataRequest limit).veilReply reply = reply := by
    show Option.map (Except.map (Option.map (RemoteRecord.veiledAt _ _))) reply = reply
    rw [whole]
    match reply with
    | some (.ok (some _)) => rfl
    | some (.ok none) => rfl
    | some (.error _) => rfl
    | none => rfl
  intro reply answer same
  rw [← seen reply, ← seen answer]
  exact same

theorem alike_evaluateRemote (index : CollectionIndex) :
    (evaluateRemote p index).Alike p other Akin Eq (evaluateRemote (p.rekeyed other) index) := by
  unfold evaluateRemote
  split
  · exact .bind_same (.note _) fun _ => .pure rfl
  · have fetching : (RemoteState.fetchMetadata p.limit : Program Session _).Alike p other Akin Eq
        (RemoteState.fetchMetadata p.limit) := by
      rw [RemoteState.fetchMetadata_eq]
      exact .bind_same (.request_plain (plain_metadataRequest _)) fun _ => .ofExcept (.of_eq rfl)
    refine .bind fetching.attempt fun fetched _ same => ?_
    obtain rfl := same.eq
    refine .bind_same (.ofExcept (.of_eq rfl)) fun evaluated => ?_
    split
    · exact .pure rfl
    · exact .bind_same (.note _) fun _ => .pure rfl
    · exact .pure rfl

theorem alike_resetForEpoch (synchronizers : List Synchronizer) :
    (resetForEpoch synchronizers).Alike p other Akin Eq (resetForEpoch synchronizers) := by
  induction synchronizers with
  | nil => exact .pure rfl
  | cons c rest ih =>
      refine .bind_same (.request_plain fun _ _ same => same) fun reply => ?_
      cases reply with
      | ok _ => exact ih
      | error e => exact .bind_same (.note _) fun _ => .fail e

theorem alike_observeEpoch (m : GlobalMetadata) :
    (observeEpoch m).Alike p other Akin Eq (observeEpoch m) := by
  refine .bind .get fun s t akin => ?_
  rw [akin.book.localState]
  split
  · refine .bind_same (.note _) fun _ => .bind_same (alike_updateReport _) fun _ => ?_
    refine .bind_same (alike_onKeyring Keyring.alike_invalidate) fun _ => .bind .get fun s t akin => ?_
    rw [akin.synchronizers]
    exact alike_resetForEpoch _
  · exact .pure rfl

theorem alike_freshStart (a b : Key) (reason : FreshStartReason) :
    (freshStart p a reason).Alike p other Akin Eq (freshStart (p.rekeyed other) b reason) := by
  refine .bind_same (alike_enter _) fun _ => .bind_same (alike_updateReport _) fun _ => ?_
  refine .bind_same (.modify fun _ _ akin =>
    { akin with freshStarts := congrArg (· + 1) akin.freshStarts }) fun _ => ?_
  refine .bind_same (.note _) fun _ => .bind .get fun s t akin => ?_
  rw [akin.synchronizers]
  exact alike_onBook (FreshStart.alike_perform _ _ _ _)

theorem alike_settleEpoch (a b : Key) (evaluated : Evaluated) :
    (settleEpoch p a evaluated).Alike p other Akin Eq (settleEpoch (p.rekeyed other) b evaluated) := by
  cases evaluated with
  | current m => exact .bind_same (alike_observeEpoch m) fun _ => .pure rfl
  | diverged reason => exact alike_freshStart a b reason

theorem alike_bindKeys (index : CollectionIndex) (m : GlobalMetadata) :
    (bindKeys index m).Alike p other Akin Eq (bindKeys index m) :=
  .bind_same alike_report fun _ => .bind_same (alike_onKeyring (Keyring.alike_bind _ _)) fun _ => .pure rfl

section Rekeyed

variable (rekeys : p.Rekeys other)

include rekeys

/-- Both sessions wait for their keys, or neither does. -/
theorem alike_sealingKey : (sealingKey p).Alike p other Akin
    (fun a b => p.sealingKey = .ok a ∧ other = .ok b) (sealingKey (p.rekeyed other)) := by
  have waiting : (Program.request .deriveKey : Program Session Unit).Alike p other Akin Eq
      (Program.request .deriveKey) :=
    Alike.request_plain fun _ _ same => same
  rw [sealingKey_eq, sealingKey_eq]
  refine .bind .get fun s t akin => ?_
  rw [akin.keyDerived]
  split
  · exact KeyAccess.alike_key rekeys
  · refine .bind_same waiting fun _ => ?_
    refine .bind (KeyAccess.alike_key rekeys) fun a b usable => ?_
    exact .bind_same (.modify fun _ _ akin => { akin with keyDerived := rfl }) fun _ => .pure usable

theorem alike_refreshKeys : (refreshKeys p).Alike p other Akin Eq (refreshKeys (p.rekeyed other)) :=
  alike_onKeyring (Keyring.alike_refresh rekeys)

theorem alike_secureKeys (a b : Key) (index : CollectionIndex) (m : GlobalMetadata) :
    (secureKeys p a index m).Alike p other Akin Eq (secureKeys (p.rekeyed other) b index m) := by
  refine .bind_same (alike_enter _) fun _ => .bind_same (alike_bindKeys index m) fun _ => ?_
  refine .bind (alike_refreshKeys rekeys).attempt fun _ _ results => ?_
  cases results with
  | ok _ => exact .pure rfl
  | error e =>
      refine .bind_same alike_report fun r => ?_
      split
      · refine .bind_same (.note _) fun _ => .bind_same (alike_freshStart a b _) fun m => ?_
        refine .bind_same (alike_enter _) fun _ => .bind_same (alike_bindKeys index m) fun _ => ?_
        exact .bind_same (alike_refreshKeys rekeys) fun _ => .pure rfl
      · exact .fail e

theorem alike_checkKeys (names : List String) :
    (checkKeys p names).Alike p other Akin Eq (checkKeys (p.rekeyed other) names) := by
  induction names with
  | nil => exact .pure rfl
  | cons name rest ih => exact .bind (alike_onKeyring (Keyring.alike_keyFor rekeys name)) fun _ _ _ => ih

/-- What a synchronizer does with its key is told in the same way. -/
theorem alike_delegateOne (c : Synchronizer) :
    (delegateOne p c).Alike p other Akin Eq (delegateOne (p.rekeyed other) c) := by
  refine .bind (alike_onKeyring (Keyring.alike_keyFor rekeys c.name)).attempt fun _ _ results => ?_
  cases results with
  | error e => exact .bind_same (.note _) fun _ => .pure rfl
  | ok _ =>
      refine .bind (.request rfl) fun reply answer deals => ?_
      obtain rfl : reply = answer := eq_of_heq deals.seen
      cases reply with
      | ok _ => exact .pure rfl
      | error e => exact .bind_same (.note _) fun _ => .pure rfl

theorem alike_delegate (synchronizers : List Synchronizer) :
    (delegate p synchronizers).Alike p other Akin Eq (delegate (p.rekeyed other) synchronizers) := by
  induction synchronizers with
  | nil => exact .pure rfl
  | cons c rest ih =>
      refine .bind_same (alike_delegateOne rekeys c) fun _ => ?_
      exact .bind_same (alike_updateReport _) fun _ => ih

omit rekeys in
theorem alike_commit (index : CollectionIndex) (m : GlobalMetadata) :
    (commit p index m).Alike p other Akin Eq (commit (p.rekeyed other) index m) := by
  refine .bind_same alike_report fun r => .bind_same (.request_plain fun _ _ same => same) fun now => ?_
  refine .bind_same (StateFile.alike_save _ _) fun _ => .bind_same (.modify fun _ _ akin => ?_) fun _ =>
    alike_updateReport _
  exact { akin with book := { akin.book with localState := rfl } }

theorem alike_runCycle : (runCycle p).Alike p other Akin Eq (runCycle (p.rekeyed other)) := by
  refine .bind_same (alike_enter _) fun _ => .bind_same (alike_fetchIndex _) fun index => ?_
  refine .bind_same alike_checkpoint fun _ => .bind_same (alike_enter _) fun _ => ?_
  refine .bind_same (alike_evaluateRemote index) fun evaluated => ?_
  refine .bind (alike_sealingKey rekeys) fun a b _ => ?_
  refine .bind_same alike_checkpoint fun _ => .bind_same (alike_settleEpoch a b evaluated) fun m => ?_
  refine .bind_same alike_checkpoint fun _ => .bind_same (alike_secureKeys rekeys a b index m) fun m => ?_
  refine .bind_same (alike_checkKeys rekeys _) fun _ => .bind_same alike_checkpoint fun _ => ?_
  refine .bind_same (alike_enter _) fun _ => .bind .get fun s t akin => ?_
  rw [akin.synchronizers]
  exact .bind_same (alike_delegate rekeys _) fun _ => alike_commit index m

omit rekeys in
theorem alike_finish : finish.Alike p other Akin Eq finish :=
  .bind_same alike_report fun _ => .bind_same (.modify fun _ _ akin => { akin with cycle := rfl }) fun _ =>
    .pure rfl

/-- A cycle shows nothing of keys. -/
theorem alike_sync : (sync p).Alike p other Akin Eq (sync (p.rekeyed other)) := by
  refine .bind .get fun s t akin => ?_
  have syncing : s.isSyncing = t.isSyncing := congrArg Option.isSome akin.cycle
  rw [syncing]
  split
  · exact .bind_same (.note _) fun _ => .fail _
  · refine .bind_same (.modify fun _ _ akin => { akin with cancelRequested := rfl, cycle := rfl }) fun _ => ?_
    refine .bind (alike_runCycle rekeys).attempt fun _ _ results => ?_
    cases results with
    | ok _ =>
        refine .bind_same (alike_enter _) fun _ => .bind_same alike_finish fun r => ?_
        exact .bind_same (.note _) fun _ => .pure rfl
    | error e =>
        refine .bind_same alike_report fun r => .bind_same (alike_enter _) fun _ => ?_
        exact .bind_same (.note _) fun _ => .bind_same alike_finish fun _ => .fail e

end Rekeyed

/-! ## All cycles -/

section Cycles

variable {υ : Type} (env : Environment ω Session) (env' : Environment υ Session) (p : Profile)
  (other : Except CryptoError Key) (s s' : Nat → Session) (w : Nat → ω) (w' : Nat → υ)
  (files : ω → String → Option (List UInt8)) (files' : υ → String → Option (List UInt8))

/-- Two sessions go through cycles, up to the last of them, that differ in nothing but keys: what they are
told, what others do to them, and how the disks react. What goes on between cycles is the same as far as
the cycles have been. -/
structure Counterparts (last : Nat) : Prop where
  disks : Lasts (fun w v => files w = files' v) env.toOracle env'.toOracle
  answers : ∀ n ≤ last, AnsweredAlike p other Akin (courseAt env p s w n).exchanges
    (courseAt env' (p.rekeyed other) s' w' n).exchanges
  session : (s 0).Akin (s' 0)
  disk : files (w 0) = files' (w' 0)
  sessions : ∀ n < last, (courseAt env p s w n).ending.state.Akin
    (courseAt env' (p.rekeyed other) s' w' n).ending.state → (s (n + 1)).Akin (s' (n + 1))
  between : ∀ n < last, files (courseAt env p s w n).world =
    files' (courseAt env' (p.rekeyed other) s' w' n).world → files (w (n + 1)) = files' (w' (n + 1))

end Cycles

namespace Counterparts

variable {υ : Type} {env : Environment ω Session} {env' : Environment υ Session} {s s' : Nat → Session}
  {w : Nat → ω} {w' : Nat → υ} {files : ω → String → Option (List UInt8)}
  {files' : υ → String → Option (List UInt8)} {last n : Nat}
  (counterparts : Counterparts env env' p other s s' w w' files files' last) (rekeys : p.Rekeys other)

include counterparts rekeys

/-- Cycles that begin alike go alike. -/
theorem cycle (within : n ≤ last) (akin : (s n).Akin (s' n)) (disk : files (w n) = files' (w' n)) :
    Course.Alike Akin Eq (fun w v => files w = files' v) (courseAt env p s w n)
        (courseAt env' (p.rekeyed other) s' w' n) ∧
      (sync p (s n)).notes env (w n) = (sync (p.rekeyed other) (s' n)).notes env' (w' n) :=
  (alike_sync rekeys _ _ akin).courses counterparts.disks disk (counterparts.answers n within)

theorem begun (within : n ≤ last) : (s n).Akin (s' n) ∧ files (w n) = files' (w' n) := by
  induction n with
  | zero => exact ⟨counterparts.session, counterparts.disk⟩
  | succ n ih =>
      obtain ⟨akin, disk⟩ := ih (Nat.le_of_succ_le within)
      obtain ⟨alike, -⟩ := counterparts.cycle rekeys (Nat.le_of_succ_le within) akin disk
      exact ⟨counterparts.sessions n within alike.state, counterparts.between n within alike.world⟩

end Counterparts

/-- Whether a key can be made does not depend on the passphrase. -/
theorem outcome_deriveKey (passphrase : String) (salt : Salt) (params : KdfParams) :
    ((deriveKey passphrase salt params).map fun _ => ()) = match params.cost.fault? with
      | some fault => .error (.keyDerivation s!"invalid argon2 parameters: {fault.message}")
      | none => .ok () := by
  unfold deriveKey
  cases params.cost.fault? <;> rfl

theorem rekeys_profile (credentials : Credentials) (passphrase : String) (config : SyncConfig) :
    (profile credentials config).Rekeys (profile { credentials with passphrase } config).sealingKey :=
  (outcome_deriveKey _ _ _).trans (outcome_deriveKey _ _ _).symm

/-- Cycles of two accounts that differ in nothing but keys make the same requests, except for keys and the
payload of the key bundle, come to the same reports and errors, and leave the same records and files. What
is noted in them is the same as well. -/
theorem keys_untold {υ : Type} {env : Environment ω Session} {env' : Environment υ Session}
    {credentials : Credentials} {passphrase : String} {config : SyncConfig} {s s' : Nat → Session}
    {w : Nat → ω} {w' : Nat → υ} {files : ω → String → Option (List UInt8)}
    {files' : υ → String → Option (List UInt8)} {last n : Nat}
    (counterparts : Counterparts env env' (profile credentials config)
      (profile { credentials with passphrase } config).sealingKey s s' w w' files files' last)
    (within : n ≤ last) :
    let p := profile credentials config
    let p' := profile { credentials with passphrase } config
    let c := courseAt env p s w n
    let d := courseAt env' p' s' w' n
    c.exchanges.map (·.request.veiled) = d.exchanges.map (·.request.veiled) ∧
      c.ending.result = d.ending.result ∧
      c.ending.state.book.localState = d.ending.state.book.localState ∧
      files c.world = files' d.world ∧
      (sync p (s n)).notes env (w n) = (sync p' (s' n)).notes env' (w' n) := by
  have rekeys := rekeys_profile credentials passphrase config
  obtain ⟨akin, disk⟩ := counterparts.begun rekeys within
  obtain ⟨alike, notes⟩ := counterparts.cycle rekeys within akin disk
  have requests := congrArg (List.map Deal.request) alike.deals
  rw [List.map_map, List.map_map] at requests
  exact ⟨requests, alike.result.eq, alike.state.book.localState, alike.world, notes⟩

/-! ## Two passphrases -/

section Forgetful

open Simulation

/-- A server that shows an empty index and serves one payload of the key bundle, whatever is stored there,
beside files in memory. Keys and nonces are drawn from a seed. -/
def forgetful (payload : String) (seed : UInt8) : Oracle Memory where
  reply
    | .remote _ .index, _ => some (.ok (.ofList []))
    | .remote _ (.fetch collection id), _ => some (.ok (
        if collection = cryptoCollection ∧ id = keysRecordId then some (.ofPayload keysRecordId payload)
        else none))
    | .remote _ (.store ..), _ => some (.ok .zero)
    | .remote _ .wipe, _ => some (.ok ())
    | .resetClient _, _ => .ok ()
    | .synchronize .., _ => .ok ()
    | .readFile _, _ => .error .notFound
    | .writeFile .., _ => .ok ()
    | .renameFile .., _ => .ok ()
    | .random .collectionKey, _ => .fit 32 [seed]
    | .random .nonce, _ => .fit 12 [seed]
    | .random .epochId, _ => .fit 9 []
    | .random .engineId, _ => .fit 9 []
    | .clock, _ => Labels.now
    | .deriveKey, _ => ()
  next
    | .remote .., m => m
    | r, m => m.next r

variable {payload substitute : String} {seed second : UInt8}

/-- If both payloads can be opened, all that is told is alike. -/
theorem told_forgetful {bundle replacement : KeyBundle}
    (opened : ∀ limit, openedFrom p limit (some (.ok (some (.ofPayload keysRecordId payload)))) = .ok bundle)
    (opens : ∀ limit, openedFrom (p.rekeyed other) limit
      (some (.ok (some (.ofPayload keysRecordId substitute)))) = .ok replacement)
    {r q : Request} (requests : r.veiled = q.veiled) (m n : Memory) :
    Deal.Alike p other ⟨r, (forgetful payload seed).reply r m⟩
      ⟨q, (forgetful substitute second).reply q n⟩ := by
  rcases Request.veiled_cases requests with
    rfl | ⟨limit, collection, record, different, rfl, rfl⟩ | ⟨c, key, different, rfl, rfl⟩
  · cases r with
    | remote limit call =>
        cases call with
        | fetch collection id =>
            by_cases keys : collection = cryptoCollection ∧ id = keysRecordId
            · obtain ⟨rfl, rfl⟩ := keys
              refine ⟨rfl, ?_⟩
              show some ((openedFrom p limit (some (.ok (some _)))).map _) =
                some ((openedFrom (p.rekeyed other) limit (some (.ok (some _)))).map _)
              rw [opened, opens]
              rfl
            · constructor
              · simp only [forgetful, if_neg keys]
              · simp only [Deal.opening?, if_neg keys]
        | _ => exact ⟨rfl, rfl⟩
    | random draw => cases draw <;> exact ⟨rfl, rfl⟩
    | _ => exact ⟨rfl, rfl⟩
  · have same := (RemoteCall.store.inj (Request.remote.inj requests).2).2
    exact ⟨congrArg (fun record => Deal.mk (.remote limit (.store collection record)) (some (.ok .zero)))
      same, rfl⟩
  · exact ⟨rfl, rfl⟩

theorem lasts_forgetful : Lasts (fun m n : Memory => m.files = n.files) (forgetful payload seed)
    (forgetful substitute second) := by
  intro r q m n told same
  have requests : r.veiled = q.veiled := (Deal.mk.inj told).1
  rcases Request.veiled_cases requests with
    rfl | ⟨limit, collection, record, different, rfl, rfl⟩ | ⟨c, key, different, rfl, rfl⟩
  · cases r with
    | writeFile path bytes => simp only [forgetful, Memory.next, Memory.write, same]
    | renameFile source target => simp only [forgetful, Memory.next, Memory.write, same]
    | _ => exact same
  · exact same
  · exact same

/-- An account whose state is kept in a file, opened with some passphrase. -/
def openedWith (passphrase : String) : Profile := profile { keptAccount with passphrase } keptProfile.config

/-- The key that seals the bundles of the account. -/
def keyOf (passphrase : String) : Key := (openedWith passphrase).sealingKey.toOption.getD .blank

theorem sealingKey_openedWith (passphrase : String) :
    (openedWith passphrase).sealingKey = .ok (keyOf passphrase) := by
  have affordable : KdfParams.standard.cost.fault? = none := by decide
  have derived : ∃ key, (openedWith passphrase).sealingKey = .ok key := by
    show ∃ key, deriveKey _ _ KdfParams.standard = .ok key
    unfold deriveKey
    rw [affordable]
    exact ⟨_, rfl⟩
  obtain ⟨key, usable⟩ := derived
  rw [keyOf, usable]
  rfl

/-- A bundle sealed under the key of a passphrase. -/
def payloadOf (passphrase : String) (bundle : KeyBundle) : String :=
  bundle.toPayload (keyOf passphrase) (.fit 12 [])

theorem openedFrom_payloadOf (passphrase : String) (bundle : KeyBundle) (limit : Duration) :
    openedFrom (openedWith passphrase) limit
      (some (.ok (some (.ofPayload keysRecordId (payloadOf passphrase bundle))))) = .ok bundle := by
  rw [openedFrom_eq (sealingKey_openedWith passphrase), RemoteState.bundleFrom_record]
  exact KeyBundle.ofPayload_toPayload _ _ _

/-- Sessions that begin with nothing and go through cycles against such a server. -/
def forgotten (passphrase : String) (bundle : KeyBundle) (seed : UInt8) : Nat → Session × Memory :=
  repeated (forgetful (payloadOf passphrase bundle) seed) (openedWith passphrase)
    ((ofLocalState .empty).enlisting "tabs", Memory.blank)

theorem counterparts_forgotten (a b : String) (bundle replacement : KeyBundle) (seed second : UInt8)
    (last : Nat) :
    Counterparts (forgetful (payloadOf a bundle) seed).alone
      (forgetful (payloadOf b replacement) second).alone
      (openedWith a) (openedWith b).sealingKey
      (fun n => (forgotten a bundle seed n).1) (fun n => (forgotten b replacement second n).1)
      (fun n => (forgotten a bundle seed n).2) (fun n => (forgotten b replacement second n).2)
      Memory.files Memory.files last where
  disks := lasts_forgetful
  answers n _ := answeredAlike_alone
    (fun _ _ m n requests => told_forgetful (openedFrom_payloadOf a bundle)
      (openedFrom_payloadOf b replacement) requests m n)
    (taken_courseAt _ _ _ _ n) (taken_courseAt _ _ _ _ n)
  session := ⟨⟨Keyring.akin_empty, rfl⟩, rfl, rfl, rfl, rfl, rfl⟩
  disk := rfl
  sessions _ _ akin := akin
  between _ _ same := same

/-- The cycles of an account with some passphrase against such a server. -/
def forgettingCycle (passphrase : String) (bundle : KeyBundle) (seed : UInt8) :
    Nat → Course Memory Session CycleReport :=
  courseAt (forgetful (payloadOf passphrase bundle) seed).alone (openedWith passphrase)
    (fun n => (forgotten passphrase bundle seed n).1) fun n => (forgotten passphrase bundle seed n).2

/-- A second cycle with another passphrase, another bundle and other draws looks the same. -/
theorem second_cycle_untold :
    let c := forgettingCycle "passphrase" (.ofDefault .blank) 1 1
    let d := forgettingCycle "another" ((KeyBundle.ofDefault .blank).withOverride "tabs" .blank) 2 1
    c.exchanges.map (·.request.veiled) = d.exchanges.map (·.request.veiled) ∧
      c.ending.result = d.ending.result ∧
      c.ending.state.book.localState = d.ending.state.book.localState ∧
      c.world.files = d.world.files := by
  have untold (a b : String) (bundle replacement : KeyBundle) (seed second : UInt8) (last : Nat) :
      let c := forgettingCycle a bundle seed last
      let d := forgettingCycle b replacement second last
      c.exchanges.map (·.request.veiled) = d.exchanges.map (·.request.veiled) ∧
        c.ending.result = d.ending.result ∧
        c.ending.state.book.localState = d.ending.state.book.localState ∧
        c.world.files = d.world.files := by
    obtain ⟨requests, results, records, files, -⟩ :=
      keys_untold (counterparts_forgotten a b bundle replacement seed second last) (Nat.le_refl last)
    exact ⟨requests, results, records, files⟩
  exact untold _ _ _ _ _ _ _

end Forgetful

end Session

end SealedSync
