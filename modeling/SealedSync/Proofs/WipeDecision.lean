import SealedSync.Proofs.Wiping

/-!
# When a cycle wipes the server

The replies to the reads of a cycle decide whether it wipes: the listing, the metadata, and the
fetch of the keys where the keyring has none left. An unreachable server, a call that is late or
refused, keys that do not open and metadata of a newer format never lead to a wipe.
-/
namespace SealedSync

variable {ω : Type}

/-- Resets one synchronizer after another, as long as each reset succeeds. -/
def Oracle.resets (oracle : Oracle ω) : List Synchronizer → ω → Option ω
  | [], world => some world
  | c :: rest, world =>
      match oracle.reply (.resetClient c) world with
      | .ok () => oracle.resets rest (oracle.next (.resetClient c) world)
      | .error _ => none

namespace Session

open RemoteState

/-- The synchronizers that are reset because the server is in another epoch. -/
def outdatedSynchronizers (s : Session) (m : GlobalMetadata) : List Synchronizer :=
  if m.epochChanged s.book.localState then s.synchronizers else []

/-- The keyring that is left when the epoch is known. -/
def currentKeyring (s : Session) (m : GlobalMetadata) : Keyring :=
  if m.epochChanged s.book.localState then .empty else s.book.keyring

/-- All resets that are due succeed, no bundle stays in the keyring, and none can be fetched that is
of any use. -/
def KeysLost (oracle : Oracle ω) (p : Profile) (key : Key) (s : Session) (index : CollectionIndex)
    (m : GlobalMetadata) (world : ω) : Prop :=
  ∃ reset, oracle.resets (s.outdatedSynchronizers m) world = some reset ∧
    ((s.currentKeyring m).rebind m.syncId (index.modified? cryptoCollection)).bundle = none ∧
    ∃ e, bundleFrom p.limit key (oracle.reply (bundleRequest p.limit) reset) = .error e ∧ e.Unusable

/-- What the metadata fetch comes to calls for a wipe. -/
def MetadataCallsForWipe (oracle : Oracle ω) (p : Profile) (key : Key) (s : Session)
    (index : CollectionIndex) (world : ω) : Prop :=
  let fetched := metadataFrom p.limit (oracle.reply (metadataRequest p.limit) world)
  (∃ e, fetched = .error e ∧ e.Unusable) ∨
  (∃ m, fetched = .ok m ∧ m.storageVersion < p.config.storageVersion) ∨
  ∃ m, fetched = .ok m ∧ m.storageVersion = p.config.storageVersion ∧
    KeysLost oracle p key s index m
      (oracle.keyWorld s.keyDerived (oracle.next (metadataRequest p.limit) world))

/-- No cycle is running, the index is fetched, the sealing key can be derived, and the index or what
is read after it calls for a wipe. -/
def WipeDue (oracle : Oracle ω) (p : Profile) (s : Session) (world : ω) : Prop :=
  s.isSyncing = false ∧ ∃ index key,
    indexFrom p.limit (oracle.reply (indexRequest p.limit) world) = .ok index ∧
    p.sealingKey = .ok key ∧
    (¬index.ListsBookkeeping ∨ index.ListsBookkeeping ∧
      MetadataCallsForWipe oracle p key s index (oracle.next (indexRequest p.limit) world))

section Stages

variable {oracle : Oracle ω} {before after : ω} {exchanges : List (Exchange Session)}
  {p : Profile} {s : Session} {index : CollectionIndex} {m : GlobalMetadata} {key : Key}

theorem takes_resets {synchronizers : List Synchronizer} {ending : Ending Session Unit}
    (taken : (resetForEpoch synchronizers).Takes oracle.alone s before exchanges ending after) :
    (oracle.resets synchronizers before = some after ∧ ending = .returned () s) ∨
      (oracle.resets synchronizers before = none ∧ ∃ e, ending = .failed e s) := by
  induction synchronizers generalizing before exchanges with
  | nil =>
      obtain ⟨-, rfl, rfl⟩ := Program.takes_pure.mp taken
      exact .inl ⟨rfl, rfl⟩
  | cons c rest ih =>
      obtain ⟨tail, rfl, continued⟩ := takes_resetForEpoch_cons.mp taken
      simp only [Oracle.toOracle_alone, Oracle.touch_alone] at continued
      unfold Oracle.resets
      cases reply : oracle.reply (.resetClient c) before with
      | error e =>
          simp only [reply] at continued
          exact .inr ⟨rfl, e, continued.2.1⟩
      | ok _ =>
          simp only [reply] at continued
          exact ih continued

/-- The session once the server's epoch is known. -/
def observing (s : Session) (m : GlobalMetadata) : Session :=
  if m.epochChanged s.book.localState then s.forgetting else s

theorem keyring_observing (s : Session) (m : GlobalMetadata) :
    (s.observing m).book.keyring = s.currentKeyring m := by
  unfold observing currentKeyring
  split <;> rfl

theorem takes_observe {ending : Ending Session Unit}
    (taken : (observeEpoch m).Takes oracle.alone s before exchanges ending after) :
    (oracle.resets (s.outdatedSynchronizers m) before = some after ∧
        ending = .returned () (s.observing m)) ∨
      (oracle.resets (s.outdatedSynchronizers m) before = none ∧ ∃ e t, ending = .failed e t) := by
  rw [takes_observeEpoch] at taken
  unfold outdatedSynchronizers observing
  split at taken
  · rename_i changed
    rw [if_pos changed, if_pos changed]
    exact (takes_resets taken).imp_right fun ⟨failed, e, same⟩ => ⟨failed, e, _, same⟩
  · rename_i unchanged
    rw [if_neg unchanged, if_neg unchanged]
    exact .inl ⟨congrArg some taken.2.2.symm, taken.2.1⟩

theorem wipes_secureKeys_iff (fresh : s.performedFreshStart = false) (busy : s.isSyncing = true)
    (usable : p.sealingKey = .ok key) {ending : Ending Session GlobalMetadata}
    (taken : (secureKeys p key index m).Takes oracle.alone s before exchanges ending after) :
    Wipes exchanges ↔
      (s.book.keyring.rebind m.syncId (index.modified? cryptoCollection)).bundle = none ∧
        ∃ e, bundleFrom p.limit key (oracle.reply (bundleRequest p.limit) before) = .error e ∧
          e.Unusable := by
  have keyring : (s.keyBound index m).book.keyring =
      s.book.keyring.rebind m.syncId (index.modified? cryptoCollection) := by
    simp [keyBound, withKeyring, fresh]
  rw [← keyring]
  cases secured_of_takes usable taken with
  | cached bundle held => simp [Wipes, held]
  | fetched t bundle fetching absent opened =>
      rw [Oracle.toOracle_alone] at opened
      simp [Wipes, Environment.exchange, Request.isWipe, opened]
  | renewed t e rest ending after fetching absent failed unusable unmade renewing =>
      subst fetching
      rw [Oracle.toOracle_alone] at failed
      obtain ⟨x, tail, rfl, wipe, -⟩ := wipes_once (onlyCancels_alone oracle)
        ((isSyncing_keyBound s index m).trans busy) keeps_renewal renewing
      have wiped : x.request.isWipe = true := by rw [wipe]; rfl
      simp [Wipes, wiped, absent, failed, unusable]
  | refused t e fetching absent failed passed =>
      subst fetching
      rw [Oracle.toOracle_alone] at failed
      have useful : ¬e.Unusable := fun unusable => passed ⟨unusable, by simpa [keyBound] using fresh⟩
      simp [Wipes, Environment.exchange, Request.isWipe, failed, useful]

theorem wipes_append_iff {xs ys : List (Exchange Session)} (unwiped : ¬Wipes ys) :
    Wipes (xs ++ ys) ↔ Wipes xs := by
  constructor
  · rintro ⟨x, member, wipe⟩
    rcases List.mem_append.mp member with member | member
    · exact ⟨x, member, wipe⟩
    · exact absurd ⟨x, member, wipe⟩ unwiped
  · rintro ⟨x, member, wipe⟩
    exact ⟨x, List.mem_append_left _ member, wipe⟩

theorem wipes_append_right_iff {xs ys : List (Exchange Session)} (unwiped : ¬Wipes xs) :
    Wipes (xs ++ ys) ↔ Wipes ys := by
  unfold Wipes at unwiped ⊢
  simp only [List.mem_append, or_and_right, exists_or, unwiped, false_or]

theorem wipes_cons_iff {x : Exchange Session} {xs : List (Exchange Session)}
    (unwiped : x.request.isWipe = false) : Wipes (x :: xs) ↔ Wipes xs := by
  simp [Wipes, unwiped]

theorem wipes_maintain_iff (fresh : s.performedFreshStart = false) (busy : s.isSyncing = true)
    (wanted : s.cancelRequested = false) (usable : p.sealingKey = .ok key)
    {ending : Ending Session Unit}
    (taken : (maintain p key index m).Takes oracle.alone s before exchanges ending after) :
    Wipes exchanges ↔
      (s.book.keyring.rebind m.syncId (index.modified? cryptoCollection)).bundle = none ∧
        ∃ e, bundleFrom p.limit key (oracle.reply (bundleRequest p.limit) before) = .error e ∧
          e.Unusable := by
  rw [maintain, takes_checkpoint_bind, if_neg (by simp [wanted])] at taken
  obtain ⟨inner, middle, head, tail, secured, rfl, concluded⟩ := taken.split
  rw [← wipes_secureKeys_iff fresh busy usable secured]
  refine wipes_append_iff ?_
  cases inner with
  | failed e last =>
      obtain ⟨rfl, -, -⟩ := concluded
      simp [Wipes]
  | returned m last =>
      exact not_wipes_of_keeps (conclude_never_wipes index m) trivial (fun _ _ _ h => h) concluded

theorem wipes_current_iff (fresh : s.performedFreshStart = false) (busy : s.isSyncing = true)
    (wanted : s.cancelRequested = false) (usable : p.sealingKey = .ok key)
    {ending : Ending Session Unit}
    (taken : (settleEpoch p key (.current m) >>= maintain p key index).Takes oracle.alone s before
      exchanges ending after) : Wipes exchanges ↔ KeysLost oracle p key s index m before := by
  rw [settleEpoch_current_bind] at taken
  obtain ⟨inner, middle, head, tail, observed, rfl, maintained⟩ := taken.split
  have stays : (observeEpoch m).Keeps (fun _ => True) fun r => r.isRemote = false :=
    observeEpoch_stays_local m fun _ h => h
  have unwiped := not_wipes_of_local fun x member =>
    ((stays.takes trivial (fun _ _ _ h => h) observed).1 x member).2.1
  unfold KeysLost
  rcases takes_observe observed with ⟨reset, rfl⟩ | ⟨stopped, e, t, rfl⟩
  · have observing_kept : (s.observing m).performedFreshStart = false ∧
        (s.observing m).isSyncing = true ∧ (s.observing m).cancelRequested = false := by
      unfold observing
      split
      · exact ⟨(performedFreshStart_forgetting s).trans fresh,
          by simpa [isSyncing, forgetting, withKeyring, withReport] using busy, wanted⟩
      · exact ⟨fresh, busy, wanted⟩
    have decided := wipes_maintain_iff observing_kept.1 observing_kept.2.1 observing_kept.2.2 usable
      maintained
    rw [keyring_observing] at decided
    constructor
    · rintro ⟨x, member, wipe⟩
      rcases List.mem_append.mp member with member | member
      · exact absurd ⟨x, member, wipe⟩ unwiped
      · exact ⟨middle, reset, decided.mp ⟨x, member, wipe⟩⟩
    · rintro ⟨world, same, lost⟩
      obtain rfl : middle = world := Option.some.inj (reset.symm.trans same)
      obtain ⟨x, member, wipe⟩ := decided.mpr lost
      exact ⟨x, List.mem_append_right _ member, wipe⟩
  · obtain ⟨rfl, -, -⟩ := maintained
    rw [List.append_nil]
    refine ⟨fun wiped => absurd wiped unwiped, ?_⟩
    rintro ⟨world, reset, -⟩
    rw [stopped] at reset
    cases reset

theorem metadataCallsForWipe_iff {world : ω} :
    MetadataCallsForWipe oracle p key s index world ↔
      let evaluated := evaluatedFrom (metadataFrom p.limit (oracle.reply (metadataRequest p.limit) world))
        p.config.storageVersion
      (∃ reason, evaluated = .ok (.diverged reason)) ∨
        ∃ m, evaluated = .ok (.current m) ∧
          KeysLost oracle p key s index m
            (oracle.keyWorld s.keyDerived (oracle.next (metadataRequest p.limit) world)) := by
  simp only [evaluatedFrom_eq_diverged, evaluatedFrom_eq_current, and_assoc, or_assoc]
  exact Iff.rfl

theorem wipes_diverged (busy : s.isSyncing = true) {reason : FreshStartReason}
    {ending : Ending Session Unit}
    (taken : (settleEpoch p key (.diverged reason) >>= maintain p key index).Takes oracle.alone s
      before exchanges ending after) : Wipes exchanges := by
  obtain ⟨x, rest, rfl, wipe, -⟩ :=
    wipes_once (onlyCancels_alone oracle) busy (fun m => maintain_afresh index m) taken
  exact ⟨x, List.mem_cons_self, by rw [wipe]; rfl⟩

theorem wipes_proceed_iff (fresh : s.performedFreshStart = false) (busy : s.isSyncing = true)
    (wanted : s.cancelRequested = false) {evaluated : Evaluated} {ending : Ending Session Unit}
    (taken : (proceed p index evaluated).Takes oracle.alone s before exchanges ending after) :
    Wipes exchanges ↔ ∃ key, p.sealingKey = .ok key ∧
      ((∃ reason, evaluated = .diverged reason) ∨
        ∃ m, evaluated = .current m ∧
          KeysLost oracle p key s index m (oracle.keyWorld s.keyDerived before)) := by
  obtain ⟨wait, rest, rfl, derives, -, continued⟩ := takes_proceed_alone wanted taken
  rw [wipes_append_right_iff (not_wipes_prelude (p := p) fun x member => .inr (.inr (derives x member)))]
  cases usable : p.sealingKey with
  | error e =>
      simp only [usable] at continued
      simp [Wipes, continued.1]
  | ok key =>
      simp only [usable] at continued
      have keysLost (m : GlobalMetadata) (world : ω) :
          KeysLost oracle p key s.keyed index m world ↔ KeysLost oracle p key s index m world := Iff.rfl
      cases evaluated with
      | diverged reason => simp [wipes_diverged (s := s.keyed) busy continued]
      | current m =>
          simp [wipes_current_iff (s := s.keyed) fresh busy wanted usable continued, keysLost]

theorem wipes_evaluation_iff (fresh : s.performedFreshStart = false) (busy : s.isSyncing = true)
    (wanted : s.cancelRequested = false) {ending : Ending Session Unit}
    (taken : (evaluateRemote p index >>= proceed p index).Takes oracle.alone s before exchanges
      ending after) :
    Wipes exchanges ↔ ∃ key, p.sealingKey = .ok key ∧ (¬index.ListsBookkeeping ∨
      index.ListsBookkeeping ∧ MetadataCallsForWipe oracle p key s index before) := by
  cases decision : index.evaluate with
  | needsFreshStart reason =>
      have unlisted : ¬index.ListsBookkeeping := fun listed => by
        simp [CollectionIndex.evaluate_eq_consistent.mpr listed] at decision
      rw [wipes_proceed_iff fresh busy wanted ((takes_evaluation_diverged decision).mp taken)]
      simp [unlisted]
  | consistent =>
      have listed : index.ListsBookkeeping := CollectionIndex.evaluate_eq_consistent.mp decision
      obtain ⟨rest, rfl, continued⟩ := (takes_evaluation_consistent decision).mp taken
      simp only [Oracle.toOracle_alone, Oracle.touch_alone] at continued
      rw [wipes_cons_iff rfl]
      simp only [listed, not_true_eq_false, true_and, false_or, metadataCallsForWipe_iff]
      cases evaluated : evaluatedFrom (metadataFrom p.limit
          (oracle.reply (metadataRequest p.limit) before)) p.config.storageVersion with
      | error e =>
          simp only [evaluated] at continued
          obtain ⟨rfl, -, -⟩ := continued
          simp [Wipes]
      | ok found =>
          simp only [evaluated] at continued
          rw [wipes_proceed_iff fresh busy wanted continued]
          simp only [Except.ok.injEq]

end Stages

/-- A cycle wipes the server if and only if the replies to its reads call for it. -/
theorem sync_wipes_iff (oracle : Oracle ω) (p : Profile) (s : Session) (world : ω) :
    Wipes ((sync p s).course oracle.alone world).exchanges ↔ WipeDue oracle p s world := by
  have taken : (sync p).Takes oracle.alone s world _ _ _ := Run.takes_course _ _ _
  unfold WipeDue
  cases busy : s.isSyncing with
  | true =>
      obtain ⟨unasked, -, -⟩ := (takes_sync_refused busy).mp taken
      rw [unasked]
      simp [Wipes]
  | false =>
      obtain ⟨inner, run, -⟩ := (takes_sync busy).mp taken
      obtain ⟨rest, exchanged, continued⟩ := (takes_runCycle_alone rfl).mp run
      rw [exchanged, wipes_cons_iff rfl]
      cases found : indexFrom p.limit (oracle.reply (indexRequest p.limit) world) with
      | error e =>
          simp only [found] at continued
          obtain ⟨rfl, -, -⟩ := continued
          simp [Wipes]
      | ok index =>
          simp only [found] at continued
          rw [wipes_evaluation_iff rfl rfl rfl continued]
          constructor
          · rintro ⟨key, usable, due⟩
            exact ⟨rfl, index, key, rfl, usable, due⟩
          · rintro ⟨-, index', key, same, usable, due⟩
            cases same
            exact ⟨key, usable, due⟩

/-- A read of the server's bookkeeping that ends in an error; metadata of a newer format are one. -/
inductive ReadFails (p : Profile) : Exchange Session → SyncError → Prop where
  | index {asked resumed : Session} {reply : (indexRequest p.limit).Reply} {e : SyncError}
      (failed : indexFrom p.limit reply = .error e) :
      ReadFails p ⟨indexRequest p.limit, asked, reply, resumed⟩ e
  | metadata {asked resumed : Session} {reply : (metadataRequest p.limit).Reply} {e : SyncError}
      (failed : metadataFrom p.limit reply = .error e) :
      ReadFails p ⟨metadataRequest p.limit, asked, reply, resumed⟩ e
  | newer {asked resumed : Session} {reply : (metadataRequest p.limit).Reply} {m : GlobalMetadata}
      (found : metadataFrom p.limit reply = .ok m)
      (newer : p.config.storageVersion < m.storageVersion) :
      ReadFails p ⟨metadataRequest p.limit, asked, reply, resumed⟩
        (.clientOutdated m.storageVersion p.config.storageVersion)
  | bundle {asked resumed : Session} {reply : (bundleRequest p.limit).Reply} {key : Key}
      {e : SyncError} (usable : p.sealingKey = .ok key)
      (failed : bundleFrom p.limit key reply = .error e) :
      ReadFails p ⟨bundleRequest p.limit, asked, reply, resumed⟩ e

theorem Precursor.metadata_ok {p : Profile} {key : Key} {x : Exchange Session}
    {asked resumed : Session} {reply : (metadataRequest p.limit).Reply} (precursor : Precursor p key x)
    (same : x = ⟨metadataRequest p.limit, asked, reply, resumed⟩) :
    ∃ evaluated,
      evaluatedFrom (metadataFrom p.limit reply) p.config.storageVersion = .ok evaluated := by
  have request := congrArg Exchange.request same
  cases precursor with
  | index => cases request
  | derivation => cases request
  | reset => cases request
  | metadata found =>
      cases same
      exact ⟨_, found⟩
  | keys unusable =>
      exact absurd (request.symm.trans unusable.request_eq) (metadataRequest_ne_bundleRequest _)

theorem Precursor.bundle_unusable {p : Profile} {key : Key} {x : Exchange Session}
    {asked resumed : Session} {reply : (bundleRequest p.limit).Reply} (precursor : Precursor p key x)
    (same : x = ⟨bundleRequest p.limit, asked, reply, resumed⟩) :
    ∃ e, bundleFrom p.limit key reply = .error e ∧ e.Unusable := by
  have request := congrArg Exchange.request same
  cases precursor with
  | index => cases request
  | derivation => cases request
  | reset => cases request
  | metadata => exact absurd request (metadataRequest_ne_bundleRequest _)
  | keys unusable =>
      cases unusable with
      | found failed unusable =>
          cases same
          exact ⟨_, failed, unusable⟩

/-- No wipe follows a read that fails for another reason than a record being unusable. -/
theorem ReadFails.not_precursor {p : Profile} {key : Key} {x : Exchange Session} {e : SyncError}
    (fails : ReadFails p x e) (useful : ¬e.Unusable) (usable : p.sealingKey = .ok key) :
    ¬Precursor p key x := by
  intro precursor
  cases fails with
  | index failed =>
      cases precursor with
      | index found => simp [failed] at found
      | keys unusable => cases unusable
  | metadata failed =>
      obtain ⟨evaluated, found⟩ := precursor.metadata_ok rfl
      rw [failed, evaluatedFrom_error] at found
      simp [SyncError.isAbsentOrMalformed_iff, useful] at found
  | newer read newer =>
      obtain ⟨evaluated, found⟩ := precursor.metadata_ok rfl
      rw [read, evaluatedFrom_ok, if_neg (Nat.ne_of_gt newer), if_neg (Nat.lt_asymm newer)] at found
      cases found
  | bundle sealing failed =>
      obtain ⟨e', found, unusable⟩ := precursor.bundle_unusable rfl
      rw [sealing] at usable
      cases usable
      rw [failed] at found
      cases found
      exact useful unusable

/-- Whether a cycle wipes the server is decided by its reads. It wipes if and only if they call for
it, and neither a read that fails for another reason than a record being unusable nor a key that
cannot be derived is followed by a wipe. -/
theorem wipes_iff_due (oracle : Oracle ω) (p : Profile) (s : Session) (world : ω) :
    let exchanges := ((sync p s).course oracle.alone world).exchanges
    (Wipes exchanges ↔ WipeDue oracle p s world) ∧
    (∀ before x rest e, exchanges = before ++ x :: rest → ReadFails p x e → ¬e.Unusable →
      ¬Wipes rest) ∧
    ∀ e, p.sealingKey = .error e → ¬Wipes exchanges := by
  have taken : (sync p).Takes oracle.alone s world _ _ _ := Run.takes_course _ _ _
  have polite := onlyCancels_alone oracle
  refine ⟨sync_wipes_iff oracle p s world, ?_, fun e unusable =>
    not_wipes_without_key polite unusable taken⟩
  rintro before x rest e exchanged fails useful ⟨y, member, wipe⟩
  cases sealing : p.sealingKey with
  | error e =>
      exact not_wipes_without_key polite sealing taken ⟨y, by simp [exchanged, member], wipe⟩
  | ok key =>
      have heralded := heralded_sync polite sealing taken
      rw [exchanged] at heralded
      have precursor : Precursor p key x :=
        (List.pairwise_cons.mp (List.pairwise_append.mp heralded).2.1).1 y member wipe
      exact fails.not_precursor useful sealing precursor

end Session

end SealedSync
