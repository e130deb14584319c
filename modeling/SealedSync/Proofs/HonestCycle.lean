import SealedSync.Proofs.Delegation
import SealedSync.Proofs.Wiping

/-!
# Cycles with an honest server

What an honest server answers is known from what it holds, so a cycle is known stage by stage from
the session and the storage it starts with. Where nothing that is asked fails, a cycle ends well
unless the storage is of a newer format or its keys cannot be opened.
-/
namespace SealedSync

namespace Keyring

/-- A keyring without a bundle has none after it is bound. -/
theorem bundle_rebind_of_none {k : Keyring} (absent : k.bundle = none) (syncId : String)
    (modified : Option Binary64) : (k.rebind syncId modified).bundle = none := by
  unfold rebind
  split
  · exact absent
  · rfl

end Keyring

/-- The request lets a synchronizer work. -/
def Request.isSynchronize : Request → Bool
  | .synchronize .. => true
  | _ => false

/-- What a cycle reads to evaluate the server's state. -/
def Storage.readRequests (st : Storage) (limit : Duration) : List Request :=
  match st.index.evaluate with
  | .needsFreshStart _ => [RemoteState.indexRequest limit]
  | .consistent => [RemoteState.indexRequest limit, RemoteState.metadataRequest limit]

/-- What a cycle asks for before it settles the epoch: what it reads, and then perhaps its sealing key. -/
def Storage.Prelude (st : Storage) (limit : Duration) (requests : List Request) : Prop :=
  ∃ waits, (∀ r ∈ waits, r = .deriveKey) ∧ requests = st.readRequests limit ++ waits

theorem Storage.eq_of_mem_readRequests {st : Storage} {limit : Duration} {r : Request}
    (listed : r ∈ st.readRequests limit) :
    r = RemoteState.indexRequest limit ∨ r = RemoteState.metadataRequest limit := by
  unfold readRequests at listed
  split at listed
  · exact .inl (List.mem_singleton.mp listed)
  · simpa using listed

theorem Storage.Prelude.cases {st : Storage} {limit : Duration} {requests : List Request}
    (prelude : st.Prelude limit requests) {r : Request} (listed : r ∈ requests) :
    r = RemoteState.indexRequest limit ∨ r = RemoteState.metadataRequest limit ∨ r = .deriveKey := by
  obtain ⟨waits, derives, rfl⟩ := prelude
  rcases List.mem_append.mp listed with reading | waiting
  · exact (eq_of_mem_readRequests reading).imp_right .inl
  · exact .inr (.inr (derives r waiting))

/-- The server itself is asked for what is read, and for nothing else. -/
theorem Storage.Prelude.filter_isRemote {st : Storage} {limit : Duration} {requests : List Request}
    (prelude : st.Prelude limit requests) :
    requests.filter Request.isRemote = st.readRequests limit := by
  obtain ⟨waits, derives, rfl⟩ := prelude
  have remote : ∀ r ∈ st.readRequests limit, r.isRemote = true := by
    intro r reading
    rcases eq_of_mem_readRequests reading with rfl | rfl <;> rfl
  have unasked : ∀ r ∈ waits, ¬r.isRemote = true := by
    intro r waiting
    rw [derives r waiting]
    exact Bool.false_ne_true
  rw [List.filter_append, List.filter_eq_self.mpr remote, List.filter_eq_nil_iff.mpr unasked,
    List.append_nil]

theorem Storage.Prelude.isWrite_eq_false {st : Storage} {limit : Duration} {requests : List Request}
    (prelude : st.Prelude limit requests) : ∀ r ∈ requests, r.isWrite = false := by
  intro r listed
  rcases prelude.cases listed with rfl | rfl | rfl <;> rfl

theorem Storage.Prelude.isSynchronize_eq_false {st : Storage} {limit : Duration} {requests : List Request}
    (prelude : st.Prelude limit requests) : ∀ r ∈ requests, r.isSynchronize = false := by
  intro r listed
  rcases prelude.cases listed with rfl | rfl | rfl <;> rfl

namespace Session

open RemoteState FreshStart

variable {ω : Type} {oracle : Oracle ω} {content : ω → Storage} {before after : ω}
  {exchanges : List (Exchange Session)} {p : Profile} {s : Session} {key : Key}
  {index : CollectionIndex} {m : GlobalMetadata} {ending : Ending Session Unit}

/-! ## Reading -/

/-- The session once the server's state is read. -/
def evaluating (s : Session) : Session := (s.starting.entering .fetchingState).entering .evaluating

/-- The state of an honest server is evaluated as what it holds comes to, if the session is left
alone while it reads and waits for its key. -/
theorem takes_runCycle_undisturbed {env : Environment ω Session} (honest : env.toOracle.Honest content)
    (undisturbed : ∀ r, IsPrelude p r → ∀ w s, env.touch r w s = s)
    (usable : p.sealingKey = .ok key)
    (taken : (runCycle p).Takes env s.starting before exchanges ending after) :
    ∃ opening rest, exchanges = opening ++ rest ∧
      (content before).Prelude p.limit (opening.map (·.request)) ∧
      match (content before).evaluated p.config.storageVersion with
      | .ok evaluated =>
          (settleEpoch p key evaluated >>= maintain p key (content before).index).Takes env
            s.evaluating.keyed (env.world before opening) rest ending after
      | .error e => rest = [] ∧ ending = .failed e s.evaluating := by
  have proceeding {w : ω} {xs : List (Exchange Session)} {evaluated : Evaluated}
      (taken : (proceed p (content before).index evaluated).Takes env s.evaluating w xs ending after) :
      ∃ wait rest, xs = wait ++ rest ∧ (∀ r ∈ wait.map (·.request), r = .deriveKey) ∧
        (settleEpoch p key evaluated >>= maintain p key (content before).index).Takes env
          s.evaluating.keyed (env.world w wait) rest ending after := by
    obtain ⟨wait, t, world, rest, awaits, rfl, continued⟩ := takes_proceed.mp taken
    have reached := awaits.world_eq
    have same : t = s.evaluating := by
      cases awaits with
      | known => rfl
      | awaited => exact undisturbed _ (.inr (.inr rfl)) _ _
    subst same reached
    rw [usable] at continued
    exact ⟨wait, rest, rfl, List.forall_mem_map.mpr awaits.request_eq,
      (if_neg Bool.false_ne_true).mp continued⟩
  obtain ⟨rest, rfl, continued⟩ := takes_runCycle.mp taken
  simp only [honest.indexFrom, undisturbed _ (.inl rfl)] at continued
  have continued : (evaluateRemote p (content before).index >>= proceed p (content before).index).Takes
      env s.evaluating (env.next (indexRequest p.limit) before) rest ending after := continued
  have reading := honest.others (indexRequest p.limit) before rfl
  unfold Storage.evaluated Storage.Prelude Storage.readRequests
  cases decision : (content before).index.evaluate with
  | needsFreshStart reason =>
      obtain ⟨wait, rest, rfl, derives, settling⟩ :=
        proceeding ((takes_evaluation_diverged decision).mp continued)
      exact ⟨_ :: wait, rest, rfl, ⟨_, derives, rfl⟩, settling⟩
  | consistent =>
      obtain ⟨rest, rfl, evaluating⟩ := (takes_evaluation_consistent decision).mp continued
      simp only [undisturbed _ (.inr (.inl rfl)), honest.metadataFrom, Storage.metadata_congr reading]
        at evaluating
      show ∃ opening rest, _ ∧ _ ∧
        match evaluatedFrom (content before).metadata p.config.storageVersion with
        | .ok evaluated => _
        | .error e => _
      cases found : evaluatedFrom (content before).metadata p.config.storageVersion with
      | error e =>
          simp only [found] at evaluating
          exact ⟨[_, _], rest, rfl, ⟨[], List.forall_mem_nil _, rfl⟩, evaluating.1, evaluating.2.1⟩
      | ok evaluated =>
          simp only [found] at evaluating
          obtain ⟨wait, rest, rfl, derives, settling⟩ := proceeding evaluating
          exact ⟨_ :: _ :: wait, rest, rfl, ⟨_, derives, rfl⟩, settling⟩

theorem takes_sync_undisturbed {env : Environment ω Session} (honest : env.toOracle.Honest content)
    (undisturbed : ∀ r, IsPrelude p r → ∀ w s, env.touch r w s = s)
    (idle : s.isSyncing = false) (usable : p.sealingKey = .ok key)
    {ending : Ending Session CycleReport}
    (taken : (sync p).Takes env s before exchanges ending after) :
    ∃ inner opening rest, exchanges = opening ++ rest ∧ ending = closed inner ∧
      (content before).Prelude p.limit (opening.map (·.request)) ∧
      match (content before).evaluated p.config.storageVersion with
      | .ok evaluated =>
          (settleEpoch p key evaluated >>= maintain p key (content before).index).Takes env
            s.evaluating.keyed (env.world before opening) rest inner after
      | .error e => rest = [] ∧ inner = .failed e s.evaluating := by
  obtain ⟨inner, run, rfl⟩ := (takes_sync idle).mp taken
  obtain ⟨opening, rest, rfl, prelude, continued⟩ :=
    takes_runCycle_undisturbed honest undisturbed usable run
  exact ⟨inner, opening, rest, rfl, rfl, prelude, continued⟩

theorem takes_sync_honest (honest : oracle.Honest content) (idle : s.isSyncing = false)
    (usable : p.sealingKey = .ok key) {ending : Ending Session CycleReport}
    (taken : (sync p).Takes oracle.alone s before exchanges ending after) :
    ∃ inner opening rest, exchanges = opening ++ rest ∧ ending = closed inner ∧
      (content before).Prelude p.limit (opening.map (·.request)) ∧
      match (content before).evaluated p.config.storageVersion with
      | .ok evaluated =>
          (settleEpoch p key evaluated >>= maintain p key (content before).index).Takes oracle.alone
            s.evaluating.keyed (oracle.world before opening) rest inner after
      | .error e => rest = [] ∧ inner = .failed e s.evaluating :=
  takes_sync_undisturbed honest (fun _ _ _ _ => rfl) idle usable taken

/-! ## Settling the epoch -/

/-- The session once the epoch of the metadata is settled. -/
def settled (s : Session) (m : GlobalMetadata) : Session :=
  if m.epochChanged s.book.localState then s.forgetting else s

theorem performedFreshStart_settled (s : Session) (m : GlobalMetadata) :
    (s.settled m).performedFreshStart = s.performedFreshStart := by
  unfold settled
  split
  · exact performedFreshStart_forgetting s
  · rfl

theorem isSyncing_settled (s : Session) (m : GlobalMetadata) :
    (s.settled m).isSyncing = s.isSyncing := by
  unfold settled
  split
  · exact isSyncing_withReport s
  · rfl

theorem cancelRequested_settled (s : Session) (m : GlobalMetadata) :
    (s.settled m).cancelRequested = s.cancelRequested := by
  unfold settled
  split <;> rfl

theorem synchronizers_settled (s : Session) (m : GlobalMetadata) :
    (s.settled m).synchronizers = s.synchronizers := by
  unfold settled
  split <;> rfl

/-- What is asked for to settle the epoch of the metadata. -/
def settleRequests (s : Session) (m : GlobalMetadata) : List Request :=
  if m.epochChanged s.book.localState then s.synchronizers.map .resetClient else []

theorem exists_of_mem_settleRequests {r : Request} (listed : r ∈ s.settleRequests m) :
    ∃ c ∈ s.synchronizers, r = .resetClient c := by
  unfold settleRequests at listed
  split at listed
  · obtain ⟨c, registered, rfl⟩ := List.mem_map.mp listed
    exact ⟨c, registered, rfl⟩
  · cases listed

theorem isWrite_settleRequests : ∀ r ∈ s.settleRequests m, r.isWrite = false := by
  intro r listed
  obtain ⟨c, -, rfl⟩ := exists_of_mem_settleRequests listed
  rfl

theorem unsynced_settleRequests : ∀ r ∈ s.settleRequests m, r.isSynchronize = false := by
  intro r listed
  obtain ⟨c, -, rfl⟩ := exists_of_mem_settleRequests listed
  rfl

theorem takes_resetForEpoch (obliging : oracle.Obliging) {synchronizers : List Synchronizer}
    (taken : (resetForEpoch synchronizers).Takes oracle.alone s before exchanges ending after) :
    exchanges.map (·.request) = synchronizers.map .resetClient ∧ ending = .returned () s := by
  induction synchronizers generalizing before exchanges with
  | nil =>
      obtain ⟨rfl, rfl, -⟩ := Program.takes_pure.mp taken
      exact ⟨rfl, rfl⟩
  | cons c rest ih =>
      obtain ⟨tail, rfl, resetting⟩ := takes_resetForEpoch_cons.mp taken
      simp only [Oracle.toOracle_alone, Oracle.touch_alone, obliging.reset] at resetting
      obtain ⟨requests, ended⟩ := ih resetting
      exact ⟨congrArg (_ :: ·) requests, ended⟩

theorem takes_settleEpoch_current (obliging : oracle.Obliging)
    (taken : (settleEpoch p key (.current m) >>= maintain p key index).Takes oracle.alone s before
      exchanges ending after) :
    ∃ resets rest, exchanges = resets ++ rest ∧
      resets.map (·.request) = s.settleRequests m ∧
      (maintain p key index m).Takes oracle.alone (s.settled m) (oracle.world before resets) rest
        ending after := by
  rw [settleEpoch_current_bind] at taken
  obtain ⟨inner, middle, resets, rest, observed, rfl, maintained⟩ := taken.split
  obtain rfl := observed.world_eq
  rw [takes_observeEpoch] at observed
  have settling : resets.map (·.request) = s.settleRequests m ∧
      inner = .returned () (s.settled m) := by
    unfold settleRequests settled
    split
    · rename_i changed
      rw [if_pos changed] at observed
      exact takes_resetForEpoch obliging observed
    · rename_i unchanged
      rw [if_neg unchanged] at observed
      obtain ⟨rfl, rfl, -⟩ := observed
      exact ⟨rfl, rfl⟩
  obtain ⟨requests, rfl⟩ := settling
  exact ⟨resets, rest, rfl, requests, maintained⟩

/-! ## After a fresh start -/

/-- A fresh start asks for a wipe, and lets no synchronizer work. -/
theorem freshStart_requests {reason : FreshStartReason} {ending : Ending Session GlobalMetadata}
    (taken : (freshStart p key reason).Takes oracle.alone s before exchanges ending after) :
    Wipes exchanges ∧ ∀ x ∈ exchanges, x.request.isSynchronize = false := by
  obtain ⟨rest, rfl, renewing⟩ := takes_freshStart.mp taken
  refine ⟨⟨_, List.mem_cons_self, rfl⟩, fun x member => ?_⟩
  rcases List.mem_cons.mp member with rfl | member
  · rfl
  · have kept : (onBook (republish (.ofConfig p.config) key s.synchronizers)).Keeps
        (fun _ => True) fun r => r.isSynchronize = false := by
      refine Program.Keeps.zoom (keeps_republish (fun _ => rfl) ?_ ?_ _ _ _) fun _ _ _ => trivial
      · intro r publication
        cases r <;> first | rfl | cases publication
      · intro r file
        cases r <;> first | rfl | cases file
    simp only [Oracle.toOracle_alone, Oracle.touch_alone] at renewing
    split at renewing
    · exact ((kept.takes trivial (fun _ _ _ _ => trivial) renewing).1 x member).2.1
    · obtain ⟨rfl, -, -⟩ := renewing
      cases member

/-- Where nothing that is asked fails, a fresh start renews the server and forgets all that is
local. -/
theorem takes_freshStart_faithful (faithful : oracle.Faithful content) (fits : p.config.Fits)
    {reason : FreshStartReason} {ending : Ending Session GlobalMetadata}
    (taken : (freshStart p key reason).Takes oracle.alone s before exchanges ending after) :
    ∃ m, ending = .returned m ((s.startingAfresh reason).withBook ⟨.empty, .empty⟩) ∧
      (content after).Sound p.config.storageVersion key m ∧
      ∀ c ∈ s.synchronizers, ∃ x ∈ exchanges, x.request = .resetClient c := by
  cases freshStart_honest faithful.toHonest fits taken with
  | unwiped e same unstored refused => exact absurd refused faithful.confirms
  | missing e absent refused => exact absurd refused faithful.confirms
  | unconfirmed m e sound drawn reached refused => exact absurd refused faithful.confirms
  | confirmed m result sound drawn reached resets returned =>
      obtain rfl := returned faithful.obliging
      exact ⟨m, rfl, sound, resets⟩

/-- The cycle fetches the key bundle into a keyring, and then delivers its keys. -/
structure Supplied (p : Profile) (key : Key) (s : Session) (k : Keyring) (m : GlobalMetadata)
    (bundle : KeyBundle) (st : Storage) (exchanges : List (Exchange Session)) (last : Session) :
    Prop where
  opened : st.bundle key = .ok bundle
  fetched : ∃ x rest, exchanges = x :: rest ∧ x.request = bundleRequest p.limit ∧
    Delivered s { k with bundle := some bundle } m bundle rest last

theorem Supplied.quiet {k : Keyring} {bundle : KeyBundle} {st : Storage} {last : Session}
    (supplied : Supplied p key s k m bundle st exchanges last) :
    ∀ x ∈ exchanges, x.request.isWrite = false := by
  obtain ⟨-, x, rest, rfl, request, delivered⟩ := supplied
  intro y member
  rcases List.mem_cons.mp member with rfl | member
  · rw [request]
    rfl
  · exact Request.isWrite_eq_false_of_not_isRemote (delivered.stays_local y member)

section Supply

variable (honest : oracle.Honest content) (obliging : oracle.Obliging)
  (usable : p.sealingKey = .ok key) (wanted : s.cancelRequested = false)
  (absent : (s.keyBound index m).book.keyring.bundle = none) {bundle : KeyBundle}
  (opened : (content before).bundle key = .ok bundle)

include honest obliging usable wanted absent opened

theorem takes_maintain_opened
    (taken : (maintain p key index m).Takes oracle.alone s before exchanges ending after) :
    ∃ last, ending = .returned () last ∧
      Supplied p key s (s.keyBound index m).book.keyring m bundle (content before) exchanges last := by
  have passed : ¬s.cancelRequested = true := Bool.eq_false_iff.mp wanted
  rw [maintain, takes_checkpoint_bind, if_neg passed] at taken
  obtain ⟨inner, middle, head, tail, secured, rfl, concluded⟩ := taken.split
  obtain ⟨rest, rfl, fetched⟩ := (takes_secureKeys_absent usable absent).mp secured
  simp only [Oracle.toOracle_alone, Oracle.touch_alone, honest.bundleFrom, opened] at fetched
  obtain ⟨rfl, rfl, rfl⟩ := fetched
  obtain ⟨last, rfl, delivered⟩ :=
    takes_conclude (s := (s.keyBound index m).withKeyring _) obliging wanted rfl concluded
  exact ⟨last, rfl, opened, _, tail, rfl, rfl, delivered.of_entering⟩

theorem takes_renewal_opened
    (taken : ((do
        enter .keyRefresh
        bindKeys index m
        refreshKeys p
        return m : Program Session GlobalMetadata) >>= conclude p index).Takes oracle.alone s before
      exchanges ending after) :
    ∃ last, ending = .returned () last ∧
      Supplied p key s (s.keyBound index m).book.keyring m bundle (content before) exchanges last := by
  obtain ⟨inner, middle, head, tail, secured, rfl, concluded⟩ := taken.split
  rw [takes_keyBound_bind] at secured
  have bound : (s.keyBound index m).book.keyring.epoch = some m.syncId := Keyring.epoch_rebind ..
  obtain ⟨refreshed, _, _, _, fetching, rfl, returning⟩ := secured.split
  obtain ⟨rfl, rfl, rfl⟩ := (takes_refreshKeys_absent usable absent bound).mp fetching
  simp only [Oracle.toOracle_alone, Oracle.touch_alone, honest.bundleFrom, opened, refreshed]
    at returning
  obtain ⟨rfl, rfl, rfl⟩ := Program.takes_pure.mp returning
  obtain ⟨last, rfl, delivered⟩ :=
    takes_conclude (s := (s.keyBound index m).withKeyring _) obliging wanted rfl concluded
  exact ⟨last, rfl, opened, _, tail, rfl, rfl, delivered.of_entering⟩

end Supply

/-- A cycle that makes a fresh start and then delivers the keys that are now on the server. -/
inductive Renewed (p : Profile) (key : Key) (s : Session) (st : Storage) :
    List (Exchange Session) → Ending Session Unit → Prop where
  | intro (reason : FreshStartReason) (m : GlobalMetadata) (k : Keyring) (bundle : KeyBundle)
      (fresh tail : List (Exchange Session)) (last : Session)
      (wiped : Wipes fresh) (undelegated : ∀ x ∈ fresh, x.request.isSynchronize = false)
      (resets : ∀ c ∈ s.synchronizers, ∃ x ∈ fresh, x.request = .resetClient c)
      (sound : st.Sound p.config.storageVersion key m)
      (supplied : Supplied p key (s.startingAfresh reason) k m bundle st tail last) :
      Renewed p key s st (fresh ++ tail) (.returned () last)

theorem Supplied.congr {k : Keyring} {bundle : KeyBundle} {st other : Storage} {last : Session}
    (supplied : Supplied p key s k m bundle other exchanges last)
    (same : st.SameBookkeeping other) : Supplied p key s k m bundle st exchanges last :=
  ⟨(Storage.bundle_congr same key).trans supplied.opened, supplied.fetched⟩

/-- It makes no difference to what is supplied what the session knew before. -/
theorem Supplied.of_withBook {book : Bookkeeping} {k : Keyring} {bundle : KeyBundle} {st : Storage}
    {last : Session} (supplied : Supplied p key (s.withBook book) k m bundle st exchanges last) :
    Supplied p key s k m bundle st exchanges last := by
  obtain ⟨opened, x, rest, split, request, delivered⟩ := supplied
  exact ⟨opened, x, rest, split, request, delivered.handed, delivered.keyring, delivered.epoch,
    delivered.freshStart, delivered.epochChanged, delivered.named⟩

section Renewal

variable (faithful : oracle.Faithful content) (fits : p.config.Fits)

include faithful fits

theorem takes_renewing {reason : FreshStartReason} {next : GlobalMetadata → Program Session Unit}
    (supplies : ∀ m bundle world tail ending,
      let t := (s.startingAfresh reason).withBook ⟨.empty, .empty⟩
      (content world).bundle key = .ok bundle →
      (next m).Takes oracle.alone t world tail ending after →
      ∃ k last, ending = .returned () last ∧
        Supplied p key t k m bundle (content world) tail last)
    (taken : (freshStart p key reason >>= next).Takes oracle.alone s before exchanges ending after) :
    Renewed p key s (content after) exchanges ending := by
  obtain ⟨inner, middle, fresh, tail, renewing, rfl, continued⟩ := taken.split
  obtain ⟨wiped, undelegated⟩ := freshStart_requests renewing
  obtain ⟨m, rfl, sound, resets⟩ := takes_freshStart_faithful faithful fits renewing
  obtain ⟨bundle, opened⟩ := sound.keys
  obtain ⟨k, last, rfl, supplied⟩ := supplies m bundle middle tail ending opened continued
  have same : (content after).SameBookkeeping (content middle) := by
    rw [Program.Takes.world_eq continued]
    exact faithful.quiet supplied.quiet
  exact .intro reason m k bundle fresh tail last wiped undelegated resets (sound.congr same)
    (supplied.congr same).of_withBook

variable (usable : p.sealingKey = .ok key) (wanted : s.cancelRequested = false)

include usable wanted

theorem takes_settleEpoch_diverged {reason : FreshStartReason}
    (taken : (settleEpoch p key (.diverged reason) >>= maintain p key index).Takes oracle.alone s
      before exchanges ending after) : Renewed p key s (content after) exchanges ending := by
  refine takes_renewing faithful fits (fun m bundle world tail ending => ?_) taken
  intro t opened maintained
  exact ⟨_, takes_maintain_opened (s := t) faithful.toHonest faithful.obliging usable wanted
    (Keyring.bundle_rebind_of_none rfl _ _) opened maintained⟩

theorem takes_renewKeys
    (taken : (renewKeys p key index >>= conclude p index).Takes oracle.alone s before exchanges
      ending after) : Renewed p key s (content after) exchanges ending := by
  rw [renewKeys, bind_assoc] at taken
  refine takes_renewing faithful fits (fun m bundle world tail ending => ?_) taken
  intro t opened renewed
  exact ⟨_, takes_renewal_opened (s := t) faithful.toHonest faithful.obliging usable wanted
    (Keyring.bundle_rebind_of_none rfl _ _) opened renewed⟩

end Renewal

/-! ## Securing the keys of an epoch -/

/-- How a cycle goes on once the epoch is settled, if no fresh start has been made before. -/
inductive Maintained (p : Profile) (key : Key) (index : CollectionIndex) (s : Session)
    (m : GlobalMetadata) (old new : Storage) :
    List (Exchange Session) → Ending Session Unit → Prop where
  | cached (bundle : KeyBundle) (exchanges : List (Exchange Session)) (last : Session)
      (held : (s.keyBound index m).book.keyring.bundle = some bundle)
      (delivered : Delivered s (s.keyBound index m).book.keyring m bundle exchanges last) :
      Maintained p key index s m old new exchanges (.returned () last)
  | fetched (bundle : KeyBundle) (exchanges : List (Exchange Session)) (last : Session)
      (absent : (s.keyBound index m).book.keyring.bundle = none)
      (supplied : Supplied p key s (s.keyBound index m).book.keyring m bundle old exchanges last) :
      Maintained p key index s m old new exchanges (.returned () last)
  | locked (x : Exchange Session) (last : Session)
      (absent : (s.keyBound index m).book.keyring.bundle = none)
      (request : x.request = bundleRequest p.limit)
      (failed : old.bundle key = .error .decryptFailed) :
      Maintained p key index s m old new [x] (.failed .decryptFailed last)
  | renewed (x : Exchange Session) (rest : List (Exchange Session)) (ending : Ending Session Unit)
      (e : SyncError) (absent : (s.keyBound index m).book.keyring.bundle = none)
      (request : x.request = bundleRequest p.limit)
      (failed : old.bundle key = .error e) (unusable : e.Unusable)
      (renewed : Renewed p key (s.keyBound index m) new rest ending) :
      Maintained p key index s m old new (x :: rest) ending

theorem Maintained.congr {index : CollectionIndex} {st old new : Storage}
    (maintained : Maintained p key index s m old new exchanges ending)
    (same : st.SameBookkeeping old) : Maintained p key index s m st new exchanges ending := by
  have found := Storage.bundle_congr same key
  cases maintained with
  | cached bundle exchanges last held delivered => exact .cached bundle _ last held delivered
  | fetched bundle exchanges last absent supplied =>
      exact .fetched bundle _ last absent (supplied.congr same)
  | locked x last absent request failed =>
      exact .locked x last absent request (found.trans failed)
  | renewed x rest ending e absent request failed unusable renewed =>
      exact .renewed x rest ending e absent request (found.trans failed) unusable renewed

/-- With its keys at hand a cycle asks for no others. -/
theorem takes_maintain_cached (obliging : oracle.Obliging) (usable : p.sealingKey = .ok key)
    (wanted : s.cancelRequested = false) {bundle : KeyBundle}
    (held : (s.keyBound index m).book.keyring.bundle = some bundle)
    (taken : (maintain p key index m).Takes oracle.alone s before exchanges ending after) :
    ∃ last, ending = .returned () last ∧
      Delivered s (s.keyBound index m).book.keyring m bundle exchanges last := by
  have loaded : (s.keyBound index m).book.keyring.isLoaded = true := by
    simp [Keyring.isLoaded, held]
  have passed : ¬s.cancelRequested = true := Bool.eq_false_iff.mp wanted
  rw [maintain, takes_checkpoint_bind, if_neg passed] at taken
  obtain ⟨inner, middle, head, tail, secured, rfl, concluded⟩ := taken.split
  obtain ⟨rfl, rfl, rfl⟩ := (takes_secureKeys_loaded usable loaded).mp secured
  obtain ⟨last, rfl, delivered⟩ :=
    takes_conclude (s := s.keyBound index m) obliging wanted held concluded
  exact ⟨last, rfl, delivered.of_entering⟩

theorem takes_maintain_faithful (faithful : oracle.Faithful content) (fits : p.config.Fits)
    (usable : p.sealingKey = .ok key) (wanted : s.cancelRequested = false)
    (fresh : s.performedFreshStart = false)
    (taken : (maintain p key index m).Takes oracle.alone s before exchanges ending after) :
    Maintained p key index s m (content before) (content after) exchanges ending := by
  cases held : (s.keyBound index m).book.keyring.bundle with
  | some bundle =>
      obtain ⟨last, rfl, delivered⟩ :=
        takes_maintain_cached faithful.obliging usable wanted held taken
      exact .cached bundle exchanges last held delivered
  | none =>
      cases found : (content before).bundle key with
      | ok bundle =>
          obtain ⟨last, rfl, supplied⟩ := takes_maintain_opened faithful.toHonest
            faithful.obliging usable wanted held found taken
          exact .fetched bundle exchanges last held supplied
      | error e =>
          have passed : ¬s.cancelRequested = true := Bool.eq_false_iff.mp wanted
          rw [maintain, takes_checkpoint_bind, if_neg passed] at taken
          obtain ⟨inner, middle, head, tail, secured, rfl, concluded⟩ := taken.split
          obtain ⟨rest, rfl, handling⟩ := (takes_secureKeys_absent usable held).mp secured
          simp only [Oracle.toOracle_alone, Oracle.touch_alone, faithful.bundleFrom, found,
            takes_handleKeyFailure] at handling
          split at handling
          · rename_i due
            exact .renewed _ _ ending e held rfl found due.1
              (takes_renewKeys (s := s.keyBound index m) faithful fits usable wanted
                (.join concluded handling))
          · rename_i passed
            obtain ⟨rfl, rfl, rfl⟩ := handling
            obtain ⟨rfl, rfl, rfl⟩ := concluded
            have unmade : (s.keyBound index m).performedFreshStart = false := by
              simpa [keyBound] using fresh
            rcases Storage.bundle_error found with unusable | rfl
            · exact absurd ⟨unusable, unmade⟩ passed
            · exact .locked _ _ held rfl found

/-- Where an epoch is found, its resets come first. -/
theorem takes_current_faithful (faithful : oracle.Faithful content) (fits : p.config.Fits)
    (usable : p.sealingKey = .ok key) (wanted : s.cancelRequested = false)
    (fresh : s.performedFreshStart = false) {st : Storage}
    (same : (content before).SameBookkeeping st)
    (taken : (settleEpoch p key (.current m) >>= maintain p key index).Takes oracle.alone s before
      exchanges ending after) :
    ∃ resets rest, exchanges = resets ++ rest ∧ resets.map (·.request) = s.settleRequests m ∧
      Maintained p key index (s.settled m) m st (content after) rest ending := by
  obtain ⟨resets, rest, rfl, requests, maintaining⟩ :=
    takes_settleEpoch_current faithful.obliging taken
  have reset : (content (oracle.world before resets)).SameBookkeeping (content before) :=
    faithful.quiet (Exchange.forall_of_requests requests isWrite_settleRequests)
  have maintained := takes_maintain_faithful faithful fits usable
    ((cancelRequested_settled s m).trans wanted) ((performedFreshStart_settled s m).trans fresh)
    maintaining
  exact ⟨resets, rest, rfl, requests, maintained.congr (reset.trans same).symm⟩

/-! ## The cycle as a whole -/

section Sync

variable (faithful : oracle.Faithful content) (fits : p.config.Fits)
  (usable : p.sealingKey = .ok key) (idle : s.isSyncing = false)
  {ending : Ending Session CycleReport}

include faithful fits usable idle

/-- Where the server's state is diverged, a cycle makes a fresh start. -/
theorem sync_diverged {reason : FreshStartReason}
    (diverged : (content before).evaluated p.config.storageVersion = .ok (.diverged reason))
    (taken : (sync p).Takes oracle.alone s before exchanges ending after) :
    ∃ opening rest inner, exchanges = opening ++ rest ∧ ending = closed inner ∧
      (content before).Prelude p.limit (opening.map (·.request)) ∧
      Renewed p key s.evaluating.keyed (content after) rest inner := by
  obtain ⟨inner, opening, rest, rfl, rfl, prelude, continued⟩ :=
    takes_sync_honest faithful.toHonest idle usable taken
  simp only [diverged] at continued
  exact ⟨opening, rest, inner, rfl, rfl, prelude,
    takes_settleEpoch_diverged (s := s.evaluating.keyed) faithful fits usable rfl continued⟩

/-- Where an epoch is found, a cycle resets for it if it is a new one, and secures its keys. -/
theorem sync_current
    (current : (content before).evaluated p.config.storageVersion = .ok (.current m))
    (taken : (sync p).Takes oracle.alone s before exchanges ending after) :
    ∃ opening resets rest inner, exchanges = opening ++ (resets ++ rest) ∧ ending = closed inner ∧
      (content before).Prelude p.limit (opening.map (·.request)) ∧
      resets.map (·.request) = s.evaluating.settleRequests m ∧
      Maintained p key (content before).index (s.evaluating.keyed.settled m) m (content before)
        (content after) rest inner := by
  obtain ⟨inner, opening, rest, rfl, rfl, prelude, continued⟩ :=
    takes_sync_honest faithful.toHonest idle usable taken
  simp only [current] at continued
  have read : (content (oracle.world before opening)).SameBookkeeping (content before) :=
    faithful.quiet (Exchange.forall_of_requests rfl prelude.isWrite_eq_false)
  obtain ⟨resets, rest, rfl, requests, maintained⟩ :=
    takes_current_faithful (s := s.evaluating.keyed) faithful fits usable rfl rfl read continued
  exact ⟨opening, resets, rest, inner, rfl, rfl, prelude, requests, maintained⟩

omit fits in
/-- Where the evaluation fails, a cycle fails with it. -/
theorem sync_unevaluated {e : SyncError}
    (failed : (content before).evaluated p.config.storageVersion = .error e)
    (taken : (sync p).Takes oracle.alone s before exchanges ending after) :
    ending = .failed e s.evaluating.resting := by
  obtain ⟨inner, opening, rest, rfl, rfl, prelude, continued⟩ :=
    takes_sync_honest faithful.toHonest idle usable taken
  simp only [failed] at continued
  obtain ⟨rfl, rfl⟩ := continued
  rfl

end Sync

end Session

end SealedSync
