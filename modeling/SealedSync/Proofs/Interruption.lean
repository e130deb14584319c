import SealedSync.Proofs.Convergence
import SealedSync.Proofs.Recall
import SealedSync.Proofs.Registration

/-!
# Interrupted fresh starts

A fresh start may fail at any of its steps. It leaves a server that needs a fresh start again, or one
that is in the new epoch with its keys; which of the two it is depends only on whether the metadata of the
new epoch have reached the server. What the session and its file know is then what they knew before, or
nothing.
-/
namespace SealedSync

open Session

/-- The metadata, or the keys as far as a keyring lacks them, are of no use. -/
inductive Storage.NeedsRenewal (st : Storage) (p : Profile) (key : Key) (k : Keyring) : Prop where
  | diverged (reason : FreshStartReason)
      (evaluated : st.evaluated p.config.storageVersion = .ok (.diverged reason))
  | keyless (m : GlobalMetadata) (e : SyncError)
      (evaluated : st.evaluated p.config.storageVersion = .ok (.current m))
      (failed : st.bundle key = .error e) (unusable : e.Unusable) (absent : k.bundle = none)

namespace Storage.NeedsRenewal

variable {st other : Storage} {p : Profile} {key : Key} {k l : Keyring}

theorem congr (needs : other.NeedsRenewal p key k) (same : st.SameBookkeeping other) :
    st.NeedsRenewal p key k := by
  have evaluations := evaluated_congr same p.config.storageVersion
  cases needs with
  | diverged reason evaluated => exact .diverged reason (evaluations.trans evaluated)
  | keyless m e evaluated failed unusable absent =>
      exact .keyless m e (evaluations.trans evaluated) ((bundle_congr same key).trans failed) unusable
        absent

/-- A keyring that holds no more keys makes no difference. -/
theorem bereft (needs : st.NeedsRenewal p key k) (absent : k.bundle = none → l.bundle = none) :
    st.NeedsRenewal p key l := by
  cases needs with
  | diverged reason evaluated => exact .diverged reason evaluated
  | keyless m e evaluated failed unusable none =>
      exact .keyless m e evaluated failed unusable (absent none)

/-- Without metadata there is need of a fresh start. -/
theorem of_missing (absent : SameIn metaCollection st empty) : st.NeedsRenewal p key k := by
  have unlisted : st.index.contains metaCollection = false := by
    rw [CollectionIndex.contains_eq, absent.1]
    rfl
  have evaluation : st.index.evaluate = .needsFreshStart .missingMetadata := by
    unfold CollectionIndex.evaluate
    rw [unlisted]
    rfl
  refine .diverged .missingMetadata ?_
  unfold evaluated
  rw [evaluation]

end Storage.NeedsRenewal

/-- The request changes neither the server nor a file. -/
structure Request.Harmless (r : Request) : Prop where
  server : r.isWrite = false
  files : r.isFileWrite = false

theorem Storage.Prelude.harmless {st : Storage} {limit : Duration} {requests : List Request}
    (prelude : st.Prelude limit requests) : ∀ r ∈ requests, r.Harmless := by
  intro r listed
  rcases prelude.cases listed with rfl | rfl | rfl <;> exact ⟨rfl, rfl⟩

namespace Session

open RemoteState FreshStart

variable {ω : Type} {oracle : Oracle ω} {content : ω → Storage} {before after : ω}
  {xs : List (Exchange Session)} {p : Profile} {s t : Session} {key : Key} {index : CollectionIndex}
  {m : GlobalMetadata}

/-! ## Where a cycle fails -/

/-- A running cycle that is not at its fresh start. -/
structure Elsewhere (s : Session) : Prop where
  running : s.isSyncing = true
  state : s.state ≠ .freshStart

theorem elsewhere_keyBound (running : s.isSyncing = true) : Elsewhere (s.keyBound index m) where
  running := (isSyncing_keyBound s index m).trans running
  state := by
    have entered : (s.keyBound index m).state = .keyRefresh := state_entering running .keyRefresh
    rw [entered]
    decide

/-- Once the keys are at hand, no fresh start is made. -/
theorem conclude_elsewhere (elsewhere : Elsewhere s) {ending : Ending Session Unit}
    (taken : (conclude p index m).Takes oracle.alone s before xs ending after) :
    Elsewhere ending.state := by
  have kept : (conclude p index m).Keeps Elsewhere fun _ => True := by
    refine keeps_conclude (fun name => ?_) ?_ (fun _ _ => trivial) ?_ (fun _ _ holds => ⟨holds.1, holds.2⟩)
      index m
    · exact keeps_onKeyring (Keyring.keeps_keyFor trivial name) fun _ _ holds => ⟨holds.1, holds.2⟩
    · intro u f unchanged holds
      constructor
      · exact (isSyncing_withReport u).trans holds.running
      · rw [state_withReport fun r => (unchanged r).2.1]
        exact holds.state
    · intro u holds
      constructor
      · exact (isSyncing_entering u .delegating).trans holds.running
      · rw [state_entering holds.running]
        decide
  exact (kept.takes elsewhere (fun _ _ _ holds => holds) taken).2

/-- To refresh the keys is to have left the fresh start. -/
theorem refreshed_elsewhere (running : s.isSyncing = true) {ending : Ending Session GlobalMetadata}
    (taken : (do
      enter .keyRefresh
      bindKeys index m
      refreshKeys p
      return m : Program Session GlobalMetadata).Takes oracle.alone s before xs ending after) :
    Elsewhere ending.state := by
  rw [takes_keyBound_bind] at taken
  have kept : (refreshKeys p >>= fun _ => pure m : Program Session GlobalMetadata).Keeps Elsewhere
      fun _ => True := by
    refine .bind ?_ fun _ => .pure _
    exact keeps_onKeyring (Keyring.keeps_refresh trivial) fun _ _ holds => ⟨holds.1, holds.2⟩
  exact (kept.takes (elsewhere_keyBound running) (fun _ _ _ holds => holds) taken).2

/-- A fresh start that returns has forgotten everything local. -/
theorem Renewal.forgotten {old new : Storage} {ending : Ending Session GlobalMetadata}
    (renewal : Renewal oracle p key s old new xs ending) {last : Session}
    (returned : ending = .returned m last) : last = s.withBook ⟨.empty, .empty⟩ := by
  cases renewal with
  | unwiped e same unstored refused => cases returned
  | missing e absent refused => cases returned
  | unconfirmed m' e sound drawn reached refused => cases returned
  | confirmed m' result sound drawn reached resets succeeded =>
      exact (Ending.of_returned_eq_ofExcept returned.symm).2

/-- The bundle that is fetched is of no use, and the fresh start that this leads to fails. -/
inductive Keyless (oracle : Oracle ω) (content : ω → Storage) (p : Profile) (key : Key)
    (index : CollectionIndex) (m : GlobalMetadata) (s : Session) (before : ω) (e : SyncError)
    (t : Session) (after : ω) : List (Exchange Session) → Prop
  | intro {x : Exchange Session} {tail : List (Exchange Session)} {cause : SyncError}
      (request : x.request = bundleRequest p.limit)
      (failed : (content before).bundle key = .error cause) (unusable : cause.Unusable)
      (absent : (s.keyBound index m).book.keyring.bundle = none)
      (unmade : s.performedFreshStart = false)
      (renewing : (freshStart p key .unusableKeys).Takes oracle.alone (s.keyBound index m)
        (oracle.next (bundleRequest p.limit) before) tail (.failed e t) after) :
      Keyless oracle content p key index m s before e t after (x :: tail)

section Honest

variable (honest : oracle.Honest content) (fits : p.config.Fits)

include honest fits

/-- A renewal of the keys ends outside its fresh start, unless that fails. -/
theorem renewKeys_interrupted (running : s.isSyncing = true)
    {ending : Ending Session GlobalMetadata}
    (taken : (renewKeys p key index).Takes oracle.alone s before xs ending after) :
    Elsewhere ending.state ∨ ∃ e t, ending = .failed e t ∧
      (freshStart p key .unusableKeys).Takes oracle.alone s before xs (.failed e t) after := by
  obtain ⟨renewed, world, fresh, tail, renewing, rfl, refreshing⟩ := Program.Takes.split taken
  cases renewed with
  | failed e t =>
      obtain ⟨rfl, rfl, rfl⟩ := refreshing
      rw [List.append_nil]
      exact .inr ⟨e, t, rfl, renewing⟩
  | returned m t =>
      have forgotten := (freshStart_honest honest fits renewing).forgotten rfl
      have running : t.isSyncing = true := by
        rw [forgotten]
        exact isSyncing_startingAfresh running .unusableKeys
      exact .inl (refreshed_elsewhere running refreshing)

/-- To secure the keys ends outside a fresh start, unless one fails that is made for want of keys. -/
theorem secureKeys_interrupted (usable : p.sealingKey = .ok key) (running : s.isSyncing = true)
    {ending : Ending Session GlobalMetadata}
    (taken : (secureKeys p key index m).Takes oracle.alone s before xs ending after) :
    Elsewhere ending.state ∨ ∃ e t, ending = .failed e t ∧
      Keyless oracle content p key index m s before e t after xs := by
  have bound : Elsewhere (s.keyBound index m) := elsewhere_keyBound running
  cases secured_of_takes usable taken with
  | cached bundle held => exact .inl bound
  | fetched t bundle fetching absent opened =>
      subst fetching
      exact .inl ⟨bound.running, bound.state⟩
  | renewed t cause rest ending after fetching absent failed unusable unmade renewing =>
      subst fetching
      rw [Oracle.toOracle_alone, honest.bundleFrom] at failed
      refine (renewKeys_interrupted honest fits bound.running renewing).imp_right ?_
      rintro ⟨e, t, rfl, begun⟩
      exact ⟨e, t, rfl, .intro rfl failed unusable absent (by simpa [keyBound] using unmade) begun⟩
  | refused t cause fetching absent failed passed =>
      subst fetching
      exact .inl bound

/-- If a cycle fails in a fresh start once its epoch is settled, then for want of keys. -/
theorem maintain_interrupted (usable : p.sealingKey = .ok key) (wanted : s.cancelRequested = false)
    (running : s.isSyncing = true) {e : SyncError}
    (taken : (maintain p key index m).Takes oracle.alone s before xs (.failed e t) after)
    (unfinished : t.state = .freshStart) :
    Keyless oracle content p key index m s before e t after xs := by
  have passed : ¬s.cancelRequested = true := Bool.eq_false_iff.mp wanted
  rw [maintain, takes_checkpoint_bind, if_neg passed] at taken
  obtain ⟨inner, middle, head, tail, securing, rfl, concluding⟩ := taken.split
  have interrupted := secureKeys_interrupted honest fits usable running securing
  cases inner with
  | failed cause u =>
      obtain ⟨rfl, same, rfl⟩ := concluding
      obtain ⟨rfl, rfl⟩ := Ending.failed.inj same
      rw [List.append_nil]
      rcases interrupted with elsewhere | ⟨_, _, same, keyless⟩
      · exact absurd unfinished elsewhere.state
      · obtain ⟨rfl, rfl⟩ := Ending.failed.inj same
        exact keyless
  | returned m' u =>
      rcases interrupted with elsewhere | ⟨_, _, same, -⟩
      · exact absurd unfinished (conclude_elsewhere elsewhere concluding).state
      · cases same

end Honest

/-! ## The interrupted cycle -/

/-- A cycle wipes the server, or tries to, and fails in the fresh start that it has begun so. -/
structure Interrupted (oracle : Oracle ω) (p : Profile) (s : Session) (before : ω)
    (xs : List (Exchange Session)) (t : Session) (after : ω) : Prop where
  idle : s.isSyncing = false
  begun : Wipes xs
  failed : ∃ e, (runCycle p).Takes oracle.alone s.starting before xs (.failed e t) after
  unfinished : t.state = .freshStart

/-- A session that reads the server's state has the records that it had. -/
structure Evaluating (s u : Session) : Prop where
  localState : u.book.localState = s.book.localState
  running : u.isSyncing = true
  state : u.state = .evaluating
  wanted : u.cancelRequested = false

section Honest

variable {u : Session} {e : SyncError} (honest : oracle.Honest content) (fits : p.config.Fits)

include honest fits

/-- If a cycle that has to start afresh fails in a fresh start, then in that one. -/
theorem diverged_interrupted {reason : FreshStartReason} (usable : p.sealingKey = .ok key)
    (evaluating : Evaluating s u)
    (taken : (settleEpoch p key (.diverged reason) >>= maintain p key index).Takes oracle.alone u before
      xs (.failed e t) after) (unfinished : t.state = .freshStart) :
    (freshStart p key reason).Takes oracle.alone u before xs (.failed e t) after := by
  obtain ⟨inner, middle, first, tail, settling, rfl, maintaining⟩ := taken.split
  have renewing : (freshStart p key reason).Takes oracle.alone u before first inner middle := settling
  cases inner with
  | failed cause v =>
      obtain ⟨rfl, same, rfl⟩ := maintaining
      obtain ⟨rfl, rfl⟩ := Ending.failed.inj same
      rw [List.append_nil]
      exact renewing
  | returned m v =>
      -- The fresh start has ended, and the cycle makes no other.
      have forgotten := (freshStart_honest honest fits renewing).forgotten rfl
      have running : v.isSyncing = true := by
        rw [forgotten]
        exact isSyncing_startingAfresh evaluating.running reason
      have afresh : v.performedFreshStart = true := by
        rw [forgotten]
        exact afresh_startingAfresh reason evaluating.running
      have wanted : v.cancelRequested = false := by
        rw [forgotten]
        exact evaluating.wanted
      obtain ⟨-, -, -, -, unmade, -⟩ :=
        maintain_interrupted honest fits usable wanted running maintaining unfinished
      cases unmade.symm.trans afresh

/-- If a cycle that has metadata to go by fails in a fresh start, then for want of keys. -/
theorem current_interrupted (usable : p.sealingKey = .ok key) (evaluating : Evaluating s u)
    (taken : (settleEpoch p key (.current m) >>= maintain p key index).Takes oracle.alone u before
      xs (.failed e t) after) (unfinished : t.state = .freshStart) :
    ∃ head tail v cause, xs = head ++ tail ∧ (∀ x ∈ head, x.request.Harmless) ∧
      v.book.localState = s.book.localState ∧ (content before).bundle key = .error cause ∧
      cause.Unusable ∧ v.book.keyring.bundle = none ∧
      (freshStart p key .unusableKeys).Takes oracle.alone v (oracle.world before head) tail (.failed e t)
        after := by
  rw [settleEpoch_current_bind] at taken
  obtain ⟨inner, middle, resets, tail, observing, rfl, maintaining⟩ := taken.split
  have kept : (observeEpoch m).Keeps (Evaluating s) Request.Harmless := by
    refine (sustains_observeEpoch (Program.stable_leaving _) (fun _ => ⟨rfl, rfl⟩) ?_ m).keeps
    intro _ v holds
    have state : v.forgetting.state = v.state :=
      state_withReport (f := fun r => { r with epochChanged := true }) (fun _ => rfl) v
    exact ⟨holds.localState, (isSyncing_withReport v).trans holds.running,
      state.trans holds.state, holds.wanted⟩
  obtain ⟨reset, observed⟩ := kept.takes evaluating (fun _ _ _ holds => holds) observing
  have harmless : ∀ x ∈ resets, x.request.Harmless := fun x member => (reset x member).2.1
  cases inner with
  | failed cause v =>
      obtain ⟨rfl, same, rfl⟩ := maintaining
      obtain ⟨rfl, rfl⟩ := Ending.failed.inj same
      cases observed.state.symm.trans unfinished
  | returned _ v =>
      obtain ⟨request, failed, unusable, absent, -, renewing⟩ :=
        maintain_interrupted honest fits usable observed.wanted observed.running maintaining unfinished
      rename_i x rest cause
      obtain rfl := observing.world_eq
      have unwritten : (content (oracle.world before resets)).SameBookkeeping (content before) :=
        honest.quiet fun y member => (harmless y member).server
      have fetched : x.request.Harmless := by
        rw [request]
        exact ⟨rfl, rfl⟩
      have world : oracle.world before (resets ++ [x]) =
          oracle.next (bundleRequest p.limit) (oracle.world before resets) := by
        rw [Oracle.world_append, ← request]
        rfl
      rw [Oracle.toOracle_alone, ← world] at renewing
      exact ⟨resets ++ [x], rest, v.keyBound index m, cause, List.append_cons ..,
        List.forall_mem_append.mpr ⟨harmless, List.forall_mem_singleton.mpr fetched⟩,
        observed.localState, (Storage.bundle_congr unwritten key).symm.trans failed, unusable, absent,
        renewing⟩

end Honest

/-- What is found after a fresh start that failed. -/
inductive Aftermath (p : Profile) (key : Key) (t : Session) (xs : List (Exchange Session))
    (st : Storage) : Prop where
  | unpublished (needs : st.NeedsRenewal p key t.book.keyring) (unreached : ¬MetadataReached xs st)
  | published (m : GlobalMetadata) (sound : st.Sound p.config.storageVersion key m)
      (drawn : ∃ x ∈ xs, x.DrawsEpoch m.syncId) (reached : MetadataReached xs st)

section Files

variable {files : ω → String → Option (List UInt8)} (keeping : oracle.Files files)

include keeping

/-- A fresh start writes no file before it resets what is local, and then saves the empty state. -/
theorem republish_recalls {c : SyncConfig} {synchronizers : List Synchronizer} {book : Bookkeeping}
    {called : List (Exchange Bookkeeping)} {ending : Ending Bookkeeping GlobalMetadata}
    (taken : (republish (.ofConfig c) key synchronizers).Takes oracle.alone book before called ending
      after) : StateFile.RecallsAtMost c.statePath (files before) (files after) := by
  rw [republish_eq] at taken
  obtain ⟨published, middle, publishing, resetting, publication, rfl, continued⟩ := taken.split
  obtain rfl : middle = oracle.world before publishing := publication.world_eq
  have unwritten : files (oracle.world before publishing) = files before := by
    have kept : (publishAnew (.ofConfig c) key : Program Bookkeeping _).Keeps (fun _ => True)
        fun r => r.isFileWrite = false :=
      keeps_publishAnew (fun _ => Request.isFileWrite_eq_false_of_isPublication) _ _
    have asked := (kept.takes trivial (fun _ _ _ _ => trivial) publication).1
    exact keeping.quiet fun x member => (asked x member).2.1
  cases published with
  | failed e book =>
      obtain ⟨-, -, rfl⟩ := continued
      exact StateFile.recallsAtMost_of_eq unwritten
  | returned m book =>
      obtain ⟨told, last, head, tail, forgetting, rfl, closing⟩ := Program.Takes.split continued
      obtain ⟨resets, saves, saving, rfl, requests, -, saved, rfl, -⟩ := takes_resetLocal forgetting
      generalize concluded (resets.filterMap (·.resetFailure) ++ saveFailures saving) = result at closing
      have reset : files (oracle.world (oracle.world before publishing) resets) = files before := by
        have unfiled : ∀ r ∈ synchronizers.map Request.resetClient, r.isFileWrite = false := by
          intro r listed
          obtain ⟨c, -, rfl⟩ := List.mem_map.mp listed
          rfl
        exact (keeping.quiet (Exchange.forall_of_requests requests unfiled)).trans unwritten
      have recalls := keeping.takes_save_empty saved
      rw [reset] at recalls
      have ended : after = last := by
        cases result with
        | ok _ =>
            have closing := Program.takes_note_bind.mp closing
            exact (Program.takes_pure.mp closing).2.2
        | error e => exact closing.2.2
      rw [ended]
      exact recalls

/-- Whatever becomes of a fresh start, the state file recalls no other epoch. -/
theorem freshStart_recalls {reason : FreshStartReason} {ending : Ending Session GlobalMetadata}
    (taken : (freshStart p key reason).Takes oracle.alone s before xs ending after) :
    StateFile.RecallsAtMost p.config.statePath (files before) (files after) := by
  obtain ⟨rest, rfl, renewing⟩ := takes_freshStart.mp taken
  simp only [Oracle.toOracle_alone, Oracle.touch_alone] at renewing
  have wiped : files (oracle.next (wipeRequest p.limit) before) = files before := by
    have asked : ∀ x ∈ [oracle.alone.exchange (wipeRequest p.limit) s before],
        x.request.isFileWrite = false := List.forall_mem_singleton.mpr rfl
    exact keeping.quiet asked
  split at renewing
  · obtain ⟨called, inner, republishing, -, -⟩ := takes_onBook renewing
    rw [← wiped]
    exact republish_recalls keeping republishing
  · obtain ⟨-, -, rfl⟩ := renewing
    exact StateFile.recallsAtMost_of_eq wiped

end Files

namespace Interrupted

variable (interrupted : Interrupted oracle p s before xs t after)

include interrupted

theorem sync : ∃ e, (sync p).Takes oracle.alone s before xs (.failed e t.resting) after := by
  obtain ⟨e, run⟩ := interrupted.failed
  exact ⟨e, (takes_sync interrupted.idle).mpr ⟨_, run, rfl⟩⟩

/-- Before its fresh start the cycle has only read and reset, and there was need of the fresh start. -/
theorem freshStart (honest : oracle.Honest content) (fits : p.config.Fits) :
    ∃ key head tail u reason e, p.sealingKey = .ok key ∧ xs = head ++ tail ∧
      (∀ x ∈ head, x.request.Harmless) ∧
      u.book.localState = s.book.localState ∧ (content before).NeedsRenewal p key u.book.keyring ∧
      (freshStart p key reason).Takes oracle.alone u (oracle.world before head) tail (.failed e t)
        after := by
  obtain ⟨e, run⟩ := interrupted.failed
  have unfinished := interrupted.unfinished
  cases usable : p.sealingKey with
  | error cause =>
      obtain ⟨_, taken⟩ := interrupted.sync
      exact absurd interrupted.begun (not_wipes_without_key (onlyCancels_alone oracle) usable taken)
  | ok key =>
      obtain ⟨reads, rest, rfl, prelude, continued⟩ :=
        takes_runCycle_undisturbed honest (fun _ _ _ _ => rfl) usable run
      have evaluating : Evaluating s s.evaluating.keyed := ⟨rfl, rfl, rfl, rfl⟩
      have read : ∀ x ∈ reads, x.request.Harmless :=
        Exchange.forall_of_requests rfl prelude.harmless
      cases evaluation : (content before).evaluated p.config.storageVersion with
      | error cause =>
          simp only [evaluation] at continued
          obtain ⟨-, same⟩ := continued
          obtain ⟨rfl, rfl⟩ := Ending.failed.inj same
          cases evaluating.state.symm.trans unfinished
      | ok evaluated =>
          simp only [evaluation] at continued
          cases evaluated with
          | diverged reason =>
              exact ⟨key, reads, rest, s.evaluating.keyed, reason, e, rfl, rfl, read, rfl,
                .diverged reason evaluation,
                diverged_interrupted honest fits usable evaluating continued unfinished⟩
          | current m =>
              obtain ⟨head, tail, u, cause, rfl, harmless, records, failed, unusable, absent, renewing⟩ :=
                current_interrupted honest fits usable evaluating continued unfinished
              have unwritten : (content (oracle.world before reads)).SameBookkeeping (content before) :=
                honest.quiet fun x member => (read x member).server
              rw [Oracle.toOracle_alone, ← Oracle.world_append] at renewing
              refine ⟨key, reads ++ head, tail, u, .unusableKeys, e, rfl, (List.append_assoc ..).symm,
                List.forall_mem_append.mpr ⟨read, harmless⟩, records, ?_, renewing⟩
              exact .keyless m cause evaluation ((Storage.bundle_congr unwritten key).symm.trans failed)
                unusable absent

/-- If the metadata of the new epoch have reached the server, they are there with their keys. If not,
there is need of a fresh start again. -/
theorem aftermath (honest : oracle.Honest content) (fits : p.config.Fits) :
    ∃ key, p.sealingKey = .ok key ∧ Aftermath p key t xs (content after) ∧
      (t.book.localState = s.book.localState ∨ t.book.localState = .empty) := by
  obtain ⟨key, head, tail, u, reason, e, usable, rfl, harmless, records, needs, renewing⟩ :=
    interrupted.freshStart honest fits
  have renewal := freshStart_honest honest fits renewing
  have quiet : (content (oracle.world before head)).SameBookkeeping (content before) :=
    honest.quiet fun x member => (harmless x member).server
  have contained : tail ⊆ head ++ tail := List.subset_append_right ..
  generalize ended : Ending.failed e t = ending at renewal
  cases renewal with
  | unwiped e' same unstored refused =>
      obtain ⟨rfl, rfl⟩ := Ending.failed.inj ended
      refine ⟨key, usable, .unpublished (needs.congr (same.trans quiet)) ?_, .inl records⟩
      rintro ⟨limit, record, held, ⟨x, member, request⟩, -⟩
      rcases List.mem_append.mp member with member | member
      · have unwritten := (harmless x member).server
        rw [request] at unwritten
        cases unwritten
      · cases request.symm.trans (unstored x member)
  | missing e' absent refused =>
      obtain ⟨rfl, rfl⟩ := Ending.failed.inj ended
      refine ⟨key, usable, .unpublished (.of_missing absent) ?_, .inl records⟩
      rintro ⟨limit, record, held, -, found, -⟩
      rw [absent.2] at found
      cases found
  | unconfirmed m e' sound drawn reached refused =>
      obtain ⟨rfl, rfl⟩ := Ending.failed.inj ended
      obtain ⟨x, member, draws⟩ := drawn
      exact ⟨key, usable, .published m sound ⟨x, contained member, draws⟩ (reached.mono contained),
        .inl records⟩
  | confirmed m result sound drawn reached resets returned =>
      obtain ⟨x, member, draws⟩ := drawn
      have forgotten : t = (u.startingAfresh reason).withBook ⟨.empty, .empty⟩ := by
        cases result with
        | ok _ => cases ended
        | error _ => exact (Ending.failed.inj ended).2
      refine ⟨key, usable, .published m sound ⟨x, contained member, draws⟩ (reached.mono contained), ?_⟩
      rw [forgotten]
      exact .inr rfl

/-- The state file recalls no other epoch. -/
theorem recalls (honest : oracle.Honest content) (fits : p.config.Fits)
    {files : ω → String → Option (List UInt8)} (keeping : oracle.Files files) :
    StateFile.RecallsAtMost p.config.statePath (files before) (files after) := by
  obtain ⟨key, head, tail, u, reason, e, -, -, harmless, -, -, renewing⟩ :=
    interrupted.freshStart honest fits
  have unwritten : files (oracle.world before head) = files before :=
    keeping.quiet fun x member => (harmless x member).files
  rw [← unwritten]
  exact freshStart_recalls keeping renewing

end Interrupted

end Session

end SealedSync
