import SealedSync.Proofs.Sustained

/-!
# Wiping the server

The wipe is the first thing a fresh start asks for, and nothing else in a cycle asks for it. So
whether a cycle wipes is decided by the replies to its reads alone, and what stands before a wipe is
known exchange by exchange.
-/
namespace SealedSync

variable {ω σ α β : Type}

section Keeps

variable {kind : σ → Prop} {allowed : Request → Prop}

theorem StateFile.keeps_save (saving : ∀ r, r.isFileWrite = true → allowed r) (file : StateFile)
    (state : LocalState) : (save file state : Program σ Unit).Keeps kind allowed :=
  (sustains_save (Program.stable_leaving kind) saving file state).keeps

namespace FreshStart

theorem keeps_publishAnew (publishing : ∀ r, r.isPublication = true → allowed r)
    (plan : FreshStartPlan) (sealingKey : Key) :
    (publishAnew plan sealingKey : Program σ _).Keeps kind allowed :=
  (sustains_publishAnew (Program.stable_leaving kind)
    fun r publishes => publishing r publishes.isPublication).keeps

section Resetting

variable (resetting : ∀ c, allowed (.resetClient c))

include resetting

theorem keeps_resetAll (synchronizers : List Synchronizer) :
    (resetAll synchronizers : Program σ _).Keeps kind allowed :=
  (sustains_resetAll (Program.stable_leaving kind) resetting synchronizers).keeps

theorem keeps_resetLocal (saving : ∀ r, r.isFileWrite = true → allowed r) (plan : FreshStartPlan)
    (synchronizers : List Synchronizer) :
    (resetLocal plan synchronizers).Keeps (fun _ => True) allowed := by
  have told (failures : List String) : Program.Keeps (σ := Bookkeeping) (fun _ => True) allowed
      (if failures.isEmpty then return ()
        else Program.fail (.partialFailure .resetLocal (String.intercalate "; " failures))) := by
    split
    · exact .pure _
    · exact .fail _
  refine .bind (fun _ _ => trivial) fun _ => .bind (keeps_resetAll resetting _) fun failures => ?_
  refine .bind (.modify fun _ _ => trivial) fun _ =>
    .bind (StateFile.keeps_save saving _ _).attempt fun saved => ?_
  cases saved with
  | ok _ => exact told _
  | error e => exact .bind (.note _) fun _ => told _

/-- What follows the wipe of a fresh start publishes, resets and saves. -/
theorem keeps_republish (publishing : ∀ r, r.isPublication = true → allowed r)
    (saving : ∀ r, r.isFileWrite = true → allowed r) (plan : FreshStartPlan) (sealingKey : Key)
    (synchronizers : List Synchronizer) :
    (republish plan sealingKey synchronizers).Keeps (fun _ => True) allowed := by
  rw [republish_eq]
  refine .bind (keeps_publishAnew publishing _ _) fun m => ?_
  exact .bind (keeps_resetLocal resetting saving _ _) fun _ => .bind (.note _) fun _ => .pure _

end Resetting

end FreshStart

theorem Keyring.keeps_refresh {access : KeyAccess}
    (permitted : allowed (RemoteState.bundleRequest access.limit)) :
    (refresh access).Keeps (fun _ => True) allowed := by
  refine .bind (.ofExcept _) fun key => .bind .get fun k => ?_
  split
  · exact .pure _
  · split
    · exact .fail _
    · rw [RemoteState.fetchBundle_eq]
      exact .bind (.bind (.request permitted) fun _ => .ofExcept _) fun _ =>
        .bind (.note _) fun _ => .modify fun _ _ => trivial

theorem Keyring.keeps_keyFor {access : KeyAccess}
    (permitted : allowed (RemoteState.bundleRequest access.limit)) (name : String) :
    (keyFor access name).Keeps (fun _ => True) allowed := by
  refine .bind .get fun k => ?_
  split
  · exact .pure _
  · refine .bind (keeps_refresh permitted) fun _ => .bind .get fun k => ?_
    split
    · exact .pure _
    · exact .fail _

end Keeps

namespace Session

open RemoteState FreshStart

section Keeps

variable {kind : Session → Prop} {allowed : Request → Prop} {p : Profile}

theorem keeps_onKeyring {program : Program Keyring α}
    (kept : program.Keeps (fun _ => True) allowed)
    (indifferent : ∀ s keyring, kind s → kind (s.withKeyring keyring)) :
    (onKeyring program).Keeps kind allowed := by
  rw [onKeyring_eq_zoom]
  exact kept.zoom fun keyring s holds => indifferent s keyring holds

/-- A loaded keyring knows every key. -/
theorem keeps_keyFor_loaded (name : String) :
    (onKeyring (Keyring.keyFor p.keyAccess name)).Keeps
      (fun s => s.book.keyring.isLoaded = true) allowed := by
  intro s loaded
  obtain ⟨bundle, found⟩ := Option.isSome_iff_exists.mp loaded
  rw [onKeyring_eq_zoom]
  show (Run.zoom _ _ s (Keyring.keyFor p.keyAccess name s.book.keyring)).Keeps _ _
  rw [Keyring.keyFor_run_loaded found]
  exact loaded

theorem keeps_checkpoint : (checkpoint p).Keeps kind allowed := sustains_checkpoint.keeps

section Conclude

variable (keys : ∀ name, (onKeyring (Keyring.keyFor p.keyAccess name)).Keeps kind allowed)

include keys

theorem keeps_checkKeys (names : List String) : (checkKeys p names).Keeps kind allowed :=
  (sustains_checkKeys (fun name => (keys name).sustains.returning) names).keeps

variable (reporting : ∀ s f, (∀ r, (f r).freshStart = r.freshStart ∧ (f r).states = r.states ∧
  (f r).epochChanged = r.epochChanged) → kind s → kind (s.withReport f))

include reporting

theorem keeps_delegate (handing : ∀ c key, allowed (.synchronize c key))
    (synchronizers : List Synchronizer) : (delegate p synchronizers).Keeps kind allowed :=
  (sustains_delegate (Program.stable_leaving kind) (fun name => (keys name).sustains.returning)
    (fun _ => reporting) (fun c key _ => handing c key) synchronizers).keeps

/-- What follows once the keys are secured asks the server for keys at most. -/
theorem keeps_conclude (permitted : ∀ r, r.isConclusion = true → allowed r)
    (entering : ∀ s, kind s → kind (s.entering .delegating))
    (committing : ∀ s localState, kind s →
      kind { s with book := { s.book with localState := localState } })
    (index : CollectionIndex) (m : GlobalMetadata) : (conclude p index m).Keeps kind allowed := by
  have saving (r : Request) (file : r.isFileWrite = true) : allowed r := by
    apply permitted
    cases r <;> first | rfl | exact file
  exact (sustains_conclude (Program.stable_leaving kind) (fun name => (keys name).sustains.returning)
    (fun _ => reporting) (fun _ _ _ => permitted _ rfl) (permitted _ rfl) saving (fun _ => entering)
    (fun _ => committing) index m).keeps

end Conclude

/-- With a loaded keyring nothing more is asked of the server. -/
theorem conclude_stays_local (index : CollectionIndex) (m : GlobalMetadata) :
    (conclude p index m).Keeps (fun s => s.book.keyring.isLoaded = true)
      fun r => r.isRemote = false :=
  keeps_conclude keeps_keyFor_loaded (fun _ _ _ h => h)
    (fun _ => Request.isRemote_eq_false_of_isConclusion) (fun _ h => h) (fun _ _ h => h) index m

theorem keeps_resetForEpoch (resetting : ∀ c, allowed (.resetClient c))
    (synchronizers : List Synchronizer) : (resetForEpoch synchronizers).Keeps kind allowed :=
  (sustains_resetForEpoch (Program.stable_leaving kind) resetting synchronizers).keeps

/-- A session whose cycle has begun a fresh start. -/
def Afresh (s : Session) : Prop := s.performedFreshStart = true

theorem conclude_never_wipes (index : CollectionIndex) (m : GlobalMetadata) :
    (conclude p index m).Keeps (fun _ => True) fun r => r.isWipe = false :=
  keeps_conclude
    (fun name => keeps_onKeyring (Keyring.keeps_keyFor (by rfl) name) fun _ _ h => h)
    (fun _ _ _ h => h)
    (fun _ closing => Request.isWipe_eq_false_of_not_isRemote
      (Request.isRemote_eq_false_of_isConclusion closing)) (fun _ h => h) (fun _ _ h => h) index m

theorem observeEpoch_stays_local (m : GlobalMetadata)
    (forgetting : ∀ s, kind s → kind s.forgetting) :
    (observeEpoch m).Keeps kind fun r => r.isRemote = false :=
  (sustains_observeEpoch (Program.stable_leaving kind) (fun _ => rfl) (fun _ => forgetting) m).keeps

theorem keeps_bindKeys (indifferent : ∀ s keyring, kind s → kind (s.withKeyring keyring))
    (index : CollectionIndex) (m : GlobalMetadata) : (bindKeys index m).Keeps kind allowed := by
  have bind (modified : Option Binary64) :
      (Keyring.bind m.syncId modified).Keeps (fun _ => True) allowed := by
    intro k _
    rw [Keyring.bind_run]
    split
    · trivial
    · split <;> trivial
  exact .bind (.bind .get fun _ => .pure _) fun _ =>
    .bind (keeps_onKeyring (bind _) indifferent) fun _ => .pure _

theorem keeps_refreshKeys : (refreshKeys p).Keeps Afresh fun r => r.isWipe = false :=
  keeps_onKeyring (Keyring.keeps_refresh (by rfl)) fun _ _ h => h

theorem keeps_enter (state : CycleState) : (enter state).Keeps Afresh allowed := by
  refine .bind (.bind .get fun _ => .pure _) fun _ => .bind (.note _) fun _ => .modify fun s h => ?_
  exact (performedFreshStart_entering s state).trans h

/-- Once a fresh start has been made, no failure to get keys leads to another. -/
theorem secureKeys_afresh {key : Key} (index : CollectionIndex) (m : GlobalMetadata) :
    (secureKeys p key index m).Keeps Afresh fun r => r.isWipe = false := by
  rw [secureKeys_eq]
  refine .bind (keeps_enter _) fun _ => .bind (keeps_bindKeys (fun _ _ h => h) index m) fun _ => ?_
  refine .bind keeps_refreshKeys.attempt fun refreshed => ?_
  cases refreshed with
  | ok _ => exact .pure m
  | error e =>
      intro s afresh
      have passed : ¬(e.isAbsentOrMalformed && !(s.cycle.getD .start).performedFreshStart) = true := by
        have afresh : (s.cycle.getD .start).performedFreshStart = true := afresh
        simp [afresh]
      show Run.Keeps _ _ ((if _ then _ else _ : Program Session GlobalMetadata) s)
      rw [if_neg passed]
      exact afresh

theorem maintain_afresh {key : Key} (index : CollectionIndex) (m : GlobalMetadata) :
    (maintain p key index m).Keeps Afresh fun r => r.isWipe = false := by
  refine .bind keeps_checkpoint fun _ => .bind (secureKeys_afresh index m) fun m => ?_
  exact keeps_conclude
    (fun name => keeps_onKeyring (Keyring.keeps_keyFor (by rfl) name) fun _ _ h => h)
    (fun s _ kept h => (performedFreshStart_withReport s fun r => (kept r).1).trans h)
    (fun _ closing => Request.isWipe_eq_false_of_not_isRemote
      (Request.isRemote_eq_false_of_isConclusion closing))
    (fun s h => (performedFreshStart_entering s _).trans h) (fun _ _ h => h) index m

end Keeps

/-! ## What stands before a wipe -/

def Wipes (exchanges : List (Exchange Session)) : Prop :=
  ∃ x ∈ exchanges, x.request.isWipe = true

theorem not_wipes_of_keeps {program : Program Session α} {kind : Session → Prop}
    {env : Environment ω Session} {s : Session} {before after : ω}
    {exchanges : List (Exchange Session)} {ending : Ending Session α}
    (kept : program.Keeps kind fun r => r.isWipe = false) (holds : kind s)
    (others : ∀ request world s, kind s → kind (env.touch request world s))
    (taken : program.Takes env s before exchanges ending after) : ¬Wipes exchanges := by
  rintro ⟨x, member, wipe⟩
  have kept := ((kept.takes holds others taken).1 x member).2.1
  exact Bool.false_ne_true (kept.symm.trans wipe)

theorem not_wipes_of_local {exchanges : List (Exchange Session)}
    (unasked : ∀ x ∈ exchanges, x.request.isRemote = false) : ¬Wipes exchanges := by
  rintro ⟨x, member, wipe⟩
  have quiet := Request.isWipe_eq_false_of_not_isRemote (unasked x member)
  exact Bool.false_ne_true (quiet.symm.trans wipe)

/-- Others do nothing to a waiting session but ask it to stop. -/
def OnlyCancels (env : Environment ω Session) : Prop :=
  ∀ request world s, env.touch request world s = s ∨ env.touch request world s = s.cancel

namespace OnlyCancels

variable {env : Environment ω Session}

theorem keeps (polite : OnlyCancels env) (kind : Session → Prop)
    (indifferent : ∀ s, kind s → kind s.cancel) (request : Request) (world : ω) (s : Session)
    (holds : kind s) : kind (env.touch request world s) := by
  rcases polite request world s with same | same <;> rw [same]
  · exact holds
  · exact indifferent s holds

theorem running (polite : OnlyCancels env) (request : Request) (world : ω) (s : Session)
    (busy : s.isSyncing = true) : (env.touch request world s).isSyncing = true :=
  polite.keeps (fun s => s.isSyncing = true) (fun _ h => h) request world s busy

theorem fresh (polite : OnlyCancels env) (request : Request) (world : ω) (s : Session)
    (fresh : s.performedFreshStart = false) :
    (env.touch request world s).performedFreshStart = false :=
  polite.keeps (fun s => s.performedFreshStart = false) (fun _ h => h) request world s fresh

theorem cancelled (polite : OnlyCancels env) (request : Request) (world : ω) (s : Session)
    (asked : s.cancelRequested = true) : (env.touch request world s).cancelRequested = true :=
  polite.keeps (fun s => s.cancelRequested = true) (fun _ _ => rfl) request world s asked

end OnlyCancels

/-- Nobody does even that. -/
theorem onlyCancels_alone (oracle : Oracle ω) : OnlyCancels oracle.alone := fun _ _ _ => .inl rfl

/-- A fetch of the key bundle that finds no bundle, or one that cannot be read. -/
inductive KeysUnusable (p : Profile) (key : Key) : Exchange Session → Prop where
  | found {asked resumed : Session} {reply : (bundleRequest p.limit).Reply} {e : SyncError}
      (failed : bundleFrom p.limit key reply = .error e) (unusable : e.Unusable) :
      KeysUnusable p key ⟨bundleRequest p.limit, asked, reply, resumed⟩

theorem KeysUnusable.request_eq {p : Profile} {key : Key} {x : Exchange Session}
    (unusable : KeysUnusable p key x) : x.request = bundleRequest p.limit := by
  cases unusable
  rfl

/-- An exchange that a wipe may follow: a read that succeeds or finds the keys unusable, the derivation of
the sealing key, or a reset that succeeds. A cancellation may stand pending only where the keys are found
unusable. -/
inductive Precursor (p : Profile) (key : Key) : Exchange Session → Prop where
  | index {asked resumed : Session} {reply : (indexRequest p.limit).Reply} {index : CollectionIndex}
      (found : indexFrom p.limit reply = .ok index) (wanted : resumed.cancelRequested = false) :
      Precursor p key ⟨indexRequest p.limit, asked, reply, resumed⟩
  | metadata {asked resumed : Session} {reply : (metadataRequest p.limit).Reply}
      {evaluated : Evaluated}
      (found : evaluatedFrom (metadataFrom p.limit reply) p.config.storageVersion = .ok evaluated)
      (wanted : resumed.cancelRequested = false) :
      Precursor p key ⟨metadataRequest p.limit, asked, reply, resumed⟩
  | derivation {asked resumed : Session} (wanted : resumed.cancelRequested = false) :
      Precursor p key ⟨.deriveKey, asked, (), resumed⟩
  | reset {asked resumed : Session} {c : Synchronizer} (wanted : resumed.cancelRequested = false) :
      Precursor p key ⟨.resetClient c, asked, .ok (), resumed⟩
  | keys {x : Exchange Session} (unusable : KeysUnusable p key x) : Precursor p key x

/-- Every exchange before a wipe is one that a wipe may follow. -/
def Heralded (p : Profile) (key : Key) (exchanges : List (Exchange Session)) : Prop :=
  exchanges.Pairwise fun x y => y.request.isWipe = true → Precursor p key x

namespace Heralded

variable {p : Profile} {key : Key} {x : Exchange Session} {xs ys : List (Exchange Session)}

theorem of_not_wipes (unwiped : ¬Wipes xs) : Heralded p key xs :=
  List.pairwise_of_forall_mem_list fun _ _ y member wipe => absurd ⟨y, member, wipe⟩ unwiped

theorem cons (first : Precursor p key x) (rest : Heralded p key xs) : Heralded p key (x :: xs) :=
  List.pairwise_cons.mpr ⟨fun _ _ _ => first, rest⟩

theorem cons_of_not_wipes (unwiped : ¬Wipes xs) : Heralded p key (x :: xs) :=
  List.pairwise_cons.mpr ⟨fun y member wipe => absurd ⟨y, member, wipe⟩ unwiped, of_not_wipes unwiped⟩

theorem append (first : Heralded p key xs) (unwiped : ¬Wipes ys) : Heralded p key (xs ++ ys) :=
  List.pairwise_append.mpr ⟨first, of_not_wipes unwiped,
    fun _ _ y member wipe => absurd ⟨y, member, wipe⟩ unwiped⟩

end Heralded

section Stages

variable {env : Environment ω Session} {before after : ω} {exchanges : List (Exchange Session)}
  {p : Profile} {s : Session} {index : CollectionIndex} {m : GlobalMetadata} {key : Key}

theorem afresh_startingAfresh {s : Session} (reason : FreshStartReason)
    (busy : s.isSyncing = true) : Afresh (s.startingAfresh reason) := by
  obtain ⟨r, found⟩ := Option.isSome_iff_exists.mp busy
  simp [Afresh, performedFreshStart, startingAfresh, withReport, entering, found,
    CycleReport.performedFreshStart]

/-- A fresh start wipes at once and once only, and it is remembered. -/
theorem freshStart_wipes (others : ∀ request world s, Afresh s → Afresh (env.touch request world s))
    (busy : s.isSyncing = true) {reason : FreshStartReason} {ending : Ending Session GlobalMetadata}
    (taken : (freshStart p key reason).Takes env s before exchanges ending after) :
    ∃ x rest, exchanges = x :: rest ∧ x.request = wipeRequest p.limit ∧ ¬Wipes rest ∧
      Afresh ending.state := by
  obtain ⟨rest, rfl, republished⟩ := takes_freshStart.mp taken
  have begun := others (wipeRequest p.limit) before _ (afresh_startingAfresh reason busy)
  refine ⟨_, rest, rfl, rfl, ?_⟩
  cases wiped : Program.outcome p.limit "server wipe" (env.reply (wipeRequest p.limit) before) with
  | error e =>
      simp only [wiped] at republished
      obtain ⟨rfl, rfl, -⟩ := republished
      exact ⟨by simp [Wipes], begun⟩
  | ok _ =>
      simp only [wiped] at republished
      have kept : (onBook (republish (.ofConfig p.config) key s.synchronizers)).Keeps Afresh
          fun r => r.isWipe = false := by
        have saving (r : Request) (file : r.isFileWrite = true) : r.isWipe = false :=
          Request.isWipe_eq_false_of_not_isRemote (Request.isRemote_eq_false_of_isFileWrite file)
        exact (keeps_republish (fun _ => rfl) (fun _ => Request.isWipe_eq_false_of_isPublication)
          saving _ _ _).zoom fun _ _ h => h
      exact ⟨not_wipes_of_keeps kept begun others republished,
        (kept.takes begun others republished).2⟩

/-- A fresh start wipes at once, and what goes on after it does not wipe again. -/
theorem wipes_once (polite : OnlyCancels env) (busy : s.isSyncing = true)
    {reason : FreshStartReason} {next : GlobalMetadata → Program Session α}
    {ending : Ending Session α}
    (kept : ∀ m, (next m).Keeps Afresh fun r => r.isWipe = false)
    (taken : (freshStart p key reason >>= next).Takes env s before exchanges ending after) :
    ∃ x rest, exchanges = x :: rest ∧ x.request = wipeRequest p.limit ∧ ¬Wipes rest := by
  obtain ⟨inner, middle, head, tail, fresh, rfl, continued⟩ := taken.split
  have others : ∀ request world s, Afresh s → Afresh (env.touch request world s) :=
    polite.keeps Afresh fun _ h => h
  obtain ⟨x, rest, rfl, wipe, unwiped, afresh⟩ := freshStart_wipes others busy fresh
  refine ⟨x, rest ++ tail, rfl, wipe, ?_⟩
  rintro ⟨y, member, again⟩
  rcases List.mem_append.mp member with member | member
  · exact unwiped ⟨y, member, again⟩
  · cases inner with
    | failed e last =>
        obtain ⟨rfl, -, -⟩ := continued
        cases member
    | returned m last =>
        exact not_wipes_of_keeps (kept m) afresh others continued ⟨y, member, again⟩

theorem keeps_renewal (m : GlobalMetadata) : (do
      enter .keyRefresh
      bindKeys index m
      refreshKeys p
      return m : Program Session GlobalMetadata).Keeps Afresh fun r => r.isWipe = false :=
  .bind (keeps_enter _) fun _ => .bind (keeps_bindKeys (fun _ _ h => h) index m) fun _ =>
    .bind keeps_refreshKeys fun _ => .pure m

/-- A wipe for want of keys follows the fetch that found them unusable. -/
theorem heralded_secureKeys (polite : OnlyCancels env) (busy : s.isSyncing = true)
    (usable : p.sealingKey = .ok key) {ending : Ending Session GlobalMetadata}
    (taken : (secureKeys p key index m).Takes env s before exchanges ending after) :
    Heralded p key exchanges := by
  cases secured_of_takes usable taken with
  | cached bundle held => exact .nil
  | fetched t bundle fetching absent opened => exact List.pairwise_singleton ..
  | renewed t e rest ending after fetching absent failed unusable unmade renewing =>
      subst fetching
      have running := polite.running (bundleRequest p.limit) before (s.keyBound index m)
        ((isSyncing_keyBound s index m).trans busy)
      obtain ⟨x, tail, rfl, -, unwiped⟩ := wipes_once polite running keeps_renewal renewing
      exact .cons (.keys (.found failed unusable)) (.cons_of_not_wipes unwiped)
  | refused t e fetching absent failed passed => exact List.pairwise_singleton ..

theorem heralded_maintain (polite : OnlyCancels env) (busy : s.isSyncing = true)
    (usable : p.sealingKey = .ok key) {ending : Ending Session Unit}
    (taken : (maintain p key index m).Takes env s before exchanges ending after) :
    Heralded p key exchanges ∧ (s.cancelRequested = true → exchanges = []) := by
  rw [maintain, takes_checkpoint_bind] at taken
  split at taken
  · obtain ⟨rfl, -, -⟩ := taken
    exact ⟨.nil, fun _ => rfl⟩
  · rename_i wanted
    refine ⟨?_, fun cancelled => absurd cancelled wanted⟩
    obtain ⟨inner, middle, head, tail, secured, rfl, concluded⟩ := taken.split
    refine (heralded_secureKeys polite busy usable secured).append ?_
    cases inner with
    | failed e last =>
        obtain ⟨rfl, -, -⟩ := concluded
        simp [Wipes]
    | returned m last =>
        exact not_wipes_of_keeps (conclude_never_wipes index m) trivial (fun _ _ _ h => h) concluded

/-- Resets that lead on to a state without a cancellation have all succeeded without one. -/
theorem heralded_resets (polite : OnlyCancels env) {synchronizers : List Synchronizer}
    {last : Session} (wanted : last.cancelRequested = false)
    (taken : (resetForEpoch synchronizers).Takes env s before exchanges (.returned () last) after) :
    ∀ x ∈ exchanges, Precursor p key x := by
  induction synchronizers generalizing s before exchanges with
  | nil =>
      obtain ⟨rfl, -, -⟩ := Program.takes_pure.mp taken
      simp
  | cons c rest ih =>
      obtain ⟨tail, rfl, continued⟩ := takes_resetForEpoch_cons.mp taken
      cases replied : env.reply (.resetClient c) before with
      | error e =>
          simp only [replied] at continued
          obtain ⟨-, impossible, -⟩ := continued
          cases impossible
      | ok _ =>
          simp only [replied] at continued
          have resumed : (env.touch (.resetClient c) before s).cancelRequested = false := by
            refine Bool.eq_false_iff.mpr fun cancelled => ?_
            have kept : (resetForEpoch rest).Keeps (fun s => s.cancelRequested = true)
                fun _ => True := keeps_resetForEpoch (fun _ => trivial) rest
            have stays := (kept.takes cancelled polite.cancelled continued).2
            exact Bool.false_ne_true (wanted.symm.trans stays)
          intro x member
          rcases List.mem_cons.mp member with rfl | member
          · have same : env.exchange (.resetClient c) s before =
                ⟨.resetClient c, s, .ok (), env.touch (.resetClient c) before s⟩ := by
              rw [Environment.exchange, replied]
            rw [same]
            exact .reset resumed
          · exact ih continued x member

theorem heralded_settle (polite : OnlyCancels env) (busy : s.isSyncing = true)
    (usable : p.sealingKey = .ok key) {evaluated : Evaluated} {ending : Ending Session Unit}
    (taken : (settleEpoch p key evaluated >>= maintain p key index).Takes env s before exchanges
      ending after) : Heralded p key exchanges := by
  cases evaluated with
  | diverged reason =>
      obtain ⟨x, rest, rfl, -, unwiped⟩ :=
        wipes_once polite busy (fun m => maintain_afresh index m) taken
      exact .cons_of_not_wipes unwiped
  | current m =>
      rw [settleEpoch_current_bind] at taken
      obtain ⟨inner, middle, head, tail, observed, rfl, maintained⟩ := taken.split
      have stays : (observeEpoch m).Keeps (fun s => s.isSyncing = true) fun r => r.isRemote = false :=
        observeEpoch_stays_local m fun s holds => by
          simpa [isSyncing, forgetting, withKeyring, withReport] using holds
      have kept := stays.takes busy polite.running observed
      have unwiped := not_wipes_of_local fun x member => (kept.1 x member).2.1
      cases inner with
      | failed e last =>
          obtain ⟨rfl, -, -⟩ := maintained
          simpa using Heralded.of_not_wipes unwiped
      | returned _ last =>
          obtain ⟨heralded, stopped⟩ := heralded_maintain polite kept.2 usable maintained
          refine List.pairwise_append.mpr
            ⟨Heralded.of_not_wipes unwiped, heralded, fun x member y later _ => ?_⟩
          have wanted : last.cancelRequested = false := by
            refine Bool.eq_false_iff.mpr fun cancelled => ?_
            rw [stopped cancelled] at later
            cases later
          rw [takes_observeEpoch] at observed
          split at observed
          · exact heralded_resets polite wanted observed x member
          · obtain ⟨rfl, -, -⟩ := observed
            cases member

/-- Exchanges of a cycle that settles the epoch, in which no fresh start has begun yet. -/
def Settles (env : Environment ω Session) (p : Profile) (key : Key)
    (exchanges : List (Exchange Session)) : Prop :=
  ∃ index evaluated t world ending after, p.sealingKey = .ok key ∧ t.isSyncing = true ∧
    t.performedFreshStart = false ∧
    (settleEpoch p key evaluated >>= maintain p key index).Takes env t world exchanges ending after

theorem proceed_settles (polite : OnlyCancels env) (busy : s.isSyncing = true)
    (fresh : s.performedFreshStart = false) {evaluated : Evaluated} {ending : Ending Session Unit}
    (taken : (proceed p index evaluated).Takes env s before exchanges ending after) :
    ∃ wait rest, exchanges = wait ++ rest ∧ (∀ x ∈ wait, x.request = .deriveKey) ∧
      (rest = [] ∨ s.cancelRequested = false ∧
        ∃ key, (∀ x ∈ wait, Precursor p key x) ∧ Settles env p key rest) := by
  obtain ⟨wait, t, world, rest, awaits, rfl, continued⟩ := takes_proceed.mp taken
  refine ⟨wait, rest, rfl, awaits.request_eq, ?_⟩
  cases sealing : p.sealingKey with
  | error e =>
      simp only [sealing] at continued
      exact .inl continued.1
  | ok key =>
      simp only [sealing] at continued
      split at continued
      · exact .inl continued.1
      · rename_i wanted
        have wanted : t.cancelRequested = false := Bool.eq_false_iff.mpr wanted
        refine .inr ⟨Bool.eq_false_iff.mpr fun asked => ?_, key, fun x member => ?_, ?_⟩
        · have asked := awaits.keeps polite.cancelled asked
          exact Bool.false_ne_true (wanted.symm.trans asked)
        · rw [awaits.exchange_eq x member]
          exact .derivation wanted
        · exact ⟨index, evaluated, t.keyed, world, ending, after, sealing,
            awaits.keeps polite.running busy, awaits.keeps polite.fresh fresh, continued⟩

theorem evaluation_prelude (polite : OnlyCancels env) (busy : s.isSyncing = true)
    (fresh : s.performedFreshStart = false) {ending : Ending Session Unit}
    (taken : (evaluateRemote p index >>= proceed p index).Takes env s before exchanges ending
      after) :
    ∃ prelude rest, exchanges = prelude ++ rest ∧
      (∀ x ∈ prelude, x.request = metadataRequest p.limit ∨ x.request = .deriveKey) ∧
      (rest = [] ∨ ∃ key, (∀ x ∈ prelude, Precursor p key x) ∧ Settles env p key rest) := by
  cases decision : index.evaluate with
  | needsFreshStart reason =>
      have taken := (takes_evaluation_diverged decision).mp taken
      obtain ⟨wait, rest, rfl, derives, settled⟩ := proceed_settles polite busy fresh taken
      exact ⟨wait, rest, rfl, fun x member => .inr (derives x member), settled.imp_right (·.2)⟩
  | consistent =>
      obtain ⟨rest, rfl, continued⟩ := (takes_evaluation_consistent decision).mp taken
      cases found : evaluatedFrom (metadataFrom p.limit
          (env.reply (metadataRequest p.limit) before)) p.config.storageVersion with
      | error e =>
          simp only [found] at continued
          obtain ⟨rfl, -, -⟩ := continued
          exact ⟨[_], [], rfl, List.forall_mem_singleton.mpr (.inl rfl), .inl rfl⟩
      | ok evaluated =>
          simp only [found] at continued
          obtain ⟨wait, rest, rfl, derives, settled⟩ := proceed_settles polite
            (polite.running (metadataRequest p.limit) before s busy)
            (polite.fresh (metadataRequest p.limit) before s fresh) continued
          refine ⟨_ :: wait, rest, rfl, List.forall_mem_cons.mpr
            ⟨.inl rfl, fun x member => .inr (derives x member)⟩, settled.imp_right ?_⟩
          rintro ⟨wanted, key, heralds, settles⟩
          exact ⟨key, List.forall_mem_cons.mpr ⟨.metadata found wanted, heralds⟩, settles⟩

/-- The request is made before the epoch is settled. -/
def IsPrelude (p : Profile) (r : Request) : Prop :=
  r = indexRequest p.limit ∨ r = metadataRequest p.limit ∨ r = .deriveKey

/-- A cycle reads the index and the metadata and makes sure of its sealing key, and unless it stops there
it goes on to settle the epoch. -/
theorem sync_prelude (polite : OnlyCancels env) {ending : Ending Session CycleReport}
    (taken : (sync p).Takes env s before exchanges ending after) :
    ∃ prelude rest, exchanges = prelude ++ rest ∧
      (∀ x ∈ prelude, IsPrelude p x.request) ∧
      (rest = [] ∨ ∃ key, (∀ x ∈ prelude, Precursor p key x) ∧ Settles env p key rest) := by
  cases busy : s.isSyncing with
  | true =>
      obtain ⟨rfl, -, -⟩ := (takes_sync_refused busy).mp taken
      exact ⟨[], [], rfl, by simp, .inl rfl⟩
  | false =>
      obtain ⟨inner, run, -⟩ := (takes_sync busy).mp taken
      obtain ⟨rest, rfl, continued⟩ := takes_runCycle.mp run
      cases found : indexFrom p.limit (env.reply (indexRequest p.limit) before) with
      | error e =>
          simp only [found] at continued
          obtain ⟨rfl, -, -⟩ := continued
          exact ⟨[_], [], rfl, List.forall_mem_singleton.mpr (.inl rfl), .inl rfl⟩
      | ok index =>
          simp only [found] at continued
          split at continued
          · obtain ⟨rfl, -, -⟩ := continued
            exact ⟨[_], [], rfl, List.forall_mem_singleton.mpr (.inl rfl), .inl rfl⟩
          · rename_i wanted
            have running := polite.running (indexRequest p.limit) before
              (s.starting.entering .fetchingState) rfl
            have fresh := polite.fresh (indexRequest p.limit) before
              (s.starting.entering .fetchingState) rfl
            obtain ⟨prelude, rest, rfl, reads, continued⟩ := evaluation_prelude polite
              (by simpa [isSyncing, entering, withReport] using running)
              (by simpa using fresh) continued
            refine ⟨_ :: prelude, rest, rfl, ?_, continued.imp_right ?_⟩
            · intro x member
              rcases List.mem_cons.mp member with rfl | member
              · exact .inl rfl
              · exact .inr (reads x member)
            · rintro ⟨key, heralds, settled⟩
              refine ⟨key, fun x member => ?_, settled⟩
              rcases List.mem_cons.mp member with rfl | member
              · exact .index found (Bool.eq_false_iff.mpr wanted)
              · exact heralds x member

theorem not_wipes_prelude {prelude : List (Exchange Session)}
    (early : ∀ x ∈ prelude, IsPrelude p x.request) : ¬Wipes prelude := by
  rintro ⟨x, member, wipe⟩
  rcases early x member with same | same | same <;> rw [same] at wipe <;> cases wipe

/-- Whatever happens in a cycle, only exchanges that a wipe may follow stand before a wipe. -/
theorem heralded_sync (polite : OnlyCancels env) (usable : p.sealingKey = .ok key)
    {ending : Ending Session CycleReport}
    (taken : (sync p).Takes env s before exchanges ending after) : Heralded p key exchanges := by
  obtain ⟨prelude, rest, rfl, reads, rfl | ⟨key', heralds, settles⟩⟩ := sync_prelude polite taken
  · exact (Heralded.of_not_wipes (not_wipes_prelude reads)).append (by simp [Wipes])
  · obtain ⟨index, evaluated, t, world, _, _, sealing, running, -, settled⟩ := settles
    obtain rfl : key' = key := by simpa [sealing] using usable
    exact List.pairwise_append.mpr ⟨Heralded.of_not_wipes (not_wipes_prelude reads),
      heralded_settle polite running sealing settled, fun x member _ _ _ => heralds x member⟩

/-- Without a sealing key nothing is wiped. -/
theorem not_wipes_without_key (polite : OnlyCancels env) {e : CryptoError}
    (unusable : p.sealingKey = .error e) {ending : Ending Session CycleReport}
    (taken : (sync p).Takes env s before exchanges ending after) : ¬Wipes exchanges := by
  obtain ⟨prelude, rest, rfl, reads, rfl | ⟨key, -, settles⟩⟩ := sync_prelude polite taken
  · simpa using not_wipes_prelude reads
  · obtain ⟨_, _, _, _, _, _, sealing, -⟩ := settles
    rw [unusable] at sealing
    cases sealing

end Stages

end Session

end SealedSync
