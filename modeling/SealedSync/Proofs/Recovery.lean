import SealedSync.Proofs.Interruption
import SealedSync.Proofs.ResetDuty

/-!
# Recovery

The cycle that follows an interrupted fresh start mends whatever it has left, be it in the same session or
in another that begins with the state file. It finds no epoch and makes a fresh start, or it finds a new
epoch, which it cannot know. So in either case everybody is reset, and then works with the keys that are
on the server.
-/
namespace SealedSync

namespace Session

open RemoteState FreshStart

variable {ω α : Type} {oracle : Oracle ω} {content : ω → Storage} {before after : ω}
  {xs : List (Exchange Session)} {p : Profile} {s : Session} {key : Key} {m : GlobalMetadata}
  {bundle : KeyBundle}

/-- Every synchronizer is handed its key of a bundle, and whoever is handed a key has been reset. -/
structure ServedAnew (synchronizers : List Synchronizer) (bundle : KeyBundle)
    (xs : List (Exchange Session)) : Prop where
  served : ∀ c ∈ synchronizers, ∃ x ∈ xs, x.request = delegation bundle c
  reset : ∀ head x tail c handed, xs = head ++ x :: tail → x.request = .synchronize c handed →
    handed = bundle.keyFor c.name ∧ ResetIn c head

/-- What is delivered after everybody was reset is served anew. -/
theorem Delivered.servesAnew {k : Keyring} {prelude rest : List (Exchange Session)} {last : Session}
    (delivered : Delivered s k m bundle rest last)
    (unsynced : ∀ x ∈ prelude, x.request.isSynchronize = false)
    (resets : ∀ c ∈ s.synchronizers, ResetIn c prelude) :
    ServedAnew s.synchronizers bundle (prelude ++ rest) := by
  constructor
  · intro c registered
    obtain ⟨x, member, handed⟩ := delivered.hands registered
    exact ⟨x, List.mem_append_right _ member, handed⟩
  · intro head x tail c handed split request
    have late : x ∉ prelude := by
      intro member
      have early := unsynced x member
      rw [request] at early
      cases early
    obtain ⟨middle, rfl, rfl⟩ := split_later split.symm late
    obtain ⟨saves, requests, files⟩ := delivered.handed
    have listed : x.request ∈ s.synchronizers.map (delegation bundle) ++ .clock :: saves := by
      rw [← requests]
      exact List.mem_map_of_mem (by simp)
    rw [request] at listed
    rcases List.mem_append.mp listed with delegated | closing
    · obtain ⟨d, registered, same⟩ := List.mem_map.mp delegated
      obtain ⟨rfl, rfl⟩ := Request.synchronize.inj same
      exact ⟨rfl, resetIn_append.mpr (.inl (resets d registered))⟩
    · rcases List.mem_cons.mp closing with impossible | saved
      · cases impossible
      · cases files _ saved

/-- Where resets succeed, to be asked for a reset is to be reset. -/
theorem resets_obeyed (obliging : oracle.Obliging) {program : Program Session α}
    {ending : Ending Session α} (taken : program.Takes oracle.alone s before xs ending after)
    {x : Exchange Session} (member : x ∈ xs) {c : Synchronizer} (request : x.request = .resetClient c) :
    x.Resets c := by
  obtain ⟨state, world, same⟩ := taken.exchange_eq x member
  rw [request] at same
  rw [same]
  exact (resets_exchange (obliging.reset c world)).mpr rfl

/-- Where nothing is written, nothing is wiped. -/
theorem not_wipes_of_quiet (quiet : ∀ x ∈ xs, x.request.isWrite = false) : ¬Wipes xs := by
  rintro ⟨x, member, wipe⟩
  have unwritten := quiet x member
  generalize x.request = r at wipe unwritten
  cases r with
  | remote limit call =>
      cases call with
      | wipe => cases unwritten
      | _ => cases wipe
  | _ => cases wipe

/-- No synchronizer is let work before the bundle is there. -/
theorem unsynced_before_bundle {head middle : List (Exchange Session)} {x : Exchange Session}
    {limit : Duration} (first : ∀ y ∈ head, y.request.isSynchronize = false)
    (second : ∀ y ∈ middle, y.request.isSynchronize = false)
    (request : x.request = bundleRequest limit) :
    ∀ y ∈ head ++ (middle ++ [x]), y.request.isSynchronize = false := by
  have third : ∀ y ∈ [x], y.request.isSynchronize = false := by
    rw [List.forall_mem_singleton, request]
    rfl
  exact List.forall_mem_append.mpr ⟨first, List.forall_mem_append.mpr ⟨second, third⟩⟩

/-- A fresh start wipes and resets, and then everybody is served. -/
theorem Renewed.serves {st : Storage} {prelude rest : List (Exchange Session)}
    {inner : Ending Session Unit} (renewed : Renewed p key s st rest inner)
    (unsynced : ∀ x ∈ prelude, x.request.isSynchronize = false)
    (obeyed : ∀ x ∈ rest, ∀ c, x.request = .resetClient c → x.Resets c) :
    ∃ last bundle, inner = .returned () last ∧ Wipes (prelude ++ rest) ∧ st.bundle key = .ok bundle ∧
      ServedAnew s.synchronizers bundle (prelude ++ rest) := by
  cases renewed with
  | intro reason m k bundle fresh tail last wiped undelegated resets sound supplied =>
      obtain ⟨opened, x, rest, rfl, request, delivered⟩ := supplied
      have early := unsynced_before_bundle unsynced undelegated request
      have reset : ∀ c ∈ s.synchronizers, ResetIn c (prelude ++ (fresh ++ [x])) := by
        intro c registered
        obtain ⟨y, member, asked⟩ := resets c registered
        exact ⟨y, by simp [member], obeyed y (List.mem_append_left _ member) c asked⟩
      have served := delivered.servesAnew early reset
      rw [List.append_assoc, List.append_assoc] at served
      obtain ⟨y, member, wipe⟩ := wiped
      have wipes : Wipes (prelude ++ (fresh ++ x :: rest)) := by
        refine ⟨y, ?_, wipe⟩
        exact List.mem_append_right _ (List.mem_append_left _ member)
      exact ⟨last, bundle, rfl, wipes, opened, served⟩

section Faithful

variable (faithful : oracle.Faithful content) (fits : p.config.Fits)
  (usable : p.sealingKey = .ok key) (idle : s.isSyncing = false)
  {ending : Ending Session CycleReport}

include faithful fits usable idle

/-- Where there is need of a fresh start, a cycle makes it. -/
theorem sync_renews (needs : (content before).NeedsRenewal p key s.book.keyring)
    (taken : (sync p).Takes oracle.alone s before xs ending after) :
    ∃ r last bundle, ending = .returned r last ∧ Wipes xs ∧ (content after).bundle key = .ok bundle ∧
      ServedAnew s.synchronizers bundle xs := by
  have obeyed : ∀ x ∈ xs, ∀ c, x.request = .resetClient c → x.Resets c :=
    fun x member c => resets_obeyed faithful.obliging taken member
  cases needs with
  | diverged reason evaluation =>
      obtain ⟨reads, rest, inner, rfl, rfl, prelude, renewed⟩ :=
        sync_diverged faithful fits usable idle evaluation taken
      obtain ⟨last, bundle, rfl, wipes, opened, served⟩ := renewed.serves
        (Exchange.forall_of_requests rfl prelude.isSynchronize_eq_false)
        fun x member => obeyed x (List.mem_append_right _ member)
      obtain ⟨r, closing, -⟩ := closed_returned last
      exact ⟨r, last.resting, bundle, closing, wipes, opened, served⟩
  | keyless m e evaluation failed unusable absent =>
      obtain ⟨reads, resets, rest, inner, rfl, rfl, prelude, resettings, maintained⟩ :=
        sync_current faithful fits usable idle evaluation taken
      have bereft : ((s.evaluating.keyed.settled m).keyBound (content before).index m).book.keyring.bundle =
          none := by
        refine Keyring.bundle_rebind_of_none ?_ _ _
        unfold settled
        split
        · rfl
        · exact absent
      cases maintained with
      | cached bundle rest last held delivered => cases bereft.symm.trans held
      | fetched bundle rest last absent supplied => cases failed.symm.trans supplied.opened
      | locked x last absent request locked =>
          obtain rfl := Except.error.inj (failed.symm.trans locked)
          rcases unusable with ⟨_, impossible⟩ | ⟨_, impossible⟩ <;> cases impossible
      | renewed x rest inner e' absent request failed unusable renewed =>
          have early := unsynced_before_bundle
            (Exchange.forall_of_requests rfl prelude.isSynchronize_eq_false)
            (Exchange.forall_of_requests resettings unsynced_settleRequests) request
          have served := renewed.serves early fun y member => obeyed y (by simp [member])
          rw [List.append_assoc, List.append_assoc] at served
          obtain ⟨last, bundle, rfl, wipes, opened, served⟩ := served
          have listed : ((s.evaluating.keyed.settled m).keyBound (content before).index m).synchronizers =
              s.synchronizers := synchronizers_settled s.evaluating.keyed m
          rw [listed] at served
          obtain ⟨r, closing, -⟩ := closed_returned last
          exact ⟨r, last.resting, bundle, closing, wipes, opened, served⟩

/-- Where there is an epoch with its keys which the session does not know, a cycle joins it. -/
theorem sync_joins (sound : (content before).Sound p.config.storageVersion key m)
    (unknown : s.book.localState.lastSyncId ≠ some m.syncId)
    (taken : (sync p).Takes oracle.alone s before xs ending after) :
    ∃ r last bundle, ending = .returned r last ∧ ¬Wipes xs ∧ (content after).bundle key = .ok bundle ∧
      ServedAnew s.synchronizers bundle xs := by
  have obeyed : ∀ x ∈ xs, ∀ c, x.request = .resetClient c → x.Resets c :=
    fun x member c => resets_obeyed faithful.obliging taken member
  obtain ⟨reads, resets, rest, inner, rfl, rfl, prelude, resettings, maintained⟩ :=
    sync_current faithful fits usable idle sound.evaluated taken
  have changed : m.epochChanged s.evaluating.keyed.book.localState = true := by
    have unknown : s.evaluating.keyed.book.localState.lastSyncId ≠ some m.syncId := unknown
    simpa [GlobalMetadata.epochChanged] using unknown
  have forgotten : s.evaluating.keyed.settled m = s.evaluating.keyed.forgetting := if_pos changed
  have asked : s.evaluating.settleRequests m = s.synchronizers.map .resetClient := if_pos changed
  rw [forgotten] at maintained
  obtain ⟨stored, opens⟩ := sound.keys
  cases maintained with
  | cached bundle rest last held delivered =>
      cases (Keyring.bundle_rebind_of_none rfl _ _).symm.trans held
  | fetched bundle rest last absent supplied =>
      have quiet := quiet_cycle prelude resettings supplied.quiet
      obtain ⟨opened, x, rest, rfl, request, delivered⟩ := supplied
      have early := unsynced_before_bundle
        (Exchange.forall_of_requests rfl prelude.isSynchronize_eq_false)
        (Exchange.forall_of_requests resettings unsynced_settleRequests) request
      have reset : ∀ c ∈ s.synchronizers, ResetIn c (reads ++ (resets ++ [x])) := by
        intro c registered
        have listed : .resetClient c ∈ resets.map (·.request) := by
          rw [resettings, asked]
          exact List.mem_map_of_mem registered
        obtain ⟨y, member, reset⟩ := List.mem_map.mp listed
        exact ⟨y, by simp [member], obeyed y (by simp [member]) c reset⟩
      have served := delivered.servesAnew early reset
      rw [List.append_assoc, List.append_assoc] at served
      have unchanged : (content after).SameBookkeeping (content before) := by
        rw [taken.world_eq]
        exact faithful.quiet quiet
      obtain ⟨r, closing, -⟩ := closed_returned last
      exact ⟨r, last.resting, bundle, closing, not_wipes_of_quiet quiet,
        (Storage.bundle_congr unchanged key).trans opened, served⟩
  | locked x last absent request failed => cases failed.symm.trans opens
  | renewed x rest inner e absent request failed unusable renewed => cases failed.symm.trans opens

end Faithful

/-! ## The cycle after an interruption -/

/-- The session that goes on after a cycle: the same one, or one that is begun anew with the same
configuration and key. More synchronizers may have been registered before it goes on. -/
inductive Resumes (oracle : Oracle ω) (p : Profile) (t : Session) (middle : ω) : Session → ω → Prop where
  | same (u : Session) (idle : u.isSyncing = false) (book : u.book = t.book) :
      Resumes oracle p t middle u middle
  | reopened (u v : Session) (credentials : Credentials) (exchanges : List (Exchange Unit)) (start : ω)
      (opened : (begin credentials p.config).Takes oracle.alone () middle exchanges
        (.returned (p, v) ()) start)
      (idle : u.isSyncing = false) (book : u.book = v.book) : Resumes oracle p t middle u start

/-- Whoever goes on knows what the session knew, or what the state file recalls. -/
theorem Resumes.knows {t u : Session} {middle start : ω} (resumes : Resumes oracle p t middle u start)
    (honest : oracle.Honest content) {files : ω → String → Option (List UInt8)}
    (keeping : oracle.Files files) :
    u.isSyncing = false ∧ (content start).SameBookkeeping (content middle) ∧
      (u.book = t.book ∨
        u.book = ⟨.empty, StateFile.recalled p.config.statePath (files middle)⟩) := by
  cases resumes with
  | same idle book => exact ⟨idle, .refl _, .inl book⟩
  | reopened v credentials exchanges _ opened idle book =>
      obtain ⟨returned, asked⟩ := takes_begin keeping opened
      obtain rfl : start = oracle.world middle exchanges := opened.world_eq
      refine ⟨idle, honest.quiet asked, .inr ?_⟩
      cases valid : p.config.validate with
      | error e =>
          rw [valid] at returned
          cases returned
      | ok _ =>
          rw [valid] at returned
          have pair := (Ending.returned.inj returned).1
          rw [book, (Prod.mk.inj pair).2]
          rfl

/-- Whatever an interrupted fresh start has left, the next cycle, in which nothing fails, ends well. It
wipes the server again if and only if the metadata of the interrupted fresh start have not reached it.
Every synchronizer is reset before it works, with the keys that are then on the server. -/
theorem interruption_mended {oracle mended : Oracle ω} {content : ω → Storage}
    {files : ω → String → Option (List UInt8)} {p : Profile} {s t u : Session}
    {before middle start after : ω} {xs ys : List (Exchange Session)}
    {ending : Ending Session CycleReport} (honest : oracle.Honest content) (keeping : oracle.Files files)
    (faithful : mended.Faithful content) (keeps : mended.Files files) (fits : p.config.Fits)
    (interrupted : Interrupted oracle p s before xs t middle)
    (new : ∀ x ∈ xs, ∀ syncId, x.DrawsEpoch syncId → s.book.localState.lastSyncId ≠ some syncId ∧
      (StateFile.recalled p.config.statePath (files before)).lastSyncId ≠ some syncId)
    (resumes : Resumes mended p t.resting middle u start)
    (taken : (sync p).Takes mended.alone u start ys ending after) :
    ∃ r last key bundle, ending = .returned r last ∧
      (Wipes ys ↔ ¬MetadataReached xs (content middle)) ∧ p.sealingKey = .ok key ∧
      (content after).bundle key = .ok bundle ∧ ServedAnew u.synchronizers bundle ys := by
  obtain ⟨key, usable, aftermath, records⟩ := interrupted.aftermath honest fits
  have recalls := interrupted.recalls honest fits keeping
  obtain ⟨idle, same, knows⟩ := resumes.knows faithful.toHonest keeps
  cases aftermath with
  | unpublished needs unreached =>
      have needs : (content start).NeedsRenewal p key u.book.keyring := by
        refine (needs.congr same).bereft fun absent => ?_
        rcases knows with book | book
        · rw [book]
          exact absent
        · rw [book]
          rfl
      obtain ⟨r, last, bundle, ended, wipes, opened, served⟩ :=
        sync_renews faithful fits usable idle needs taken
      exact ⟨r, last, key, bundle, ended, ⟨fun _ => unreached, fun _ => wipes⟩, usable, opened, served⟩
  | published m sound drawn reached =>
      obtain ⟨x, member, drawn⟩ := drawn
      obtain ⟨unrecorded, unrecalled⟩ := new x member m.syncId drawn
      have unknown : u.book.localState.lastSyncId ≠ some m.syncId := by
        rcases knows with book | book
        · rw [book]
          rcases records with kept | forgotten
          · rw [show t.resting.book.localState = s.book.localState from kept]
            exact unrecorded
          · rw [show t.resting.book.localState = .empty from forgotten]
            nofun
        · rw [book]
          rcases recalls with kept | forgotten
          · rw [kept]
            exact unrecalled
          · rw [forgotten]
            nofun
      obtain ⟨r, last, bundle, ended, unwiped, opened, served⟩ :=
        sync_joins faithful fits usable idle (sound.congr same) unknown taken
      exact ⟨r, last, key, bundle, ended,
        ⟨fun wipes => absurd wipes unwiped, fun unreached => absurd reached unreached⟩, usable, opened,
        served⟩

end Session

/-! ## A wipe whose reply is lost -/

/-- The oracle, but no reply to a wipe arrives. -/
def Oracle.losingWipes {ω : Type} (oracle : Oracle ω) : Oracle ω where
  reply
    | .remote _ .wipe, _ => none
    | request, w => oracle.reply request w
  next := oracle.next

namespace Oracle

variable {ω : Type} {oracle : Oracle ω} {content : ω → Storage}

theorem Faithful.losingWipes (faithful : oracle.Faithful content) :
    oracle.losingWipes.Honest content where
  index := faithful.index
  fetch := faithful.fetch
  store := faithful.store
  wipe limit w := by
    rcases faithful.wipe limit w with wiped | ⟨-, unconfirmed⟩
    · exact .inl wiped
    · exact absurd (faithful.wiped limit w) unconfirmed
  others := faithful.others

theorem Files.losingWipes {files : ω → String → Option (List UInt8)} (keeping : oracle.Files files) :
    oracle.losingWipes.Files files where
  found := keeping.found
  missing := keeping.missing
  written := keeping.written
  arrived := keeping.arrived
  replaced := keeping.replaced
  others := keeping.others

end Oracle

namespace Session

open RemoteState FreshStart Simulation

variable {ω : Type} {oracle : Oracle ω} {content : ω → Storage} {p : Profile} {s : Session}

/-- A cycle whose fresh start does not learn of its wipe is interrupted. -/
theorem interrupted_losingWipes (faithful : oracle.Faithful content) {key : Key}
    (usable : p.sealingKey = .ok key) (idle : s.isSyncing = false) {before : ω}
    {reason : FreshStartReason}
    (diverged : (content before).evaluated p.config.storageVersion = .ok (.diverged reason)) :
    ∃ t, Interrupted oracle.losingWipes p s before
      ((runCycle p s.starting).course oracle.losingWipes.alone before).exchanges t
      ((runCycle p s.starting).course oracle.losingWipes.alone before).world := by
  have run : (runCycle p).Takes oracle.losingWipes.alone s.starting before _ _ _ :=
    Run.takes_course oracle.losingWipes.alone (runCycle p s.starting) before
  generalize (runCycle p s.starting).course oracle.losingWipes.alone before = course at run
  obtain ⟨reads, rest, split, -, continued⟩ :=
    takes_runCycle_undisturbed faithful.losingWipes (fun _ _ _ _ => rfl) usable run
  simp only [diverged] at continued
  obtain ⟨inner, middle, fresh, tail, settling, rfl, maintaining⟩ := continued.split
  have renewing : (freshStart p key reason).Takes oracle.losingWipes.alone s.evaluating.keyed _ fresh inner
      middle := settling
  obtain ⟨rest, rfl, failing⟩ := takes_freshStart.mp renewing
  obtain ⟨rfl, rfl, rfl⟩ := failing
  obtain ⟨rfl, ended, world⟩ := maintaining
  rw [ended] at run
  refine ⟨s.evaluating.keyed.startingAfresh reason, idle, ?_, ⟨_, run⟩, rfl⟩
  rw [split]
  exact ⟨_, List.mem_append_right _ (List.mem_append_left _ List.mem_cons_self), rfl⟩

/-- An account whose state is kept in a file in memory. -/
def keptAccount : Credentials := ⟨"account", "credential", "passphrase"⟩

def keptProfile : Profile :=
  profile keptAccount { SyncConfig.standard with statePath := some "state.json" }

/-- A first cycle on an empty server, of which it does not learn that it is wiped. -/
def lostWipe : Course Memory Session Unit :=
  (runCycle keptProfile ((ofLocalState .empty).enlisting "tabs").starting).course
    Memory.oracle.losingWipes.alone Memory.blank

/-- The session that is begun with the state file after that. -/
def reopening : Course Memory Unit (Profile × Session) :=
  (begin keptAccount keptProfile.config ()).course Memory.oracle.alone lostWipe.world

theorem Memory.keeps_files : Memory.oracle.Files Memory.files where
  found path bytes m held := by
    simp only [Memory.oracle, Memory.reply, held]
  missing path m absent := by
    simp only [Memory.oracle, Memory.reply, absent]
  written path bytes m _ := if_pos rfl
  arrived path bytes m := .inr ⟨bytes, List.prefix_rfl, if_pos rfl⟩
  replaced source target m := .inl (if_pos rfl)
  others r path m unwritten source target := by
    cases r with
    | writeFile other bytes =>
        refine if_neg ?_
        rintro rfl
        exact unwritten bytes rfl
    | renameFile other another =>
        refine (if_neg ?_).trans (if_neg ?_)
        · rintro rfl
          exact target other rfl
        · rintro rfl
          exact source another rfl
    | _ => rfl

theorem keptProfile_valid : keptProfile.config.validate = .ok () := rfl

theorem keptProfile_fits : keptProfile.config.Fits where
  storageVersion := (SyncConfig.fits_ofCollections SyncConfig.standardCollections).storageVersion
  collections := (SyncConfig.fits_ofCollections SyncConfig.standardCollections).collections

theorem keptProfile_usable : ∃ key, keptProfile.sealingKey = .ok key := by
  show ∃ key, deriveKey keptAccount.passphrase (Salt.ofAccount keptAccount.account) .standard = .ok key
  unfold deriveKey
  have affordable : KdfParams.standard.cost.fault? = none := by decide
  rw [affordable]
  exact ⟨_, rfl⟩

theorem lostWipe_mended : ∃ t v r last key bundle,
    Interrupted Memory.oracle.losingWipes keptProfile ((ofLocalState .empty).enlisting "tabs")
      Memory.blank lostWipe.exchanges t lostWipe.world ∧
    reopening.ending = .returned (keptProfile, v) () ∧
    let next := (sync keptProfile (v.enlisting "tabs")).course Memory.oracle.alone reopening.world
    next.ending = .returned r last ∧
      (Wipes next.exchanges ↔ ¬MetadataReached lostWipe.exchanges lostWipe.world.storage) ∧
      keptProfile.sealingKey = .ok key ∧ next.world.storage.bundle key = .ok bundle ∧
      ServedAnew (v.enlisting "tabs").synchronizers bundle next.exchanges := by
  obtain ⟨key, usable⟩ := keptProfile_usable
  have diverged : (Memory.storage Memory.blank).evaluated keptProfile.config.storageVersion =
      .ok (.diverged .missingMetadata) := rfl
  have idle : ((ofLocalState .empty).enlisting "tabs").isSyncing = false := rfl
  obtain ⟨t, interrupted⟩ := interrupted_losingWipes Memory.oracle_faithful usable idle diverged
  have opened : (begin keptAccount keptProfile.config).Takes Memory.oracle.alone () lostWipe.world _ _ _ :=
    Run.takes_course Memory.oracle.alone (begin keptAccount keptProfile.config ()) lostWipe.world
  have begins := (takes_begin Memory.keeps_files opened).1
  rw [keptProfile_valid] at begins
  let v := ofLocalState (StateFile.recalled keptProfile.config.statePath lostWipe.world.files)
  have begins : reopening.ending = .returned (keptProfile, v) () := begins
  have opened : (begin keptAccount keptProfile.config).Takes Memory.oracle.alone () lostWipe.world
      reopening.exchanges (.returned (keptProfile, v) ()) reopening.world := by
    rw [← begins]
    exact opened
  obtain ⟨r, last, key, bundle, mended⟩ := interruption_mended
    Memory.oracle_faithful.losingWipes Memory.keeps_files.losingWipes Memory.oracle_faithful
    Memory.keeps_files keptProfile_fits interrupted
    (fun _ _ _ _ => ⟨nofun, nofun⟩)
    (.reopened (v.enlisting "tabs") v keptAccount _ _ opened rfl rfl)
    (Run.takes_course Memory.oracle.alone (sync keptProfile (v.enlisting "tabs")) reopening.world)
  exact ⟨t, v, r, last, key, bundle, interrupted, begins, mended⟩

end Session

end SealedSync
