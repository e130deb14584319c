import SealedSync.Proofs.Cancellation
import SealedSync.Proofs.ErrorOrigin
import SealedSync.Proofs.Recovery
import SealedSync.Proofs.StateKeeping

/-!
# What a cycle leaves on record

A cycle that ends well records the epoch it worked in, the index it fetched, and the time. A cycle that
fails leaves the records as they were, or none at all once a fresh start is published; there is nothing
in between. What is on record is also what the state file holds, unless the last save failed.
-/
namespace SealedSync.Session

open Program RemoteState FreshStart

variable {ω : Type} {env : Environment ω Session} {p : Profile} {before after : ω}
  {xs : List (Exchange Session)} {s t u : Session} {m : GlobalMetadata} {index : CollectionIndex}

/-! ## A cycle that ends well -/

/-- A cycle that is ready to hand out keys has fetched the index it goes by. -/
theorem prepare_listed {found : CollectionIndex × GlobalMetadata}
    (taken : (prepare p).Takes env s before xs (.returned found t) after) :
    ∃ rest, xs = env.exchange (indexRequest p.limit) (s.entering .fetchingState) before :: rest ∧
      indexFrom p.limit (env.reply (indexRequest p.limit) before) = .ok found.1 := by
  unfold prepare at taken
  rw [takes_enter_bind, takes_bind_returned] at taken
  obtain ⟨listed, _, _, _, rest, listing, taken, rfl⟩ := taken
  obtain ⟨rfl, indexed, rfl⟩ := takes_fetchIndex.mp listing
  have indexed := (Ending.of_returned_eq_ofExcept indexed).1
  have taken := checkpoint_bind_returned taken
  rw [takes_enter_bind, takes_bind_returned] at taken
  obtain ⟨_, _, _, _, _, -, taken, -⟩ := taken
  obtain ⟨_, _, _, _, _, -, taken, -⟩ := takes_bind_returned.mp taken
  obtain ⟨_, _, _, _, _, -, taken, -⟩ := takes_bind_returned.mp (checkpoint_bind_returned taken)
  obtain ⟨_, _, _, _, _, -, taken, -⟩ := takes_bind_returned.mp (checkpoint_bind_returned taken)
  obtain ⟨-, same, -⟩ := takes_pure.mp taken
  cases same
  exact ⟨rest, rfl, indexed⟩

/-- A cycle has committed: it has asked for the time and saved its records, which it now has. -/
structure Committed (m : GlobalMetadata) (index : CollectionIndex) (t : Session)
    (exchanges : List (Exchange Session)) (u : Session) : Prop where
  recorded : ∃ head asked now resumed saves,
    exchanges = head ++ ⟨.clock, asked, now, resumed⟩ :: saves ∧
      (∀ x ∈ saves, x.request.isFileWrite = true) ∧
      u.book.localState =
        ⟨some m.syncId, if t.performedFreshStart then none else some index.fingerprint, some now⟩
  named : (u.cycle.getD .start).syncId = some m.syncId
  begun : u.performedFreshStart = t.performedFreshStart

theorem Committed.of_rest {ys : List (Exchange Session)} (committed : Committed m index t ys u)
    (begun : t.performedFreshStart = s.performedFreshStart) (xs : List (Exchange Session)) :
    Committed m index s (xs ++ ys) u where
  recorded := by
    obtain ⟨head, asked, now, resumed, saves, rfl, files, recorded⟩ := committed.recorded
    rw [begun] at recorded
    exact ⟨xs ++ head, asked, now, resumed, saves, (List.append_assoc ..).symm, files, recorded⟩
  named := committed.named
  begun := committed.begun.trans begun

section Bystanders

variable (bystanding : Bystanding env)

include bystanding

theorem commit_returned (running : s.isSyncing = true)
    (taken : (commit p index m).Takes env s before xs (.returned () u) after) :
    Committed m index s xs u := by
  unfold commit at taken
  rw [takes_report_bind] at taken
  obtain ⟨rest, rfl, saving⟩ := takes_request_bind.mp taken
  obtain ⟨_, v, _, saves, _, saved, recording, rfl⟩ := takes_bind_returned.mp saving
  let kind (v : Session) : Prop := v.cycle = s.cycle
  have kept (state : LocalState) : (StateFile.save p.config.statePath state : Program Session Unit).Keeps
      kind fun r => r.isFileWrite = true := StateFile.keeps_save (fun _ h => h) _ _
  have others (r : Request) (w : ω) (v : Session) (holds : kind v) : kind (env.touch r w v) :=
    (bystanding.cycle r w v).trans holds
  obtain ⟨files, last⟩ := (kept _).takes (bystanding.cycle _ _ s) others saved
  have recording := takes_modify_bind.mp recording
  obtain ⟨rfl, same, -⟩ := takes_modify.mp recording
  cases same
  obtain ⟨r, syncing⟩ := Option.isSome_iff_exists.mp running
  have cycle : v.cycle = some r := Eq.trans last syncing
  rw [List.append_nil]
  constructor
  case recorded =>
    exact ⟨[], s, _, _, saves, rfl, fun x member => (files x member).2.1, rfl⟩
  case named => simp [cycle]
  case begun => simp [performedFreshStart, cycle, syncing, CycleReport.performedFreshStart]

/-- Where keys are handed out and all goes well, a commit comes last. -/
theorem conclude_returned (running : t.isSyncing = true)
    (taken : (conclude p index m).Takes env t before xs (.returned () u) after) :
    Committed m index t xs u := by
  let kind (v : Session) : Prop :=
    v.isSyncing = true ∧ v.performedFreshStart = t.performedFreshStart
  have others (r : Request) (w : ω) (v : Session) (holds : kind v) : kind (env.touch r w v) :=
    ⟨(bystanding.isSyncing r w v).trans holds.1, (bystanding.performedFreshStart r w v).trans holds.2⟩
  have keys (name : String) : (onKeyring (Keyring.keyFor p.keyAccess name)).Keeps kind fun _ => True :=
    keeps_onKeyring (Keyring.keeps_keyFor trivial name) fun _ _ holds => holds
  obtain ⟨_, v, _, checks, _, checking, stopping, rfl⟩ := takes_bind_returned.mp taken
  have checked := ((keeps_checkKeys keys p.config.collectionNames).takes ⟨running, rfl⟩ others checking).2
  have working := checkpoint_bind_returned stopping
  rw [takes_enter_bind, takes_get_bind] at working
  obtain ⟨_, last, _, handed, _, delegating, committing, rfl⟩ := takes_bind_returned.mp working
  have entered : kind (v.entering .delegating) :=
    ⟨(isSyncing_entering v _).trans checked.1, (performedFreshStart_entering v _).trans checked.2⟩
  have delegates : (delegate p v.synchronizers).Keeps kind fun _ => True := by
    apply keeps_delegate
    case keys => exact keys
    case reporting =>
      exact fun w f kept holds => ⟨(isSyncing_withReport w).trans holds.1,
        (performedFreshStart_withReport w fun r => (kept r).1).trans holds.2⟩
    case handing => exact fun _ _ => trivial
  have ready := (delegates.takes entered others delegating).2
  exact ((commit_returned bystanding ready.1 committing).of_rest ready.2 _).of_rest rfl _

/-! ## The two ways to end -/

/-- What a cycle that ends well leaves on record: the epoch it worked in, the fingerprint of the index it
fetched unless a fresh start has replaced that, and the time. -/
structure Recorded (p : Profile) (exchanges : List (Exchange Session)) (report : CycleReport)
    (state : LocalState) : Prop where
  epoch : ∃ syncId, activeId exchanges = some syncId ∧ report.syncId = some syncId ∧
    state.lastSyncId = some syncId
  fingerprint : ∃ asked reply resumed rest index,
    exchanges = ⟨indexRequest p.limit, asked, reply, resumed⟩ :: rest ∧
      indexFrom p.limit reply = .ok index ∧
      state.indexFingerprint = if report.performedFreshStart then none else some index.fingerprint
  freshStart : report.performedFreshStart = true ↔ Wipes exchanges
  time : ∃ head asked now resumed saves, exchanges = head ++ ⟨.clock, asked, now, resumed⟩ :: saves ∧
    (∀ x ∈ saves, x.request.isFileWrite = true) ∧ state.lastSyncAt = some now

/-- A fresh start was published: the server granted all three of its writes. -/
def Published (p : Profile) (exchanges : List (Exchange Session)) : Prop :=
  Founding p exchanges ∧ ∀ x ∈ serverWrites exchanges, x.isGranted = true

omit bystanding in
/-- Where it is known what a cycle has written, its report tells whether it has wiped. -/
theorem Intact.wipes_iff {old new : LocalState} {w : ω} (intact : Intact p old new (w, xs) t) :
    t.performedFreshStart = true ↔ Wipes xs := by
  rcases intact with written | ⟨keys, metadata, -, -, written⟩
  · refine iff_of_false (by simp [written.begun]) ?_
    rintro ⟨x, member, wipe⟩
    have listed : x ∈ serverWrites xs :=
      List.mem_filter.mpr ⟨member, Request.isWrite_of_isWipe wipe⟩
    rw [List.map_eq_nil_iff.mp written.requests] at listed
    cases listed
  · refine iff_of_true written.begun ?_
    obtain ⟨x, rest, writes, wipe, -⟩ := List.map_eq_cons_iff.mp written.requests
    have listed : x ∈ serverWrites xs := by rw [writes]; exact List.mem_cons_self
    refine ⟨x, (List.mem_filter.mp listed).1, ?_⟩
    rw [wipe]
    rfl

omit bystanding in
theorem syncId_entering (s : Session) (state : CycleState) :
    ((s.entering state).cycle.getD .start).syncId = (s.cycle.getD .start).syncId := by
  unfold entering withReport
  cases s.cycle <;> rfl

theorem sync_recorded {report : CycleReport}
    (taken : (sync p).Takes env s before xs (.returned report t) after) :
    Recorded p xs report t.book.localState := by
  cases busy : s.isSyncing with
  | true => cases ((takes_sync_refused busy).mp taken).2.1
  | false =>
      obtain ⟨inner, run, same⟩ := (takes_sync busy).mp taken
      cases inner with
      | failed e v => cases same
      | returned _ v =>
          cases same
          obtain ⟨_, intact⟩ := runCycle_writes bystanding run
          rw [runCycle_eq_prepare] at run
          obtain ⟨found, u, _, head, tail, preparing, concluding, rfl⟩ := takes_bind_returned.mp run
          have prepared := (prepare_preparing bystanding preparing).2
          have committed := conclude_returned bystanding prepared.running concluding
          obtain ⟨first, asked, now, resumed, saves, rfl, files, recorded⟩ := committed.recorded
          have reported : ((v.entering .done).cycle.getD .start).performedFreshStart =
              u.performedFreshStart := (performedFreshStart_entering v .done).trans committed.begun
          obtain ⟨rest, rfl, listed⟩ := prepare_listed preparing
          have between := fun y member => (conclude_between bystanding concluding y member).1
          constructor
          case epoch =>
            refine ⟨found.2.syncId, (activeId_append_between between).trans
              (prepare_readied bystanding preparing).active, (syncId_entering v .done).trans committed.named, ?_⟩
            exact congrArg (·.lastSyncId) recorded
          case fingerprint =>
            refine ⟨_, _, _, _, found.1, rfl, listed, ?_⟩
            rw [reported]
            exact congrArg (·.indexFingerprint) recorded
          case freshStart =>
            have told := intact.wipes_iff
            rw [committed.begun] at told
            rw [reported]
            exact told
          case time =>
            exact ⟨_, asked, now, resumed, saves, (List.append_assoc ..).symm, files,
              congrArg (·.lastSyncAt) recorded⟩

theorem sync_failed {e : SyncError}
    (taken : (sync p).Takes env s before xs (.failed e t) after) :
    t.book.localState = s.book.localState ∨ (t.book.localState = .empty ∧ Published p xs) := by
  cases busy : s.isSyncing with
  | true =>
      obtain ⟨-, same, -⟩ := (takes_sync_refused busy).mp taken
      cases same
      exact .inl rfl
  | false =>
      obtain ⟨inner, run, same⟩ := (takes_sync busy).mp taken
      cases inner with
      | returned _ v => cases same
      | failed e v =>
          cases same
          rcases runCycle_writes bystanding run with (written | ⟨keys, metadata, named, titled, written⟩) | refused
          · exact .inl written.localState
          · exact .inr ⟨written.localState, ⟨keys, metadata, named, titled, written.requests⟩,
              written.granted⟩
          · exact .inl refused.localState

omit bystanding in
/-- A cycle that fails as if another were running was refused, and then nothing has changed, or it was told
so by the server or by a synchronizer. -/
theorem sync_inFlight (taken : (sync p).Takes env s before xs (.failed .cycleInFlight t) after) :
    (xs = [] ∧ t = s ∧ after = before) ∨ ∃ x ∈ xs, x.request.Raises .cycleInFlight x.reply := by
  cases busy : s.isSyncing with
  | true =>
      obtain ⟨unasked, same, untouched⟩ := (takes_sync_refused busy).mp taken
      cases same
      exact .inl ⟨unasked, rfl, untouched⟩
  | false => exact .inr (sync_raised busy rfl taken)

end Bystanders

/-! ## All cycles of a session -/

/-- In the cycle of a number the records are loaded from the file whenever the last save succeeded, but
for the moments at which the next save is under way. -/
structure KeptInFile (env : Environment ω Session) (p : Profile) (s : Nat → Session) (w : Nat → ω)
    (n : Nat) : Prop where
  begins : Loadable env.toOracle p.config.statePath (w n, exchangedBefore env p s w n) (s n)
  asks : ∀ head x tail, (courseAt env p s w n).exchanges = head ++ x :: tail →
    x.request.isFileWrite = false →
    Loadable env.toOracle p.config.statePath
      (env.world (w n) head, exchangedBefore env p s w n ++ head) x.asked
  ends : Loadable env.toOracle p.config.statePath
    ((courseAt env p s w n).world, exchangedBefore env p s w (n + 1)) (courseAt env p s w n).ending.state

theorem Opened.keptInFile {files : ω → String → Option (List UInt8)} {path : String}
    {s : Nat → Session} {w : Nat → ω} {last n : Nat} (opened : Opened env files p s w last)
    (bystanding : Bystanding env) (keeping : env.toOracle.Files files)
    (kept : p.config.statePath = some path) (within : n ≤ last) : KeptInFile env p s w n := by
  have mirrored := cycles_mirrored bystanding keeping opened kept within
  obtain ⟨ends, asks⟩ := sync_mirrored bystanding keeping kept (taken_courseAt env p s w n) mirrored
  constructor
  case begins =>
    rw [kept, loadable_iff keeping]
    exact mirrored
  case asks =>
    intro head x tail split other
    rw [kept, loadable_iff keeping]
    exact asks head x tail split other
  case ends =>
    rw [kept, loadable_iff keeping]
    exact ends

/-- Whatever the server answers and whatever others do meanwhile, a cycle that ends well records what it
did, and a cycle that fails leaves the records as they were, or none after a published fresh start. A call
that is refused because a cycle is running changes nothing, and no other cycle fails like it unless it was
answered so. With a state file, the records are in the file whenever the last save succeeded. -/
theorem records_complete_or_unchanged (bystanding : Bystanding env) (p : Profile) :
    (∀ s before, let course := (sync p s).course env before
      (s.isSyncing = true → course.exchanges = [] ∧ course.ending = .failed .cycleInFlight s ∧
        course.world = before) ∧
      (∀ t, course.ending = .failed .cycleInFlight t →
        (course.exchanges = [] ∧ t = s ∧ course.world = before) ∨
          ∃ x ∈ course.exchanges, x.request.Raises .cycleInFlight x.reply) ∧
      (∀ e t, course.ending = .failed e t → t.book.localState = s.book.localState ∨
        (t.book.localState = .empty ∧ Published p course.exchanges)) ∧
      ∀ report t, course.ending = .returned report t →
        Recorded p course.exchanges report t.book.localState) ∧
    ∀ files path s w last, env.toOracle.Files files → p.config.statePath = some path →
      Opened env files p s w last → ∀ n ≤ last, KeptInFile env p s w n := by
  refine ⟨fun s before => ?_, fun files path s w last keeping kept opened n within =>
    opened.keptInFile bystanding keeping kept within⟩
  have taken := Run.takes_course env (sync p s) before
  refine ⟨fun busy => (takes_sync_refused busy).mp taken, fun t failed => ?_, fun e t failed => ?_,
    fun report t returned => ?_⟩
  · rw [failed] at taken
    exact sync_inFlight taken
  · rw [failed] at taken
    exact sync_failed bystanding taken
  · rw [returned] at taken
    exact sync_recorded bystanding taken

/-- A server that takes a fresh start, and then answers as if another cycle were running. -/
def inFlightOracle : Oracle Unit :=
  { keylessOracle with
    reply
      | .remote _ .index, _ => some (.ok (.ofList []))
      | .remote _ (.fetch ..), _ => some (.error .cycleInFlight)
      | .remote _ (.store ..), _ => some (.ok .zero)
      | .remote _ .wipe, _ => some (.ok ())
      | request, world => keylessOracle.reply request world }

/-- It is not so that a cycle changes nothing if it fails as if another were running. -/
theorem inFlight_drops_records :
    ¬∀ (oracle : Oracle Unit) (p : Profile) (s t : Session),
      ((sync p s).course oracle.alone ()).ending = .failed .cycleInFlight t →
      t.book.localState = s.book.localState := by
  intro unchanged
  let course := (sync keylessProfile keylessSession).course inFlightOracle.alone ()
  have told : (match course.ending with
      | .returned .. => none
      | .failed e t => some (e, t.book.localState)) = some (.cycleInFlight, .empty) := by
    decide +kernel
  split at told
  · cases told
  · rename_i e t ending
    obtain ⟨rfl, dropped⟩ := Prod.mk.inj (Option.some.inj told)
    have same := dropped.symm.trans (unchanged _ _ _ t ending)
    cases same

open Simulation in
/-- A session that is opened with a file in memory, and what is there then. -/
def keptStart : Session × Memory :=
  (ofLocalState .empty, ((begin keptAccount keptProfile.config ()).course Memory.oracle.alone Memory.blank).world)

open Simulation in
theorem opened_kept (last : Nat) : Opened Memory.oracle.alone Memory.files keptProfile
    (fun n => (repeated Memory.oracle keptProfile keptStart n).1)
    (fun n => (repeated Memory.oracle keptProfile keptStart n).2) last where
  opening := by
    have opened := Run.takes_course Memory.oracle.alone (begin keptAccount keptProfile.config ()) Memory.blank
    have begins := (takes_begin Memory.keeps_files opened).1
    rw [keptProfile_valid] at begins
    rw [begins] at opened
    exact ⟨keptAccount, keptProfile.config, _, _, _, _, opened, rfl, rfl⟩
  succession := by
    have consecutive := consecutive_repeated Memory.oracle Memory.storage keptProfile keptStart rfl
    exact ⟨fun n _ => consecutive.idle n, fun _ _ => rfl, fun _ _ => List.prefix_rfl⟩
  files _ _ := rfl

open Simulation in
theorem kept_recorded :
    (∃ report t, ((sync keptProfile keptStart.1).course Memory.oracle.alone keptStart.2).ending =
        .returned report t ∧
      Recorded keptProfile ((sync keptProfile keptStart.1).course Memory.oracle.alone keptStart.2).exchanges
        report t.book.localState) ∧
      KeptInFile Memory.oracle.alone keptProfile
        (fun n => (repeated Memory.oracle keptProfile keptStart n).1)
        (fun n => (repeated Memory.oracle keptProfile keptStart n).2) 1 := by
  obtain ⟨key, usable⟩ := keptProfile_usable
  obtain ⟨cycles, runs⟩ := records_complete_or_unchanged (bystanding_alone Memory.oracle) keptProfile
  have diverged : (Memory.storage keptStart.2).evaluated keptProfile.config.storageVersion =
      .ok (.diverged .missingMetadata) := rfl
  obtain ⟨reads, rest, inner, -, ended, -, renewed⟩ := sync_diverged Memory.oracle_faithful
    keptProfile_fits usable (rfl : keptStart.1.isSyncing = false) diverged
    (Run.takes_course Memory.oracle.alone _ keptStart.2)
  obtain ⟨r, last, m, closing, -⟩ := renewed.settles rfl
  rw [closing] at ended
  exact ⟨⟨_, _, ended, (cycles keptStart.1 keptStart.2).2.2.2 _ _ ended⟩,
    runs Memory.files "state.json" _ _ 1 Memory.keeps_files rfl (opened_kept 1) 1 (Nat.le_refl 1)⟩

end SealedSync.Session
