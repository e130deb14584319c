import SealedSync.Proofs.HonestCycle
import SealedSync.Proofs.Memory

/-!
# Convergence

With a faithful server a cycle fails only if the server's format is newer or its keys cannot be
opened. Once a cycle has ended well, later cycles find nothing to do: they keep the epoch, write
nothing to the server, and in the end only read its index and its metadata.
-/
namespace SealedSync

theorem Binary64.valueEq_self {x : Binary64} (number : x.isNaN = false) : x.valueEq x = true := by
  simp [valueEq, number]

namespace Keyring

/-- The keyring has keys, and it keeps them for an epoch and a time. -/
structure Serves (k : Keyring) (syncId : String) (modified : Option Binary64) : Prop where
  bound : k.isBoundTo syncId modified = true
  loaded : k.isLoaded = true

theorem Serves.rebind_eq {k : Keyring} {syncId : String} {modified : Option Binary64}
    (serves : k.Serves syncId modified) : k.rebind syncId modified = k :=
  if_pos serves.bound

/-- A keyring that is bound stays bound, as its time is equal to itself. -/
theorem isBoundTo_rebind (k : Keyring) (syncId : String) {modified : Option Binary64}
    (timed : ∀ time, modified = some time → time.isNaN = false) :
    (k.rebind syncId modified).isBoundTo syncId modified = true := by
  unfold rebind
  split
  · assumption
  · have same : sameTime modified modified = true := by
      cases modified with
      | none => rfl
      | some time => exact Binary64.valueEq_self (timed time rfl)
    simp [isBoundTo, same]

end Keyring

namespace Storage

variable {st : Storage} {storageVersion : Nat} {m : GlobalMetadata} {key : Key}

theorem evaluated_eq_current :
    st.evaluated storageVersion = .ok (.current m) ↔
      st.index.ListsBookkeeping ∧ st.metadata = .ok m ∧ m.storageVersion = storageVersion := by
  rw [← CollectionIndex.evaluate_eq_consistent, ← Session.evaluatedFrom_eq_current, evaluated]
  cases st.index.evaluate <;> simp

theorem Sound.evaluated (sound : st.Sound storageVersion key m) :
    st.evaluated storageVersion = .ok (.current m) :=
  evaluated_eq_current.mpr ⟨sound.listed, sound.metadata, sound.current⟩

/-- Evaluation fails on a newer format only. -/
theorem evaluated_error {e : SyncError} (failed : st.evaluated storageVersion = .error e) :
    ∃ m, st.metadata = .ok m ∧ storageVersion < m.storageVersion ∧
      e = .clientOutdated m.storageVersion storageVersion := by
  unfold evaluated at failed
  split at failed
  · cases failed
  · cases fetched : st.metadata with
    | error cause =>
        have unusable := SyncError.isAbsentOrMalformed_iff.mpr (metadata_error fetched)
        rw [fetched, Session.evaluatedFrom_error, if_pos unusable] at failed
        cases failed
    | ok m =>
        rw [fetched, Session.evaluatedFrom_ok] at failed
        split at failed
        · cases failed
        · split at failed
          · cases failed
          · exact ⟨m, rfl, by omega, (Except.error.inj failed).symm⟩

end Storage

namespace Session

open RemoteState

variable {ω : Type} {oracle : Oracle ω} {content : ω → Storage} {before after : ω}
  {exchanges : List (Exchange Session)} {p : Profile} {s : Session} {key : Key}
  {m : GlobalMetadata} {ending : Ending Session CycleReport}

/-- What the session knows and what the server holds belong to the same epoch. -/
structure Settled (p : Profile) (key : Key) (m : GlobalMetadata) (book : Bookkeeping)
    (st : Storage) : Prop where
  evaluated : st.evaluated p.config.storageVersion = .ok (.current m)
  known : book.localState.lastSyncId = some m.syncId
  timed : st.Timed
  keys : book.keyring.Serves m.syncId st.keysTime ∨ ∃ bundle, st.bundle key = .ok bundle

theorem Settled.congr {book : Bookkeeping} {st other : Storage}
    (settled : Settled p key m book other) (same : st.SameBookkeeping other) :
    Settled p key m book st where
  evaluated := (Storage.evaluated_congr same _).trans settled.evaluated
  known := settled.known
  timed := (Storage.timed_congr same).mpr settled.timed
  keys := by
    rw [Storage.keysTime_congr same, Storage.bundle_congr same]
    exact settled.keys

/-- The report of a cycle that ended well. -/
theorem closed_returned (last : Session) :
    ∃ r, closed (.returned () last) = .returned r last.resting ∧
      r.freshStart = last.freshStartReason ∧ r.epochChanged = last.sawNewEpoch ∧
      r.syncId = (last.cycle.getD .start).syncId := by
  refine ⟨_, rfl, freshStartReason_withReport (by intros; rfl) last,
    sawNewEpoch_withReport (by intros; rfl) last, ?_⟩
  unfold entering withReport
  cases last.cycle <;> rfl

/-! ## The first cycle -/

theorem freshStartReason_startingAfresh (running : s.isSyncing = true) (reason : FreshStartReason) :
    (s.startingAfresh reason).freshStartReason = some reason := by
  obtain ⟨r, running⟩ := Option.isSome_iff_exists.mp running
  simp [freshStartReason, startingAfresh, entering, withReport, running]

theorem isSyncing_startingAfresh (running : s.isSyncing = true) (reason : FreshStartReason) :
    (s.startingAfresh reason).isSyncing = true :=
  (isSyncing_withReport _).trans ((isSyncing_withReport s).trans running)

/-- The cycle reports that it ended well, and what it reports. -/
theorem closed_settled {st : Storage} {last : Session} {inner : Ending Session Unit}
    (ended : inner = .returned () last) (settled : Settled p key m last.book st)
    (named : (last.cycle.getD .start).syncId = some m.syncId) :
    ∃ r last', closed inner = .returned r last' ∧ Settled p key m last'.book st ∧
      last'.book = last.book ∧ r.syncId = some m.syncId ∧
      r.freshStart = last.freshStartReason ∧ r.epochChanged = last.sawNewEpoch := by
  obtain ⟨r, closing, freshStart, epochChanged, syncId⟩ := closed_returned last
  rw [ended]
  exact ⟨r, last.resting, closing, settled, rfl, syncId.trans named, freshStart, epochChanged⟩

/-- A fresh start settles the session and the server. -/
theorem Renewed.settles {st : Storage} {inner : Ending Session Unit} (running : s.isSyncing = true)
    (renewed : Renewed p key s st exchanges inner) :
    ∃ r last m, closed inner = .returned r last ∧ Settled p key m last.book st ∧
      r.syncId = some m.syncId ∧ r.freshStart ≠ none := by
  cases renewed with
  | intro reason m k bundle fresh tail last wiped undelegated resets sound supplied =>
      obtain ⟨opened, x, rest, rfl, request, delivered⟩ := supplied
      have settled : Settled p key m last.book st :=
        ⟨sound.evaluated, delivered.epoch, sound.timed, .inr ⟨bundle, opened⟩⟩
      obtain ⟨r, last', closing, settled, -, syncId, freshStart, -⟩ := closed_settled rfl settled
        (delivered.named (isSyncing_startingAfresh running reason))
      refine ⟨r, last', m, closing, settled, syncId, ?_⟩
      rw [freshStart, delivered.freshStart, freshStartReason_startingAfresh running reason]
      exact Option.some_ne_none reason

/-- A cycle without a fresh start binds its keyring to the time of the keys. -/
theorem keyring_keyBound {st : Storage} (fresh : s.performedFreshStart = false) :
    (s.keyBound st.index m).book.keyring = s.book.keyring.rebind m.syncId st.keysTime :=
  congrArg (s.book.keyring.rebind m.syncId) (if_neg (Bool.eq_false_iff.mp fresh))

theorem isBoundTo_keyBound {st : Storage} (timed : st.Timed) (fresh : s.performedFreshStart = false) :
    (s.keyBound st.index m).book.keyring.isBoundTo m.syncId st.keysTime = true := by
  rw [keyring_keyBound fresh]
  exact Keyring.isBoundTo_rebind s.book.keyring m.syncId timed

/-- The session at the end of a cycle that found an epoch and kept it. -/
structure Kept (p : Profile) (key : Key) (s : Session) (m : GlobalMetadata) (st : Storage)
    (exchanges : List (Exchange Session)) (last : Session) : Prop where
  settled : Settled p key m last.book st
  serves : last.book.keyring.Serves m.syncId st.keysTime
  freshStart : last.freshStartReason = s.freshStartReason
  epochChanged : last.sawNewEpoch = s.sawNewEpoch
  named : s.isSyncing = true → (last.cycle.getD .start).syncId = some m.syncId
  quiet : ∀ x ∈ exchanges, x.request.isWrite = false

theorem Delivered.kept {k : Keyring} {bundle : KeyBundle} {st : Storage} {last : Session}
    (delivered : Delivered s k m bundle exchanges last)
    (evaluated : st.evaluated p.config.storageVersion = .ok (.current m)) (timed : st.Timed)
    (bound : k.isBoundTo m.syncId st.keysTime = true) (held : k.bundle = some bundle) :
    Kept p key s m st exchanges last := by
  have serves : last.book.keyring.Serves m.syncId st.keysTime := by
    rw [delivered.keyring]
    exact ⟨bound, by rw [Keyring.isLoaded, held]; rfl⟩
  exact ⟨⟨evaluated, delivered.epoch, timed, .inl serves⟩, serves, delivered.freshStart,
    delivered.epochChanged, delivered.named,
    fun x member => Request.isWrite_eq_false_of_not_isRemote (delivered.stays_local x member)⟩

theorem Supplied.kept {k : Keyring} {bundle : KeyBundle} {st : Storage} {last : Session}
    (supplied : Supplied p key s k m bundle st exchanges last)
    (evaluated : st.evaluated p.config.storageVersion = .ok (.current m)) (timed : st.Timed)
    (bound : k.isBoundTo m.syncId st.keysTime = true) : Kept p key s m st exchanges last := by
  have quiet := supplied.quiet
  obtain ⟨-, x, rest, rfl, request, delivered⟩ := supplied
  have kept : Kept p key s m st rest last := delivered.kept evaluated timed bound rfl
  exact { kept with quiet }

/-- Where an epoch is found, a cycle keeps it, or it renews the keys, or it cannot open them. -/
theorem Maintained.cases {st new : Storage} {inner : Ending Session Unit}
    (evaluated : st.evaluated p.config.storageVersion = .ok (.current m)) (timed : st.Timed)
    (fresh : s.performedFreshStart = false)
    (maintained : Maintained p key st.index s m st new exchanges inner) :
    (∃ last, inner = .returned () last ∧ Kept p key s m st exchanges last) ∨
      (∃ last, inner = .failed .decryptFailed last) ∨
      ∃ rest, Renewed p key (s.keyBound st.index m) new rest inner := by
  have bound := isBoundTo_keyBound (m := m) timed fresh
  cases maintained with
  | cached bundle exchanges last held delivered =>
      exact .inl ⟨last, rfl, delivered.kept evaluated timed bound held⟩
  | fetched bundle exchanges last absent supplied =>
      exact .inl ⟨last, rfl, supplied.kept evaluated timed bound⟩
  | locked x last absent request failed => exact .inr (.inl ⟨last, rfl⟩)
  | renewed x rest inner e absent request failed unusable renewed =>
      exact .inr (.inr ⟨rest, renewed⟩)

/-- Where the session knows the epoch, it is kept, and no keys are fetched by a keyring that serves. -/
theorem Maintained.kept {st new : Storage} {inner : Ending Session Unit}
    (settled : Settled p key m s.book st) (fresh : s.performedFreshStart = false)
    (maintained : Maintained p key st.index s m st new exchanges inner) :
    ∃ last, inner = .returned () last ∧ Kept p key s m st exchanges last ∧
      (s.book.keyring.Serves m.syncId st.keysTime → ∀ x ∈ exchanges, x.request.isRemote = false) := by
  have bound := isBoundTo_keyBound (m := m) settled.timed fresh
  have unserved (absent : (s.keyBound st.index m).book.keyring.bundle = none) :
      ¬s.book.keyring.Serves m.syncId st.keysTime := by
    intro serves
    rw [keyring_keyBound fresh, serves.rebind_eq] at absent
    have loaded := serves.loaded
    rw [Keyring.isLoaded, absent] at loaded
    cases loaded
  have opened (absent : (s.keyBound st.index m).book.keyring.bundle = none) (e : SyncError) :
      st.bundle key ≠ .error e := by
    intro failed
    obtain ⟨bundle, opened⟩ := settled.keys.resolve_left (unserved absent)
    cases opened.symm.trans failed
  cases maintained with
  | cached bundle exchanges last held delivered =>
      exact ⟨last, rfl, delivered.kept settled.evaluated settled.timed bound held,
        fun _ => delivered.stays_local⟩
  | fetched bundle exchanges last absent supplied =>
      exact ⟨last, rfl, supplied.kept settled.evaluated settled.timed bound,
        fun serves => absurd serves (unserved absent)⟩
  | locked x last absent request failed => exact absurd failed (opened absent _)
  | renewed x rest inner e absent request failed unusable renewed =>
      exact absurd failed (opened absent e)

/-- A cycle writes nothing if it writes nothing once its epoch is settled. -/
theorem quiet_cycle {st : Storage} {opening resets rest : List (Exchange Session)}
    (prelude : st.Prelude p.limit (opening.map (·.request)))
    (resettings : resets.map (·.request) = s.settleRequests m)
    (quiet : ∀ x ∈ rest, x.request.isWrite = false) :
    ∀ x ∈ opening ++ (resets ++ rest), x.request.isWrite = false := by
  intro x member
  rcases List.mem_append.mp member with reading | member
  · exact Exchange.forall_of_requests rfl prelude.isWrite_eq_false x reading
  · rcases List.mem_append.mp member with reset | later
    · exact Exchange.forall_of_requests resettings isWrite_settleRequests x reset
    · exact quiet x later

section Faithful

variable (faithful : oracle.Faithful content) (fits : p.config.Fits)
  (usable : p.sealingKey = .ok key) (idle : s.isSyncing = false) (timed : (content before).Timed)

include faithful fits usable idle timed

/-- Whatever the session knows and the server holds, a cycle settles them, or the server's format
is newer, or the keys on it cannot be opened. -/
theorem sync_settles (taken : (sync p).Takes oracle.alone s before exchanges ending after) :
    (∃ r last m, ending = .returned r last ∧ Settled p key m last.book (content after) ∧
        r.syncId = some m.syncId ∧
        (r.freshStart = none → last.book.keyring.Serves m.syncId (content after).keysTime)) ∨
      ∃ e last, ending = .failed e last ∧
        ((∃ found, e = .clientOutdated found p.config.storageVersion) ∨ e = .decryptFailed) := by
  cases evaluation : (content before).evaluated p.config.storageVersion with
  | error e =>
      obtain rfl := sync_unevaluated faithful usable idle evaluation taken
      obtain ⟨m, -, -, outdated⟩ := Storage.evaluated_error evaluation
      exact .inr ⟨e, _, rfl, .inl ⟨m.storageVersion, outdated⟩⟩
  | ok evaluated =>
      cases evaluated with
      | diverged reason =>
          obtain ⟨opening, rest, inner, rfl, rfl, -, renewed⟩ :=
            sync_diverged faithful fits usable idle evaluation taken
          obtain ⟨r, last, m, closing, settled, syncId, afresh⟩ := renewed.settles rfl
          exact .inl ⟨r, last, m, closing, settled, syncId, fun none => absurd none afresh⟩
      | current m =>
          obtain ⟨opening, resets, rest, inner, rfl, rfl, prelude, resettings, maintained⟩ :=
            sync_current faithful fits usable idle evaluation taken
          have running : (s.evaluating.keyed.settled m).isSyncing = true := isSyncing_settled ..
          rcases maintained.cases evaluation timed (performedFreshStart_settled ..) with
            ⟨last, ended, kept⟩ | ⟨last, rfl⟩ | ⟨rest, renewed⟩
          · have unchanged : (content after).SameBookkeeping (content before) := by
              rw [taken.world_eq]
              exact faithful.quiet (quiet_cycle prelude resettings kept.quiet)
            obtain ⟨r, last', closing, settled, same, syncId, -, -⟩ :=
              closed_settled ended (kept.settled.congr unchanged) (kept.named running)
            refine .inl ⟨r, last', m, closing, settled, syncId, fun _ => ?_⟩
            rw [same, Storage.keysTime_congr unchanged]
            exact kept.serves
          · exact .inr ⟨_, _, rfl, .inr rfl⟩
          · obtain ⟨r, last, m, closing, settled, syncId, afresh⟩ :=
              renewed.settles ((isSyncing_keyBound ..).trans running)
            exact .inl ⟨r, last, m, closing, settled, syncId, fun none => absurd none afresh⟩

omit timed in
/-- Once they are settled, a cycle keeps them so, writes nothing, and reads the index and the
metadata alone if the keyring serves. -/
theorem sync_settled (settled : Settled p key m s.book (content before))
    (taken : (sync p).Takes oracle.alone s before exchanges ending after) :
    ∃ r last, ending = .returned r last ∧ Settled p key m last.book (content after) ∧
      last.book.keyring.Serves m.syncId (content after).keysTime ∧
      r.freshStart = none ∧ r.epochChanged = false ∧ r.syncId = some m.syncId ∧
      (∀ x ∈ exchanges, x.request.isWrite = false) ∧
      (s.book.keyring.Serves m.syncId (content before).keysTime →
        (exchanges.map (·.request)).filter Request.isRemote =
          [indexRequest p.limit, metadataRequest p.limit]) := by
  obtain ⟨opening, resets, rest, inner, rfl, rfl, prelude, resettings, maintained⟩ :=
    sync_current faithful fits usable idle settled.evaluated taken
  have unchanged : ¬m.epochChanged s.evaluating.book.localState = true := by
    have known : s.evaluating.book.localState.lastSyncId = some m.syncId := settled.known
    simp [GlobalMetadata.epochChanged, known]
  have unreset : s.evaluating.settleRequests m = [] := if_neg unchanged
  have same : s.evaluating.keyed.settled m = s.evaluating.keyed := if_neg unchanged
  rw [same] at maintained
  obtain ⟨last, ended, kept, served⟩ := maintained.kept (s := s.evaluating.keyed) settled rfl
  have quiet := quiet_cycle prelude resettings kept.quiet
  have unwritten : (content after).SameBookkeeping (content before) := by
    rw [taken.world_eq]
    exact faithful.quiet quiet
  obtain ⟨r, last', closing, settled', book, syncId, freshStart, epochChanged⟩ :=
    closed_settled ended (kept.settled.congr unwritten) (kept.named rfl)
  refine ⟨r, last', closing, settled', ?_, freshStart.trans kept.freshStart,
    epochChanged.trans kept.epochChanged, syncId, quiet, fun serves => ?_⟩
  · rw [book, Storage.keysTime_congr unwritten]
    exact kept.serves
  · have listed := (Storage.evaluated_eq_current.mp settled.evaluated).1
    have none : (rest.map (·.request)).filter Request.isRemote = [] := by
      rw [List.filter_eq_nil_iff]
      intro r listed
      obtain ⟨x, member, rfl⟩ := List.mem_map.mp listed
      exact Bool.eq_false_iff.mp (served serves x member)
    rw [List.map_append, List.map_append, resettings, unreset, List.nil_append, List.filter_append,
      prelude.filter_isRemote, none, List.append_nil, Storage.readRequests,
      CollectionIndex.evaluate_eq_consistent.mpr listed]

end Faithful

/-! ## All cycles -/

section Cycles

variable (oracle : Oracle ω) (content : ω → Storage) (p : Profile) (s : Nat → Session) (w : Nat → ω)

/-- The course of the cycle of a number. -/
def cycleAt (n : Nat) : Course ω Session CycleReport := (sync p (s n)).course oracle.alone (w n)

/-- Cycles of one session, one after the other. Between them the metadata and the keys on the server
stay as they are. -/
structure Consecutive : Prop where
  idle : ∀ n, (s n).isSyncing = false
  book : ∀ n, (s (n + 1)).book = (cycleAt oracle p s w n).ending.state.book
  storage : ∀ n, (content (w (n + 1))).SameBookkeeping (content (cycleAt oracle p s w n).world)

/-- Cycles that each begin with what the one before has left. -/
def repeated (oracle : Oracle ω) (p : Profile) (start : Session × ω) : Nat → Session × ω
  | 0 => start
  | n + 1 =>
      let c := (sync p (repeated oracle p start n).1).course oracle.alone
        (repeated oracle p start n).2
      (c.ending.state, c.world)

end Cycles

/-- A cycle that is over leaves the session idle. -/
theorem isSyncing_closed (inner : Ending Session Unit) : (closed inner).state.isSyncing = false := by
  cases inner <;> rfl

theorem consecutive_repeated (oracle : Oracle ω) (content : ω → Storage) (p : Profile)
    (start : Session × ω) (idle : start.1.isSyncing = false) :
    Consecutive oracle content p (fun n => (repeated oracle p start n).1)
      (fun n => (repeated oracle p start n).2) where
  idle n := by
    induction n with
    | zero => exact idle
    | succ n ih =>
        obtain ⟨inner, -, ended⟩ := (takes_sync ih).mp
          (Run.takes_course oracle.alone (sync p (repeated oracle p start n).1) _)
        exact (congrArg (fun ending => ending.state.isSyncing) ended).trans (isSyncing_closed inner)
  book n := rfl
  storage n := .refl _

section Run

variable {s : Nat → Session} {w : Nat → ω} (faithful : oracle.Faithful content)
  (fits : p.config.Fits) (usable : p.sealingKey = .ok key)
  (consecutive : Consecutive oracle content p s w)

include faithful fits usable consecutive

/-- What the first cycle settles stays settled, and after the cycle that follows the keyring
serves. -/
theorem stays_settled (settled : Settled p key m (s 1).book (content (w 1))) (n : Nat) :
    Settled p key m (s (n + 1)).book (content (w (n + 1))) ∧
      ((s 1).book.keyring.Serves m.syncId (content (w 1)).keysTime ∨ 1 ≤ n →
        (s (n + 1)).book.keyring.Serves m.syncId (content (w (n + 1))).keysTime) := by
  induction n with
  | zero => exact ⟨settled, fun served => served.resolve_right (by decide)⟩
  | succ n ih =>
      obtain ⟨r, last, ended, settled, serves, -⟩ := sync_settled faithful fits usable
        (consecutive.idle (n + 1)) ih.1 (Run.takes_course oracle.alone _ (w (n + 1)))
      have book : (s (n + 2)).book = last.book := by
        rw [consecutive.book, cycleAt, ended]
        rfl
      have storage := consecutive.storage (n + 1)
      rw [book]
      refine ⟨settled.congr storage, fun _ => ?_⟩
      rw [Storage.keysTime_congr storage]
      exact serves

/-- A cycle ends well or finds a newer format or keys that it cannot open. If it ends well, all
later cycles do, in the same epoch and without a fresh start or a write, and in the end each of them
reads the index and the metadata and asks the server for nothing else. -/
theorem sync_converges (timed : (content (w 0)).Timed) :
    (∀ e, (cycleAt oracle p s w 0).ending.result = .error e →
      (∃ found, e = .clientOutdated found p.config.storageVersion) ∨ e = .decryptFailed) ∧
    ∀ first, (cycleAt oracle p s w 0).ending.result = .ok first →
      ∃ syncId, first.syncId = some syncId ∧ ∀ n, ∃ r,
        (cycleAt oracle p s w (n + 1)).ending.result = .ok r ∧
        r.freshStart = none ∧ r.epochChanged = false ∧ r.syncId = some syncId ∧
        (∀ x ∈ (cycleAt oracle p s w (n + 1)).exchanges, x.request.isWrite = false) ∧
        (first.freshStart = none ∨ 1 ≤ n →
          ((cycleAt oracle p s w (n + 1)).exchanges.map (·.request)).filter Request.isRemote =
            [indexRequest p.limit, metadataRequest p.limit]) := by
  have start := sync_settles faithful fits usable (consecutive.idle 0) timed
    (Run.takes_course oracle.alone _ (w 0))
  have storage := consecutive.storage 0
  refine ⟨fun e failed => ?_, fun first returned => ?_⟩
  · rcases start with ⟨r, last, m, ended, -⟩ | ⟨e', last, ended, cause⟩
    · rw [cycleAt, ended] at failed
      cases failed
    · rw [cycleAt, ended] at failed
      cases failed
      exact cause
  · rcases start with ⟨r, last, m, ended, settled, syncId, serves⟩ | ⟨e, last, ended, -⟩
    · rw [cycleAt, ended] at returned
      cases returned
      have book : (s 1).book = last.book := by
        rw [consecutive.book, cycleAt, ended]
        rfl
      have settled : Settled p key m (s 1).book (content (w 1)) := book ▸ settled.congr storage
      refine ⟨m.syncId, syncId, fun n => ?_⟩
      obtain ⟨settled, served⟩ := stays_settled faithful fits usable consecutive settled n
      obtain ⟨r', last', ended, -, -, freshStart, epochChanged, named, quiet, reads⟩ := sync_settled
        faithful fits usable (consecutive.idle (n + 1)) settled
        (Run.takes_course oracle.alone _ (w (n + 1)))
      refine ⟨r', by rw [cycleAt, ended]; rfl, freshStart, epochChanged, named, quiet,
        fun late => reads (served (late.imp_left fun none => ?_))⟩
      rw [book, Storage.keysTime_congr storage]
      exact serves none
    · rw [cycleAt, ended] at returned
      cases returned

end Run

open Simulation in
/-- The cycles of a new session with a server that is empty at first. -/
def blankCycle : Nat → Course Memory Session CycleReport :=
  cycleAt Memory.oracle Memory.profile
    (fun n => (repeated Memory.oracle Memory.profile (.ofLocalState .empty, Memory.blank) n).1)
    fun n => (repeated Memory.oracle Memory.profile (.ofLocalState .empty, Memory.blank) n).2

open Simulation in
theorem blankCycle_returns : ∃ first, (blankCycle 0).ending.result = .ok first := by
  have diverged : (Memory.storage Memory.blank).evaluated Memory.profile.config.storageVersion =
      .ok (.diverged .missingMetadata) := rfl
  have idle : (Session.ofLocalState .empty).isSyncing = false := rfl
  obtain ⟨reads, rest, inner, -, ended, -, renewed⟩ := sync_diverged Memory.oracle_faithful
    Memory.profile_fits rfl idle diverged (Run.takes_course Memory.oracle.alone _ Memory.blank)
  obtain ⟨r, last, m, closing, -⟩ := renewed.settles rfl
  have ended : (blankCycle 0).ending = closed inner := ended
  rw [ended, closing]
  exact ⟨r, rfl⟩

open Simulation in
theorem blankCycle_converges : ∃ first syncId, (blankCycle 0).ending.result = .ok first ∧
    first.syncId = some syncId ∧ ∀ n, ∃ r, (blankCycle (n + 1)).ending.result = .ok r ∧
      r.freshStart = none ∧ r.epochChanged = false ∧ r.syncId = some syncId ∧
      (∀ x ∈ (blankCycle (n + 1)).exchanges, x.request.isWrite = false) ∧
      (first.freshStart = none ∨ 1 ≤ n →
        ((blankCycle (n + 1)).exchanges.map (·.request)).filter Request.isRemote =
          [indexRequest Memory.profile.limit, metadataRequest Memory.profile.limit]) := by
  obtain ⟨first, returned⟩ := blankCycle_returns
  have idle : (Session.ofLocalState .empty).isSyncing = false := rfl
  have consecutive := consecutive_repeated Memory.oracle Memory.storage Memory.profile
    (.ofLocalState .empty, Memory.blank) idle
  have timed : (Memory.storage Memory.blank).Timed := by
    intro time found
    cases found
  obtain ⟨syncId, named, later⟩ :=
    (sync_converges Memory.oracle_faithful Memory.profile_fits rfl consecutive timed).2 first
      returned
  exact ⟨first, syncId, returned, named, later⟩

end Session

end SealedSync
