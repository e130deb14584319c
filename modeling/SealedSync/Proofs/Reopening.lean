import SealedSync.Proofs.CachedKeys
import SealedSync.Proofs.Convergence
import SealedSync.Proofs.Recovery
import SealedSync.Proofs.StateKeeping

/-!
# Reopened sessions

A session that is dropped and opened again has lost its keys and kept what is in its state file. No cycle
shows the difference: whenever a session is reopened, all its cycles end as they would have ended, with
the same report or error, the same records and the same server.
-/
namespace SealedSync

variable {ω : Type}

namespace Session

open RemoteState Keyring

section Cycle

variable {files : ω → String → Option (List UInt8)} {path : String} {roster : List Synchronizer}
  {oracle : Oracle ω} {content : ω → Storage} {p : Profile} {key : Key} {history : List Storage}
  {now : Storage} {earlier : List Storage} {broken : ω → Session → Session → Prop}

/-! ## Between cycles -/

/-- Two sessions between cycles that can be told apart by their keyrings alone. The records are in the
state file. -/
structure Interchangeable (files : ω → String → Option (List UInt8)) (path : String)
    (roster : List Synchronizer) (p : Profile) (history : List Storage) (w : ω) (s t : Session) : Prop
    extends Alike roster (Dating p history) s t where
  idle : s.isSyncing = false
  recalled : StateFile.recalled (some path) (files w) = s.book.localState

theorem Interchangeable.starting {w : ω} {s t : Session}
    (interchangeable : Interchangeable files path roster p (now :: earlier) w s t)
    (shown : content w = now) :
    Unstarted files path roster content p now earlier w s.starting t.starting where
  rosters := interchangeable.rosters
  uncancelled := ⟨rfl, rfl⟩
  cycle := rfl
  localState := interchangeable.localState
  keyrings := interchangeable.keyrings
  running := rfl
  recalled := interchangeable.recalled
  unbegun := rfl
  same := shown ▸ .refl _

theorem Companions.resting {w : ω} {s t : Session}
    (companions : Companions files path roster (Dating p history) w s t) :
    Interchangeable files path roster p history w s.resting t.resting :=
  { companions with
    cycle := rfl
    idle := rfl
    recalled := companions.recalled }

/-- The report of a cycle as it stands when the cycle ends, well or not. -/
def lastReport (oracle : Oracle ω) (p : Profile) (s : Session) (w : ω) : Option CycleReport :=
  ((runCycle p s.starting).course oracle.alone w).ending.state.cycle

/-! ## The end of a cycle -/

section Delegating

variable {bundle : KeyBundle} (keeping : oracle.Files files)

include keeping

/-- A synchronizer is handed the same key in both sessions. -/
theorem accords_delegateOne (c : Synchronizer) :
    (delegateOne p c).Accords oracle (Companions files path roster (Sharing p history bundle))
      (fun _ => Companions files path roster (Sharing p history bundle)) broken := by
  intro w s t companions
  obtain ⟨first, second⟩ := companions.keyrings.held
  have lasting : Companions files path roster (Sharing p history bundle)
      (oracle.next (delegation bundle c) w) s t := lasting_companions keeping _ _ w s t rfl companions
  unfold Run.Accords
  rw [delegateOne_run_loaded first, delegateOne_run_loaded second]
  simp only [Run.course]
  cases oracle.alone.reply (delegation bundle c) w with
  | ok _ => exact ⟨rfl, rfl, lasting⟩
  | error e => exact ⟨rfl, rfl, lasting⟩

theorem accords_delegate (synchronizers : List Synchronizer) :
    (delegate p synchronizers).Accords oracle (Companions files path roster (Sharing p history bundle))
      (fun _ => Companions files path roster (Sharing p history bundle)) broken := by
  induction synchronizers with
  | nil => exact .pure fun _ _ _ holds => holds
  | cons c rest ih =>
      refine .bind (accords_delegateOne keeping c) fun outcome => ?_
      exact .modify_bind (fun _ _ _ companions => companions.withReport _) ih

end Delegating

variable (dependable : oracle.Dependable content files) (kept : p.config.statePath = some path)

include dependable kept

/-- The same epoch is recorded in both sessions, and in the file. -/
theorem accords_commit (index : CollectionIndex) (m : GlobalMetadata) :
    (commit p index m).Accords oracle (Companions files path roster (Dating p history))
      (fun _ => Companions files path roster (Dating p history)) broken := by
  unfold commit
  refine accords_report_bind (fun _ _ _ companions => companions.report_eq) fun r => ?_
  have timing : (Program.request .clock : Program Session _).Accords oracle
      (fun w s t => Companions files path roster (Dating p history) w s t ∧ s.cycle.getD .start = r)
      (fun _ _ s t => Alike roster (Dating p history) s t ∧ s.isSyncing = true) broken :=
    .request fun _ _ _ holds => ⟨holds.1.toAlike, holds.1.running⟩
  refine .bind timing fun time => ?_
  rw [kept]
  let next : LocalState := ⟨some m.syncId, if r.performedFreshStart then none else some index.fingerprint,
    some time⟩
  have saving : (StateFile.save (some path) next : Program Session Unit).Accords oracle
      (fun _ s t => Alike roster (Dating p history) s t ∧ s.isSyncing = true)
      (fun _ w s t => (Alike roster (Dating p history) s t ∧ s.isSyncing = true) ∧
        StateFile.recalled (some path) (files w) = next) broken :=
    (accords_save dependable _ next).conseq (fun _ _ _ holds => holds) (fun _ _ _ _ holds => holds)
      fun _ _ _ impossible => impossible.elim
  refine .bind saving fun _ => ?_
  have recording (w : ω) (s t : Session)
      (holds : (Alike roster (Dating p history) s t ∧ s.isSyncing = true) ∧
        StateFile.recalled (some path) (files w) = next) :
      Companions files path roster (Dating p history) w
        { s with book := { s.book with localState := next } }
        { t with book := { t.book with localState := next } } :=
    { holds.1.1 with
      localState := rfl
      running := holds.1.2
      recalled := holds.2 }
  exact .modify_bind recording
    (.modify_bind (fun _ _ _ companions => companions.withReport _) (.pure fun _ _ _ holds => holds))

/-- With the same keys at hand, both sessions hand them out and record the epoch. -/
theorem accords_conclude (index : CollectionIndex) (m : GlobalMetadata) :
    (conclude p index m).Accords oracle (Companions files path roster (Shared p history))
      (fun _ => Companions files path roster (Dating p history)) broken := by
  have sharing (bundle : KeyBundle) : (conclude p index m).Accords oracle
      (Companions files path roster (Sharing p history bundle))
      (fun _ => Companions files path roster (Dating p history)) broken := by
    refine .silent_bind () (fun w s t companions => ?_) ?_
    · obtain ⟨first, second⟩ := companions.keyrings.held
      exact ⟨checkKeys_run_loaded first _, checkKeys_run_loaded second _⟩
    · refine accords_checkpoint_bind (fun _ _ _ companions => companions.uncancelled) ?_
      refine accords_enter_bind (fun _ _ _ companions => companions.entering .delegating) ?_
      have same (w : ω) (s t : Session)
          (companions : Companions files path roster (Sharing p history bundle) w s t) :
          t.synchronizers = s.synchronizers := companions.rosters.2.trans companions.rosters.1.symm
      refine .read_bind (fun s => s.synchronizers)
        (fun synchronizers => delegate p synchronizers >>= fun _ => commit p index m) same fun _ => ?_
      refine .bind ((accords_delegate dependable.keeping _).conseq (fun _ _ _ holds => holds.1)
        (fun _ _ _ _ companions => companions.imp fun _ _ sharing => sharing.dating)
        fun _ _ _ holds => holds) fun _ => accords_commit dependable kept index m
  intro w s t companions
  obtain ⟨bundle, shared⟩ := companions.keyrings
  exact sharing bundle w s t { companions with keyrings := shared }

variable (unrepeated : Unrepeated (now :: earlier))

include unrepeated

theorem accords_maintain (usable : p.sealingKey = .ok key) (index : CollectionIndex) (m : GlobalMetadata) :
    (maintain p key index m).Accords oracle
      (EpochSettled files path roster content p now earlier index)
      (fun _ => Companions files path roster (Dating p (now :: earlier)))
      (Companions files path roster (Dating p (now :: earlier))) := by
  refine accords_checkpoint_bind (fun _ _ _ settled => settled.companions.uncancelled) ?_
  exact .bind (accords_secureKeys dependable kept usable unrepeated index m) fun m =>
    accords_conclude dependable kept index m

omit unrepeated in
/-- What the index and the metadata come to is settled in both sessions, or both fail. -/
theorem accords_settleEpoch {index : CollectionIndex} {evaluated : Evaluated}
    (timed : index.modified? cryptoCollection = now.keysTime)
    (listed : ∀ m, evaluated = .current m → index.ListsBookkeeping) :
    (settleEpoch p key evaluated).Accords oracle (Unstarted files path roster content p now earlier)
      (fun _ => EpochSettled files path roster content p now earlier index)
      (Companions files path roster (Dating p (now :: earlier))) := by
  cases evaluated with
  | diverged reason =>
      exact (accords_freshStart dependable kept reason).conseq (fun _ _ _ holds => holds.toCompanions)
        (fun _ _ _ _ holds => .inr holds) fun _ _ _ holds => holds
  | current m =>
      have contained := (listed m rfl).2
      rw [CollectionIndex.contains_eq] at contained
      obtain ⟨time, found⟩ := Option.isSome_iff_exists.mp contained
      have observing : (observeEpoch m).Accords oracle
          (Unstarted files path roster content p now earlier)
          (fun _ => Unstarted files path roster content p now earlier)
          (Companions files path roster (Dating p (now :: earlier))) :=
        (pairs_observeEpoch dependable m).conseq (fun _ _ _ holds => holds)
          (fun _ _ _ _ holds => holds) fun _ _ _ holds => holds.toCompanions
      exact .bind observing fun _ =>
        .pure fun _ _ _ unstarted => .inl ⟨unstarted, time, found, timed.symm.trans found⟩

theorem accords_proceed {index : CollectionIndex} {evaluated : Evaluated}
    (timed : index.modified? cryptoCollection = now.keysTime)
    (listed : ∀ m, evaluated = .current m → index.ListsBookkeeping) :
    (proceed p index evaluated).Accords oracle (Unstarted files path roster content p now earlier)
      (fun _ => Companions files path roster (Dating p (now :: earlier)))
      (Companions files path roster (Dating p (now :: earlier))) := by
  unfold proceed
  refine .bind (accords_sealingKey dependable (fun _ _ _ unstarted => unstarted.keyed)
    fun _ _ _ unstarted => unstarted.toCompanions) fun key => .given fun usable => ?_
  refine accords_checkpoint_bind (fun _ _ _ unstarted => unstarted.uncancelled) ?_
  exact .bind (accords_settleEpoch dependable kept timed listed) fun m =>
    accords_maintain dependable kept unrepeated usable index m

/-- The cycles of two sessions that share a server and a state file end in accord. -/
theorem accords_runCycle :
    (runCycle p).Accords oracle (Unstarted files path roster content p now earlier)
      (fun _ => Companions files path roster (Dating p (now :: earlier)))
      (Companions files path roster (Dating p (now :: earlier))) := by
  rw [runCycle_eq]
  refine accords_enter_bind (fun _ _ _ unstarted => unstarted.entering .fetchingState) ?_
  refine .bind (accords_fetchIndex dependable) fun index => .given fun timed => ?_
  refine accords_checkpoint_bind (fun _ _ _ unstarted => unstarted.uncancelled) ?_
  refine accords_enter_bind (fun _ _ _ unstarted => unstarted.entering .evaluating) ?_
  exact .bind (accords_evaluateRemote dependable index) fun evaluated => .given fun listed =>
    accords_proceed dependable kept unrepeated timed listed

/-! ## A cycle as a whole -/

/-- The cycles of two sessions that can be told apart by their keyrings alone end in accord. -/
theorem sync_interchangeable {w : ω} {s t : Session} (shown : content w = now)
    (interchangeable : Interchangeable files path roster p (now :: earlier) w s t) :
    lastReport oracle p t w = lastReport oracle p s w ∧
      Run.Accords oracle (fun _ => Interchangeable files path roster p (now :: earlier))
        (Interchangeable files path roster p (now :: earlier)) (sync p s) (sync p t) w := by
  have idle : t.isSyncing = false := (congrArg Option.isSome interchangeable.cycle).trans
    interchangeable.idle
  have reached := accords_runCycle dependable kept unrepeated w _ _ (interchangeable.starting shown)
  unfold Run.Accords at reached ⊢
  obtain ⟨same, accord⟩ := reached
  refine ⟨accord.states.cycle, ?_⟩
  rw [course_sync, if_neg (by simp [interchangeable.idle]), course_sync, if_neg (by simp [idle])]
  refine ⟨same, ?_⟩
  dsimp only
  rcases accord.cases with ⟨_, u, v, returned, returned', after⟩ | ⟨e, u, v, failed, failed', after⟩
  · rw [returned, returned']
    exact ⟨(after.entering .done).report_eq, after.resting⟩
  · rw [failed, failed']
    exact ⟨rfl, after.resting⟩

end Cycle

/-! ## Lives -/

section Lives

variable (oracle : Oracle ω) (credentials : Credentials) (config : SyncConfig) (names : List String)
  (p : Profile)

/-- A session is opened with what is in the state file, and its synchronizers are registered. -/
def Opens (before : ω) (s : Session) (after : ω) : Prop :=
  ∃ first opening, (begin credentials config).Takes oracle.alone () before opening
    (.returned (p, first) ()) after ∧ s = names.foldl enlisting first

/-- A session before the cycle of a number, and the world it is in. Between cycles the world changes, and
before any cycle the session may be dropped and opened anew. -/
inductive Lives (change : Nat → ω → ω) (start : ω) : Nat → Session → ω → Prop where
  | opened {s : Session} {w : ω} (opens : Opens oracle credentials config names p start s w) :
      Lives change start 0 s w
  | goesOn {n : Nat} {s : Session} {w : ω} (lives : Lives change start n s w) :
      Lives change start (n + 1) ((sync p s).course oracle.alone w).ending.state
        (change n ((sync p s).course oracle.alone w).world)
  | reopened {n : Nat} {s t : Session} {w after : ω} (lives : Lives change start n s w)
      (opens : Opens oracle credentials config names p w t after) : Lives change start n t after

end Lives

/-- The life of a session that is never dropped. -/
def unbroken (oracle : Oracle ω) (p : Profile) (change : Nat → ω → ω) (first : Session × ω) :
    Nat → Session × ω
  | 0 => first
  | n + 1 =>
      let c := (sync p (unbroken oracle p change first n).1).course oracle.alone
        (unbroken oracle p change first n).2
      (c.ending.state, change n c.world)

/-- Before each cycle there is a history of what the server has held, in which the keys never get a time
again that they had. -/
structure Chronicled (content : ω → Storage) (history : Nat → List Storage) (w : Nat → ω)
    (last : Nat) : Prop where
  shown : ∀ n ≤ last, (history n).head? = some (content (w n))
  unrepeated : ∀ n ≤ last, Unrepeated (history n)
  grown : ∀ n < last, history n <:+ history (n + 1)

/-- The synchronizers that are registered by some names. -/
def enrolled (names : List String) (listed : List Synchronizer) : List Synchronizer :=
  names.foldl (fun listed name => listed ++ [⟨name, listed.length⟩]) listed

theorem foldl_enlisting (names : List String) (s : Session) :
    names.foldl enlisting s = { s with synchronizers := enrolled names s.synchronizers } := by
  induction names generalizing s with
  | nil => rfl
  | cons name rest ih => exact ih (s.enlisting name)

section Reopening

variable {oracle : Oracle ω} {files : ω → String → Option (List UInt8)} {content : ω → Storage}
  {path : String} {credentials : Credentials} {config : SyncConfig} {names : List String} {p : Profile}
  (dependable : oracle.Dependable content files)

include dependable

/-- An opened session has the records that are in the file, and nothing else. -/
theorem Opens.eq {before after : ω} {s : Session}
    (opens : Opens oracle credentials config names p before s after) :
    after = before ∧ p.config = config ∧
      s = { ofLocalState (StateFile.recalled config.statePath (files before)) with
        synchronizers := enrolled names [] } := by
  obtain ⟨first, opening, taken, rfl⟩ := opens
  have looks : (begin credentials config).Keeps (fun _ => True) fun r => r.isLook = true :=
    keeps_begin (fun _ => rfl) credentials config
  have unmoved : after = before := by
    rw [taken.world_eq]
    have still : ∀ x ∈ opening, ∀ w, w = before → oracle.next x.request w = before := by
      rintro x member w rfl
      exact dependable.unmoved _ w
        ((looks.takes trivial (fun _ _ _ _ => trivial) taken).1 x member).2.1
    exact Oracle.world_preserves still rfl
  refine ⟨unmoved, (begin_mirrored dependable.keeping taken).1, ?_⟩
  have begins := (takes_begin dependable.keeping taken).1
  cases valid : config.validate with
  | error e =>
      rw [valid] at begins
      cases begins
  | ok _ =>
      rw [valid] at begins
      cases begins
      exact foldl_enlisting names _

/-- Where a session was opened once, it can be opened again. -/
theorem Opens.again {before after : ω} {s : Session}
    (opens : Opens oracle credentials config names p before s after) (w : ω) :
    ∃ t, Opens oracle credentials config names p w t w := by
  have taken : (begin credentials config).Takes oracle.alone () w _ _ _ :=
    Run.takes_course oracle.alone (begin credentials config ()) w
  have begins := (takes_begin dependable.keeping taken).1
  obtain ⟨first, opening, earlier, -⟩ := opens
  have begun := (takes_begin dependable.keeping earlier).1
  cases valid : config.validate with
  | error e =>
      rw [valid] at begun
      cases begun
  | ok _ =>
      rw [valid] at begun begins
      cases begun
      rw [begins] at taken
      have reopened : Opens oracle credentials config names (profile credentials config) w
          (names.foldl enlisting _) _ := ⟨_, _, taken, rfl⟩
      rw [(reopened.eq dependable).1] at reopened
      exact ⟨_, reopened⟩

omit dependable in
theorem Interchangeable.later {roster : List Synchronizer} {past present : List Storage} {v w : ω}
    {s t : Session} (interchangeable : Interchangeable files path roster p past w s t)
    (grown : past <:+ present) (untouched : files v = files w) :
    Interchangeable files path roster p present v s t where
  toAlike := interchangeable.toAlike.imp fun k l dating =>
    ⟨durable_dated past present k k grown (.inl rfl) dating.1,
      durable_dated past present l l grown (.inl rfl) dating.2⟩
  idle := interchangeable.idle
  recalled := by
    rw [untouched]
    exact interchangeable.recalled

section Kept

variable (kept : config.statePath = some path)

include kept

theorem Opens.interchangeable {before after : ω} {s : Session} (history : List Storage)
    (opens : Opens oracle credentials config names p before s after) :
    Interchangeable files path (enrolled names []) p history after s s := by
  obtain ⟨rfl, -, rfl⟩ := opens.eq dependable
  constructor
  case toAlike =>
    exact ⟨⟨rfl, rfl⟩, ⟨rfl, rfl⟩, rfl, rfl, dated_of_unbound rfl, dated_of_unbound rfl⟩
  case idle => rfl
  case recalled =>
    rw [← kept]
    rfl

/-- If one of the two is dropped and opened again, they can still be told apart by their keyrings
alone. -/
theorem Interchangeable.reopened {history : List Storage} {w after : ω} {s t u : Session}
    (interchangeable : Interchangeable files path (enrolled names []) p history w s t)
    (opens : Opens oracle credentials config names p w u after) :
    after = w ∧ Interchangeable files path (enrolled names []) p history w s u := by
  obtain ⟨rfl, -, rfl⟩ := opens.eq dependable
  refine ⟨rfl, ?_⟩
  constructor
  case toAlike =>
    constructor
    case rosters => exact ⟨interchangeable.rosters.1, rfl⟩
    case uncancelled => exact ⟨interchangeable.uncancelled.1, rfl⟩
    case cycle =>
      have absent : s.cycle = none := by simpa [isSyncing] using interchangeable.idle
      exact absent.symm
    case localState =>
      rw [← interchangeable.recalled, ← kept]
      rfl
    case keyrings => exact ⟨interchangeable.keyrings.1, dated_of_unbound rfl⟩
  case idle => exact interchangeable.idle
  case recalled => exact interchangeable.recalled

end Kept

variable {history : Nat → List Storage} {change : Nat → ω → ω} {start : ω} {first : Session × ω}
  {last : Nat} (untouched : ∀ n w, files (change n w) = files w) (kept : config.statePath = some path)
  (opens : Opens oracle credentials config names p start first.1 first.2)
  (chronicled : Chronicled content history (fun n => (unbroken oracle p change first n).2) last)

include untouched kept opens chronicled

omit untouched in
/-- Wherever a life with restarts meets the unbroken one, the next cycle leads both to the same. -/
theorem cycle_interchangeable {n : Nat} (within : n ≤ last) {t : Session}
    (interchangeable : Interchangeable files path (enrolled names []) p (history n)
      (unbroken oracle p change first n).2 (unbroken oracle p change first n).1 t) :
    let u := unbroken oracle p change first n
    lastReport oracle p t u.2 = lastReport oracle p u.1 u.2 ∧
      Run.Accords oracle (fun _ => Interchangeable files path (enrolled names []) p (history n))
        (Interchangeable files path (enrolled names []) p (history n)) (sync p u.1) (sync p t) u.2 := by
  obtain ⟨-, configured, -⟩ := opens.eq dependable
  have kept : p.config.statePath = some path := (congrArg SyncConfig.statePath configured).trans kept
  have shown := chronicled.shown n within
  have unrepeated := chronicled.unrepeated n within
  cases held : history n with
  | nil => exact absurd held unrepeated.ne_nil
  | cons now earlier =>
      rw [held] at shown unrepeated interchangeable
      exact sync_interchangeable dependable kept unrepeated (Option.some.inj shown).symm interchangeable

/-- A life with any number of restarts comes to the same as the unbroken one, but for the keyring. -/
theorem lives_interchangeable {n : Nat} (within : n ≤ last) {t : Session} {v : ω}
    (lives : Lives oracle credentials config names p change start n t v) :
    v = (unbroken oracle p change first n).2 ∧
      Interchangeable files path (enrolled names []) p (history n) v (unbroken oracle p change first n).1
        t := by
  induction lives with
  | @opened t v opened =>
      obtain ⟨still, -, begun⟩ := opens.eq dependable
      obtain ⟨same, -, begun'⟩ := opened.eq dependable
      have one : first.1 = t := begun.trans begun'.symm
      refine ⟨same.trans still.symm, ?_⟩
      rw [unbroken, one]
      exact opened.interchangeable dependable kept (history 0)
  | @goesOn n t v lives ih =>
      have earlier := Nat.le_of_succ_le within
      obtain ⟨rfl, interchangeable⟩ := ih earlier
      obtain ⟨-, world, accord⟩ :=
        cycle_interchangeable dependable kept opens chronicled earlier interchangeable
      refine ⟨congrArg (change n) world, ?_⟩
      rw [world]
      exact accord.states.later (chronicled.grown n within) (untouched n _)
  | @reopened n u t v after lives opened ih =>
      obtain ⟨rfl, interchangeable⟩ := ih within
      obtain ⟨rfl, interchangeable⟩ := interchangeable.reopened dependable kept opened
      exact ⟨rfl, interchangeable⟩

/-- However often a session is dropped and opened again between its cycles, each cycle ends with the same
report or the same error as in the unbroken life, and leaves the same records and the same world. -/
theorem restarts_unnoticed {n : Nat} (within : n ≤ last) {t : Session} {v : ω}
    (lives : Lives oracle credentials config names p change start n t v) :
    let u := unbroken oracle p change first n
    let c := (sync p u.1).course oracle.alone u.2
    let d := (sync p t).course oracle.alone v
    v = u.2 ∧ t.book.localState = u.1.book.localState ∧
      d.ending.result = c.ending.result ∧ lastReport oracle p t v = lastReport oracle p u.1 u.2 ∧
      d.ending.state.book.localState = c.ending.state.book.localState ∧ d.world = c.world ∧
      ∃ reopened, Opens oracle credentials config names p v reopened v := by
  obtain ⟨rfl, interchangeable⟩ :=
    lives_interchangeable dependable untouched kept opens chronicled within lives
  obtain ⟨report, world, accord⟩ :=
    cycle_interchangeable dependable kept opens chronicled within interchangeable
  exact ⟨rfl, interchangeable.localState, accord.result_eq, report, accord.states.localState, world,
    opens.again dependable _⟩

end Reopening

/-! ## A restart between two cycles -/

open Simulation

theorem Memory.dependable : Memory.oracle.Dependable Memory.storage Memory.files where
  honest := Memory.oracle_faithful.toHonest
  keeping := Memory.keeps_files
  unmoved r w look := by
    cases r with
    | remote limit call =>
        cases call with
        | index => rfl
        | fetch collection id => rfl
        | store collection record => cases look
        | wipe => cases look
    | readFile path => rfl
    | deriveKey => rfl
    | _ => cases look
  written path bytes w := rfl
  renamed source target w := rfl

theorem Memory.files_write (m : Memory) (path : String) (content : Option (List UInt8)) :
    (m.write path content).files path = content := if_pos rfl

/-- A server in an epoch, the keys of which are sealed with a key, and a state file that knows the
epoch. -/
def remembered (key : Key) : Memory :=
  let stored := (Memory.blank.next (.remote keptProfile.limit (.store cryptoCollection
    (.ofPayload keysRecordId ((KeyBundle.ofDefault key).toPayload key (.fit 12 [])))))).next
      (.remote keptProfile.limit (.store metaCollection
        (.ofPayload globalRecordId (Memory.metadata "epoch").toJson.render)))
  stored.write "state.json" (some (StateFile.contents ⟨some "epoch", none, none⟩))

theorem remembered_sound (key : Key) : (remembered key).storage.Sound
    keptProfile.config.storageVersion key (Memory.metadata "epoch") := by
  have fits : (Memory.metadata "epoch").Fits :=
    ⟨(by decide : currentStorageVersion < Nat.pow 2 32), fun _ member => nomatch member⟩
  show (Memory.next _ _).storage.Sound _ _ _
  rw [Memory.storage_store, Memory.storage_store]
  exact FreshStart.sound_of_stored fits (.ofDefault key) key (.fit 12 []) (Binary64.isNaN_ofNat 1)

/-- After a cycle somebody stores a record among the tabs. -/
def storingTab (_ : Nat) (m : Memory) : Memory :=
  m.next (.remote keptProfile.limit (.store "tabs" (.ofPayload "tab" "")))

theorem opens_kept (w : Memory) : ∃ s,
    Opens Memory.oracle keptAccount keptProfile.config ["tabs"] keptProfile w s w := by
  have taken : (begin keptAccount keptProfile.config).Takes Memory.oracle.alone () w _ _ _ :=
    Run.takes_course Memory.oracle.alone (begin keptAccount keptProfile.config ()) w
  have begins := (takes_begin Memory.keeps_files taken).1
  rw [keptProfile_valid] at begins
  rw [begins] at taken
  have opened : Opens Memory.oracle keptAccount keptProfile.config ["tabs"] keptProfile w _ _ :=
    ⟨_, _, taken, rfl⟩
  exact opened.again Memory.dependable w

/-- A session that is opened there is settled. -/
theorem settled_remembered {key : Key} {first : Session}
    (opens : Opens Memory.oracle keptAccount keptProfile.config ["tabs"] keptProfile (remembered key) first
      (remembered key)) :
    first.isSyncing = false ∧
      Settled keptProfile key (Memory.metadata "epoch") first.book (remembered key).storage := by
  have sound := remembered_sound key
  obtain ⟨-, -, rfl⟩ := opens.eq Memory.dependable
  have held : (remembered key).files "state.json" =
      some (StateFile.contents ⟨some "epoch", none, none⟩) := Memory.files_write _ _ _
  have recalled : StateFile.recalled keptProfile.config.statePath (remembered key).files =
      ⟨some "epoch", none, none⟩ :=
    (StateFile.recalled_of_found held).trans (LocalState.ofBytes_contents _)
  refine ⟨rfl, ?_⟩
  constructor
  case evaluated => exact sound.evaluated
  case known => exact congrArg LocalState.lastSyncId recalled
  case timed => exact sound.timed
  case keys => exact .inr sound.keys

/-- What the server has held before a first and before a second cycle. -/
def tabHistory (first : Session) (key : Key) : Nat → List Storage
  | 0 => [(remembered key).storage]
  | _ + 1 => [(unbroken Memory.oracle keptProfile storingTab (first, remembered key) 1).2.storage,
      (remembered key).storage]

/-- The first cycle fetches the keys and writes nothing, and the tab is stored elsewhere. -/
theorem remembered_cycle {key : Key} {first : Session} (usable : keptProfile.sealingKey = .ok key)
    (opens : Opens Memory.oracle keptAccount keptProfile.config ["tabs"] keptProfile (remembered key) first
      (remembered key)) :
    let next := unbroken Memory.oracle keptProfile storingTab (first, remembered key) 1
    next.1.book.keyring.bundle ≠ none ∧
      Storage.SameIn cryptoCollection next.2.storage (remembered key).storage := by
  obtain ⟨idle, settled⟩ := settled_remembered opens
  let cycle := (sync keptProfile first).course Memory.oracle.alone (remembered key)
  have taken : (sync keptProfile).Takes Memory.oracle.alone first (remembered key) cycle.exchanges
      cycle.ending cycle.world := Run.takes_course _ _ _
  obtain ⟨r, last, ended, -, serves, -, -, -, quiet, -⟩ := sync_settled Memory.oracle_faithful
    keptProfile_fits usable idle settled taken
  constructor
  · have reached : (unbroken Memory.oracle keptProfile storingTab (first, remembered key) 1).1 = last :=
      congrArg Ending.state ended
    rw [reached]
    exact Option.isSome_iff_ne_none.mp serves.loaded
  · have unwritten : cycle.world.storage.SameBookkeeping (remembered key).storage := by
      rw [taken.world_eq]
      exact Memory.oracle_faithful.quiet quiet
    show Storage.SameIn cryptoCollection (storingTab 0 cycle.world).storage _
    rw [storingTab, Memory.storage_store]
    exact (Storage.sameIn_store (by decide) _ _ _).trans unwritten.keys

theorem chronicled_remembered {key : Key} {first : Session} (usable : keptProfile.sealingKey = .ok key)
    (opens : Opens Memory.oracle keptAccount keptProfile.config ["tabs"] keptProfile (remembered key) first
      (remembered key)) :
    Chronicled Memory.storage (tabHistory first key)
      (fun n => (unbroken Memory.oracle keptProfile storingTab (first, remembered key) n).2) 1 := by
  constructor
  case shown =>
    intro n within
    match n with
    | 0 => rfl
    | 1 => rfl
  case unrepeated =>
    intro n within
    match n with
    | 0 => exact .start _
    | 1 => exact .kept (.start _) (remembered_cycle usable opens).2
  case grown =>
    intro n within
    obtain rfl : n = 0 := by omega
    exact List.suffix_cons _ _

/-- A session that is dropped after its first cycle has no keys in the next, which ends all the same like
the cycle of one that has. -/
theorem remembered_restart_unnoticed : ∃ key first t v,
    keptProfile.sealingKey = .ok key ∧
      Opens Memory.oracle keptAccount keptProfile.config ["tabs"] keptProfile (remembered key) first
        (remembered key) ∧
      Lives Memory.oracle keptAccount keptProfile.config ["tabs"] keptProfile storingTab (remembered key) 1
        t v ∧
      let u := unbroken Memory.oracle keptProfile storingTab (first, remembered key) 1
      let c := (sync keptProfile u.1).course Memory.oracle.alone u.2
      let d := (sync keptProfile t).course Memory.oracle.alone v
      u.1.book.keyring.bundle ≠ none ∧ t.book.keyring = .empty ∧
        v = u.2 ∧ t.book.localState = u.1.book.localState ∧ d.ending.result = c.ending.result ∧
        lastReport Memory.oracle keptProfile t v = lastReport Memory.oracle keptProfile u.1 u.2 ∧
        d.ending.state.book.localState = c.ending.state.book.localState ∧ d.world = c.world ∧
        ∃ reopened, Opens Memory.oracle keptAccount keptProfile.config ["tabs"] keptProfile v reopened
          v := by
  obtain ⟨key, usable⟩ := keptProfile_usable
  obtain ⟨first, opens⟩ := opens_kept (remembered key)
  obtain ⟨t, reopens⟩ := opens_kept
    (unbroken Memory.oracle keptProfile storingTab (first, remembered key) 1).2
  have lives : Lives Memory.oracle keptAccount keptProfile.config ["tabs"] keptProfile storingTab
      (remembered key) 1 t _ := .reopened (.goesOn (.opened opens)) reopens
  have emptied : t.book.keyring = .empty := by
    rw [(reopens.eq Memory.dependable).2.2]
    rfl
  have untouched (n : Nat) (m : Memory) : (storingTab n m).files = m.files := rfl
  exact ⟨key, first, t, _, usable, opens, lives, (remembered_cycle usable opens).1, emptied,
    restarts_unnoticed Memory.dependable untouched rfl opens (chronicled_remembered usable opens)
      (Nat.le_refl 1) lives⟩

end Session

end SealedSync
