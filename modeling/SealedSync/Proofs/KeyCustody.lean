import SealedSync.Proofs.KeyHistory
import SealedSync.Proofs.Republishing

/-!
# Keyrings in the course of a cycle

While a cycle waits, other clients put keys and wipe, and others ask the session's keyring for keys.
Whatever they do, the keyring stays dated, and once a cycle has made sure of its keys it holds a bundle
that the server held at some moment since the index was fetched.
-/
namespace SealedSync

namespace Session

open RemoteState FreshStart Keyring Program

variable {p : Profile} {α : Type}

/-- How a request may be served while other clients put keys and wipe and others use the keyring. The
running cycle and its report are nobody else's business. -/
structure Served (p : Profile) (r : Request) (past : List Storage) (s : Session) (reply : r.Reply)
    (present : List Storage) (resumed : Session) : Prop where
  chronicle : Chronicle present
  grown : past <:+ present
  shown : Shown past r reply
  cycle : resumed.cycle = s.cycle
  keyring : Consulted p.keyAccess past present s.book.keyring resumed.book.keyring

/-- What a session may ask for: it writes to the server in fresh starts only. -/
def MayAsk (p : Profile) (r : Request) : Prop :=
  r.isWrite = false ∨ r = wipeRequest p.limit ∨
    ∃ key, p.sealingKey = .ok key ∧ Publishes (.ofConfig p.config) key r

/-- A session with a running cycle, where something is said of its keyring and the history. -/
structure Holding (inv : List Storage → Keyring → Prop) (history : List Storage) (s : Session) :
    Prop where
  chronicle : Chronicle history
  keyring : inv history s.book.keyring
  running : s.isSyncing = true

namespace Holding

variable {inv other : List Storage → Keyring → Prop} {history : List Storage} {s : Session}

theorem imp (holds : Holding inv history s) (implies : ∀ k, inv history k → other history k) :
    Holding other history s :=
  { holds with keyring := implies _ holds.keyring }

theorem withReport (holds : Holding inv history s) (f : CycleReport → CycleReport) :
    Holding inv history (s.withReport f) :=
  { holds with running := (isSyncing_withReport s).trans holds.running }

theorem entering (holds : Holding inv history s) (state : CycleState) :
    Holding inv history (s.entering state) :=
  holds.withReport _

theorem withKeyring (holds : Holding inv history s) {k : Keyring} (filled : other history k) :
    Holding other history (s.withKeyring k) :=
  { holds with keyring := filled }

theorem stable (durable : Durable p.keyAccess inv) : Stable (Served p) (Holding inv) := by
  intro r past s reply present resumed holds served
  constructor
  · exact served.chronicle
  · exact durable past present _ _ served.grown served.keyring.refilled holds.keyring
  · exact (congrArg Option.isSome served.cycle).trans holds.running

end Holding

/-- Nobody else begins a fresh start in the running cycle. -/
theorem stable_performedFreshStart (begun : Bool) :
    Stable (Served p) fun _ s => s.performedFreshStart = begun := by
  intro r past s reply present resumed holds served
  exact (congrArg (fun cycle : Option CycleReport => (cycle.getD .start).performedFreshStart)
    served.cycle).trans holds

/-! ## Steps on the keyring -/

section Keys

variable {inv : List Storage → Keyring → Prop} {allowed : Request → Prop}
  (durable : Durable p.keyAccess inv) (permitted : allowed (bundleRequest p.limit))

include durable permitted

/-- A refresh that ends well leaves a bundle in the keyring. -/
theorem assures_refreshKeys : (refreshKeys p).Assures (Served p)
    (fun history s r => Holding inv history s ∧ allowed r) (Holding inv)
    (fun _ history s => Holding inv history s ∧ ∃ bundle, s.book.keyring.bundle = some bundle)
    (Holding inv) := by
  intro history s holds
  have silent {run : Run Keyring Unit} (same : Keyring.refresh p.keyAccess s.book.keyring = run) :
      refreshKeys p s = run.zoom (·.book.keyring) (fun k s => s.withKeyring k) s := by
    rw [refreshKeys, onKeyring_eq_zoom, ← same]
    rfl
  rcases refresh_cases p.keyAccess s.book.keyring with
    ⟨same, bundle, held⟩ | ⟨e, same, -⟩ | ⟨key, epoch, usable, absent, bound⟩
  · rw [silent same]
    exact ⟨holds, bundle, held⟩
  · rw [silent same]
    exact holds
  · rw [refreshKeys_run_absent usable absent bound]
    refine ⟨⟨holds, permitted⟩, ?_⟩
    intro reply present resumed served
    obtain ⟨now, earlier, rfl⟩ := List.exists_cons_of_ne_nil holds.chronicle.ne_nil
    have later := Holding.stable durable _ _ _ _ _ _ holds served
    dsimp only
    cases found : bundleFrom p.limit key reply with
    | error e => exact later
    | ok bundle =>
        have opens : now.Opens p.keyAccess bundle :=
          ⟨key, usable, bundleFrom_shown served.shown found⟩
        have since : Since (now :: earlier) present now := ⟨earlier, served.grown, List.suffix_rfl⟩
        have refilled : Refilled p.keyAccess (now :: earlier) present s.book.keyring
            { resumed.book.keyring with bundle := some bundle } := by
          refine .inr ⟨bundle, now, by simp [bound], since, opens, ?_⟩
          rcases served.keyring.refilled with same | ⟨_, _, -, -, -, same⟩ <;> rw [same]
        refine ⟨?_, bundle, rfl⟩
        exact later.withKeyring (durable _ _ _ _ served.grown refilled holds.keyring)

theorem sustains_refreshKeys : (refreshKeys p).Sustains (Served p) allowed (Holding inv) :=
  (assures_refreshKeys durable permitted).conseq (fun _ _ _ asked => asked) (fun _ _ holds => holds)
    (fun _ _ _ holds => holds.1) fun _ _ holds => holds

theorem sustains_keyFor (name : String) :
    (onKeyring (Keyring.keyFor p.keyAccess name)).Sustains (Served p) allowed (Holding inv) := by
  have look {β : Type} (next : Keyring → Program Keyring β) :
      onKeyring (Program.get >>= next) = Program.get >>= fun s => onKeyring (next s.book.keyring) := rfl
  unfold Keyring.keyFor
  rw [look]
  refine .bind .get fun s => ?_
  cases s.book.keyring.bundle with
  | some bundle => exact .pure _
  | none =>
      rw [onKeyring_bind]
      refine .bind (sustains_refreshKeys durable permitted) fun _ => ?_
      rw [look]
      refine .bind .get fun s => ?_
      cases s.book.keyring.bundle with
      | some bundle => exact .pure _
      | none => exact .fail _

end Keys

/-! ## What a cycle does to the keyring -/

/-- The program asks only for what a session may ask for, and takes the session from one state of things
to another, whatever others do meanwhile. -/
abbrev Upholds (p : Profile) (pre : List Storage → Session → Prop) (program : Program Session α)
    (post : α → List Storage → Session → Prop) (broken : List Storage → Session → Prop) : Prop :=
  program.Assures (Served p) (fun _ _ r => MayAsk p r) pre post broken

theorem upholds_of_sustains {program : Program Session α} {inv broken : List Storage → Session → Prop}
    (sustains : program.Sustains (Served p) (MayAsk p) inv)
    (breaks : ∀ history s, inv history s → broken history s) :
    Upholds p inv program (fun _ => inv) broken :=
  sustains.conseq (fun _ _ _ asked => asked.2) (fun _ _ holds => holds) (fun _ _ _ holds => holds) breaks

theorem MayAsk.of_read {r : Request} (read : r.isWrite = false) : MayAsk p r := .inl read

theorem MayAsk.of_fileWrite {r : Request} (file : r.isFileWrite = true) : MayAsk p r :=
  .inl (Request.isWrite_eq_false_of_not_isRemote (Request.isRemote_eq_false_of_isFileWrite file))

section Cycle

variable {base : List Storage} {key : Key}

/-- The keyring of a cycle in a fresh start that has not forgotten its keys yet. -/
def Underway (p : Profile) (base history : List Storage) (s : Session) : Prop :=
  Holding (DatedAfter p.keyAccess base) history s ∧ s.performedFreshStart = true

/-- The keyring of a cycle whose fresh start has forgotten the keys. -/
def Cleared (base history : List Storage) (s : Session) : Prop :=
  Holding (EmptyAfter base) history s ∧ s.performedFreshStart = true

theorem Underway.stable : Stable (Served p) (Underway p base) :=
  (Holding.stable durable_datedAfter).and (stable_performedFreshStart true)

theorem Underway.begun {history : List Storage} {s : Session}
    (holds : Holding (DatedAfter p.keyAccess base) history s) (reason : FreshStartReason) :
    Underway p base history (s.startingAfresh reason) := by
  constructor
  · exact { (holds.entering .freshStart).withReport _ with }
  · exact afresh_startingAfresh reason holds.running

theorem Underway.forgetting {history : List Storage} {s : Session}
    (holds : Underway p base history s) : Cleared base history (s.withKeyring .empty) :=
  ⟨holds.1.withKeyring ⟨holds.1.keyring.1, rfl⟩, holds.2⟩

theorem Cleared.stable : Stable (Served p) (Cleared base) :=
  (Holding.stable durable_emptyAfter).and (stable_performedFreshStart true)

theorem Cleared.dated {history : List Storage} {s : Session} (holds : Cleared base history s) :
    Holding (DatedAfter p.keyAccess base) history s :=
  holds.1.imp fun _ empty => empty.dated

theorem Cleared.forgettingRecords {history : List Storage} {s : Session}
    (holds : Cleared base history s) : Cleared base history s.forgettingRecords :=
  ⟨{ holds.1 with keyring := holds.1.keyring }, holds.2⟩

/-- Once the new epoch is published, the keys are forgotten and no others are fetched. -/
theorem upholds_republish (usable : p.sealingKey = .ok key) (synchronizers : List Synchronizer) :
    Upholds p (Underway p base) (onBook (republish (.ofConfig p.config) key synchronizers))
      (fun _ => Cleared base) (Holding (DatedAfter p.keyAccess base)) := by
  have publishing : (publishAnew (.ofConfig p.config) key).Sustains (Served p) (MayAsk p)
      (Underway p base) :=
    sustains_publishAnew Underway.stable fun r publishes => .inr (.inr ⟨key, usable, publishes⟩)
  have resetting : (resetAll synchronizers).Sustains (Served p) (MayAsk p) (Cleared base) :=
    sustains_resetAll Cleared.stable (fun _ => .of_read rfl) synchronizers
  have saving (failures : List String) : (saveReset p.config.statePath failures).Sustains
      (Served p) (MayAsk p) (Cleared base) :=
    sustains_saveReset Cleared.stable (fun _ => .of_fileWrite) _ _
  exact assures_republish_of (upholds_of_sustains publishing fun _ _ holds => holds.1)
    (fun _ _ holds => holds.forgetting) (upholds_of_sustains resetting fun _ _ holds => holds.dated)
    (fun _ _ holds => holds.forgettingRecords)
    fun failures => upholds_of_sustains (saving failures) fun _ _ holds => holds.dated

/-- A fresh start leaves the keyring empty, or dated where it breaks off. -/
theorem upholds_freshStart (usable : p.sealingKey = .ok key) (reason : FreshStartReason) :
    Upholds p (Holding (DatedAfter p.keyAccess base)) (freshStart p key reason)
      (fun _ => Cleared base) (Holding (DatedAfter p.keyAccess base)) := by
  have wiping : (Program.request (wipeRequest p.limit)).Sustains (Served p) (MayAsk p)
      (Underway p base) :=
    .request (.inr (.inl rfl)) Underway.stable
  exact assures_freshStart_of (fun _ _ holds => .begun holds reason)
    (upholds_of_sustains wiping fun _ _ holds => holds.1) (fun _ _ _ _ _ holds => holds.1)
    fun _ _ synchronizers => upholds_republish usable synchronizers

/-- The keyring of a cycle that has not begun a fresh start. -/
def Unbegun (p : Profile) (base history : List Storage) (s : Session) : Prop :=
  Holding (DatedAfter p.keyAccess base) history s ∧ s.performedFreshStart = false

theorem Unbegun.entering {history : List Storage} {s : Session} (holds : Unbegun p base history s)
    (state : CycleState) : Unbegun p base history (s.entering state) :=
  ⟨holds.1.entering state, (performedFreshStart_entering s state).trans holds.2⟩

theorem Unbegun.keyed {history : List Storage} {s : Session} (holds : Unbegun p base history s) :
    Unbegun p base history s.keyed :=
  ⟨{ holds.1 with }, holds.2⟩

theorem Unbegun.stable : Stable (Served p) (Unbegun p base) :=
  (Holding.stable durable_datedAfter).and (stable_performedFreshStart false)

/-- What the keys are bound to: the time that the index gives, unless a fresh start has replaced it and
emptied the keyring. -/
def Bindable (p : Profile) (base : List Storage) (index : CollectionIndex) (history : List Storage)
    (s : Session) : Prop :=
  (Unbegun p base history s ∧ index.ListsBookkeeping) ∨
  (Holding (EmptyAfter base) history s ∧ s.performedFreshStart = true)

variable {now : Storage} {earlier : List Storage}

/-- A keyring that is bound to the index holds no bundle that is older than it. -/
theorem Bindable.keyBound {history : List Storage} {s : Session}
    (bindable : Bindable p (now :: earlier) now.index history s) (m : GlobalMetadata) :
    Holding (CurrentAfter p.keyAccess (now :: earlier)) history (s.keyBound now.index m) := by
  rcases bindable with ⟨⟨holds, unbegun⟩, listed⟩ | ⟨holds, begun⟩
  · obtain ⟨time, timed⟩ : ∃ time, now.index.modified? cryptoCollection = some time :=
      Option.isSome_iff_exists.mp ((CollectionIndex.contains_eq ..).symm.trans listed.2)
    obtain ⟨dated, held⟩ := holds.keyring.2.rebind holds.chronicle.unrepeated holds.keyring.1 timed m.syncId
    rw [Session.keyBound, unbegun, timed]
    exact (holds.entering .keyRefresh).withKeyring ⟨holds.keyring.1, dated, held⟩
  · obtain ⟨after, empty⟩ := holds.keyring
    rw [Session.keyBound, begun, empty]
    refine (holds.entering .keyRefresh).withKeyring ⟨after, dated_of_unbound rfl, ?_⟩
    exact heldSince_of_absent rfl

omit base key now earlier in
/-- The keyring is bound without a request. -/
theorem assures_keyBound_bind {ω : Type} {answering : Answering ω Session} {asking : Asking ω Session}
    {pre bound broken : ω → Session → Prop} {post : α → ω → Session → Prop} {index : CollectionIndex}
    {m : GlobalMetadata} {next : Program Session α}
    (binds : ∀ world s, pre world s → bound world (s.keyBound index m))
    (rest : next.Assures answering asking bound post broken) :
    (do
      enter .keyRefresh
      bindKeys index m
      next : Program Session α).Assures answering asking pre post broken := by
  have binding : (bindKeys index m).Assures answering asking
      (fun world s => bound world (s.withKeyring (s.book.keyring.rebind m.syncId
        (keysModified index (s.cycle.getD .start))))) (fun _ => bound) broken := by
    intro world s holds
    show ((onKeyring (Keyring.bind m.syncId (keysModified index (s.cycle.getD .start))) >>=
      fun _ => pure ()) s).Assures answering asking _ world
    rw [onKeyring_eq_zoom]
    show (Run.bind (Run.zoom _ _ s (Keyring.bind _ _ s.book.keyring)) _).Assures answering asking _ world
    rw [Keyring.bind_run]
    unfold Keyring.rebind at holds ⊢
    split at holds
    · rw [if_pos ‹_›]
      exact holds
    · rw [if_neg ‹_›]
      split <;> exact holds
  intro world s holds
  have same : keysModified index ((s.entering .keyRefresh).cycle.getD .start) =
      if s.performedFreshStart then none else index.modified? cryptoCollection := by
    rw [← performedFreshStart_entering s .keyRefresh]
    rfl
  have bound := binds world s holds
  rw [Session.keyBound, ← same] at bound
  exact binding.bind (fun _ => rest) world (s.entering .keyRefresh) bound

/-- A bundle that is fetched for the index is not older than it, and a fresh start for want of keys
leaves none that is. -/
theorem upholds_secureKeys (usable : p.sealingKey = .ok key) (m : GlobalMetadata) :
    Upholds p (Bindable p (now :: earlier) now.index) (secureKeys p key now.index m)
      (fun _ history s => Holding (CurrentAfter p.keyAccess (now :: earlier)) history s ∧
        ∃ bundle, s.book.keyring.bundle = some bundle)
      (Holding (DatedAfter p.keyAccess (now :: earlier))) := by
  have dated (history : List Storage) (s : Session)
      (holds : Holding (CurrentAfter p.keyAccess (now :: earlier)) history s) :
      Holding (DatedAfter p.keyAccess (now :: earlier)) history s :=
    holds.imp fun _ current => ⟨current.after, current.dated⟩
  have refreshing : Upholds p (Holding (CurrentAfter p.keyAccess (now :: earlier))) (refreshKeys p)
      (fun _ history s => Holding (CurrentAfter p.keyAccess (now :: earlier)) history s ∧
        ∃ bundle, s.book.keyring.bundle = some bundle)
      (Holding (CurrentAfter p.keyAccess (now :: earlier))) :=
    (assures_refreshKeys durable_currentAfter (.of_read rfl)).conseq (fun _ _ _ asked => asked.2)
      (fun _ _ holds => holds) (fun _ _ _ held => held) fun _ _ holds => holds
  rw [secureKeys_eq]
  refine assures_keyBound_bind (fun _ _ bindable => bindable.keyBound m) ?_
  refine refreshing.attempt_bind (fun _ => .pure fun _ _ held => held) fun e => ?_
  unfold handleKeyFailure
  refine .bind (upholds_of_sustains sustains_report dated) fun r => ?_
  split
  · have renewing : Upholds p (Holding (CurrentAfter p.keyAccess (now :: earlier)))
        (freshStart p key .unusableKeys) (fun _ => Cleared (now :: earlier))
        (Holding (DatedAfter p.keyAccess (now :: earlier))) :=
      (upholds_freshStart usable .unusableKeys).conseq (fun _ _ _ asked => asked) dated
        (fun _ _ _ emptied => emptied) fun _ _ holds => holds
    refine .note_bind (renewing.bind fun m => ?_)
    refine assures_keyBound_bind (fun _ _ emptied => Bindable.keyBound (p := p) (.inr emptied) m) ?_
    exact .bind (refreshing.conseq (fun _ _ _ asked => asked) (fun _ _ holds => holds)
      (fun _ _ _ held => held) dated) fun _ => .pure fun _ _ held => held
  · exact .fail dated

/-- An epoch that is settled leaves the keyring to be bound to the index, or a fresh start has emptied
it. -/
theorem upholds_settleEpoch {index : CollectionIndex} (usable : p.sealingKey = .ok key)
    (evaluated : Evaluated) (listed : ∀ m, evaluated = .current m → index.ListsBookkeeping) :
    Upholds p (Unbegun p base) (settleEpoch p key evaluated) (fun _ => Bindable p base index)
      (Holding (DatedAfter p.keyAccess base)) := by
  cases evaluated with
  | diverged reason =>
      exact (upholds_freshStart usable reason).conseq (fun _ _ _ asked => asked)
        (fun _ _ holds => holds.1) (fun _ _ _ emptied => .inr emptied) fun _ _ holds => holds
  | current m =>
      have forgets (history : List Storage) (s : Session) (holds : Unbegun p base history s) :
          Unbegun p base history s.forgetting := by
        refine ⟨(holds.1.withReport _).withKeyring ?_, ?_⟩
        · exact ⟨holds.1.keyring.1, dated_of_unbound rfl⟩
        · exact (performedFreshStart_forgetting s).trans holds.2
      have observing : (observeEpoch m).Sustains (Served p) (MayAsk p) (Unbegun p base) :=
        sustains_observeEpoch Unbegun.stable (fun _ => .of_read rfl) forgets m
      refine .bind (upholds_of_sustains observing fun _ _ holds => holds.1) fun _ => .pure ?_
      exact fun _ _ holds => .inl ⟨holds, listed m rfl⟩

/-- The index is what the server holds when the cycle asks for it. -/
theorem upholds_fetchIndex : Upholds p
    (fun history s => history = now :: earlier ∧ Unbegun p history history s) (fetchIndex p.limit)
    (fun index history s => Unbegun p (now :: earlier) history s ∧ index = now.index)
    (Holding (DatedAfter p.keyAccess (now :: earlier))) := by
  let listed (reply : (indexRequest p.limit).Reply) (history : List Storage) (s : Session) : Prop :=
    Unbegun p (now :: earlier) history s ∧
      ∀ index, indexFrom p.limit reply = .ok index → index = now.index
  have asking : Upholds p (fun history s => history = now :: earlier ∧ Unbegun p history history s)
      (Program.request (indexRequest p.limit)) listed (Holding (DatedAfter p.keyAccess (now :: earlier))) := by
    refine .request (fun _ _ _ => .of_read rfl) ?_
    rintro _ s reply present resumed ⟨rfl, holds⟩ served
    exact ⟨Unbegun.stable _ _ _ _ _ _ holds served, fun _ found => indexFrom_shown served.shown found⟩
  rw [fetchIndex_eq]
  refine asking.bind fun reply => ?_
  cases found : indexFrom p.limit reply with
  | error e => exact .fail fun _ _ holds => holds.1.1
  | ok index => exact .note_bind (.pure fun _ _ holds => ⟨holds.1, holds.2 index found⟩)

/-- The keys that a cycle has prepared are not older than the index that it fetched. -/
theorem upholds_prepare : Upholds p
    (fun history s => history = now :: earlier ∧ Unbegun p history history s) (prepare p)
    (fun _ history s => Holding (CurrentAfter p.keyAccess (now :: earlier)) history s ∧
      ∃ bundle, s.book.keyring.bundle = some bundle)
    (Holding (DatedAfter p.keyAccess (now :: earlier))) := by
  have dated (history : List Storage) (s : Session) (holds : Unbegun p (now :: earlier) history s) :
      Holding (DatedAfter p.keyAccess (now :: earlier)) history s := holds.1
  have checking : Upholds p (Unbegun p (now :: earlier)) (checkpoint p)
      (fun _ => Unbegun p (now :: earlier)) (Holding (DatedAfter p.keyAccess (now :: earlier))) :=
    upholds_of_sustains sustains_checkpoint dated
  have rechecking : Upholds p (Bindable p (now :: earlier) now.index) (checkpoint p)
      (fun _ => Bindable p (now :: earlier) now.index)
      (Holding (DatedAfter p.keyAccess (now :: earlier))) := by
    refine upholds_of_sustains sustains_checkpoint fun history s bindable => ?_
    rcases bindable with ⟨holds, -⟩ | ⟨holds, -⟩
    · exact holds.1
    · exact holds.imp fun _ emptied => emptied.dated
  have evaluating (index : CollectionIndex) : Upholds p (Unbegun p (now :: earlier))
      (evaluateRemote p index) (fun evaluated history s => Unbegun p (now :: earlier) history s ∧
        ∀ m, evaluated = .current m → index.ListsBookkeeping)
      (Holding (DatedAfter p.keyAccess (now :: earlier))) :=
    (assures_evaluateRemote Unbegun.stable (.of_read rfl) index).conseq (fun _ _ _ asked => asked.2)
      (fun _ _ holds => holds) (fun _ _ _ holds => holds) dated
  have unsealing : Upholds p (Unbegun p (now :: earlier)) (sealingKey p)
      (fun key history s => Unbegun p (now :: earlier) history s ∧ p.sealingKey = .ok key)
      (Holding (DatedAfter p.keyAccess (now :: earlier))) :=
    (assures_sealingKey Unbegun.stable (.of_read rfl) fun _ _ holds => holds.keyed).conseq
      (fun _ _ _ asked => asked.2) (fun _ _ holds => holds) (fun _ _ _ holds => holds) dated
  refine .bind (upholds_of_sustains (sustains_enter fun _ s holds => ?_) ?_) fun _ =>
    .bind upholds_fetchIndex fun index => .given fun current => ?_
  · exact ⟨holds.1, holds.2.entering .fetchingState⟩
  · rintro _ s ⟨rfl, holds⟩
    exact holds.1
  · -- From here on the index is known to be the one that the server held.
    subst current
    refine .bind checking fun _ => .bind (upholds_of_sustains
      (sustains_enter fun _ _ holds => holds.entering .evaluating) dated) fun _ => ?_
    refine .bind (evaluating now.index) fun evaluated => .given fun listed => ?_
    refine .bind unsealing fun key => .given fun usable => .bind checking fun _ => ?_
    refine .bind (upholds_settleEpoch usable evaluated listed) fun m => .bind rechecking fun _ => ?_
    exact .bind (upholds_secureKeys usable m) fun m => .pure fun _ _ held => held

/-- A session without a running cycle. -/
structure Resting (p : Profile) (history : List Storage) (s : Session) : Prop where
  chronicle : Chronicle history
  dated : Dated p.keyAccess history s.book.keyring
  idle : s.isSyncing = false

theorem upholds_conclude (index : CollectionIndex) (m : GlobalMetadata) :
    Upholds p (Holding (Dated p.keyAccess)) (conclude p index m) (fun _ => Holding (Dated p.keyAccess))
      (Holding (Dated p.keyAccess)) := by
  have stable : Stable (Served p) (Holding (Dated p.keyAccess)) := Holding.stable durable_dated
  have keys (name : String) : (onKeyring (Keyring.keyFor p.keyAccess name)).Sustains (Served p)
      (MayAsk p) (Holding (Dated p.keyAccess)) :=
    sustains_keyFor durable_dated (.of_read rfl) name
  refine upholds_of_sustains (sustains_conclude stable (fun name => (keys name).returning) ?_ ?_ ?_ ?_ ?_ ?_ index m)
    fun _ _ holds => holds
  · exact fun _ _ f _ holds => holds.withReport f
  · exact fun _ _ _ => .of_read rfl
  · exact .of_read rfl
  · exact fun _ => .of_fileWrite
  · exact fun _ _ holds => holds.entering .delegating
  · exact fun _ _ _ holds => { holds with }

theorem upholds_runCycle : Upholds p (fun history s => Unbegun p history history s) (runCycle p)
    (fun _ => Holding (Dated p.keyAccess)) (Holding (Dated p.keyAccess)) := by
  intro history s holds
  obtain ⟨now, earlier, rfl⟩ := List.exists_cons_of_ne_nil holds.1.chronicle.ne_nil
  have preparing : Upholds p (fun history s => history = now :: earlier ∧ Unbegun p history history s)
      (prepare p) (fun _ => Holding (Dated p.keyAccess)) (Holding (Dated p.keyAccess)) :=
    upholds_prepare.conseq (fun _ _ _ asked => asked) (fun _ _ holds => holds)
      (fun _ _ _ held => held.1.imp fun _ current => current.dated)
      fun _ _ holds => holds.imp fun _ dated => dated.2
  have whole := preparing.bind fun found => upholds_conclude found.1 found.2
  rw [runCycle_eq_prepare]
  exact whole _ s ⟨rfl, holds⟩

/-- Every cycle leaves a dated keyring, however it ends and whatever others do meanwhile. -/
theorem upholds_sync : Upholds p (Resting p) (sync p) (fun _ => Resting p) (Resting p) := by
  have rests (history : List Storage) (s : Session) (holds : Holding (Dated p.keyAccess) history s) :
      Resting p history s.resting := ⟨holds.chronicle, holds.keyring, rfl⟩
  refine .get_bind fun found => ?_
  split
  · exact .note_bind (.fail fun _ _ holds => holds.1)
  · have begins (history : List Storage) (s : Session) (resting : Resting p history s) :
        Unbegun p history history s.starting :=
      ⟨⟨resting.chronicle, ⟨List.suffix_rfl, resting.dated⟩, rfl⟩, rfl⟩
    refine .modify_bind (fun history s holds => begins history s holds.1) ?_
    refine upholds_runCycle.attempt_bind (fun _ => ?_) fun e => ?_
    · exact rests
    · exact rests

end Cycle

end Session

end SealedSync
