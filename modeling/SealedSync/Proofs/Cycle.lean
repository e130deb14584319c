import SealedSync.Proofs.Reading

/-!
# The course of a cycle

A cycle is cut at its boundaries, and what each part does is read off its definition once: which
exchanges it can have, in which state it goes on, and where a cancellation ends it. All later results
about cycles are assembled from these.
-/
namespace SealedSync

def Request.isWipe : Request → Bool
  | .remote _ .wipe => true
  | _ => false

def Request.isRemote : Request → Bool
  | .remote .. => true
  | _ => false

/-- The request replaces a file or begins to. -/
def Request.isFileWrite : Request → Bool
  | .writeFile .. => true
  | .renameFile .. => true
  | _ => false

/-- What the publication of an epoch asks for. -/
def Request.isPublication : Request → Bool
  | .remote _ (.store ..) => true
  | .random _ => true
  | _ => false

/-- What the end of a cycle asks for, apart from keys. -/
def Request.isConclusion : Request → Bool
  | .synchronize .. => true
  | .clock => true
  | r => r.isFileWrite

theorem Request.isWipe_eq_false_of_isPublication {r : Request} (h : r.isPublication = true) :
    r.isWipe = false := by
  cases r with
  | remote limit call => cases call <;> first | rfl | cases h
  | _ => rfl

theorem Request.isFileWrite_eq_false_of_isPublication {r : Request} (h : r.isPublication = true) :
    r.isFileWrite = false := by
  cases r <;> first | rfl | cases h

theorem Request.isRemote_eq_false_of_isFileWrite {r : Request} (h : r.isFileWrite = true) :
    r.isRemote = false := by
  cases r with
  | remote limit call => cases h
  | _ => rfl

theorem Request.isRemote_eq_false_of_isConclusion {r : Request} (h : r.isConclusion = true) :
    r.isRemote = false := by
  cases r with
  | remote limit call => cases h
  | _ => rfl

theorem Request.isWipe_eq_false_of_not_isRemote {r : Request} (h : r.isRemote = false) :
    r.isWipe = false := by
  cases r with
  | remote limit call => simp [isRemote] at h
  | _ => rfl

open RemoteState

namespace Keyring

theorem bind_run (k : Keyring) (syncId : String) (modified : Option Binary64) :
    bind syncId modified k =
      if k.isBoundTo syncId modified then .returned false k
      else if k.isLoaded then
        .noted (if k.epoch = some syncId then .bundleModified else .epochRebound syncId)
          (.returned true (k.rebind syncId modified))
      else .returned false (k.rebind syncId modified) := by
  show (if k.isBoundTo syncId modified then (pure false : Program Keyring Bool) else _) k = _
  split
  · rfl
  · show (if k.isLoaded then _ else _ : Program Keyring Bool) k = _
    split
    · rename_i loaded
      show (if k.epoch = some syncId then _ else _ : Program Keyring Bool) k = _
      split <;> exact congrArg (fun held => Run.noted _ (.returned held _)) loaded
    · rename_i absent
      exact congrArg (Run.returned · _) (Bool.eq_false_iff.mpr absent)

theorem epoch_rebind (k : Keyring) (syncId : String) (modified : Option Binary64) :
    (k.rebind syncId modified).epoch = some syncId := by
  unfold rebind
  split
  · rename_i bound
    simp only [isBoundTo, Bool.and_eq_true, beq_iff_eq] at bound
    exact bound.1
  · rfl

variable {access : KeyAccess} {key : Key} {k : Keyring}

theorem refresh_run_loaded (usable : access.sealingKey = .ok key) (loaded : k.isLoaded = true) :
    refresh access k = .returned () k := by
  unfold refresh KeyAccess.key
  rw [usable]
  show (if k.isLoaded then pure () else _ : Program Keyring Unit) k = _
  rw [if_pos loaded]
  rfl

theorem refresh_run_absent {epoch : String} (usable : access.sealingKey = .ok key)
    (absent : k.bundle = none) (bound : k.epoch = some epoch) :
    refresh access k = .waiting (bundleRequest access.limit) k fun reply k =>
      match bundleFrom access.limit key reply with
      | .ok bundle => .noted (.bundleLoaded epoch) (.returned () { k with bundle := some bundle })
      | .error e => .failed e k := by
  have notLoaded : ¬k.isLoaded = true := by simp [isLoaded, absent]
  unfold refresh KeyAccess.key
  rw [usable]
  show (if k.isLoaded then pure () else _ : Program Keyring Unit) k = _
  rw [if_neg notLoaded, bound, fetchBundle_eq]
  refine congrArg (Run.waiting (bundleRequest access.limit) k)
    (funext fun reply => funext fun k => ?_)
  show Run.bind (Program.ofExcept (bundleFrom access.limit key reply) k) _ = _
  cases bundleFrom access.limit key reply <;> rfl

theorem keyFor_run_loaded {collection : String} {bundle : KeyBundle}
    (loaded : k.bundle = some bundle) :
    keyFor access collection k = .returned (bundle.keyFor collection) k := by
  cases k with
  | mk epoch modified held =>
      obtain rfl : held = some bundle := loaded
      rfl

end Keyring

namespace KeyManager

variable {access : KeyAccess} {m : KeyManager}

theorem sealingKey_run_derived (derived : m.derived = true) :
    sealingKey access m = Program.ofExcept access.key m := by
  show (if m.derived then Program.ofExcept access.key else _ : Program KeyManager Key) m = _
  rw [if_pos derived]

theorem sealingKey_run_underived (underived : m.derived = false) :
    sealingKey access m = .waiting .deriveKey m fun _ m =>
      (Program.ofExcept access.key m).bind fun key m => .returned key { m with derived := true } := by
  show (if m.derived then Program.ofExcept access.key else _ : Program KeyManager Key) m = _
  rw [underived, if_neg Bool.false_ne_true]
  rfl

/-- Once its key is derived, a manager refreshes its keyring without another wait. -/
theorem refresh_run_derived (derived : m.derived = true) :
    refresh access m = onKeyring (Keyring.refresh access) m := by
  show (sealingKey access m).bind _ = _
  rw [sealingKey_run_derived derived]
  cases found : access.key with
  | ok key => rfl
  | error e =>
      show _ = Run.zoom _ _ m (Keyring.refresh access m.keyring)
      unfold Keyring.refresh
      rw [found]
      rfl

/-- Once its key is derived, a manager looks for a key as its keyring does. -/
theorem keyFor_run_derived (derived : m.derived = true) (collection : String) :
    keyFor access collection m = onKeyring (Keyring.keyFor access collection) m := by
  show (if !m.keyring.isLoaded then sealingKey access >>= fun _ => onKeyring _ else onKeyring _ :
    Program KeyManager Key) m = _
  split
  · rename_i absent
    show (sealingKey access m).bind _ = _
    rw [sealingKey_run_derived derived]
    cases found : access.key with
    | ok key => rfl
    | error e =>
        obtain ⟨⟨epoch, modified, bundle⟩, _⟩ := m
        cases bundle with
        | some bundle => cases absent
        | none =>
            show _ = Run.zoom _ _ _ ((Keyring.refresh access ⟨epoch, modified, none⟩).bind _)
            unfold Keyring.refresh
            rw [found]
            rfl
  · rfl

end KeyManager

namespace FreshStart

abbrev wipeRequest (limit : Duration) : Request := .remote limit .wipe

/-- What a fresh start publishes after the wipe. -/
def publishAnew (plan : FreshStartPlan) (sealingKey : Key) : Program σ GlobalMetadata := do
  let syncId ← generateId .epochId
  Program.note (.syncIdGenerated syncId)
  let bundle ← generateBundle
  publishKeys plan sealingKey bundle
  let engines ← generateEngines .empty plan.collections
  let m : GlobalMetadata := ⟨syncId, plan.storageVersion, engines⟩
  publishMetadata plan m
  return m

/-- What is published once the key is on the server. -/
def publishEngines (plan : FreshStartPlan) (syncId : String) : Program σ GlobalMetadata := do
  let engines ← generateEngines .empty plan.collections
  let m : GlobalMetadata := ⟨syncId, plan.storageVersion, engines⟩
  publishMetadata plan m
  return m

/-- What follows once the server is wiped. -/
def republish (plan : FreshStartPlan) (sealingKey : Key) (synchronizers : List Synchronizer) :
    Program Bookkeeping GlobalMetadata := do
  let syncId ← generateId .epochId
  Program.note (.syncIdGenerated syncId)
  let bundle ← generateBundle
  publishKeys plan sealingKey bundle
  let engines ← generateEngines .empty plan.collections
  let m : GlobalMetadata := ⟨syncId, plan.storageVersion, engines⟩
  publishMetadata plan m
  resetLocal plan synchronizers
  Program.note (.freshStartComplete m.syncId)
  return m

theorem republish_eq (plan : FreshStartPlan) (sealingKey : Key)
    (synchronizers : List Synchronizer) :
    republish plan sealingKey synchronizers = (do
      let m ← publishAnew plan sealingKey
      resetLocal plan synchronizers
      Program.note (.freshStartComplete m.syncId)
      return m) := by
  simp only [republish, publishAnew, bind_assoc, pure_bind]

theorem perform_eq (plan : FreshStartPlan) (sealingKey : Key) (synchronizers : List Synchronizer) :
    perform plan sealingKey synchronizers = (do
      Program.note .wiping
      let reply ← Program.request (wipeRequest plan.limit)
      match Program.outcome plan.limit "server wipe" reply with
      | .ok () => republish plan sealingKey synchronizers
      | .error e => do
          Program.note (.stepFailed .wipe e)
          Program.fail e) := by
  funext book
  refine congrArg (fun resume => Run.noted .wiping (.waiting (wipeRequest plan.limit) book resume))
    (funext fun reply => ?_)
  match reply with
  | some (.ok _) => rfl
  | some (.error _) => rfl
  | none => rfl

end FreshStart

/-- The world in which a sealing key is there, given whether it has been derived before. -/
def Oracle.keyWorld {ω : Type} (oracle : Oracle ω) (derived : Bool) (world : ω) : ω :=
  if derived then world else oracle.next .deriveKey world

namespace Session

open FreshStart (wipeRequest)

variable {ω α β : Type}

/-- The state that the running cycle entered last. -/
def state (s : Session) : CycleState := (s.cycle.getD .start).state

/-- The running cycle has begun a fresh start. -/
def performedFreshStart (s : Session) : Bool := (s.cycle.getD .start).performedFreshStart

def withKeyring (s : Session) (keyring : Keyring) : Session :=
  { s with book := { s.book with keyring } }

/-- The session whose sealing key has been derived. -/
def keyed (s : Session) : Session := { s with keyDerived := true }

def withReport (s : Session) (f : CycleReport → CycleReport) : Session :=
  { s with cycle := s.cycle.map f }

def entering (s : Session) (state : CycleState) : Session := s.withReport (·.enter state)

/-- The session at the start of a cycle. -/
def starting (s : Session) : Session := { s with cancelRequested := false, cycle := some .start }

/-- The session after a cycle. -/
def resting (s : Session) : Session := { s with cycle := none }

theorem isSyncing_withReport {f : CycleReport → CycleReport} (s : Session) :
    (s.withReport f).isSyncing = s.isSyncing :=
  Option.isSome_map

theorem performedFreshStart_withReport (s : Session) {f : CycleReport → CycleReport}
    (kept : ∀ r, (f r).freshStart = r.freshStart) :
    (s.withReport f).performedFreshStart = s.performedFreshStart := by
  unfold performedFreshStart withReport
  cases s.cycle with
  | none => rfl
  | some r => exact congrArg Option.isSome (kept r)

@[simp]
theorem performedFreshStart_entering (s : Session) (state : CycleState) :
    (s.entering state).performedFreshStart = s.performedFreshStart :=
  performedFreshStart_withReport s fun _ => rfl

@[simp]
theorem performedFreshStart_withKeyring (s : Session) (keyring : Keyring) :
    (s.withKeyring keyring).performedFreshStart = s.performedFreshStart := rfl

@[simp]
theorem performedFreshStart_starting (s : Session) : s.starting.performedFreshStart = false := rfl

@[simp]
theorem performedFreshStart_keyed (s : Session) :
    s.keyed.performedFreshStart = s.performedFreshStart := rfl

theorem keyed_of_derived {s : Session} (derived : s.keyDerived = true) : s.keyed = s := by
  rw [keyed, ← derived]

/-! ## Work on a part of the session -/

theorem onBook_bind (program : Program Bookkeeping α) (next : α → Program Bookkeeping β) :
    onBook (program >>= next) = onBook program >>= fun value => onBook (next value) :=
  Program.zoom_bind (by intros; rfl) (by intros; rfl) program next

theorem onKeyring_eq_zoom (program : Program Keyring α) :
    onKeyring program = program.zoom (·.book.keyring) fun keyring s => s.withKeyring keyring :=
  funext fun s => Run.zoom_zoom (program s.book.keyring) s

theorem onKeyring_bind (program : Program Keyring α) (next : α → Program Keyring β) :
    onKeyring (program >>= next) = onKeyring program >>= fun value => onKeyring (next value) := by
  simp only [onKeyring_eq_zoom]
  exact Program.zoom_bind (by intros; rfl) (by intros; rfl) program next

/-! ## Steps without a request -/

section Silent

variable {env : Environment ω Session} {before after : ω} {exchanges : List (Exchange Session)}
  {p : Profile} {s : Session}

theorem takes_enter_bind {state : CycleState} {next : Unit → Program Session α}
    {ending : Ending Session α} :
    (enter state >>= next).Takes env s before exchanges ending after ↔
      (next ()).Takes env (s.entering state) before exchanges ending after := Iff.rfl

theorem takes_report_bind {next : CycleReport → Program Session α} {ending : Ending Session α} :
    (report >>= next).Takes env s before exchanges ending after ↔
      (next (s.cycle.getD .start)).Takes env s before exchanges ending after := Iff.rfl

theorem takes_checkpoint_bind {next : Unit → Program Session α} {ending : Ending Session α} :
    (checkpoint p >>= next).Takes env s before exchanges ending after ↔
      if s.cancelRequested then
        exchanges = [] ∧ ending = .failed (.cancelled s.state) s ∧ after = before
      else (next ()).Takes env s before exchanges ending after := by
  simp only [checkpoint, bind_assoc, Program.takes_get_bind]
  cases s.cancelRequested with
  | false => rfl
  | true =>
      simp only [if_true, bind_assoc, takes_report_bind, Program.takes_note_bind]
      exact Program.takes_fail_bind

/-- What a session waits for before it has its sealing key: nothing if the key has been derived, and the
end of the derivation otherwise. -/
inductive AwaitsKey (env : Environment ω Session) (s : Session) (before : ω) :
    List (Exchange Session) → Session → ω → Prop
  | known (derived : s.keyDerived = true) : AwaitsKey env s before [] s before
  | awaited (underived : s.keyDerived = false) : AwaitsKey env s before
      [env.exchange .deriveKey s before] (env.touch .deriveKey before s) (env.next .deriveKey before)

namespace AwaitsKey

variable {t : Session} {world : ω}

theorem exchange_eq (awaits : AwaitsKey env s before exchanges t world) :
    ∀ x ∈ exchanges, x = ⟨.deriveKey, s, (), t⟩ := by
  cases awaits with
  | known => exact List.forall_mem_nil _
  | awaited => exact List.forall_mem_singleton.mpr rfl

theorem request_eq (awaits : AwaitsKey env s before exchanges t world) :
    ∀ x ∈ exchanges, x.request = .deriveKey := by
  intro x member
  rw [awaits.exchange_eq x member]

theorem world_eq (awaits : AwaitsKey env s before exchanges t world) :
    world = env.world before exchanges := by
  cases awaits <;> rfl

/-- What others leave as it is stays so while a session waits for its key. -/
theorem keeps {kind : Session → Prop} (awaits : AwaitsKey env s before exchanges t world)
    (others : ∀ r w u, kind u → kind (env.touch r w u)) (holds : kind s) : kind t := by
  cases awaits with
  | known => exact holds
  | awaited => exact others _ _ _ holds

/-- Alone a session comes out of the wait as it went in. -/
theorem alone {oracle : Oracle ω} (awaits : AwaitsKey oracle.alone s before exchanges t world) :
    t = s ∧ world = oracle.keyWorld s.keyDerived before := by
  cases awaits with
  | known derived => exact ⟨rfl, by rw [Oracle.keyWorld, if_pos derived]⟩
  | awaited underived =>
      exact ⟨rfl, by rw [Oracle.keyWorld, underived, if_neg Bool.false_ne_true]; rfl⟩

end AwaitsKey

theorem sealingKey_eq (p : Profile) :
    sealingKey p = (do
      let s ← Program.get
      if s.keyDerived then Program.ofExcept p.keyAccess.key
      else do
        Program.request .deriveKey
        let key ← Program.ofExcept p.keyAccess.key
        Program.modify keyed
        return key) := by
  funext s
  show Run.zoom _ _ s (KeyManager.sealingKey p.keyAccess ⟨s.book.keyring, s.keyDerived⟩) =
    (if s.keyDerived then Program.ofExcept p.keyAccess.key else _ : Program Session Key) s
  by_cases derived : s.keyDerived = true
  · rw [KeyManager.sealingKey_run_derived derived, if_pos derived]
    cases p.keyAccess.key <;> rfl
  · rw [KeyManager.sealingKey_run_underived (Bool.eq_false_iff.mpr derived), if_neg derived]
    refine congrArg (Run.waiting .deriveKey s) (funext fun _ => funext fun s => ?_)
    show _ = (Program.ofExcept p.keyAccess.key s).bind _
    cases p.keyAccess.key <;> rfl

theorem takes_key_bind {next : Key → Program Session α} {ending : Ending Session α} :
    (Program.ofExcept p.keyAccess.key >>= next).Takes env s before exchanges ending after ↔
      match p.sealingKey with
      | .ok key => (next key).Takes env s before exchanges ending after
      | .error e => exchanges = [] ∧ ending = .failed (.crypto e) s ∧ after = before := by
  have found : p.keyAccess.key = p.sealingKey.mapError .crypto := rfl
  rw [found]
  cases p.sealingKey with
  | ok key => exact Iff.rfl
  | error e => exact Program.takes_fail_bind

theorem takes_sealingKey_bind {next : Key → Program Session α} {ending : Ending Session α} :
    (sealingKey p >>= next).Takes env s before exchanges ending after ↔
      ∃ wait t world rest, AwaitsKey env s before wait t world ∧ exchanges = wait ++ rest ∧
        match p.sealingKey with
        | .ok key => (next key).Takes env t.keyed world rest ending after
        | .error e => rest = [] ∧ ending = .failed (.crypto e) t ∧ after = world := by
  rw [sealingKey_eq, bind_assoc, Program.takes_get_bind]
  cases derived : s.keyDerived with
  | true =>
      rw [if_pos rfl]
      refine takes_key_bind.trans ⟨fun taken => ?_, ?_⟩
      · exact ⟨[], s, before, exchanges, .known derived, rfl, (keyed_of_derived derived).symm ▸ taken⟩
      · rintro ⟨_, _, _, rest, _ | ⟨underived⟩, rfl, taken⟩
        · exact keyed_of_derived derived ▸ taken
        · cases derived.symm.trans underived
  | false =>
      rw [if_neg Bool.false_ne_true, bind_assoc]
      refine Program.takes_request_bind.trans ⟨?_, ?_⟩
      · rintro ⟨rest, rfl, taken⟩
        rw [bind_assoc] at taken
        exact ⟨_, _, _, rest, .awaited derived, rfl, takes_key_bind.mp taken⟩
      · rintro ⟨_, _, _, rest, ⟨known⟩ | _, rfl, taken⟩
        · cases derived.symm.trans known
        · refine ⟨rest, rfl, ?_⟩
          rw [bind_assoc]
          exact takes_key_bind.mpr taken

/-- Binding the keyring is silent and drops a bundle that belongs elsewhere. -/
theorem takes_bindKeys_bind {index : CollectionIndex} {m : GlobalMetadata}
    {next : Unit → Program Session α} {ending : Ending Session α} :
    (bindKeys index m >>= next).Takes env s before exchanges ending after ↔
      (next ()).Takes env (s.withKeyring (s.book.keyring.rebind m.syncId
        (keysModified index (s.cycle.getD .start)))) before exchanges ending after := by
  simp only [bindKeys, bind_assoc, pure_bind, takes_report_bind]
  generalize keysModified index (s.cycle.getD .start) = modified
  rw [onKeyring_eq_zoom, Program.Takes]
  show (Run.bind (Run.zoom _ _ s (Keyring.bind m.syncId modified s.book.keyring)) _).Takes
    env before exchanges ending after ↔ _
  rw [Keyring.bind_run]
  unfold Keyring.rebind
  split
  · exact Iff.rfl
  · split <;> exact Iff.rfl

/-- A keyring that holds its bundle is not refreshed. -/
theorem refreshKeys_run_loaded {key : Key} (usable : p.sealingKey = .ok key)
    (loaded : s.book.keyring.isLoaded = true) : refreshKeys p s = .returned () s := by
  rw [refreshKeys, onKeyring_eq_zoom]
  exact congrArg (Run.zoom _ _ s) (Keyring.refresh_run_loaded usable loaded)

theorem takes_refreshKeys_loaded {key : Key} {ending : Ending Session Unit}
    (usable : p.sealingKey = .ok key) (loaded : s.book.keyring.isLoaded = true) :
    (refreshKeys p).Takes env s before exchanges ending after ↔
      exchanges = [] ∧ ending = .returned () s ∧ after = before := by
  rw [Program.Takes, refreshKeys_run_loaded usable loaded, Run.takes_returned]

end Silent

/-- What a refresh comes to, given the bundle that is found. -/
def refreshed (s : Session) : Except SyncError KeyBundle → Ending Session Unit
  | .ok bundle => .returned () (s.withKeyring { s.book.keyring with bundle := some bundle })
  | .error e => .failed e s

/-- Without a bundle a keyring that is bound fetches it, and holds it if it can be opened. -/
theorem refreshKeys_run_absent {p : Profile} {s : Session} {key : Key} {epoch : String}
    (usable : p.sealingKey = .ok key) (absent : s.book.keyring.bundle = none)
    (bound : s.book.keyring.epoch = some epoch) :
    refreshKeys p s = .waiting (bundleRequest p.limit) s fun reply s =>
      match bundleFrom p.limit key reply with
      | .ok bundle => .noted (.bundleLoaded epoch)
          (.returned () (s.withKeyring { s.book.keyring with bundle := some bundle }))
      | .error e => .failed e s := by
  rw [refreshKeys, onKeyring_eq_zoom]
  show Run.zoom _ _ s (Keyring.refresh p.keyAccess s.book.keyring) = _
  rw [Keyring.refresh_run_absent usable absent bound]
  refine congrArg (Run.waiting (bundleRequest p.limit) s) (funext fun reply => funext fun s => ?_)
  show Run.zoom _ _ s (match bundleFrom p.limit key reply with
    | .ok bundle => _
    | .error e => _) = _
  cases bundleFrom p.limit key reply <;> rfl

theorem takes_refreshKeys_absent {env : Environment ω Session} {before after : ω}
    {exchanges : List (Exchange Session)} {p : Profile} {s : Session} {key : Key} {epoch : String}
    {ending : Ending Session Unit} (usable : p.sealingKey = .ok key)
    (absent : s.book.keyring.bundle = none) (bound : s.book.keyring.epoch = some epoch) :
    (refreshKeys p).Takes env s before exchanges ending after ↔
      exchanges = [env.exchange (bundleRequest p.limit) s before] ∧
        ending = (env.touch (bundleRequest p.limit) before s).refreshed
          (bundleFrom p.limit key (env.reply (bundleRequest p.limit) before)) ∧
        after = env.next (bundleRequest p.limit) before := by
  rw [Program.Takes, refreshKeys_run_absent usable absent bound, Run.takes_waiting]
  cases bundleFrom p.limit key (env.reply (bundleRequest p.limit) before) with
  | ok bundle =>
      simp only [Run.takes_noted, Run.takes_returned, refreshed]
      constructor
      · rintro ⟨_, rfl, rfl, rfl, rfl⟩
        exact ⟨rfl, rfl, rfl⟩
      · rintro ⟨rfl, rfl, rfl⟩
        exact ⟨[], rfl, rfl, rfl, rfl⟩
  | error e =>
      simp only [Run.takes_failed, refreshed]
      constructor
      · rintro ⟨_, rfl, rfl, rfl, rfl⟩
        exact ⟨rfl, rfl, rfl⟩
      · rintro ⟨rfl, rfl, rfl⟩
        exact ⟨[], rfl, rfl, rfl, rfl⟩

/-! ## Securing the keys -/

section SecureKeys

variable {env : Environment ω Session} {before after : ω} {exchanges : List (Exchange Session)}
  {p : Profile} {s : Session} {index : CollectionIndex} {m : GlobalMetadata} {key : Key}

/-- The session about to refresh its keys for an epoch. -/
def keyBound (s : Session) (index : CollectionIndex) (m : GlobalMetadata) : Session :=
  (s.entering .keyRefresh).withKeyring (s.book.keyring.rebind m.syncId
    (if s.performedFreshStart then none else index.modified? cryptoCollection))

theorem isSyncing_keyBound (s : Session) (index : CollectionIndex) (m : GlobalMetadata) :
    (s.keyBound index m).isSyncing = s.isSyncing :=
  isSyncing_withReport s

theorem takes_keyBound_bind {next : Program Session α} {ending : Ending Session α} :
    (do
      enter .keyRefresh
      bindKeys index m
      next : Program Session α).Takes env s before exchanges ending after ↔
      next.Takes env (s.keyBound index m) before exchanges ending after := by
  have same : keysModified index ((s.entering .keyRefresh).cycle.getD .start) =
      if s.performedFreshStart then none else index.modified? cryptoCollection := by
    rw [← performedFreshStart_entering s .keyRefresh]
    rfl
  rw [takes_enter_bind, takes_bindKeys_bind, same]
  exact Iff.rfl

/-- The fresh start for want of keys, and what follows it. -/
def renewKeys (p : Profile) (sealingKey : Key) (index : CollectionIndex) :
    Program Session GlobalMetadata := do
  let m ← freshStart p sealingKey .unusableKeys
  enter .keyRefresh
  bindKeys index m
  refreshKeys p
  return m

/-- What a failure to refresh the keys leads to. -/
def handleKeyFailure (p : Profile) (sealingKey : Key) (index : CollectionIndex) (e : SyncError) :
    Program Session GlobalMetadata := do
  let r ← report
  if e.isAbsentOrMalformed && !r.performedFreshStart then
    Program.note (.keysUnusable e)
    renewKeys p sealingKey index
  else Program.fail e

theorem secureKeys_eq (p : Profile) (sealingKey : Key) (index : CollectionIndex)
    (m : GlobalMetadata) :
    secureKeys p sealingKey index m = (do
      enter .keyRefresh
      bindKeys index m
      match ← (refreshKeys p).attempt with
      | .ok () => return m
      | .error e => handleKeyFailure p sealingKey index e) := rfl

theorem takes_handleKeyFailure {e : SyncError} {ending : Ending Session GlobalMetadata} :
    (handleKeyFailure p key index e).Takes env s before exchanges ending after ↔
      if e.Unusable ∧ s.performedFreshStart = false then
        (renewKeys p key index).Takes env s before exchanges ending after
      else exchanges = [] ∧ ending = .failed e s ∧ after = before := by
  unfold handleKeyFailure
  rw [takes_report_bind]
  by_cases due : e.Unusable ∧ s.performedFreshStart = false
  · have taken : (e.isAbsentOrMalformed && !(s.cycle.getD .start).performedFreshStart) = true := by
      simpa [performedFreshStart, SyncError.isAbsentOrMalformed_iff] using due
    rw [if_pos due, if_pos taken, Program.takes_note_bind]
  · have passed :
        ¬(e.isAbsentOrMalformed && !(s.cycle.getD .start).performedFreshStart) = true := by
      simpa [performedFreshStart, SyncError.isAbsentOrMalformed_iff] using due
    rw [if_neg due, if_neg passed]
    exact Program.takes_fail

theorem takes_secureKeys_loaded {ending : Ending Session GlobalMetadata}
    (usable : p.sealingKey = .ok key) (loaded : (s.keyBound index m).book.keyring.isLoaded = true) :
    (secureKeys p key index m).Takes env s before exchanges ending after ↔
      exchanges = [] ∧ ending = .returned m (s.keyBound index m) ∧ after = before := by
  rw [secureKeys_eq, takes_keyBound_bind, Program.takes_attempt_bind]
  simp only [takes_refreshKeys_loaded usable loaded]
  constructor
  · rintro ⟨_, _, _, tail, ⟨rfl, rfl, rfl⟩, taken, rfl⟩
    exact Program.takes_pure.mp taken
  · rintro ⟨rfl, rfl, rfl⟩
    exact ⟨_, _, [], [], ⟨rfl, rfl, rfl⟩, Program.takes_pure.mpr ⟨rfl, rfl, rfl⟩, rfl⟩

theorem takes_secureKeys_absent {ending : Ending Session GlobalMetadata}
    (usable : p.sealingKey = .ok key) (absent : (s.keyBound index m).book.keyring.bundle = none) :
    (secureKeys p key index m).Takes env s before exchanges ending after ↔
      ∃ rest, exchanges = env.exchange (bundleRequest p.limit) (s.keyBound index m) before :: rest ∧
        let world := env.next (bundleRequest p.limit) before
        let s := env.touch (bundleRequest p.limit) before (s.keyBound index m)
        match bundleFrom p.limit key (env.reply (bundleRequest p.limit) before) with
        | .ok bundle => rest = [] ∧
            ending = .returned m (s.withKeyring { s.book.keyring with bundle := some bundle }) ∧
            after = world
        | .error e => (handleKeyFailure p key index e).Takes env s world rest ending after := by
  have bound : (s.keyBound index m).book.keyring.epoch = some m.syncId := Keyring.epoch_rebind ..
  rw [secureKeys_eq, takes_keyBound_bind, Program.takes_attempt_bind]
  simp only [takes_refreshKeys_absent usable absent bound]
  generalize bundleFrom p.limit key (env.reply (bundleRequest p.limit) before) = found
  constructor
  · rintro ⟨_, _, _, rest, ⟨rfl, rfl, rfl⟩, taken, rfl⟩
    refine ⟨rest, rfl, ?_⟩
    cases found with
    | ok bundle => exact Program.takes_pure.mp taken
    | error e => exact taken
  · rintro ⟨rest, rfl, taken⟩
    refine ⟨_, _, _, rest, ⟨rfl, rfl, rfl⟩, ?_, rfl⟩
    cases found with
    | ok bundle => exact Program.takes_pure.mpr taken
    | error e => exact taken

/-- How the keys are secured. They are in the keyring, or they are fetched; and if what is fetched is of no
use, a fresh start is made, unless this cycle has begun one. -/
inductive Secured (env : Environment ω Session) (p : Profile) (key : Key) (index : CollectionIndex)
    (m : GlobalMetadata) (s : Session) (before : ω) :
    List (Exchange Session) → Ending Session GlobalMetadata → ω → Prop
  | cached (bundle : KeyBundle) (held : (s.keyBound index m).book.keyring.bundle = some bundle) :
      Secured env p key index m s before [] (.returned m (s.keyBound index m)) before
  | fetched (t : Session) (bundle : KeyBundle)
      (fetching : t = env.touch (bundleRequest p.limit) before (s.keyBound index m))
      (absent : (s.keyBound index m).book.keyring.bundle = none)
      (opened : bundleFrom p.limit key (env.reply (bundleRequest p.limit) before) = .ok bundle) :
      Secured env p key index m s before
        [env.exchange (bundleRequest p.limit) (s.keyBound index m) before]
        (.returned m (t.withKeyring { t.book.keyring with bundle := some bundle }))
        (env.next (bundleRequest p.limit) before)
  | renewed (t : Session) (e : SyncError) (rest : List (Exchange Session))
      (ending : Ending Session GlobalMetadata) (after : ω)
      (fetching : t = env.touch (bundleRequest p.limit) before (s.keyBound index m))
      (absent : (s.keyBound index m).book.keyring.bundle = none)
      (failed : bundleFrom p.limit key (env.reply (bundleRequest p.limit) before) = .error e)
      (unusable : e.Unusable) (unmade : t.performedFreshStart = false)
      (renewing : (renewKeys p key index).Takes env t (env.next (bundleRequest p.limit) before) rest
        ending after) :
      Secured env p key index m s before
        (env.exchange (bundleRequest p.limit) (s.keyBound index m) before :: rest) ending after
  | refused (t : Session) (e : SyncError)
      (fetching : t = env.touch (bundleRequest p.limit) before (s.keyBound index m))
      (absent : (s.keyBound index m).book.keyring.bundle = none)
      (failed : bundleFrom p.limit key (env.reply (bundleRequest p.limit) before) = .error e)
      (passed : ¬(e.Unusable ∧ t.performedFreshStart = false)) :
      Secured env p key index m s before
        [env.exchange (bundleRequest p.limit) (s.keyBound index m) before] (.failed e t)
        (env.next (bundleRequest p.limit) before)

theorem secured_of_takes {ending : Ending Session GlobalMetadata} (usable : p.sealingKey = .ok key)
    (taken : (secureKeys p key index m).Takes env s before exchanges ending after) :
    Secured env p key index m s before exchanges ending after := by
  cases held : (s.keyBound index m).book.keyring.bundle with
  | some bundle =>
      have loaded : (s.keyBound index m).book.keyring.isLoaded = true := by
        simp [Keyring.isLoaded, held]
      obtain ⟨rfl, rfl, rfl⟩ := (takes_secureKeys_loaded usable loaded).mp taken
      exact .cached bundle held
  | none =>
      obtain ⟨rest, rfl, fetched⟩ := (takes_secureKeys_absent usable held).mp taken
      cases opened : bundleFrom p.limit key (env.reply (bundleRequest p.limit) before) with
      | ok bundle =>
          simp only [opened] at fetched
          obtain ⟨rfl, rfl, rfl⟩ := fetched
          exact .fetched _ bundle rfl held opened
      | error e =>
          simp only [opened, takes_handleKeyFailure] at fetched
          split at fetched
          · rename_i due
            exact .renewed _ e rest ending after rfl held opened due.1 due.2 fetched
          · rename_i passed
            obtain ⟨rfl, rfl, rfl⟩ := fetched
            exact .refused _ e rfl held opened passed

end SecureKeys

/-! ## Resets for a new epoch -/

/-- The session in which synchronizers are reset for another epoch than it knows. -/
def forgetting (s : Session) : Session :=
  (s.withReport fun r => { r with epochChanged := true }).withKeyring .empty

@[simp]
theorem performedFreshStart_forgetting (s : Session) :
    s.forgetting.performedFreshStart = s.performedFreshStart :=
  performedFreshStart_withReport (f := fun r => { r with epochChanged := true }) s fun _ => rfl

theorem takes_observeEpoch {env : Environment ω Session} {before after : ω}
    {exchanges : List (Exchange Session)} {s : Session} {m : GlobalMetadata}
    {ending : Ending Session Unit} :
    (observeEpoch m).Takes env s before exchanges ending after ↔
      if m.epochChanged s.book.localState then
        (resetForEpoch s.synchronizers).Takes env s.forgetting before exchanges ending after
      else exchanges = [] ∧ ending = .returned () s ∧ after = before := by
  unfold observeEpoch
  rw [Program.takes_get_bind]
  by_cases changed : m.epochChanged s.book.localState = true
  · rw [if_pos changed, if_pos changed]
    exact Iff.rfl
  · rw [if_neg changed, if_neg changed]
    exact Program.takes_pure

theorem takes_resetForEpoch_cons {env : Environment ω Session} {before after : ω}
    {exchanges : List (Exchange Session)} {s : Session} {c : Synchronizer} {rest : List Synchronizer}
    {ending : Ending Session Unit} :
    (resetForEpoch (c :: rest)).Takes env s before exchanges ending after ↔
      ∃ tail, exchanges = env.exchange (.resetClient c) s before :: tail ∧
        let world := env.next (.resetClient c) before
        let s := env.touch (.resetClient c) before s
        match env.reply (.resetClient c) before with
        | .ok () => (resetForEpoch rest).Takes env s world tail ending after
        | .error e => tail = [] ∧ ending = .failed e s ∧ after = world := by
  rw [resetForEpoch, Program.takes_request_bind]
  generalize env.reply (.resetClient c) before = reply
  cases reply with
  | ok _ => exact Iff.rfl
  | error e => simp only [Program.takes_note_bind, Program.takes_fail]

/-! ## The fresh start -/

/-- The session in which a fresh start begins. -/
def startingAfresh (s : Session) (reason : FreshStartReason) : Session :=
  { ((s.entering .freshStart).withReport fun r => { r with freshStart := some reason }) with
    freshStarts := s.freshStarts + 1 }

theorem takes_freshStart {env : Environment ω Session} {before after : ω}
    {exchanges : List (Exchange Session)} {p : Profile} {key : Key} {s : Session}
    {reason : FreshStartReason} {ending : Ending Session GlobalMetadata} :
    (freshStart p key reason).Takes env s before exchanges ending after ↔
      ∃ rest, exchanges =
          env.exchange (wipeRequest p.limit) (s.startingAfresh reason) before :: rest ∧
        let world := env.next (wipeRequest p.limit) before
        let wiped := env.touch (wipeRequest p.limit) before (s.startingAfresh reason)
        match Program.outcome p.limit "server wipe" (env.reply (wipeRequest p.limit) before) with
        | .ok () =>
            (onBook (FreshStart.republish (.ofConfig p.config) key s.synchronizers)).Takes env wiped
              world rest ending after
        | .error e => rest = [] ∧ ending = .failed e wiped ∧ after = world := by
  have perform : (freshStart p key reason).Takes env s before exchanges ending after ↔
      (onBook (FreshStart.perform (.ofConfig p.config) key s.synchronizers)).Takes env
        (s.startingAfresh reason) before exchanges ending after := Iff.rfl
  rw [perform, FreshStart.perform_eq, onBook_bind, onBook_bind]
  refine Program.takes_request_bind.trans ?_
  have limit : (FreshStartPlan.ofConfig p.config).limit = p.limit := rfl
  rw [limit]
  cases Program.outcome p.limit "server wipe" (env.reply (wipeRequest p.limit) before) with
  | ok _ => exact Iff.rfl
  | error e =>
      refine exists_congr fun rest => and_congr Iff.rfl ?_
      show (Program.fail e : Program Session GlobalMetadata).Takes env _ _ _ _ _ ↔ _
      exact Program.takes_fail

/-! ## The cycle as a whole -/

/-- What follows once the keys are secured. -/
def conclude (p : Profile) (index : CollectionIndex) (m : GlobalMetadata) :
    Program Session Unit := do
  checkKeys p p.config.collectionNames
  checkpoint p
  enter .delegating
  let s ← Program.get
  delegate p s.synchronizers
  commit p index m

/-- What follows once the epoch is settled. -/
def maintain (p : Profile) (sealingKey : Key) (index : CollectionIndex) (m : GlobalMetadata) :
    Program Session Unit := do
  checkpoint p
  let m ← secureKeys p sealingKey index m
  conclude p index m

/-- What follows once the server's state is evaluated. -/
def proceed (p : Profile) (index : CollectionIndex) (evaluated : Evaluated) :
    Program Session Unit := do
  let sealingKey ← sealingKey p
  checkpoint p
  let m ← settleEpoch p sealingKey evaluated
  maintain p sealingKey index m

theorem settleEpoch_current_bind (p : Profile) (key : Key) (m : GlobalMetadata)
    (next : GlobalMetadata → Program Session α) :
    settleEpoch p key (.current m) >>= next = observeEpoch m >>= fun _ => next m := by
  simp only [settleEpoch, bind_assoc, pure_bind]

theorem runCycle_eq (p : Profile) :
    runCycle p = (do
      enter .fetchingState
      let index ← fetchIndex p.limit
      checkpoint p
      enter .evaluating
      let evaluated ← evaluateRemote p index
      proceed p index evaluated) := rfl

section Whole

variable {env : Environment ω Session} {before after : ω} {exchanges : List (Exchange Session)}
  {p : Profile} {s : Session}

theorem takes_runCycle {ending : Ending Session Unit} :
    (runCycle p).Takes env s before exchanges ending after ↔
      ∃ rest, exchanges = env.exchange (indexRequest p.limit) (s.entering .fetchingState) before ::
          rest ∧
        let world := env.next (indexRequest p.limit) before
        let s := env.touch (indexRequest p.limit) before (s.entering .fetchingState)
        match indexFrom p.limit (env.reply (indexRequest p.limit) before) with
        | .ok index =>
            if s.cancelRequested then
              rest = [] ∧ ending = .failed (.cancelled s.state) s ∧ after = world
            else
              (evaluateRemote p index >>= proceed p index).Takes env (s.entering .evaluating) world
                rest ending after
        | .error e => rest = [] ∧ ending = .failed e s ∧ after = world := by
  rw [runCycle_eq, takes_enter_bind, Program.takes_bind_of_result fun _ _ _ => takes_fetchIndex]
  cases indexFrom p.limit (env.reply (indexRequest p.limit) before) with
  | ok index => simp only [takes_checkpoint_bind, takes_enter_bind, List.singleton_append]
  | error e => exact Iff.rfl

theorem takes_evaluation_diverged {index : CollectionIndex} {reason : FreshStartReason}
    {ending : Ending Session Unit} (diverged : index.evaluate = .needsFreshStart reason) :
    (evaluateRemote p index >>= proceed p index).Takes env s before exchanges ending after ↔
      (proceed p index (.diverged reason)).Takes env s before exchanges ending after := by
  have known (exchanges : List (Exchange Session)) (ending : Ending Session Evaluated) (after : ω) :
      (evaluateRemote p index).Takes env s before exchanges ending after ↔
        exchanges = [] ∧ ending = .ofExcept (.ok (.diverged reason)) s ∧ after = before :=
    takes_evaluateRemote_diverged diverged
  rw [Program.takes_bind_of_result known]
  simp

theorem takes_evaluation_consistent {index : CollectionIndex} {ending : Ending Session Unit}
    (consistent : index.evaluate = .consistent) :
    (evaluateRemote p index >>= proceed p index).Takes env s before exchanges ending after ↔
      ∃ rest, exchanges = env.exchange (metadataRequest p.limit) s before :: rest ∧
        let world := env.next (metadataRequest p.limit) before
        let s := env.touch (metadataRequest p.limit) before s
        match evaluatedFrom (metadataFrom p.limit (env.reply (metadataRequest p.limit) before))
          p.config.storageVersion with
        | .ok evaluated => (proceed p index evaluated).Takes env s world rest ending after
        | .error e => rest = [] ∧ ending = .failed e s ∧ after = world := by
  rw [Program.takes_bind_of_result fun _ _ _ => takes_evaluateRemote_consistent consistent]
  cases evaluatedFrom (metadataFrom p.limit (env.reply (metadataRequest p.limit) before))
    p.config.storageVersion <;> exact Iff.rfl

theorem takes_proceed {index : CollectionIndex} {evaluated : Evaluated}
    {ending : Ending Session Unit} :
    (proceed p index evaluated).Takes env s before exchanges ending after ↔
      ∃ wait t world rest, AwaitsKey env s before wait t world ∧ exchanges = wait ++ rest ∧
        match p.sealingKey with
        | .ok key =>
            if t.cancelRequested then
              rest = [] ∧ ending = .failed (.cancelled t.state) t.keyed ∧ after = world
            else
              (settleEpoch p key evaluated >>= maintain p key index).Takes env t.keyed world rest
                ending after
        | .error e => rest = [] ∧ ending = .failed (.crypto e) t ∧ after = world := by
  rw [proceed, takes_sealingKey_bind]
  cases p.sealingKey with
  | ok key =>
      simp only [takes_checkpoint_bind]
      exact Iff.rfl
  | error e => exact Iff.rfl

theorem takes_runCycle_alone {oracle : Oracle ω} {ending : Ending Session Unit}
    (wanted : s.cancelRequested = false) :
    (runCycle p).Takes oracle.alone s before exchanges ending after ↔
      ∃ rest, exchanges =
          oracle.alone.exchange (indexRequest p.limit) (s.entering .fetchingState) before :: rest ∧
        match indexFrom p.limit (oracle.reply (indexRequest p.limit) before) with
        | .ok index =>
            (evaluateRemote p index >>= proceed p index).Takes oracle.alone
              ((s.entering .fetchingState).entering .evaluating)
              (oracle.next (indexRequest p.limit) before) rest ending after
        | .error e => rest = [] ∧ ending = .failed e (s.entering .fetchingState) ∧
            after = oracle.next (indexRequest p.limit) before := by
  rw [takes_runCycle]
  refine exists_congr fun rest => and_congr Iff.rfl ?_
  simp only [Oracle.toOracle_alone]
  cases indexFrom p.limit (oracle.reply (indexRequest p.limit) before) with
  | error e => exact Iff.rfl
  | ok index =>
      have passed : ¬(s.entering .fetchingState).cancelRequested = true :=
        Bool.eq_false_iff.mp wanted
      show (if (s.entering .fetchingState).cancelRequested = true then _ else _) ↔ _
      rw [if_neg passed]
      exact Iff.rfl

theorem takes_proceed_alone {oracle : Oracle ω} {index : CollectionIndex} {evaluated : Evaluated}
    {ending : Ending Session Unit} (wanted : s.cancelRequested = false)
    (taken : (proceed p index evaluated).Takes oracle.alone s before exchanges ending after) :
    ∃ wait rest, exchanges = wait ++ rest ∧ (∀ x ∈ wait, x.request = .deriveKey) ∧
      oracle.world before wait = oracle.keyWorld s.keyDerived before ∧
      match p.sealingKey with
      | .ok key => (settleEpoch p key evaluated >>= maintain p key index).Takes oracle.alone s.keyed
          (oracle.keyWorld s.keyDerived before) rest ending after
      | .error e => rest = [] ∧ ending = .failed (.crypto e) s := by
  obtain ⟨wait, t, world, rest, awaits, rfl, continued⟩ := takes_proceed.mp taken
  obtain ⟨rfl, reached⟩ := awaits.alone
  refine ⟨wait, rest, rfl, awaits.request_eq, awaits.world_eq.symm.trans reached, ?_⟩
  cases sealing : p.sealingKey with
  | error e =>
      simp only [sealing] at continued
      exact ⟨continued.1, continued.2.1⟩
  | ok key =>
      simp only [sealing, wanted, Bool.false_eq_true, if_false] at continued
      rwa [reached] at continued

/-- How a cycle ends, given how its work ended. -/
def closed : Ending Session Unit → Ending Session CycleReport
  | .returned () s => .returned ((s.entering .done).cycle.getD .start) s.resting
  | .failed e s => .failed e s.resting

theorem takes_sync {ending : Ending Session CycleReport} (idle : s.isSyncing = false) :
    (sync p).Takes env s before exchanges ending after ↔
      ∃ inner, (runCycle p).Takes env s.starting before exchanges inner after ∧
        ending = closed inner := by
  unfold sync
  rw [Program.takes_get_bind, if_neg (by simp [idle]), Program.takes_modify_bind,
    Program.takes_attempt_bind]
  constructor
  · rintro ⟨inner, _, called, tail, taken, closing, rfl⟩
    refine ⟨inner, ?_⟩
    cases inner with
    | returned _ last =>
        have closing : (pure _ : Program Session CycleReport).Takes env last.resting _ _ _ _ := closing
        obtain ⟨rfl, rfl, rfl⟩ := Program.takes_pure.mp closing
        rw [List.append_nil]
        exact ⟨taken, rfl⟩
    | failed e last =>
        have closing : (Program.fail e : Program Session CycleReport).Takes env last.resting _ _ _ _ :=
          closing
        obtain ⟨rfl, rfl, rfl⟩ := Program.takes_fail.mp closing
        rw [List.append_nil]
        exact ⟨taken, rfl⟩
  · rintro ⟨inner, taken, rfl⟩
    refine ⟨inner, after, exchanges, [], taken, ?_, (List.append_nil _).symm⟩
    cases inner with
    | returned _ last => rfl
    | failed e last => rfl

theorem takes_sync_refused {ending : Ending Session CycleReport} (busy : s.isSyncing = true) :
    (sync p).Takes env s before exchanges ending after ↔
      exchanges = [] ∧ ending = .failed .cycleInFlight s ∧ after = before := by
  unfold sync
  rw [Program.takes_get_bind, if_pos busy, Program.takes_note_bind, Program.takes_fail]

/-- The course of a cycle, given the course of its work. -/
theorem course_sync (env : Environment ω Session) (p : Profile) (s : Session) (world : ω) :
    (sync p s).course env world =
      if s.isSyncing then ⟨.failed .cycleInFlight s, world, []⟩
      else
        let work := (runCycle p s.starting).course env world
        ⟨closed work.ending, work.world, work.exchanges⟩ := by
  split
  · rename_i busy
    exact (takes_sync_refused busy).mpr ⟨rfl, rfl, rfl⟩
  · rename_i idle
    exact (takes_sync (Bool.eq_false_iff.mpr idle)).mpr ⟨_, Run.takes_course _ _ _, rfl⟩

end Whole

end Session

end SealedSync
