import SealedSync.Proofs.HonestCycle

/-!
# The preparation of a cycle

A cycle prepares the server and the keys, and then it concludes. A fresh start works on the records
and the keyring of the session alone, so its steps are steps of the session; what others do to the
session while it waits is seen between them.
-/
namespace SealedSync

/-- The request is made only by a cycle that lets its synchronizers work. -/
def Request.isLate : Request → Bool
  | .synchronize .. => true
  | .clock => true
  | _ => false

theorem Request.isSynchronize_eq_false_of_not_isLate {r : Request} (h : r.isLate = false) :
    r.isSynchronize = false := by
  cases r <;> first | rfl | cases h

namespace Program

variable {ω σ α β : Type}

/-- A program that goes on with another returns if both do. -/
theorem takes_bind_returned {env : Environment ω σ} {first : Program σ α} {next : α → Program σ β}
    {state last : σ} {before after : ω} {exchanges : List (Exchange σ)} {value : β} :
    (first >>= next).Takes env state before exchanges (.returned value last) after ↔
      ∃ inner middle world head tail,
        first.Takes env state before head (.returned inner middle) world ∧
          (next inner).Takes env middle world tail (.returned value last) after ∧
          exchanges = head ++ tail := by
  rw [takes_bind]
  constructor
  · rintro (taken | ⟨_, _, _, impossible⟩)
    · exact taken
    · cases impossible
  · exact Or.inl

end Program

namespace Session

open RemoteState FreshStart

variable {ω α β : Type}

/-! ## The fresh start of a session -/

theorem onBook_attempt (program : Program Bookkeeping α) :
    onBook program.attempt = (onBook program).attempt := by
  have attempted (run : Run Bookkeeping α) (s : Session) :
      run.attempt.zoom (·.book) (fun book s => { s with book }) s =
        (run.zoom (·.book) (fun book s => { s with book }) s).attempt := by
    induction run generalizing s with
    | returned value state => rfl
    | failed error state => rfl
    | noted event rest ih => exact congrArg (Run.noted event) (ih s)
    | waiting request state resume ih =>
        exact congrArg (Run.waiting request _) (funext fun reply => funext fun s => ih reply _ s)
  exact funext fun s => attempted (program s.book) s

theorem onBook_pure (value : α) : onBook (pure value) = pure value := rfl

theorem onBook_note (event : Event) : onBook (Program.note event) = Program.note event := rfl

theorem onBook_request (r : Request) : onBook (Program.request r) = Program.request r := rfl

theorem onBook_generateId (draw : Draw) : onBook (generateId draw) = generateId draw := rfl

theorem onBook_generateBundle : onBook generateBundle = generateBundle := rfl

theorem onBook_generateEngines (engines : NameMap EngineMetadata)
    (collections : List CollectionConfig) :
    onBook (generateEngines engines collections) = generateEngines engines collections := by
  induction collections generalizing engines with
  | nil => rfl
  | cons c rest ih =>
      simp only [generateEngines, onBook_bind, onBook_generateId]
      exact congrArg (generateId .engineId >>= ·) (funext fun syncId => ih _)

theorem onBook_step_publish (r : RecoveryStep) (limit : Duration) (operation collection : String)
    (record : RemoteRecord) :
    onBook (step r (publish limit operation collection record)) =
      step r (publish limit operation collection record) := by
  rw [step_publish_eq, step_publish_eq, onBook_bind, onBook_request]
  refine congrArg (Program.request _ >>= ·) (funext fun reply => ?_)
  cases Program.outcome limit operation reply <;> rfl

/-- A session publishes what its fresh start publishes. -/
theorem onBook_publishAnew (plan : FreshStartPlan) (key : Key) :
    onBook (publishAnew plan key) = publishAnew plan key := by
  simp only [publishAnew, publishKeys, publishMetadata, onBook_bind, onBook_generateId, onBook_note,
    onBook_generateBundle, onBook_step_publish, onBook_generateEngines, onBook_pure]
  rfl

theorem onBook_resetAll (synchronizers : List Synchronizer) :
    onBook (resetAll synchronizers) = resetAll synchronizers := by
  induction synchronizers with
  | nil => rfl
  | cons c rest ih =>
      simp only [resetAll, onBook_bind]
      refine congrArg (Program.request _ >>= ·) (funext fun reply => ?_)
      cases reply with
      | ok _ => exact ih
      | error e => simp only [onBook_bind, onBook_note, onBook_pure, ih]

theorem onBook_save (file : StateFile) (state : LocalState) :
    onBook (StateFile.save file state) = StateFile.save file state := by
  cases file with
  | none => rfl
  | some path =>
      simp only [StateFile.save, onBook_bind]
      refine congrArg (Program.request _ >>= ·) (funext fun written => ?_)
      cases written with
      | error fault => rfl
      | ok _ =>
          rw [onBook_bind]
          refine congrArg (Program.request _ >>= ·) (funext fun renamed => ?_)
          cases renamed <;> rfl

/-- The session without records of its own. -/
def forgettingRecords (s : Session) : Session :=
  { s with book := { s.book with localState := .empty } }

/-- What went wrong with a reset is told at its end. -/
def tell (failures : List String) : Program Session Unit :=
  if failures.isEmpty then return ()
  else Program.fail (.partialFailure .resetLocal (String.intercalate "; " failures))

/-- The empty records are saved, and what went wrong is told. -/
def saveReset (file : StateFile) (failures : List String) : Program Session Unit := do
  match ← (StateFile.save file .empty).attempt with
  | .ok () => tell failures
  | .error e => do
      Program.note (.resetNotSaved e)
      tell (failures ++ [e.message])

theorem onBook_tell (failures : List String) :
    onBook (if failures.isEmpty then return ()
      else Program.fail (.partialFailure .resetLocal (String.intercalate "; " failures))) =
      tell failures := by
  unfold tell
  split <;> rfl

/-- A session forgets its keys first, then it resets its synchronizers, and then it forgets its
records. -/
theorem onBook_resetLocal (plan : FreshStartPlan) (synchronizers : List Synchronizer) :
    onBook (resetLocal plan synchronizers) = (do
      Program.modify fun s => s.withKeyring .empty
      Program.note .keysForgotten
      let failures ← resetAll synchronizers
      Program.modify forgettingRecords
      saveReset plan.file failures) := by
  have saving (failures : List String) : onBook (do
      let saved ← (StateFile.save plan.file .empty).attempt
      let failures ← match saved with
        | .ok () => pure failures
        | .error e => do
            Program.note (.resetNotSaved e)
            pure (failures ++ [e.message])
      if failures.isEmpty then return ()
      else Program.fail (.partialFailure .resetLocal (String.intercalate "; " failures))) =
      saveReset plan.file failures := by
    rw [onBook_bind, onBook_attempt, onBook_save, saveReset]
    refine congrArg ((StateFile.save plan.file .empty).attempt >>= ·) (funext fun saved => ?_)
    cases saved with
    | ok _ => exact onBook_tell failures
    | error e => exact congrArg (Program.note _ >>= fun _ => ·) (onBook_tell (failures ++ [e.message]))
  unfold resetLocal
  rw [onBook_bind]
  refine congrArg (Program.modify (fun s : Session => s.withKeyring .empty) >>= ·)
    (funext fun _ => congrArg (Program.note .keysForgotten >>= ·) (funext fun _ => ?_))
  rw [onBook_bind, onBook_resetAll]
  refine congrArg (resetAll synchronizers >>= ·) (funext fun failures => ?_)
  rw [onBook_bind]
  exact congrArg (Program.modify forgettingRecords >>= ·) (funext fun _ => saving failures)

/-- A session publishes a new epoch, and then it resets itself. -/
theorem onBook_republish (plan : FreshStartPlan) (key : Key) (synchronizers : List Synchronizer) :
    onBook (republish plan key synchronizers) = (do
      let m ← publishAnew plan key
      Program.modify fun s => s.withKeyring .empty
      Program.note .keysForgotten
      let failures ← resetAll synchronizers
      Program.modify forgettingRecords
      saveReset plan.file failures
      Program.note (.freshStartComplete m.syncId)
      return m) := by
  rw [republish_eq]
  simp only [onBook_bind, onBook_publishAnew, onBook_resetLocal, bind_assoc]
  rfl

theorem sustains_saveReset {answering : Answering ω Session} {inv : ω → Session → Prop}
    {allowed : Request → Prop} (stable : Program.Stable answering inv)
    (saving : ∀ r, r.isFileWrite = true → allowed r) (file : StateFile) (failures : List String) :
    (saveReset file failures).Sustains answering allowed inv := by
  have tell (failures : List String) : (tell failures).Sustains answering allowed inv := by
    unfold tell
    split
    · exact .pure _
    · exact .fail _
  refine .bind (StateFile.sustains_save stable saving _ _).attempt fun saved => ?_
  cases saved with
  | ok _ => exact tell _
  | error e => exact .bind (.note _) fun _ => tell _

section FreshStart

variable {p : Profile} {key : Key} {answering : Answering ω Session} {asking : Asking ω Session}
  {begun ended broken : ω → Session → Prop} {synchronizers : List Synchronizer}

/-- After the wipe the new epoch is published, then the keys are forgotten, the synchronizers reset and the
records forgotten, and last that is saved. -/
theorem assures_republish_of {published cleared forgotten : ω → Session → Prop}
    (publishing : (publishAnew (.ofConfig p.config) key).Assures answering asking begun
      (fun _ => published) broken)
    (clearing : ∀ world s, published world s → cleared world (s.withKeyring .empty))
    (resetting : (resetAll synchronizers).Assures answering asking cleared (fun _ => cleared) broken)
    (forgetting : ∀ world s, cleared world s → forgotten world s.forgettingRecords)
    (saving : ∀ failures, (saveReset p.config.statePath failures).Assures answering asking forgotten
      (fun _ => ended) broken) :
    (onBook (republish (.ofConfig p.config) key synchronizers)).Assures answering asking begun
      (fun _ => ended) broken := by
  rw [onBook_republish]
  refine .bind publishing fun _ => .modify_bind clearing (.note_bind ?_)
  refine .bind resetting fun failures => .modify_bind forgetting ?_
  exact .bind (saving failures) fun _ => .note_bind (.pure fun _ _ holds => holds)

/-- A fresh start is what its report says from the beginning, a wipe, and what follows if that succeeds. -/
theorem assures_freshStart_of {pre : ω → Session → Prop} {reason : FreshStartReason}
    {wiped : (wipeRequest p.limit).Reply → ω → Session → Prop}
    (beginning : ∀ world s, pre world s → begun world (s.startingAfresh reason))
    (wiping : (Program.request (wipeRequest p.limit)).Assures answering asking begun wiped broken)
    (refused : ∀ reply e, Program.outcome p.limit "server wipe" reply = .error e →
      ∀ world s, wiped reply world s → broken world s)
    (republishing : ∀ reply, Program.outcome p.limit "server wipe" reply = .ok () → ∀ synchronizers,
      (onBook (republish (.ofConfig p.config) key synchronizers)).Assures answering asking (wiped reply)
        (fun _ => ended) broken) :
    (freshStart p key reason).Assures answering asking pre (fun _ => ended) broken := by
  have performing (synchronizers : List Synchronizer) :
      (onBook (perform (.ofConfig p.config) key synchronizers)).Assures answering asking begun
        (fun _ => ended) broken := by
    rw [perform_eq, onBook_bind, onBook_note, onBook_bind, onBook_request]
    refine .note_bind (.bind wiping fun reply => ?_)
    have limit : (FreshStartPlan.ofConfig p.config).limit = p.limit := rfl
    rw [limit]
    cases wipe : Program.outcome p.limit "server wipe" reply with
    | ok _ => exact republishing reply wipe synchronizers
    | error e => exact fun world s reached => refused reply e wipe world s reached
  intro world s holds
  exact performing s.synchronizers world (s.startingAfresh reason) (beginning world s holds)

end FreshStart

/-! ## The cycle in two parts -/

/-- What a cycle does before it hands out keys. -/
def prepare (p : Profile) : Program Session (CollectionIndex × GlobalMetadata) := do
  enter .fetchingState
  let index ← fetchIndex p.limit
  checkpoint p
  enter .evaluating
  let evaluated ← evaluateRemote p index
  let sealingKey ← sealingKey p
  checkpoint p
  let m ← settleEpoch p sealingKey evaluated
  checkpoint p
  let m ← secureKeys p sealingKey index m
  return (index, m)

theorem runCycle_eq_prepare (p : Profile) :
    runCycle p = prepare p >>= fun found => conclude p found.1 found.2 := by
  simp only [runCycle, prepare, conclude, bind_assoc, pure_bind]

/-- What stays true of a session whatever its cycle does before it hands out keys. -/
structure Preparatory (kind : Session → Prop) : Prop where
  keyring : ∀ s k, kind s → kind (s.withKeyring k)
  records : ∀ s, kind s → kind s.forgettingRecords
  report : ∀ s f, (∀ r, (f r).states = r.states ∧ (f r).outcomes = r.outcomes) → kind s →
    kind (s.withReport f)
  entering : ∀ s state, state ≠ .delegating → kind s → kind (s.entering state)
  counting : ∀ s n, kind s → kind { s with freshStarts := n }
  keyed : ∀ s, kind s → kind s.keyed

theorem preparatory_true : Preparatory fun _ => True :=
  ⟨fun _ _ _ => trivial, fun _ _ => trivial, fun _ _ _ _ => trivial, fun _ _ _ _ => trivial,
    fun _ _ _ => trivial, fun _ _ => trivial⟩

section Keeps

variable {kind : Session → Prop} {allowed : Request → Prop} {p : Profile} {key : Key}
  (preparatory : Preparatory kind)
  (permitted : ∀ r, r.isLate = false → r ≠ metadataRequest p.limit → allowed r)

include preparatory

omit preparatory in
theorem keeps_evaluateRemote (permitted : allowed (metadataRequest p.limit)) (index : CollectionIndex) :
    (evaluateRemote p index).Keeps kind allowed :=
  (sustains_evaluateRemote (Program.stable_leaving kind) permitted index).keeps

theorem Preparatory.keeps_enter {state : CycleState} (early : state ≠ .delegating) :
    (enter state).Keeps kind allowed := by
  refine .bind (.bind .get fun _ => .pure _) fun _ => .bind (.note _) fun _ => ?_
  exact .modify fun s holds => preparatory.entering s state early holds

theorem Preparatory.keeps_updateReport {f : CycleReport → CycleReport}
    (kept : ∀ r, (f r).states = r.states ∧ (f r).outcomes = r.outcomes) :
    (updateReport f).Keeps kind allowed :=
  .modify fun s holds => preparatory.report s f kept holds

theorem Preparatory.keeps_onKeyring {program : Program Keyring α}
    (kept : program.Keeps (fun _ => True) allowed) : (onKeyring program).Keeps kind allowed :=
  Session.keeps_onKeyring kept preparatory.keyring

theorem Preparatory.keeps_sealingKey (permitted : allowed .deriveKey) :
    (sealingKey p).Keeps kind allowed :=
  (sustains_sealingKey (Program.stable_leaving kind) permitted fun _ s => preparatory.keyed s).keeps

include permitted

theorem Preparatory.keeps_republish (plan : FreshStartPlan) (synchronizers : List Synchronizer) :
    (onBook (republish plan key synchronizers)).Keeps kind allowed := by
  have saving (r : Request) (file : r.isFileWrite = true) : allowed r := by
    apply permitted
    · cases r <;> first | rfl | cases file
    · rintro rfl
      cases file
  have publishing (r : Request) (publication : r.isPublication = true) : allowed r := by
    apply permitted
    · cases r <;> first | rfl | cases publication
    · rintro rfl
      cases publication
  rw [onBook_republish]
  refine .bind (keeps_publishAnew publishing _ _) fun m => ?_
  refine .bind (.modify fun s holds => preparatory.keyring s _ holds) fun _ => .bind (.note _) fun _ => ?_
  refine .bind (keeps_resetAll (fun _ => permitted _ rfl nofun) _) fun failures => ?_
  refine .bind (.modify preparatory.records) fun _ => .bind ?_ fun _ => .bind (.note _) fun _ => .pure _
  exact (sustains_saveReset (Program.stable_leaving kind) saving _ _).keeps

theorem Preparatory.keeps_freshStart (reason : FreshStartReason) :
    (freshStart p key reason).Keeps kind allowed := by
  refine .bind (preparatory.keeps_enter (by decide)) fun _ => ?_
  refine .bind (preparatory.keeps_updateReport fun _ => ⟨rfl, rfl⟩) fun _ => ?_
  refine .bind (.modify fun s holds => preparatory.counting s _ holds) fun _ => ?_
  refine .bind (.note _) fun _ => .bind .get fun s => ?_
  rw [perform_eq, onBook_bind, onBook_note, onBook_bind]
  refine .bind (.note _) fun _ => .bind (.request (permitted _ rfl nofun)) fun reply => ?_
  cases Program.outcome (FreshStartPlan.ofConfig p.config).limit "server wipe" reply with
  | ok _ => exact preparatory.keeps_republish permitted _ _
  | error e => exact Program.Keeps.bind (.note _) fun _ => .fail _

theorem Preparatory.keeps_settleEpoch (evaluated : Evaluated) :
    (settleEpoch p key evaluated).Keeps kind allowed := by
  cases evaluated with
  | diverged reason => exact preparatory.keeps_freshStart permitted reason
  | current m =>
      refine .bind (.bind .get fun s => ?_) fun _ => .pure m
      split
      · refine .bind (.note _) fun _ => .bind (preparatory.keeps_updateReport fun _ => ⟨rfl, rfl⟩) fun _ => ?_
        refine .bind (preparatory.keeps_onKeyring (.bind (.modify fun _ _ => trivial) fun _ => .note _))
          fun _ => .bind .get fun s => ?_
        exact keeps_resetForEpoch (fun _ => permitted _ rfl nofun) s.synchronizers
      · exact .pure ()

theorem Preparatory.keeps_secureKeys (index : CollectionIndex) (m : GlobalMetadata) :
    (secureKeys p key index m).Keeps kind allowed := by
  have refreshKeys : (refreshKeys p).Keeps kind allowed :=
    preparatory.keeps_onKeyring (Keyring.keeps_refresh
      (permitted _ rfl (metadataRequest_ne_bundleRequest p.limit).symm))
  have enter : (enter .keyRefresh).Keeps kind allowed := preparatory.keeps_enter (by decide)
  have bindKeys (m : GlobalMetadata) : (bindKeys index m).Keeps kind allowed :=
    keeps_bindKeys preparatory.keyring index m
  rw [secureKeys_eq]
  refine .bind enter fun _ => .bind (bindKeys m) fun _ => .bind refreshKeys.attempt fun refreshed => ?_
  cases refreshed with
  | ok _ => exact .pure m
  | error e =>
      refine .bind (.bind .get fun _ => .pure _) fun r => ?_
      split
      · refine .bind (.note _) fun _ => .bind (preparatory.keeps_freshStart permitted _) fun m => ?_
        exact .bind enter fun _ => .bind (bindKeys m) fun _ => .bind refreshKeys fun _ => .pure m
      · exact .fail _

omit permitted in
/-- Whatever its preparation does, a cycle lets no synchronizer work before its keys are handed out. -/
theorem Preparatory.keeps_prepare (permitted : ∀ r, r.isLate = false → allowed r) :
    (prepare p).Keeps kind allowed := by
  have beyond (r : Request) (early : r.isLate = false) (_ : r ≠ metadataRequest p.limit) : allowed r :=
    permitted r early
  refine .bind (preparatory.keeps_enter (by decide)) fun _ => ?_
  refine .bind (.bind (.remote (permitted _ rfl)) fun _ => .bind (.note _) fun _ => .pure _) fun index => ?_
  refine .bind keeps_checkpoint fun _ => .bind (preparatory.keeps_enter (by decide)) fun _ => ?_
  refine .bind (keeps_evaluateRemote (permitted _ rfl) index) fun evaluated => ?_
  refine .bind (preparatory.keeps_sealingKey (permitted _ rfl)) fun sealingKey => ?_
  refine .bind keeps_checkpoint fun _ => ?_
  refine .bind (preparatory.keeps_settleEpoch beyond evaluated) fun m => .bind keeps_checkpoint fun _ => ?_
  exact .bind (preparatory.keeps_secureKeys beyond index m) fun m => .pure _

end Keeps

end Session

end SealedSync
