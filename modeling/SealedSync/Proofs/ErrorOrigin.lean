import SealedSync.Proofs.Preparation
import SealedSync.Proofs.RecordRoundTrip

/-!
# Errors that only others make

A cycle makes errors of its own, about records it cannot use, calls that take too long or a request to
stop. The other errors are made by the server or by a synchronizer: a cycle fails with one of them only
if one of its requests was answered with it.
-/
namespace SealedSync

variable {ω σ τ α β : Type}

/-- A cycle does not make the error by itself. -/
def SyncError.isForeign : SyncError → Bool
  | .unreachable _ | .authFailed _ | .cycleInFlight | .config _ => true
  | _ => false

/-- The reply to a request is an error. -/
def Request.Raises (e : SyncError) : (r : Request) → r.Reply → Prop
  | .remote _ _, some (.error told) => told = e
  | .resetClient _, .error told => told = e
  | .synchronize .., .error told => told = e
  | _, _ => False

namespace Run

/-- The run fails with an error only if a reply was that error. -/
def Blames (e : SyncError) : Run σ α → Prop
  | .returned _ _ => True
  | .failed error _ => error ≠ e
  | .noted _ rest => rest.Blames e
  | .waiting request _ resume =>
      ∀ reply resumed, ¬request.Raises e reply → (resume reply resumed).Blames e

variable {e : SyncError}

theorem Blames.bind {first : Run σ α} {next : α → Program σ β} (blames : first.Blames e)
    (rest : ∀ value state, (next value state).Blames e) : (first.bind next).Blames e := by
  induction first with
  | returned value state => exact rest value state
  | failed error state => exact blames
  | noted event tail ih => exact ih blames
  | waiting request state resume ih =>
      exact fun reply resumed other => ih reply resumed (blames reply resumed other)

/-- An error that was caught is blamed on others just as well. -/
theorem Blames.attempt_bind {first : Run σ α} {next : Except SyncError α → Program σ β}
    (blames : first.Blames e) (well : ∀ value state, (next (.ok value) state).Blames e)
    (ill : ∀ error state, error ≠ e → (next (.error error) state).Blames e) :
    (first.attempt.bind next).Blames e := by
  induction first with
  | returned value state => exact well value state
  | failed error state => exact ill error state blames
  | noted event tail ih => exact ih blames
  | waiting request state resume ih =>
      exact fun reply resumed other => ih reply resumed (blames reply resumed other)

theorem Blames.zoom {part : τ → σ} {put : σ → τ → τ} {run : Run σ α} (blames : run.Blames e)
    (whole : τ) : (run.zoom part put whole).Blames e := by
  induction run generalizing whole with
  | returned value state => trivial
  | failed error state => exact blames
  | noted event rest ih => exact ih blames whole
  | waiting request state resume ih =>
      exact fun reply resumed other => ih reply _ (blames reply _ other) resumed

theorem Blames.takes {env : Environment ω σ} {run : Run σ α} {before after : ω}
    {exchanges : List (Exchange σ)} {last : σ} (blames : run.Blames e)
    (taken : run.Takes env before exchanges (.failed e last) after) :
    ∃ x ∈ exchanges, x.request.Raises e x.reply := by
  induction run generalizing before exchanges with
  | returned value state => cases (takes_returned.mp taken).2.1
  | failed error state =>
      obtain ⟨-, same, -⟩ := takes_failed.mp taken
      cases same
      exact absurd rfl blames
  | noted event rest ih => exact ih blames taken
  | waiting request state resume ih =>
      obtain ⟨rest, rfl, continued⟩ := takes_waiting.mp taken
      by_cases raised : request.Raises e (env.reply request before)
      · exact ⟨env.exchange request state before, List.mem_cons_self, raised⟩
      · obtain ⟨x, member, found⟩ := ih _ _ (blames _ _ raised) continued
        exact ⟨x, List.mem_cons_of_mem _ member, found⟩

end Run

namespace Program

def Blames (e : SyncError) (program : Program σ α) : Prop := ∀ state, (program state).Blames e

variable {e : SyncError}

theorem Blames.pure (value : α) : (pure value : Program σ α).Blames e := fun _ => trivial

theorem Blames.fail {error : SyncError} (other : error ≠ e) : (fail error : Program σ α).Blames e :=
  fun _ => other

theorem Blames.note (event : Event) : (note event : Program σ Unit).Blames e := fun _ => trivial

theorem Blames.get : (get : Program σ σ).Blames e := fun _ => trivial

theorem Blames.modify (f : σ → σ) : (modify f).Blames e := fun _ => trivial

theorem Blames.request (r : Request) : (request r : Program σ r.Reply).Blames e :=
  fun _ _ _ _ => trivial

theorem Blames.bind {first : Program σ α} {next : α → Program σ β} (blames : first.Blames e)
    (rest : ∀ value, (next value).Blames e) : (first >>= next).Blames e :=
  fun state => (blames state).bind fun value state => rest value state

theorem Blames.attempt_bind {first : Program σ α} {next : Except SyncError α → Program σ β}
    (blames : first.Blames e) (well : ∀ value, (next (.ok value)).Blames e)
    (ill : ∀ error, error ≠ e → (next (.error error)).Blames e) :
    (first.attempt >>= next).Blames e :=
  fun state => (blames state).attempt_bind (fun value state => well value state)
    fun error state other => ill error other state

theorem Blames.zoom {part : τ → σ} {put : σ → τ → τ} {program : Program σ α}
    (blames : program.Blames e) : (program.zoom part put).Blames e :=
  fun whole => (blames (part whole)).zoom whole

theorem Blames.ofExcept {result : Except SyncError α} (other : result ≠ .error e) :
    (ofExcept result : Program σ α).Blames e := by
  cases result with
  | ok value => exact .pure value
  | error error => exact .fail fun same => other (congrArg Except.error same)

/-- What is done with a reply that raises the error needs no looking at. -/
theorem Blames.request_bind {r : Request} {next : r.Reply → Program σ α}
    (rest : ∀ reply, ¬r.Raises e reply → (next reply).Blames e) : (Program.request r >>= next).Blames e :=
  fun _ reply resumed other => rest reply other resumed

theorem Blames.remote (foreign : e.isForeign = true) (limit : Duration) (operation : String)
    (call : RemoteCall) : (remote limit operation call : Program σ call.Answer).Blames e := by
  refine .request_bind fun reply other => ?_
  match reply with
  | some (.ok answer) => exact .pure answer
  | some (.error told) => exact .fail other
  | none => exact .fail (by rintro rfl; cases foreign)

end Program

section Parts

open Program RemoteState

variable {e : SyncError} (foreign : e.isForeign = true)

include foreign

theorem RemoteState.blames_fetchRecord (limit : Duration) (operation collection id : String) :
    (fetchRecord limit operation collection id : Program σ RemoteRecord).Blames e := by
  refine .bind (.remote foreign _ _ _) fun found => ?_
  cases found with
  | some record => exact .pure record
  | none => exact .fail (by rintro rfl; cases foreign)

omit foreign in
theorem SyncError.Unusable.not_foreign (unusable : e.Unusable) : e.isForeign = false := by
  rcases unusable with ⟨what, rfl⟩ | ⟨reason, rfl⟩ <;> rfl

theorem RemoteState.blames_fetchMetadata (limit : Duration) :
    (fetchMetadata limit : Program σ GlobalMetadata).Blames e := by
  refine .bind (blames_fetchRecord foreign _ _ _ _) fun record => .ofExcept fun raised => ?_
  have own := (decodeMetadata_error raised).not_foreign
  exact Bool.false_ne_true (own.symm.trans foreign)

theorem RemoteState.blames_fetchBundle (limit : Duration) (sealingKey : Key) :
    (fetchBundle limit sealingKey : Program σ KeyBundle).Blames e := by
  refine .bind (blames_fetchRecord foreign _ _ _ _) fun record => .ofExcept fun raised => ?_
  rcases KeyBundle.ofPayload_error raised with unusable | rfl
  · exact Bool.false_ne_true (unusable.not_foreign.symm.trans foreign)
  · cases foreign

theorem KeyAccess.blames_key (access : KeyAccess) :
    (Program.ofExcept access.key : Program σ Key).Blames e := by
  refine .ofExcept ?_
  unfold key
  cases access.sealingKey with
  | ok key => nofun
  | error cause =>
      intro raised
      cases raised
      cases foreign

theorem Keyring.blames_refresh (access : KeyAccess) : (Keyring.refresh access).Blames e := by
  refine .bind (access.blames_key foreign) fun key => .bind .get fun k => ?_
  split
  · exact .pure ()
  · split
    · exact .fail (by rintro rfl; cases foreign)
    · exact .bind (blames_fetchBundle foreign _ key) fun bundle => .bind (.note _) fun _ => .modify _

theorem Keyring.blames_keyFor (access : KeyAccess) (collection : String) :
    (Keyring.keyFor access collection).Blames e := by
  refine .bind .get fun k => ?_
  split
  · exact .pure _
  · refine .bind (blames_refresh foreign access) fun _ => .bind .get fun k => ?_
    split
    · exact .pure _
    · exact .fail (by rintro rfl; cases foreign)

theorem StateFile.blames_save (file : StateFile) (state : LocalState) :
    (StateFile.save file state : Program σ Unit).Blames e := by
  cases file with
  | none => exact .pure ()
  | some path =>
      refine .bind (.request _) fun written => ?_
      cases written with
      | error fault => exact .fail (by rintro rfl; cases foreign)
      | ok _ =>
          refine .bind (.request _) fun renamed => ?_
          cases renamed with
          | error fault => exact .fail (by rintro rfl; cases foreign)
          | ok _ => exact .pure ()

end Parts

/-- The evaluation fails as the fetch did, or because the metadata are of a newer format. -/
theorem GlobalMetadata.evaluateFetch_error {fetched : Except SyncError GlobalMetadata}
    {storageVersion : Nat} {e : SyncError}
    (failed : evaluateFetch fetched storageVersion = .error e) :
    fetched = .error e ∨ ∃ newer, e = .clientOutdated newer storageVersion := by
  cases fetched with
  | ok m =>
      simp only [evaluateFetch, evaluate] at failed
      split at failed
      · cases failed
      · split at failed <;> cases failed
        exact .inr ⟨_, rfl⟩
  | error told =>
      simp only [evaluateFetch] at failed
      split at failed <;> cases failed
      exact .inl rfl

namespace FreshStart

open Program

variable {e : SyncError}

theorem blames_generateId (draw : Draw) : (generateId draw : Program σ String).Blames e :=
  .bind (.request _) fun _ => .pure _

theorem blames_generateEngines (engines : NameMap EngineMetadata) (collections : List CollectionConfig) :
    (generateEngines engines collections : Program σ _).Blames e := by
  induction collections generalizing engines with
  | nil => exact .pure _
  | cons c rest ih => exact .bind (blames_generateId _) fun syncId => ih _

theorem blames_resetAll (synchronizers : List Synchronizer) :
    (resetAll synchronizers : Program σ _).Blames e := by
  induction synchronizers with
  | nil => exact .pure _
  | cons c rest ih =>
      refine .bind (.request _) fun reply => ?_
      cases reply with
      | ok _ => exact ih
      | error told => exact .bind (.note _) fun _ => .bind ih fun failures => .pure _

variable (foreign : e.isForeign = true)

include foreign

theorem blames_wipe (plan : FreshStartPlan) : (wipe plan : Program σ Unit).Blames e := by
  refine .bind (.note _) fun _ => .attempt_bind (.remote foreign _ _ _) (fun _ => .pure ()) ?_
  exact fun told other => .bind (.note _) fun _ => .fail other

/-- A step of a fresh start fails by its name. -/
theorem blames_step (r : RecoveryStep) {program : Program σ α} (blames : program.Blames e) :
    (step r program).Blames e :=
  .attempt_bind blames (fun _ => .pure _) fun told other => .bind (.note _) fun _ =>
    .fail (by rintro rfl; cases foreign)

theorem blames_publish (limit : Duration) (operation collection : String) (record : RemoteRecord) :
    (publish limit operation collection record : Program σ Unit).Blames e :=
  .bind (.remote foreign _ _ _) fun _ => .note _

theorem blames_resetLocal (plan : FreshStartPlan) (synchronizers : List Synchronizer) :
    (resetLocal plan synchronizers).Blames e := by
  have telling (failures : List String) : (if failures.isEmpty then return ()
      else Program.fail (.partialFailure .resetLocal (String.intercalate "; " failures)) :
      Program Bookkeeping Unit).Blames e := by
    split
    · exact .pure ()
    · exact .fail (by rintro rfl; cases foreign)
  refine .bind (.zoom (.bind (.modify _) fun _ => .note _)) fun _ => ?_
  refine .bind (blames_resetAll synchronizers) fun failures => .bind (.modify _) fun _ => ?_
  exact .attempt_bind (StateFile.blames_save foreign _ _) (fun _ => .bind (.pure _) telling)
    fun told _ => .bind (.note _) fun _ => .bind (.pure _) telling

theorem blames_perform (plan : FreshStartPlan) (sealingKey : Key) (synchronizers : List Synchronizer) :
    (perform plan sealingKey synchronizers).Blames e := by
  refine .bind (blames_wipe foreign plan) fun _ => .bind (blames_generateId _) fun syncId =>
    .bind (.note _) fun _ => ?_
  refine .bind (.bind (.request _) fun _ => .bind (.note _) fun _ => .pure _) fun bundle => ?_
  refine .bind (.bind (.request _) fun nonce => blames_step foreign _ (blames_publish foreign _ _ _ _))
    fun _ => ?_
  refine .bind (blames_generateEngines _ _) fun engines => ?_
  refine .bind (blames_step foreign _ (blames_publish foreign _ _ _ _)) fun _ => ?_
  exact .bind (blames_resetLocal foreign plan synchronizers) fun _ => .bind (.note _) fun _ => .pure _

end FreshStart

namespace Session

open Program RemoteState

variable {e : SyncError} {p : Profile}

theorem blames_report : (report : Program Session CycleReport).Blames e := .bind .get fun _ => .pure _

theorem blames_updateReport (f : CycleReport → CycleReport) : (updateReport f).Blames e := .modify _

theorem blames_enter (state : CycleState) : (enter state).Blames e :=
  .bind blames_report fun _ => .bind (.note _) fun _ => blames_updateReport _

theorem blames_onKeyring {program : Program Keyring α} (blames : program.Blames e) :
    (onKeyring program).Blames e := .zoom (.zoom blames)

theorem blames_bindKeys (index : CollectionIndex) (m : GlobalMetadata) : (bindKeys index m).Blames e := by
  refine .bind blames_report fun r => .bind (blames_onKeyring ?_) fun _ => .pure ()
  intro k
  rw [Keyring.bind_run]
  split
  · trivial
  · split <;> trivial

theorem blames_resetForEpoch (synchronizers : List Synchronizer) :
    (resetForEpoch synchronizers).Blames e := by
  induction synchronizers with
  | nil => exact .pure ()
  | cons c rest ih =>
      refine .request_bind fun reply other => ?_
      cases reply with
      | ok _ => exact ih
      | error told => exact .bind (.note _) fun _ => .fail other

theorem blames_observeEpoch (m : GlobalMetadata) : (observeEpoch m).Blames e := by
  refine .bind .get fun s => ?_
  split
  · refine .bind (.note _) fun _ => .bind (blames_updateReport _) fun _ => ?_
    refine .bind (blames_onKeyring (.bind (.modify _) fun _ => .note _)) fun _ => .bind .get fun s => ?_
    exact blames_resetForEpoch s.synchronizers
  · exact .pure ()

section Foreign

variable (foreign : e.isForeign = true)

include foreign

theorem blames_checkpoint : (checkpoint p).Blames e := by
  refine .bind .get fun s => ?_
  split
  · exact .bind blames_report fun r => .bind (.note _) fun _ => .fail (by rintro rfl; cases foreign)
  · exact .pure ()

theorem blames_evaluateRemote (index : CollectionIndex) : (evaluateRemote p index).Blames e := by
  unfold evaluateRemote
  split
  · exact .bind (.note _) fun _ => .pure _
  · have known (m : GlobalMetadata) : GlobalMetadata.evaluateFetch (.ok m) p.config.storageVersion ≠
        .error e := by
      intro raised
      rcases GlobalMetadata.evaluateFetch_error raised with impossible | ⟨newer, rfl⟩
      · cases impossible
      · cases foreign
    refine .attempt_bind (blames_fetchMetadata foreign _)
      (fun m => .bind (.ofExcept (known m)) fun decided => ?_)
      fun told other => .bind (.ofExcept ?_) fun decided => ?_
    · split
      · exact .pure _
      · exact .bind (.note _) fun _ => .pure _
      · exact .pure _
    · intro raised
      rcases GlobalMetadata.evaluateFetch_error raised with same | ⟨newer, rfl⟩
      · exact other (Except.error.inj same)
      · cases foreign
    · split
      · exact .pure _
      · exact .bind (.note _) fun _ => .pure _
      · exact .pure _

theorem blames_sealingKey : (sealingKey p).Blames e := by
  rw [sealingKey_eq]
  refine .bind .get fun s => ?_
  split
  · exact p.keyAccess.blames_key foreign
  · exact .bind (.request _) fun _ => .bind (p.keyAccess.blames_key foreign) fun key =>
      .bind (.modify _) fun _ => .pure key

theorem blames_freshStart (key : Key) (reason : FreshStartReason) :
    (freshStart p key reason).Blames e :=
  .bind (blames_enter _) fun _ => .bind (blames_updateReport _) fun _ => .bind (.modify _) fun _ =>
    .bind (.note _) fun _ => .bind .get fun s =>
      .zoom (FreshStart.blames_perform foreign _ key s.synchronizers)

theorem blames_settleEpoch (key : Key) (evaluated : Evaluated) :
    (settleEpoch p key evaluated).Blames e := by
  cases evaluated with
  | current m => exact .bind (blames_observeEpoch m) fun _ => .pure m
  | diverged reason => exact blames_freshStart foreign key reason

theorem blames_refreshKeys : (refreshKeys p).Blames e :=
  blames_onKeyring (Keyring.blames_refresh foreign p.keyAccess)

theorem blames_secureKeys (key : Key) (index : CollectionIndex) (m : GlobalMetadata) :
    (secureKeys p key index m).Blames e := by
  refine .bind (blames_enter _) fun _ => .bind (blames_bindKeys index m) fun _ => ?_
  refine .attempt_bind (blames_refreshKeys foreign) (fun _ => .pure m) fun told other => ?_
  refine .bind blames_report fun r => ?_
  split
  · refine .bind (.note _) fun _ => .bind (blames_freshStart foreign key _) fun m => ?_
    exact .bind (blames_enter _) fun _ => .bind (blames_bindKeys index m) fun _ =>
      .bind (blames_refreshKeys foreign) fun _ => .pure m
  · exact .fail other

theorem blames_checkKeys (names : List String) : (checkKeys p names).Blames e := by
  induction names with
  | nil => exact .pure ()
  | cons name rest ih =>
      exact .bind (blames_onKeyring (Keyring.blames_keyFor foreign _ name)) fun _ => ih

theorem blames_delegateOne (c : Synchronizer) : (delegateOne p c).Blames e := by
  refine .attempt_bind (blames_onKeyring (Keyring.blames_keyFor foreign _ c.name)) (fun key => ?_)
    fun told _ => .bind (.note _) fun _ => .pure _
  refine .bind (.request _) fun reply => ?_
  cases reply with
  | ok _ => exact .pure _
  | error told => exact .bind (.note _) fun _ => .pure _

theorem blames_delegate (synchronizers : List Synchronizer) :
    (delegate p synchronizers).Blames e := by
  induction synchronizers with
  | nil => exact .pure ()
  | cons c rest ih =>
      exact .bind (blames_delegateOne foreign c) fun outcome => .bind (blames_updateReport _) fun _ => ih

theorem blames_commit (index : CollectionIndex) (m : GlobalMetadata) : (commit p index m).Blames e :=
  .bind blames_report fun _ => .bind (.request _) fun _ =>
    .bind (StateFile.blames_save foreign _ _) fun _ => .bind (.modify _) fun _ => blames_updateReport _

theorem blames_runCycle : (runCycle p).Blames e := by
  refine .bind (blames_enter _) fun _ => .bind (.bind (.remote foreign _ _ _) fun index =>
    .bind (.note _) fun _ => .pure index) fun index => ?_
  refine .bind (blames_checkpoint foreign) fun _ => .bind (blames_enter _) fun _ => ?_
  refine .bind (blames_evaluateRemote foreign index) fun evaluated => ?_
  refine .bind (blames_sealingKey foreign) fun key => ?_
  refine .bind (blames_checkpoint foreign) fun _ => .bind (blames_settleEpoch foreign key evaluated) fun m =>
    .bind (blames_checkpoint foreign) fun _ => .bind (blames_secureKeys foreign key index m) fun m => ?_
  refine .bind (blames_checkKeys foreign _) fun _ => .bind (blames_checkpoint foreign) fun _ =>
    .bind (blames_enter _) fun _ => .bind .get fun s => ?_
  exact .bind (blames_delegate foreign s.synchronizers) fun _ => blames_commit foreign index m

end Foreign

/-- A cycle that is run fails with an error that it does not make only if it was answered with it. -/
theorem sync_raised {env : Environment ω Session} {s last : Session} {before after : ω}
    {exchanges : List (Exchange Session)} (idle : s.isSyncing = false) (foreign : e.isForeign = true)
    (taken : (sync p).Takes env s before exchanges (.failed e last) after) :
    ∃ x ∈ exchanges, x.request.Raises e x.reply := by
  obtain ⟨inner, run, same⟩ := (takes_sync idle).mp taken
  cases inner with
  | returned _ t => cases same
  | failed error t =>
      cases same
      exact (blames_runCycle foreign s.starting).takes run

end Session

end SealedSync
