import SealedSync.Proofs.FatalReplies

/-!
# Calls without an answer

A call that gets no answer within its time limit comes to an error that names the call and the limit. At no
place does a cycle go on otherwise than if the server had answered with that error, so an answer that fails to
come is never taken for one that says that a record is absent.
-/
namespace SealedSync

variable {ω σ τ α β : Type}

/-- What a cycle calls the work that it asks a server for. -/
def RemoteCall.operation : RemoteCall → String
  | .index => "collection index fetch"
  | .fetch collection _ =>
      if collection = metaCollection then "global metadata fetch" else "key bundle fetch"
  | .store collection _ => Session.storing collection
  | .wipe => "server wipe"

namespace Request

/-- The reply, with an error in place of an answer that did not come in time. -/
def explain : (r : Request) → r.Reply → r.Reply
  | .remote limit call, reply => some (Program.outcome limit call.operation reply)
  | _, reply => reply

/-- The request does not ask for the time, and if it is a call it is made under the limit. -/
def Within (limit : Duration) : Request → Prop
  | .remote l _ => l = limit
  | .clock => False
  | _ => True

/-- The request is for something at hand that is not the time. -/
def Quiet (r : Request) : Prop := r.isRemote = false ∧ r ≠ .clock

theorem quiet_of_isFileWrite {r : Request} (file : r.isFileWrite = true) : r.Quiet := by
  refine ⟨isRemote_eq_false_of_isFileWrite file, ?_⟩
  rintro rfl
  cases file

theorem isRemote_eq_false_of_isSynchronize {r : Request} (works : r.isSynchronize = true) :
    r.isRemote = false := by
  cases r <;> first | rfl | cases works

theorem Quiet.within {r : Request} (quiet : r.Quiet) (limit : Duration) : r.Within limit := by
  cases r with
  | remote l call => cases quiet.1
  | clock => exact quiet.2 rfl
  | _ => trivial

theorem Quiet.explain_eq {r : Request} (quiet : r.Quiet) (reply : r.Reply) :
    r.explain reply = reply := by
  cases r with
  | remote l call => cases quiet.1
  | _ => rfl

end Request

/-! ## Runs that take no answer for the error -/

/-- The run does not look at the time, makes its calls under one limit, and goes on alike whether a call gets
no answer or the error that stands for that. -/
def Run.Explains (limit : Duration) : Run σ α → Prop
  | .returned _ _ => True
  | .failed _ _ => True
  | .noted _ rest => rest.Explains limit
  | .waiting request _ resume => request.Within limit ∧ ∀ reply resumed,
      resume (request.explain reply) resumed = resume reply resumed ∧
        (resume reply resumed).Explains limit

namespace Run

variable {limit : Duration}

theorem Explains.bind {first : Run σ α} {next : α → Program σ β} (explains : first.Explains limit)
    (rest : ∀ value state, (next value state).Explains limit) : (first.bind next).Explains limit := by
  induction first with
  | returned value state => exact rest value state
  | failed error state => trivial
  | noted event tail ih => exact ih explains
  | waiting request state resume ih =>
      refine ⟨explains.1, fun reply resumed => ?_⟩
      obtain ⟨same, continued⟩ := explains.2 reply resumed
      exact ⟨congrArg (·.bind next) same, ih reply resumed continued⟩

theorem Explains.attempt {run : Run σ α} (explains : run.Explains limit) :
    run.attempt.Explains limit := by
  induction run with
  | returned value state => trivial
  | failed error state => trivial
  | noted event rest ih => exact ih explains
  | waiting request state resume ih =>
      refine ⟨explains.1, fun reply resumed => ?_⟩
      obtain ⟨same, continued⟩ := explains.2 reply resumed
      exact ⟨congrArg Run.attempt same, ih reply resumed continued⟩

theorem Explains.zoom {part : τ → σ} {put : σ → τ → τ} {run : Run σ α} (explains : run.Explains limit)
    (whole : τ) : (run.zoom part put whole).Explains limit := by
  induction run generalizing whole with
  | returned value state => trivial
  | failed error state => trivial
  | noted event rest ih => exact ih explains whole
  | waiting request state resume ih =>
      refine ⟨explains.1, fun reply resumed => ?_⟩
      obtain ⟨same, continued⟩ := explains.2 reply (part resumed)
      exact ⟨congrArg (Run.zoom part put resumed) same, ih reply _ continued resumed⟩

theorem Keeps.explains {run : Run σ α} (kept : run.Keeps (fun _ => True) Request.Quiet) :
    run.Explains limit := by
  induction run with
  | returned value state => trivial
  | failed error state => trivial
  | noted event rest ih => exact ih kept
  | waiting request state resume ih =>
      refine ⟨kept.2.1.within limit, fun reply resumed => ?_⟩
      exact ⟨by rw [kept.2.1.explain_eq], ih reply resumed (kept.2.2 reply resumed trivial)⟩

theorem Explains.takes {run : Run σ α} {env : Environment ω σ} {before after : ω}
    {exchanges : List (Exchange σ)} {ending : Ending σ α} (explains : run.Explains limit)
    (taken : run.Takes env before exchanges ending after) : ∀ x ∈ exchanges, x.request.Within limit := by
  induction run generalizing before exchanges with
  | returned value state => simp [(takes_returned.mp taken).1]
  | failed error state => simp [(takes_failed.mp taken).1]
  | noted event rest ih => exact ih explains taken
  | waiting request state resume ih =>
      obtain ⟨rest, rfl, continued⟩ := takes_waiting.mp taken
      intro x member
      rcases List.mem_cons.mp member with rfl | member
      · exact explains.1
      · exact ih _ _ (explains.2 _ _).2 continued x member

end Run

namespace Program

def Explains (limit : Duration) (program : Program σ α) : Prop :=
  ∀ state, (program state).Explains limit

namespace Explains

variable {limit : Duration}

theorem pure (value : α) : (pure value : Program σ α).Explains limit := fun _ => trivial

theorem fail (e : SyncError) : (fail e : Program σ α).Explains limit := fun _ => trivial

theorem note (event : Event) : (note event : Program σ Unit).Explains limit := fun _ => trivial

theorem get : (get : Program σ σ).Explains limit := fun _ => trivial

theorem modify (f : σ → σ) : (modify f).Explains limit := fun _ => trivial

theorem ofExcept (result : Except SyncError α) : (ofExcept result : Program σ α).Explains limit := by
  cases result with
  | ok value => exact pure value
  | error e => exact fail e

theorem quiet {program : Program σ α} (kept : program.Keeps (fun _ => True) Request.Quiet) :
    program.Explains limit :=
  fun state => (kept state trivial).explains

theorem request {r : Request} (quiet : r.Quiet) : (request r : Program σ r.Reply).Explains limit :=
  .quiet (.request quiet)

theorem bind {first : Program σ α} {next : α → Program σ β} (explains : first.Explains limit)
    (rest : ∀ value, (next value).Explains limit) : (first >>= next).Explains limit :=
  fun state => (explains state).bind rest

theorem attempt {program : Program σ α} (explains : program.Explains limit) :
    program.attempt.Explains limit :=
  fun state => (explains state).attempt

theorem zoom {part : τ → σ} {put : σ → τ → τ} {program : Program σ α} (explains : program.Explains limit) :
    (program.zoom part put).Explains limit :=
  fun whole => (explains (part whole)).zoom whole

/-- A call explains itself if it goes by the name that stands in its error. -/
theorem remote {operation : String} {call : RemoteCall} (named : call.operation = operation) :
    (remote limit operation call : Program σ call.Answer).Explains limit := by
  subst named
  intro state
  rw [remote_eq]
  refine ⟨rfl, fun reply resumed => ⟨rfl, ?_⟩⟩
  exact ofExcept (outcome limit call.operation reply) resumed

end Explains

end Program

/-! ## The calls of a cycle -/

namespace RemoteState

variable {limit : Duration}

theorem explains_fetchIndex : (fetchIndex limit : Program σ _).Explains limit :=
  .bind (.remote rfl) fun _ => .bind (.note _) fun _ => .pure _

theorem explains_fetchRecord {operation collection id : String}
    (named : (RemoteCall.fetch collection id).operation = operation) :
    (fetchRecord limit operation collection id : Program σ _).Explains limit := by
  refine .bind (.remote named) fun found => ?_
  cases found with
  | some record => exact .pure record
  | none => exact .fail _

theorem explains_fetchMetadata : (fetchMetadata limit : Program σ _).Explains limit :=
  .bind (explains_fetchRecord (by rfl)) fun _ => .ofExcept _

theorem explains_fetchBundle (sealingKey : Key) :
    (fetchBundle limit sealingKey : Program σ _).Explains limit :=
  .bind (explains_fetchRecord (by rfl)) fun _ => .ofExcept _

end RemoteState

namespace Keyring

theorem explains_refresh (access : KeyAccess) : (refresh access).Explains access.limit := by
  refine .bind (.ofExcept _) fun key => .bind .get fun k => ?_
  split
  · exact .pure _
  · split
    · exact .fail _
    · exact .bind (RemoteState.explains_fetchBundle key) fun _ => .bind (.note _) fun _ => .modify _

theorem explains_keyFor (access : KeyAccess) (name : String) :
    (keyFor access name).Explains access.limit := by
  refine .bind .get fun k => ?_
  split
  · exact .pure _
  · refine .bind (explains_refresh access) fun _ => .bind .get fun k => ?_
    split
    · exact .pure _
    · exact .fail _

end Keyring

namespace FreshStart

variable {limit : Duration}

theorem explains_step (s : RecoveryStep) {program : Program σ α} (explains : program.Explains limit) :
    (step s program).Explains limit := by
  refine .bind explains.attempt fun result => ?_
  cases result with
  | ok value => exact .pure value
  | error e => exact .bind (.note _) fun _ => .fail _

theorem explains_publish {operation collection : String} {record : RemoteRecord}
    (named : (RemoteCall.store collection record).operation = operation) :
    (publish limit operation collection record : Program σ _).Explains limit :=
  .bind (.remote named) fun _ => .note _

theorem explains_generateId (draw : Draw) : (generateId draw : Program σ _).Explains limit :=
  .bind (.request ⟨rfl, nofun⟩) fun _ => .pure _

theorem explains_generateEngines (engines : NameMap EngineMetadata)
    (collections : List CollectionConfig) :
    (generateEngines engines collections : Program σ _).Explains limit := by
  induction collections generalizing engines with
  | nil => exact .pure _
  | cons c rest ih => exact .bind (explains_generateId _) fun _ => ih _

theorem explains_wipe (plan : FreshStartPlan) : (wipe plan : Program σ _).Explains plan.limit := by
  refine .bind (.note _) fun _ => .bind (Program.Explains.remote (by rfl)).attempt fun result => ?_
  cases result with
  | ok _ => exact .pure ()
  | error e => exact .bind (.note _) fun _ => .fail e

theorem explains_perform (plan : FreshStartPlan) (sealingKey : Key)
    (synchronizers : List Synchronizer) :
    (perform plan sealingKey synchronizers).Explains plan.limit := by
  have bundling : (generateBundle : Program Bookkeeping _).Explains plan.limit :=
    .bind (.request ⟨rfl, nofun⟩) fun _ => .bind (.note _) fun _ => .pure _
  have resetting : (resetLocal plan synchronizers).Explains plan.limit :=
    .quiet (keeps_resetLocal (fun _ => ⟨rfl, nofun⟩) (fun _ => Request.quiet_of_isFileWrite) plan _)
  refine .bind (explains_wipe plan) fun _ => .bind (explains_generateId _) fun syncId => ?_
  refine .bind (.note _) fun _ => .bind bundling fun bundle => .bind ?_ fun _ => ?_
  · exact .bind (.request ⟨rfl, nofun⟩) fun nonce => explains_step _ (explains_publish (by rfl))
  · refine .bind (explains_generateEngines _ _) fun engines => .bind ?_ fun _ => ?_
    · exact explains_step _ (explains_publish (by rfl))
    · exact .bind resetting fun _ => .bind (.note _) fun _ => .pure _

end FreshStart

namespace Session

open RemoteState FreshStart Program

variable {p : Profile} {key : Key}

theorem explains_enter (state : CycleState) : (enter state).Explains p.limit :=
  .bind (.bind .get fun _ => .pure _) fun _ => .bind (.note _) fun _ => .modify _

theorem explains_checkpoint : (checkpoint p).Explains p.limit := .quiet keeps_checkpoint

theorem explains_onKeyring {program : Program Keyring α} (explains : program.Explains p.limit) :
    (onKeyring program).Explains p.limit :=
  .zoom (.zoom explains)

theorem explains_evaluateRemote (index : CollectionIndex) :
    (evaluateRemote p index).Explains p.limit := by
  unfold evaluateRemote
  split
  · exact .bind (.note _) fun _ => .pure _
  · refine .bind explains_fetchMetadata.attempt fun fetched => .bind (.ofExcept _) fun evaluated => ?_
    split
    · exact .pure _
    · exact .bind (.note _) fun _ => .pure _
    · exact .pure _

theorem explains_freshStart (reason : FreshStartReason) : (freshStart p key reason).Explains p.limit := by
  refine .bind (explains_enter _) fun _ => .bind (.modify _) fun _ => .bind (.modify _) fun _ => ?_
  refine .bind (.note _) fun _ => .bind .get fun s => ?_
  exact .zoom (explains_perform (.ofConfig p.config) key s.synchronizers)

theorem explains_settleEpoch (evaluated : Evaluated) : (settleEpoch p key evaluated).Explains p.limit := by
  cases evaluated with
  | diverged reason => exact explains_freshStart reason
  | current m =>
      have observing : (observeEpoch m).Keeps (fun _ => True) Request.Quiet :=
        (sustains_observeEpoch (stable_leaving _) (fun _ => ⟨rfl, nofun⟩) (fun _ _ _ => trivial) m).keeps
      exact .bind (.quiet observing) fun _ => .pure m

theorem explains_secureKeys (index : CollectionIndex) (m : GlobalMetadata) :
    (secureKeys p key index m).Explains p.limit := by
  have binding (m : GlobalMetadata) : (bindKeys index m).Explains p.limit :=
    .quiet (keeps_bindKeys (fun _ _ _ => trivial) index m)
  have refreshing : (refreshKeys p).Explains p.limit :=
    explains_onKeyring (Keyring.explains_refresh p.keyAccess)
  rw [secureKeys_eq]
  refine .bind (explains_enter _) fun _ => .bind (binding m) fun _ => ?_
  refine .bind refreshing.attempt fun result => ?_
  cases result with
  | ok _ => exact .pure m
  | error e =>
      refine .bind (.bind .get fun _ => .pure _) fun r => ?_
      split
      · refine .bind (.note _) fun _ => .bind (explains_freshStart _) fun m => .bind (explains_enter _) fun _ => ?_
        exact .bind (binding m) fun _ => .bind refreshing fun _ => .pure m
      · exact .fail e

theorem explains_prepare : (prepare p).Explains p.limit := by
  refine .bind (explains_enter _) fun _ => .bind explains_fetchIndex fun index => ?_
  refine .bind explains_checkpoint fun _ => .bind (explains_enter _) fun _ => ?_
  refine .bind (explains_evaluateRemote index) fun evaluated => ?_
  have sealing : (sealingKey p).Explains p.limit := .quiet (preparatory_true.keeps_sealingKey ⟨rfl, nofun⟩)
  refine .bind sealing fun key => .bind explains_checkpoint fun _ => ?_
  refine .bind (explains_settleEpoch evaluated) fun m => .bind explains_checkpoint fun _ => ?_
  exact .bind (explains_secureKeys index m) fun m => .pure _

theorem explains_checkKeys (names : List String) : (checkKeys p names).Explains p.limit := by
  induction names with
  | nil => exact .pure ()
  | cons name rest ih =>
      exact .bind (explains_onKeyring (Keyring.explains_keyFor p.keyAccess name)) fun _ => ih

theorem explains_delegateOne (c : Synchronizer) : (delegateOne p c).Explains p.limit := by
  have keys : (onKeyring (Keyring.keyFor p.keyAccess c.name)).Explains p.limit :=
    explains_onKeyring (Keyring.explains_keyFor p.keyAccess c.name)
  refine .bind keys.attempt fun found => ?_
  cases found with
  | error e => exact .bind (.note _) fun _ => .pure _
  | ok key =>
      refine .bind (.request ⟨rfl, nofun⟩) fun reply => ?_
      cases reply with
      | error e => exact .bind (.note _) fun _ => .pure _
      | ok _ => exact .pure _

theorem explains_delegate (synchronizers : List Synchronizer) :
    (delegate p synchronizers).Explains p.limit := by
  induction synchronizers with
  | nil => exact .pure ()
  | cons c rest ih => exact .bind (explains_delegateOne c) fun _ => .bind (.modify _) fun _ => ih

/-- What a cycle does before it commits. -/
def work (p : Profile) : Program Session (CollectionIndex × GlobalMetadata) := do
  let found ← prepare p
  checkKeys p p.config.collectionNames
  checkpoint p
  enter .delegating
  let s ← Program.get
  delegate p s.synchronizers
  return found

theorem runCycle_eq_work (p : Profile) :
    runCycle p = work p >>= fun found => commit p found.1 found.2 := by
  simp only [runCycle_eq_prepare, work, conclude, bind_assoc, pure_bind]

theorem keeps_commit (index : CollectionIndex) (m : GlobalMetadata) :
    (commit p index m).Keeps (fun _ => True) fun r => r.isRemote = false :=
  (sustains_commit (stable_leaving _) (fun _ _ _ _ _ => trivial) (by rfl)
    (fun _ => Request.isRemote_eq_false_of_isFileWrite) (fun _ _ _ _ => trivial) index m).keeps

/-- Up to its commit a cycle does not look at the time, and it takes no answer for the error. -/
theorem explains_work : (work p).Explains p.limit := by
  refine .bind explains_prepare fun found => .bind (explains_checkKeys _) fun _ => ?_
  refine .bind explains_checkpoint fun _ => .bind (explains_enter _) fun _ => .bind .get fun s => ?_
  exact .bind (explains_delegate _) fun _ => .pure found

/-- A cycle makes all its calls under the one limit. -/
theorem sync_limits {env : Environment ω Session} {s : Session} {before after : ω}
    {exchanges : List (Exchange Session)} {ending : Ending Session CycleReport}
    (taken : (sync p).Takes env s before exchanges ending after) {x : Exchange Session}
    (member : x ∈ exchanges) {limit : Duration} {call : RemoteCall}
    (asked : x.request = .remote limit call) : limit = p.limit := by
  cases busy : s.isSyncing with
  | true =>
      obtain ⟨rfl, -, -⟩ := (takes_sync_refused busy).mp taken
      cases member
  | false =>
      obtain ⟨inner, run, -⟩ := (takes_sync busy).mp taken
      rw [runCycle_eq_work] at run
      obtain ⟨worked, middle, head, tail, working, rfl, committing⟩ := run.split
      rcases List.mem_append.mp member with early | late
      · have within := (explains_work s.starting).takes working x early
        rwa [asked] at within
      · cases worked with
        | failed e last =>
            obtain ⟨rfl, -, -⟩ := committing
            cases late
        | returned found last =>
            have kept := (keeps_commit found.1 found.2).takes trivial (fun _ _ _ _ => trivial) committing
            have unasked := (kept.1 x late).2.1
            rw [asked] at unasked
            cases unasked

/-- A call without an answer is fatal. -/
theorem fatal_of_unanswered (p : Profile) (limit : Duration) (call : RemoteCall)
    (asked resumed : Session) :
    fatal? p ⟨.remote limit call, asked, none, resumed⟩ =
      some (causedBy (.timeout call.operation limit) call) := by
  cases call with
  | index => rfl
  | wipe => rfl
  | store collection record => rfl
  | fetch collection id =>
      have unread : metadataFrom limit none = .error (.timeout "global metadata fetch" limit) := rfl
      have unopened : openedFrom p limit none = .error (.timeout "key bundle fetch" limit) := rfl
      simp only [fatal?, unread, unopened, evaluatedFrom_error, RemoteCall.operation, causedBy]
      split <;> rfl

/-- With the keys at hand a cycle asks the server for something only once a synchronizer has worked. -/
theorem conclude_works_first {env : Environment ω Session} {s : Session} {before after : ω}
    {index : CollectionIndex} {m : GlobalMetadata} {exchanges : List (Exchange Session)}
    {ending : Ending Session Unit} (loaded : s.book.keyring.isLoaded = true)
    (taken : (conclude p index m).Takes env s before exchanges ending after) :
    (∀ x ∈ exchanges, x.request.isRemote = false) ∨
      ∃ x rest, exchanges = x :: rest ∧ x.request.isSynchronize = true := by
  obtain ⟨bundle, held⟩ := Option.isSome_iff_exists.mp loaded
  have run : (conclude p index m) s = (checkKeys p p.config.collectionNames s).bind _ := rfl
  rw [Program.Takes, run, checkKeys_run_loaded held] at taken
  have taken : (checkpoint p >>= fun _ => _).Takes env s before exchanges ending after := taken
  rw [takes_checkpoint_bind] at taken
  split at taken
  · obtain ⟨rfl, -, -⟩ := taken
    exact .inl (by simp)
  · rw [takes_enter_bind, Program.takes_get_bind] at taken
    cases listed : (s.entering .delegating).synchronizers with
    | nil =>
        rw [listed] at taken
        have taken : (commit p index m).Takes env (s.entering .delegating) before exchanges ending after := taken
        have kept := (keeps_commit index m).takes trivial (fun _ _ _ _ => trivial) taken
        exact .inl fun x member => (kept.1 x member).2.1
    | cons c rest =>
        rw [listed, delegate, bind_assoc, Program.Takes] at taken
        have held : (s.entering .delegating).book.keyring.bundle = some bundle := held
        have taken : ((delegateOne p c (s.entering .delegating)).bind _).Takes env before exchanges ending
          after := taken
        rw [delegateOne_run_loaded held] at taken
        obtain ⟨tail, rfl, -⟩ := Run.takes_waiting.mp taken
        exact .inr ⟨_, tail, rfl, rfl⟩

/-- What is asked of the server once the keys are at hand are keys that others have dropped while synchronizers
worked. -/
theorem conclude_refetches {env : Environment ω Session} {s : Session} {before after : ω}
    {index : CollectionIndex} {m : GlobalMetadata} {head tail : List (Exchange Session)}
    {x : Exchange Session} {ending : Ending Session Unit} (loaded : s.book.keyring.isLoaded = true)
    (taken : (conclude p index m).Takes env s before (head ++ x :: tail) ending after)
    (called : x.request.isRemote = true) :
    x.request = bundleRequest p.limit ∧ (∃ y ∈ head, y.request.isSynchronize = true) ∧
      ¬LeavesKeys env := by
  have member : x ∈ head ++ x :: tail := by simp
  have keys (name : String) : (onKeyring (Keyring.keyFor p.keyAccess name)).Keeps (fun _ => True)
      fun r => r = bundleRequest p.limit ∨ r.isRemote = false :=
    keeps_onKeyring (Keyring.keeps_keyFor (.inl rfl) name) fun _ _ _ => trivial
  have concluding := keeps_conclude keys (fun _ _ _ _ => trivial)
    (fun _ closing => .inr (Request.isRemote_eq_false_of_isConclusion closing)) (fun _ _ => trivial)
    (fun _ _ _ => trivial) index m
  refine ⟨?_, ?_, fun leaves => ?_⟩
  · have asked := ((concluding.takes trivial (fun _ _ _ _ => trivial) taken).1 x member).2.1
    refine asked.resolve_right fun unasked => ?_
    cases unasked.symm.trans called
  · rcases conclude_works_first loaded taken with unasked | ⟨first, rest, same, works⟩
    · cases (unasked x member).symm.trans called
    · cases head with
      | nil =>
          obtain ⟨rfl, -⟩ := List.cons.inj same
          cases (Request.isRemote_eq_false_of_isSynchronize works).symm.trans called
      | cons y head =>
          obtain ⟨rfl, -⟩ := List.cons.inj same
          exact ⟨y, List.mem_cons_self, works⟩
  · have stays := (conclude_stays_local index m).takes loaded leaves taken
    cases (stays.1 x member).2.1.symm.trans called

/-- A cycle ends with a call that gets no answer, before it lets synchronizers work or commits, and fails with
the error that says so. -/
structure Expires (limit : Duration) (call : RemoteCall) (head tail : List (Exchange Session))
    (resumed : Session) (ending : Ending Session CycleReport) : Prop where
  last : tail = []
  failed : ending = .failed (causedBy (.timeout call.operation limit) call) resumed.resting
  early : ∀ y ∈ head, y.request.isLate = false

/-- The call fetches keys that others have dropped while synchronizers worked. -/
structure Refetches (env : Environment ω Session) (p : Profile) (limit : Duration) (call : RemoteCall)
    (head : List (Exchange Session)) : Prop where
  bundle : .remote limit call = bundleRequest p.limit
  worked : ∃ y ∈ head, y.request.isSynchronize = true
  dropped : ¬LeavesKeys env

/-- A call without an answer is followed by no wipe, and it ends the cycle unless it fetches dropped keys. -/
theorem unanswered_ends {env : Environment ω Session} {s : Session} {before after : ω} {limit : Duration}
    {call : RemoteCall} {asked resumed : Session} {head tail : List (Exchange Session)}
    {ending : Ending Session CycleReport}
    (taken : (sync p).Takes env s before (head ++ ⟨.remote limit call, asked, none, resumed⟩ :: tail)
      ending after) :
    ¬Wipes tail ∧ (Expires limit call head tail resumed ending ∨ Refetches env p limit call head) := by
  have fatal := fatal_of_unanswered p limit call asked resumed
  refine ⟨fatal_unwiped taken fatal, ?_⟩
  rcases fatal_place taken fatal with ⟨last, failed, preparing⟩ |
    ⟨found, kept, early, within, _, _, rfl, -, loaded, concluding⟩
  · refine .inl ⟨last, failed, fun y member => ?_⟩
    have asks := (preparatory_true.keeps_prepare fun _ unlate => unlate).takes trivial (fun _ _ _ _ => trivial) preparing
    exact (asks.1 y (by simp [member])).2.1
  · obtain ⟨bundle, ⟨y, member, works⟩, dropped⟩ := conclude_refetches loaded concluding rfl
    exact .inr ⟨bundle, ⟨y, List.mem_append_right _ member, works⟩, dropped⟩

end Session

end SealedSync
