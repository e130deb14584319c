import SealedSync.Proofs.KeyHistory

/-!
# Replies that end a cycle

Most failures of the server end a cycle on the spot: a read that cannot be made good by a fresh start,
and every write. Such a reply is the last thing that the cycle hears, and the error that the cycle
fails with is read off the reply.
-/
namespace SealedSync

variable {ω σ τ α β : Type}

/-- The call reads from the server. -/
def RemoteCall.isRead : RemoteCall → Bool
  | .index => true
  | .fetch .. => true
  | _ => false

/-- The error that a result stands for, if it does. -/
def failure? : Except SyncError α → Option SyncError
  | .ok _ => none
  | .error e => some e

namespace Run

/-- The run does nothing but fail. -/
def Fails (e : SyncError) (last : σ) : Run σ α → Prop
  | .failed error state => error = e ∧ state = last
  | .noted _ rest => rest.Fails e last
  | _ => False

/-- The run fails as soon as a reply is fatal, with the error that the reply stands for. -/
def Heeds (fatal? : Exchange σ → Option SyncError) : Run σ α → Prop
  | .returned _ _ => True
  | .failed _ _ => True
  | .noted _ rest => rest.Heeds fatal?
  | .waiting request state resume => ∀ reply resumed,
      match fatal? ⟨request, state, reply, resumed⟩ with
      | some e => (resume reply resumed).Fails e resumed
      | none => (resume reply resumed).Heeds fatal?

variable {fatal? : Exchange σ → Option SyncError}

theorem Fails.bind {first : Run σ α} {next : α → Program σ β} {e : SyncError} {last : σ}
    (fails : first.Fails e last) : (first.bind next).Fails e last := by
  induction first with
  | returned value state => exact fails.elim
  | failed error state => exact fails
  | noted event rest ih => exact ih fails
  | waiting request state resume ih => exact fails.elim

theorem Fails.takes {run : Run σ α} {env : Environment ω σ} {before after : ω}
    {exchanges : List (Exchange σ)} {ending : Ending σ α} {e : SyncError} {last : σ}
    (fails : run.Fails e last) (taken : run.Takes env before exchanges ending after) :
    exchanges = [] ∧ ending = .failed e last := by
  induction run with
  | returned value state => exact fails.elim
  | failed error state =>
      obtain ⟨rfl, rfl⟩ := fails
      obtain ⟨rfl, rfl, -⟩ := takes_failed.mp taken
      exact ⟨rfl, rfl⟩
  | noted event rest ih => exact ih fails taken
  | waiting request state resume ih => exact fails.elim

theorem Heeds.bind {first : Run σ α} {next : α → Program σ β} (heeds : first.Heeds fatal?)
    (rest : ∀ value state, (next value state).Heeds fatal?) : (first.bind next).Heeds fatal? := by
  induction first with
  | returned value state => exact rest value state
  | failed error state => trivial
  | noted event tail ih => exact ih heeds
  | waiting request state resume ih =>
      intro reply resumed
      have heeded := heeds reply resumed
      split at heeded
      · exact heeded.bind
      · exact ih reply resumed heeded

/-- A run that asks only for what is never fatal has nothing to heed. -/
theorem Keeps.heeds {run : Run σ α} {allowed : Request → Prop}
    (kept : run.Keeps (fun _ => True) allowed)
    (harmless : ∀ x : Exchange σ, allowed x.request → fatal? x = none) : run.Heeds fatal? := by
  induction run with
  | returned value state => trivial
  | failed error state => trivial
  | noted event rest ih => exact ih kept
  | waiting request state resume ih =>
      intro reply resumed
      rw [harmless ⟨request, state, reply, resumed⟩ kept.2.1]
      exact ih reply resumed (kept.2.2 reply resumed trivial)

/-- A fatal reply is the last that a run hears. -/
theorem Heeds.takes {run : Run σ α} {env : Environment ω σ} {before after : ω}
    {head tail : List (Exchange σ)} {x : Exchange σ} {ending : Ending σ α} {e : SyncError}
    (heeds : run.Heeds fatal?) (taken : run.Takes env before (head ++ x :: tail) ending after)
    (fatal : fatal? x = some e) : tail = [] ∧ ending = .failed e x.resumed := by
  induction run generalizing before head with
  | returned value state => simp at taken
  | failed error state => simp at taken
  | noted event rest ih => exact ih heeds taken
  | waiting request state resume ih =>
      obtain ⟨rest, same, continued⟩ := takes_waiting.mp taken
      have heeded := heeds (env.reply request before) (env.touch request before state)
      cases head with
      | nil =>
          obtain ⟨rfl, rfl⟩ := List.cons.inj same
          rw [show fatal? ⟨request, state, _, _⟩ = some e from fatal] at heeded
          exact heeded.takes continued
      | cons y head =>
          obtain ⟨rfl, rfl⟩ := List.cons.inj same
          split at heeded
          · obtain ⟨impossible, -⟩ := heeded.takes continued
            simp at impossible
          · exact ih _ _ heeded continued

/-- An exchange of a course is the one that the environment makes by then. -/
theorem Takes.exchange_at {run : Run σ α} {env : Environment ω σ} {before after : ω}
    {head tail : List (Exchange σ)} {x : Exchange σ} {ending : Ending σ α}
    (taken : run.Takes env before (head ++ x :: tail) ending after) :
    x = env.exchange x.request x.asked (env.world before head) := by
  induction run generalizing before head with
  | returned value state => simp at taken
  | failed error state => simp at taken
  | noted event rest ih => exact ih taken
  | waiting request state resume ih =>
      obtain ⟨rest, same, continued⟩ := takes_waiting.mp taken
      cases head with
      | nil =>
          obtain ⟨rfl, -⟩ := List.cons.inj same
          rfl
      | cons y head =>
          obtain ⟨rfl, rfl⟩ := List.cons.inj same
          have later := ih _ _ continued
          exact later

end Run

namespace Program

def Heeds (fatal? : Exchange σ → Option SyncError) (program : Program σ α) : Prop :=
  ∀ state, (program state).Heeds fatal?

variable {fatal? : Exchange σ → Option SyncError}

theorem Heeds.pure (value : α) : (pure value : Program σ α).Heeds fatal? := fun _ => trivial

theorem Heeds.fail (e : SyncError) : (fail e : Program σ α).Heeds fatal? := fun _ => trivial

theorem Heeds.note (event : Event) : (note event : Program σ Unit).Heeds fatal? := fun _ => trivial

theorem Heeds.get : (get : Program σ σ).Heeds fatal? := fun _ => trivial

theorem Heeds.modify (f : σ → σ) : (modify f).Heeds fatal? := fun _ => trivial

theorem Heeds.bind {first : Program σ α} {next : α → Program σ β} (heeds : first.Heeds fatal?)
    (rest : ∀ value, (next value).Heeds fatal?) : (first >>= next).Heeds fatal? :=
  fun state => (heeds state).bind rest

/-- After a request the program fails if the reply is fatal, and goes on if it is not. -/
theorem Heeds.request_bind {r : Request} {next : r.Reply → Program σ α}
    (fails : ∀ state reply resumed e, fatal? ⟨r, state, reply, resumed⟩ = some e →
      (next reply resumed).Fails e resumed)
    (rest : ∀ reply, (next reply).Heeds fatal?) : (request r >>= next).Heeds fatal? := by
  intro state reply resumed
  show match fatal? ⟨r, state, reply, resumed⟩ with
    | some e => (next reply resumed).Fails e resumed
    | none => (next reply resumed).Heeds fatal?
  split
  · rename_i e fatal
    exact fails state reply resumed e fatal
  · exact rest reply resumed

theorem Keeps.heeds {program : Program σ α} {allowed : Request → Prop}
    (kept : program.Keeps (fun _ => True) allowed)
    (harmless : ∀ x : Exchange σ, allowed x.request → fatal? x = none) : program.Heeds fatal? :=
  fun state => (kept state trivial).heeds harmless

/-- To look at a reply and to catch what it comes to is to go on with that. -/
theorem attempt_call_bind {r : Request} (result : r.Reply → Except SyncError α)
    (next : Except SyncError α → Program σ β) :
    ((request r >>= fun reply => ofExcept (result reply)).attempt >>= next) =
      request r >>= fun reply => next (result reply) := by
  funext state
  refine congrArg (Run.waiting r state) (funext fun reply => funext fun state => ?_)
  show ((ofExcept (result reply) state).attempt).bind next = next (result reply) state
  cases result reply <;> rfl

end Program

/-- To catch a failure and to fail with it is to let it pass. -/
theorem Program.attempt_bind_ofExcept (program : Program σ α) :
    program.attempt >>= Program.ofExcept = program := by
  have passed (run : Run σ α) : run.attempt.bind Program.ofExcept = run := by
    induction run with
    | returned value state => rfl
    | failed error state => rfl
    | noted event rest ih => exact congrArg (Run.noted event) ih
    | waiting request state resume ih =>
        exact congrArg (Run.waiting request state)
          (funext fun reply => funext fun resumed => ih reply resumed)
  exact funext fun state => passed (program state)

theorem fails_ofExcept {result : Except SyncError α} {e : SyncError} (state : σ)
    (failed : failure? result = some e) : (Program.ofExcept result state).Fails e state := by
  cases result with
  | ok value => cases failed
  | error error =>
      cases failed
      exact ⟨rfl, rfl⟩

namespace Session

open RemoteState FreshStart Program

/-- The bundle that a reply holds, once it is opened. -/
def openedFrom (p : Profile) (limit : Duration) (reply : (bundleRequest limit).Reply) :
    Except SyncError KeyBundle := do
  let record ← recordFrom limit "key bundle fetch" cryptoCollection keysRecordId reply
  let key ← p.sealingKey.mapError SyncError.crypto
  KeyBundle.ofPayload record.payload key

theorem openedFrom_eq {p : Profile} {key : Key} (usable : p.sealingKey = .ok key) (limit : Duration)
    (reply : (bundleRequest limit).Reply) : openedFrom p limit reply = bundleFrom limit key reply := by
  rw [openedFrom, usable]
  rfl

/-- The step of a fresh start that stores in a collection. -/
def storingStep (collection : String) : RecoveryStep :=
  if collection = metaCollection then .publishMetadata else .publishKeys

/-- How the step calls what it does. -/
def storing (collection : String) : String :=
  if collection = metaCollection then "metadata publish" else "key bundle publish"

/-- The error with which an exchange ends the cycle, if it does. A bundle that cannot be used is made
good by a fresh start, unless the cycle has begun one before. -/
def fatal? (p : Profile) : Exchange Session → Option SyncError
  | ⟨.remote limit .index, _, reply, _⟩ => failure? (indexFrom limit reply)
  | ⟨.remote limit (.fetch collection _), _, reply, resumed⟩ =>
      if collection = metaCollection then
        failure? (evaluatedFrom (metadataFrom limit reply) p.config.storageVersion)
      else match openedFrom p limit reply with
        | .ok _ => none
        | .error e => if e.isAbsentOrMalformed && !resumed.performedFreshStart then none else some e
  | ⟨.remote limit .wipe, _, reply, _⟩ => failure? (outcome limit "server wipe" reply)
  | ⟨.remote limit (.store collection _), _, reply, _⟩ =>
      (failure? (outcome limit (storing collection) reply)).map fun e =>
        .partialFailure (storingStep collection) e.message
  | _ => none

theorem fatal_eq_none_of_local {p : Profile} (x : Exchange Session)
    (unasked : x.request.isRemote = false) : fatal? p x = none := by
  rcases x with ⟨request, asked, reply, resumed⟩
  cases request with
  | remote limit call => cases unasked
  | _ => rfl

/-- The error with which a call ends the cycle that it fails in. -/
def causedBy (e : SyncError) : RemoteCall → SyncError
  | .store collection _ => .partialFailure (storingStep collection) e.message
  | _ => e

/-- A call that fails is fatal, unless its error says that a record is absent or malformed. -/
theorem fatal_of_failed (p : Profile) (limit : Duration) (call : RemoteCall) (asked resumed : Session)
    {e : SyncError} (serious : call.isRead = true → e.isAbsentOrMalformed = false) :
    fatal? p ⟨.remote limit call, asked, some (.error e), resumed⟩ = some (causedBy e call) := by
  cases call with
  | index => rfl
  | wipe => rfl
  | store collection record => rfl
  | fetch collection id =>
      have passed : e.isAbsentOrMalformed = false := serious rfl
      have unread : metadataFrom limit (some (.error e)) = .error e := rfl
      have unopened : openedFrom p limit (some (.error e)) = .error e := rfl
      simp only [fatal?, unread, unopened, evaluatedFrom_error, passed, Bool.false_eq_true, if_false,
        Bool.false_and]
      split <;> rfl

section Heeds

variable {p : Profile} {key : Key}

theorem heeds_of_local {program : Program Session α}
    (kept : program.Keeps (fun _ => True) fun r => r.isRemote = false) :
    program.Heeds (fatal? p) :=
  kept.heeds fatal_eq_none_of_local

theorem heeds_enter (state : CycleState) : (enter state).Heeds (fatal? p) :=
  .bind (.bind .get fun _ => .pure _) fun _ => .bind (.note _) fun _ => .modify _

theorem heeds_checkpoint : (checkpoint p).Heeds (fatal? p) := heeds_of_local keeps_checkpoint

theorem heeds_fetchIndex : (fetchIndex p.limit).Heeds (fatal? p) := by
  rw [fetchIndex_eq]
  refine .request_bind ?_ fun reply => ?_
  · intro state reply resumed e fatal
    exact (fails_ofExcept resumed fatal).bind
  · exact .bind (heeds_of_local (.ofExcept _)) fun index => .bind (.note _) fun _ => .pure _

theorem heeds_evaluateRemote (index : CollectionIndex) : (evaluateRemote p index).Heeds (fatal? p) := by
  unfold evaluateRemote
  split
  · exact .bind (.note _) fun _ => .pure _
  · rw [fetchMetadata_eq, attempt_call_bind]
    refine .request_bind ?_ fun reply => heeds_of_local (.bind (.ofExcept _) fun evaluated => ?_)
    · intro state reply resumed e fatal
      have failed : failure? (evaluatedFrom (metadataFrom p.limit reply) p.config.storageVersion) =
          some e := fatal
      unfold evaluatedFrom at failed
      cases fetched : GlobalMetadata.evaluateFetch (metadataFrom p.limit reply)
          p.config.storageVersion with
      | error error =>
          rw [fetched] at failed
          cases failed
          exact ⟨rfl, rfl⟩
      | ok evaluated =>
          rw [fetched] at failed
          rcases evaluated with ⟨_ | reason, _ | m⟩ <;> cases failed
    · split
      · exact .pure _
      · exact .bind (.note _) fun _ => .pure _
      · exact .pure _

/-- A write is fatal as soon as it is not confirmed, and the step that made it is named. -/
theorem heeds_publish (limit : Duration) (collection : String) (record : RemoteRecord) :
    (step (storingStep collection) (publish limit (storing collection) collection record)).Heeds
      (fatal? p) := by
  rw [step_publish_eq]
  refine .request_bind ?_ fun reply => ?_
  · intro state reply resumed e fatal
    have told : (failure? (outcome limit (storing collection) reply)).map (fun e =>
        SyncError.partialFailure (storingStep collection) e.message) = some e := fatal
    cases stored : outcome limit (storing collection) reply with
    | ok modified => simp [stored, failure?] at told
    | error error =>
        simp only [stored, failure?, Option.map_some, Option.some.injEq] at told
        exact ⟨told, rfl⟩
  · cases outcome limit (storing collection) reply with
    | ok modified => exact .note _
    | error error => exact .bind (.note _) fun _ => .fail _

theorem heeds_generateId (draw : Draw) : (generateId draw).Heeds (fatal? p) :=
  heeds_of_local (.bind (.request (by rfl)) fun _ => .pure _)

theorem heeds_generateEngines (collections : List CollectionConfig) (engines : NameMap EngineMetadata) :
    (generateEngines engines collections).Heeds (fatal? p) := by
  induction collections generalizing engines with
  | nil => exact .pure _
  | cons c rest ih => exact .bind (heeds_generateId _) fun _ => ih _

theorem heeds_publishAnew (plan : FreshStartPlan) : (publishAnew plan key).Heeds (fatal? p) := by
  have bundling : generateBundle.Heeds (fatal? p) :=
    heeds_of_local (.bind (.request (by rfl)) fun _ => .bind (.note _) fun _ => .pure _)
  refine .bind (heeds_generateId _) fun syncId => .bind (.note _) fun _ => .bind bundling fun bundle => ?_
  refine .bind (.bind (heeds_of_local (.request (by rfl))) fun nonce => ?_) fun _ => ?_
  · exact heeds_publish plan.limit cryptoCollection _
  · refine .bind (heeds_generateEngines _ _) fun engines => .bind ?_ fun _ => .pure _
    exact heeds_publish plan.limit metaCollection _

theorem heeds_freshStart (reason : FreshStartReason) :
    (freshStart p key reason).Heeds (fatal? p) := by
  have saving (r : Request) (file : r.isFileWrite = true) : r.isRemote = false :=
    Request.isRemote_eq_false_of_isFileWrite file
  refine .bind (heeds_enter _) fun _ => .bind (.modify _) fun _ => .bind (.modify _) fun _ => ?_
  refine .bind (.note _) fun _ => .bind .get fun s => ?_
  rw [perform_eq, onBook_bind, onBook_note, onBook_bind]
  refine .bind (.note _) fun _ => .request_bind ?_ fun reply => ?_
  · intro state reply resumed e fatal
    have told : failure? (outcome p.limit "server wipe" reply) = some e := fatal
    have limit : (FreshStartPlan.ofConfig p.config).limit = p.limit := rfl
    rw [limit]
    cases wiped : outcome p.limit "server wipe" reply with
    | ok _ => simp [wiped, failure?] at told
    | error error =>
        simp only [wiped, failure?, Option.some.injEq] at told
        exact ⟨told, rfl⟩
  · cases outcome (FreshStartPlan.ofConfig p.config).limit "server wipe" reply with
    | error error => exact .bind (.note _) fun _ => .fail _
    | ok _ =>
        rw [onBook_republish]
        refine .bind (heeds_publishAnew _) fun m => .bind (.modify _) fun _ => .bind (.note _) fun _ => ?_
        refine .bind (heeds_of_local (keeps_resetAll (fun _ => rfl) _)) fun failures => ?_
        refine .bind (.modify _) fun _ => .bind ?_ fun _ => .bind (.note _) fun _ => .pure _
        exact heeds_of_local (sustains_saveReset (stable_leaving _) saving _ failures).keeps

theorem heeds_settleEpoch (evaluated : Evaluated) :
    (settleEpoch p key evaluated).Heeds (fatal? p) := by
  cases evaluated with
  | current m => exact .bind (heeds_of_local (observeEpoch_stays_local m fun _ _ => trivial)) fun _ => .pure m
  | diverged reason => exact heeds_freshStart reason

/-- A refresh finds a bundle, or it fails for want of a key or an epoch, or there is a bundle to ask for. -/
theorem refreshKeys_cases (p : Profile) (s : Session) :
    (refreshKeys p s = .returned () s ∧ s.book.keyring.isLoaded = true) ∨
      (∃ e, refreshKeys p s = .failed e s ∧ e.isAbsentOrMalformed = false) ∨
      ∃ key epoch, p.sealingKey = .ok key ∧ s.book.keyring.bundle = none ∧
        s.book.keyring.epoch = some epoch := by
  rw [refreshKeys, onKeyring_eq_zoom]
  rcases Keyring.refresh_cases p.keyAccess s.book.keyring with
    ⟨same, bundle, held⟩ | ⟨e, same, other⟩ | ⟨key, epoch, usable, absent, bound⟩
  · exact .inl ⟨congrArg (Run.zoom _ _ s) same, by rw [Keyring.isLoaded, held]; rfl⟩
  · exact .inr (.inl ⟨e, congrArg (Run.zoom _ _ s) same, other⟩)
  · exact .inr (.inr ⟨key, epoch, usable, absent, bound⟩)

/-- The error that a bundle stands for is fatal once a fresh start cannot make it good. -/
theorem fatal_bundle {asked resumed : Session} {reply : (bundleRequest p.limit).Reply} {e : SyncError}
    (usable : p.sealingKey = .ok key) :
    fatal? p ⟨bundleRequest p.limit, asked, reply, resumed⟩ = some e ↔
      bundleFrom p.limit key reply = .error e ∧
        (e.isAbsentOrMalformed && !resumed.performedFreshStart) = false := by
  have other : ¬cryptoCollection = metaCollection := by decide
  simp only [fatal?, if_neg other, openedFrom_eq usable]
  cases bundleFrom p.limit key reply with
  | ok bundle => simp
  | error error =>
      simp only [Except.error.injEq]
      cases passed : error.isAbsentOrMalformed && !resumed.performedFreshStart with
      | false =>
          simp only [Bool.false_eq_true, if_false, Option.some.injEq]
          exact ⟨fun same => ⟨same, same ▸ passed⟩, And.left⟩
      | true =>
          simp only [if_true, reduceCtorEq, false_iff, not_and]
          rintro rfl
          rw [passed]
          decide

/-- A refresh fails with whatever the bundle stands for, so it may be followed by what heeds that. -/
theorem heeds_refreshKeys_bind {next : Except SyncError Unit → Program Session α}
    (fails : ∀ e (s : Session), (e.isAbsentOrMalformed && !s.performedFreshStart) = false →
      (next (.error e) s).Fails e s)
    (rest : ∀ result, (next result).Heeds (fatal? p)) :
    ((refreshKeys p).attempt >>= next).Heeds (fatal? p) := by
  intro s
  show ((refreshKeys p s).attempt.bind next).Heeds (fatal? p)
  rcases refreshKeys_cases p s with ⟨same, -⟩ | ⟨e, same, -⟩ | ⟨key, epoch, usable, absent, bound⟩
  · rw [same]
    exact rest _ s
  · rw [same]
    exact rest _ s
  · rw [refreshKeys_run_absent usable absent bound]
    intro reply resumed
    cases found : bundleFrom p.limit key reply with
    | ok bundle =>
        have harmless : fatal? p ⟨bundleRequest p.limit, s, reply, resumed⟩ = none := by
          refine Option.eq_none_iff_forall_ne_some.mpr fun e fatal => ?_
          cases found.symm.trans ((fatal_bundle usable).mp fatal).1
        simp only [harmless, found]
        exact rest _ _
    | error e =>
        simp only [found]
        split
        · rename_i e fatal
          obtain ⟨failed, passed⟩ := (fatal_bundle usable).mp fatal
          cases found.symm.trans failed
          exact fails e resumed passed
        · exact rest _ resumed

theorem heeds_refreshKeys : (refreshKeys p).Heeds (fatal? p) := by
  rw [← attempt_bind_ofExcept (refreshKeys p)]
  exact heeds_refreshKeys_bind (fun e s _ => ⟨rfl, rfl⟩) fun result => heeds_of_local (.ofExcept result)

theorem heeds_bindKeys (index : CollectionIndex) (m : GlobalMetadata) :
    (bindKeys index m).Heeds (fatal? p) :=
  heeds_of_local (keeps_bindKeys (fun _ _ _ => trivial) index m)

theorem heeds_secureKeys (index : CollectionIndex) (m : GlobalMetadata) :
    (secureKeys p key index m).Heeds (fatal? p) := by
  rw [secureKeys_eq]
  refine .bind (heeds_enter _) fun _ => .bind (heeds_bindKeys index m) fun _ => ?_
  refine heeds_refreshKeys_bind ?_ fun result => ?_
  · intro e s passed
    show ((if e.isAbsentOrMalformed && !s.performedFreshStart then _ else Program.fail e :
      Program Session GlobalMetadata) s).Fails e s
    rw [if_neg (Bool.eq_false_iff.mp passed)]
    exact ⟨rfl, rfl⟩
  · cases result with
    | ok _ => exact .pure m
    | error e =>
        refine .bind (.bind .get fun _ => .pure _) fun r => ?_
        split
        · refine .bind (.note _) fun _ => .bind (heeds_freshStart _) fun m => .bind (heeds_enter _) fun _ => ?_
          exact .bind (heeds_bindKeys index m) fun _ => .bind heeds_refreshKeys fun _ => .pure m
        · exact .fail e

/-- A cycle heeds every fatal reply before it hands out keys. -/
theorem heeds_prepare : (prepare p).Heeds (fatal? p) := by
  refine .bind (heeds_enter _) fun _ => .bind heeds_fetchIndex fun index => .bind heeds_checkpoint fun _ => ?_
  refine .bind (heeds_enter _) fun _ => .bind (heeds_evaluateRemote index) fun evaluated => ?_
  have sealing : (sealingKey p).Heeds (fatal? p) :=
    heeds_of_local (preparatory_true.keeps_sealingKey rfl)
  refine .bind sealing fun key => .bind heeds_checkpoint fun _ => ?_
  refine .bind (heeds_settleEpoch evaluated) fun m => .bind heeds_checkpoint fun _ => ?_
  exact .bind (heeds_secureKeys index m) fun m => .pure _

end Heeds

/-! ## With the keys in hand -/

/-- Whatever it is answered, the program returns only as `post` says. -/
abbrev Anyhow (post : α → Session → Prop) (program : Program Session α) : Prop :=
  program.Assures (ω := Unit) (fun _ _ _ _ _ _ => True) (fun _ _ _ => True) (fun _ _ => True)
    (fun value _ => post value) fun _ _ => True

theorem Anyhow.returned {post : α → Session → Prop} {program : Program Session α}
    {env : Environment ω Session} {s last : Session} {before after : ω}
    {exchanges : List (Exchange Session)} {value : α} (assured : Anyhow post program)
    (taken : program.Takes env s before exchanges (.returned value last) after) : post value last :=
  @Assures.takes Unit Session α _ _ _ _ _ ω env (fun _ => ()) program s before after exchanges _
    assured trivial (fun _ _ _ => trivial) taken

theorem anyhow (program : Program Session α) : Anyhow (fun _ _ => True) program := by
  have trivially (run : Run Session α) (world : Unit) :
      run.Assures (fun _ _ _ _ _ _ => True) (fun _ _ _ => True)
        (fun _ ending => ending.Meets (fun _ _ => True) fun _ => True) world := by
    induction run with
    | returned value state => trivial
    | failed error state => trivial
    | noted event rest ih => exact ih
    | waiting request state resume ih => exact ⟨trivial, fun reply _ resumed _ => ih reply resumed⟩
  exact fun world s _ => trivially (program s) world

/-- A refresh that returns leaves a bundle in the keyring. -/
theorem refreshKeys_loads (p : Profile) :
    Anyhow (fun _ s => s.book.keyring.isLoaded = true) (refreshKeys p) := by
  intro world s _
  rcases refreshKeys_cases p s with ⟨same, loaded⟩ | ⟨e, same, -⟩ | ⟨key, epoch, usable, absent, bound⟩
  · rw [same]
    exact loaded
  · rw [same]
    trivial
  · rw [refreshKeys_run_absent usable absent bound]
    refine ⟨trivial, fun reply _ resumed _ => ?_⟩
    cases found : bundleFrom p.limit key reply with
    | ok bundle =>
        simp only [found]
        exact Option.isSome_some
    | error e =>
        simp only [found]
        trivial

theorem secureKeys_loads (p : Profile) (key : Key) (index : CollectionIndex) (m : GlobalMetadata) :
    Anyhow (fun _ s => s.book.keyring.isLoaded = true) (secureKeys p key index m) := by
  rw [secureKeys_eq]
  refine .bind (anyhow _) fun _ => .bind (anyhow _) fun _ => ?_
  refine .attempt_bind (refreshKeys_loads p) (fun _ => .pure fun _ _ loaded => loaded) fun e => ?_
  refine .get_bind fun s => ?_
  show (if _ then _ else _ : Program Session GlobalMetadata).Assures _ _ _ _ _
  split
  · refine Assures.conseq (.note_bind (.bind (anyhow _) fun m => .bind (anyhow _) fun _ =>
      .bind (anyhow _) fun _ => .bind (refreshKeys_loads p) fun _ => .pure fun _ _ loaded => loaded))
      (fun _ _ _ asked => asked) (fun _ _ _ => trivial) (fun _ _ _ loaded => loaded)
      fun _ _ failed => failed
  · exact .fail fun _ _ _ => trivial

theorem prepare_loads (p : Profile) :
    Anyhow (fun _ s => s.book.keyring.isLoaded = true) (prepare p) := by
  refine .bind (anyhow _) fun _ => .bind (anyhow _) fun index => .bind (anyhow _) fun _ => ?_
  refine .bind (anyhow _) fun _ => .bind (anyhow _) fun evaluated => .bind (anyhow _) fun key => ?_
  refine .bind (anyhow _) fun _ => .bind (anyhow _) fun m => .bind (anyhow _) fun _ => ?_
  exact .bind (secureKeys_loads p key index m) fun m => .pure fun _ _ loaded => loaded

/-- Others leave a session that waits the bundle that it holds. -/
def LeavesKeys (env : Environment ω Session) : Prop :=
  ∀ r w s, s.book.keyring.isLoaded = true → (env.touch r w s).book.keyring.isLoaded = true

theorem OnlyCancels.leavesKeys {env : Environment ω Session} (polite : OnlyCancels env) :
    LeavesKeys env :=
  polite.keeps (fun s => s.book.keyring.isLoaded = true) fun _ loaded => loaded

/-- A fatal reply ends the preparation of a cycle, and the cycle with it, or it comes once the keys are at hand. -/
theorem fatal_place {env : Environment ω Session} {p : Profile} {s : Session} {before after : ω}
    {head tail : List (Exchange Session)} {x : Exchange Session} {e : SyncError}
    {ending : Ending Session CycleReport}
    (taken : (sync p).Takes env s before (head ++ x :: tail) ending after)
    (fatal : fatal? p x = some e) :
    (tail = [] ∧ ending = .failed e x.resumed.resting ∧
      (prepare p).Takes env s.starting before (head ++ [x]) (.failed e x.resumed) after) ∨
    ∃ found last early within middle inner, head = early ++ within ∧
      (prepare p).Takes env s.starting before early (.returned found last) middle ∧
      last.book.keyring.isLoaded = true ∧
      (conclude p found.1 found.2).Takes env last middle (within ++ x :: tail) inner after := by
  cases busy : s.isSyncing with
  | true =>
      have impossible := ((takes_sync_refused busy).mp taken).1
      simp at impossible
  | false =>
      obtain ⟨inner, run, rfl⟩ := (takes_sync busy).mp taken
      rw [runCycle_eq_prepare] at run
      obtain ⟨prepared, middle, early, late, preparing, same, concluding⟩ := run.split
      have concluded (within : List (Exchange Session)) (first : head = early ++ within)
          (rest : within ++ x :: tail = late) : ∃ found last early within middle inner,
          head = early ++ within ∧
          (prepare p).Takes env s.starting before early (.returned found last) middle ∧
          last.book.keyring.isLoaded = true ∧
          (conclude p found.1 found.2).Takes env last middle (within ++ x :: tail) inner after := by
        subst rest
        cases prepared with
        | failed e last => simp at concluding
        | returned found last =>
            exact ⟨found, last, early, within, middle, inner, first, preparing,
              (prepare_loads p).returned preparing, concluding⟩
      rcases List.append_eq_append_iff.mp same with ⟨within, rfl, later⟩ | ⟨within, rfl, later⟩
      · cases within with
        | nil => exact .inr (concluded [] (by simp) (by simpa using later))
        | cons y rest =>
            obtain ⟨rfl, rfl⟩ := List.cons.inj later
            obtain ⟨rfl, rfl⟩ := (heeds_prepare s.starting).takes preparing fatal
            obtain ⟨rfl, rfl, rfl⟩ := concluding
            exact .inl ⟨rfl, rfl, preparing⟩
      · exact .inr (concluded within rfl later.symm)

/-- A fatal reply is the last exchange of a cycle, which fails with the error it stands for. -/
theorem fatal_ends {env : Environment ω Session} {p : Profile} {s : Session} {before after : ω}
    {head tail : List (Exchange Session)} {x : Exchange Session} {e : SyncError}
    {ending : Ending Session CycleReport} (leaves : LeavesKeys env)
    (taken : (sync p).Takes env s before (head ++ x :: tail) ending after)
    (fatal : fatal? p x = some e) : tail = [] ∧ ending = .failed e x.resumed.resting := by
  rcases fatal_place taken fatal with ⟨last, failed, -⟩ | ⟨found, _, _, within, _, _, -, -, loaded, concluding⟩
  · exact ⟨last, failed⟩
  · -- With the keys at hand nothing is asked of the server, so no reply is fatal.
    have kept := (conclude_stays_local found.1 found.2).takes loaded leaves concluding
    have unasked := (kept.1 x (by simp)).2.1
    cases (fatal_eq_none_of_local x unasked).symm.trans fatal

/-- No wipe follows a fatal reply, whatever others do to the session. -/
theorem fatal_unwiped {env : Environment ω Session} {p : Profile} {s : Session} {before after : ω}
    {head tail : List (Exchange Session)} {x : Exchange Session} {e : SyncError}
    {ending : Ending Session CycleReport}
    (taken : (sync p).Takes env s before (head ++ x :: tail) ending after)
    (fatal : fatal? p x = some e) : ¬Wipes tail := by
  rcases fatal_place taken fatal with ⟨rfl, -, -⟩ | ⟨found, _, _, within, _, _, -, -, -, concluding⟩
  · simp [Wipes]
  · have unwiped := not_wipes_of_keeps (conclude_never_wipes found.1 found.2) trivial
      (fun _ _ _ _ => trivial) concluding
    rintro ⟨y, member, wipe⟩
    exact unwiped ⟨y, by simp [member], wipe⟩

end Session

end SealedSync
