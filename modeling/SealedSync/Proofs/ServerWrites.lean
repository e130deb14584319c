import SealedSync.Proofs.Phases
import SealedSync.Proofs.Registration

/-!
# What a cycle writes on the server

Only a fresh start writes on the server: it wipes, puts the keys and puts the metadata, in this order,
and goes on only after a write that is granted. The records are dropped once all three are, so a cycle
that fails has the records it had before, or none after three granted writes.
-/
namespace SealedSync

variable {ω σ α : Type}

/-- The exchange is a remote call that succeeds. -/
def Exchange.isGranted : Exchange σ → Bool
  | ⟨.remote _ _, _, some (.ok _), _⟩ => true
  | _ => false

/-- The exchanges that change what the server holds, or would do so if they succeeded. -/
def serverWrites (exchanges : List (Exchange σ)) : List (Exchange σ) :=
  exchanges.filter (·.request.isWrite)

theorem serverWrites_append (xs ys : List (Exchange σ)) :
    serverWrites (xs ++ ys) = serverWrites xs ++ serverWrites ys :=
  List.filter_append ..

theorem serverWrites_single {x : Exchange σ} (write : x.request.isWrite = true) :
    serverWrites [x] = [x] :=
  List.filter_cons_of_pos write

theorem serverWrites_other {x : Exchange σ} (other : x.request.isWrite = false) :
    serverWrites [x] = [] :=
  List.filter_cons_of_neg (by simp [other])

namespace Session

open RemoteState FreshStart Program

/-- The requests of a fresh start that write on the server. -/
def foundingRequests (limit : Duration) (keys metadata : RemoteRecord) : List Request :=
  [wipeRequest limit, storeRequest limit cryptoCollection keys, storeRequest limit metaCollection metadata]

/-- The server was asked to wipe, to put keys and to put metadata, in this order and to write nothing else. -/
def Founding (p : Profile) (exchanges : List (Exchange Session)) : Prop :=
  ∃ keys metadata, keys.id = keysRecordId ∧ metadata.id = globalRecordId ∧
    (serverWrites exchanges).map (·.request) = foundingRequests p.limit keys metadata

/-- A cycle has made some requests to write, all of which were granted. -/
structure Written (requests : List Request) (begun : Bool) (held : LocalState)
    (world : ω × List (Exchange Session)) (s : Session) : Prop where
  requests : (serverWrites world.2).map (·.request) = requests
  granted : ∀ x ∈ serverWrites world.2, x.isGranted = true
  localState : s.book.localState = held
  begun : s.performedFreshStart = begun
  running : s.isSyncing = true

/-- A cycle has made a fresh start: it has wiped the server and put keys and metadata there. -/
def Refounded (p : Profile) (held : LocalState) (world : ω × List (Exchange Session)) (s : Session) :
    Prop :=
  ∃ keys metadata, keys.id = keysRecordId ∧ metadata.id = globalRecordId ∧
    Written (foundingRequests p.limit keys metadata) true held world s

/-- A cycle has written nothing and has its records, or it has made a fresh start. -/
def Intact (p : Profile) (old new : LocalState) (world : ω × List (Exchange Session)) (s : Session) :
    Prop :=
  Written [] false old world s ∨ Refounded p new world s

/-- A write was not granted, and the cycle has its records. -/
structure Refused (held : LocalState) (world : ω × List (Exchange Session)) (s : Session) : Prop where
  localState : s.book.localState = held
  refused : ∃ x ∈ serverWrites world.2, x.isGranted = false

/-- A write adds to what is written, or it is refused. -/
def Attempted (requests : List Request) (begun : Bool) (held : LocalState) :
    Except SyncError α → ω × List (Exchange Session) → Session → Prop
  | .ok _ => Written requests begun held
  | .error _ => Refused held

/-- What is true of a cycle that fails. -/
def Accounted (p : Profile) (held : LocalState) (world : ω × List (Exchange Session)) (s : Session) :
    Prop :=
  Intact p held .empty world s ∨ Refused held world s

section Assertions

variable {requests : List Request} {begun : Bool} {held old new : LocalState} {p : Profile}
  {world : ω × List (Exchange Session)} {s t : Session}

theorem Written.of_session (written : Written requests begun held world s)
    (localState : t.book.localState = s.book.localState) (cycle : t.cycle = s.cycle) :
    Written requests begun held world t where
  requests := written.requests
  granted := written.granted
  localState := localState.trans written.localState
  begun := by rw [← written.begun, performedFreshStart, cycle, performedFreshStart]
  running := by rw [← written.running, isSyncing, cycle, isSyncing]

theorem Written.forgetting (written : Written requests begun held world s) :
    Written requests begun .empty world s.forgettingRecords :=
  { written with localState := rfl, begun := written.begun, running := written.running }

theorem steady_written : Steady (Written requests begun held : ω × List (Exchange Session) → _) where
  keyring _ _ _ written := written.of_session rfl rfl
  keyed _ _ written := written.of_session rfl rfl
  report _ s _ kept written :=
    { written with
      begun := (performedFreshStart_withReport s kept).trans written.begun
      running := (isSyncing_withReport s).trans written.running }

theorem steady_refounded : Steady (Refounded p held : ω × List (Exchange Session) → _) where
  keyring world s k := by
    rintro ⟨keys, metadata, named, titled, written⟩
    exact ⟨keys, metadata, named, titled, steady_written.keyring world s k written⟩
  keyed world s := by
    rintro ⟨keys, metadata, named, titled, written⟩
    exact ⟨keys, metadata, named, titled, steady_written.keyed world s written⟩
  report world s f kept := by
    rintro ⟨keys, metadata, named, titled, written⟩
    exact ⟨keys, metadata, named, titled, steady_written.report world s f kept written⟩

theorem steady_intact : Steady (Intact p old new : ω × List (Exchange Session) → _) where
  keyring world s k intact :=
    intact.imp (steady_written.keyring world s k) (steady_refounded.keyring world s k)
  keyed world s intact := intact.imp (steady_written.keyed world s) (steady_refounded.keyed world s)
  report world s f kept intact :=
    intact.imp (steady_written.report world s f kept) (steady_refounded.report world s f kept)

end Assertions

section Answers

variable {env : Environment ω Session} {requests : List Request} {begun : Bool}
  {held old new : LocalState} {p : Profile} {key : Key} (bystanding : Bystanding env)

include bystanding

theorem stable_written : Stable (env.answering.only fun r => r.isWrite = false)
    (Written requests begun held) := by
  rintro r world s reply later resumed written ⟨other, -, rfl, rfl⟩
  have same : serverWrites (world.2 ++ [env.exchange r s world.1]) = serverWrites world.2 := by
    rw [serverWrites_append, serverWrites_other other, List.append_nil]
  have kept := written.of_session (bystanding.localState r world.1 s) (bystanding.cycle r world.1 s)
  exact { kept with
    requests := by rw [same]; exact kept.requests
    granted := by rw [same]; exact kept.granted }

theorem stable_refounded : Stable (env.answering.only fun r => r.isWrite = false)
    (Refounded p held) := by
  rintro r world s reply later resumed ⟨keys, metadata, named, titled, written⟩ answered
  exact ⟨keys, metadata, named, titled,
    stable_written bystanding r world s reply later resumed written answered⟩

theorem stable_intact : Stable (env.answering.only fun r => r.isWrite = false)
    (Intact p old new) := by
  intro r world s reply later resumed intact answered
  exact intact.imp
    (fun written => stable_written bystanding r world s reply later resumed written answered)
    fun refounded => stable_refounded bystanding r world s reply later resumed refounded answered

theorem assures_write {limit : Duration} {call : RemoteCall} (operation : String)
    (write : (Request.remote limit call).isWrite = true) :
    (request (.remote limit call) : Program Session _).Assures env.answering (fun _ _ _ => True)
      (Written requests begun held)
      (fun reply => Attempted (requests ++ [.remote limit call]) begun held
        (outcome limit operation reply))
      (Refused held) := by
  refine .request (fun _ _ _ => trivial) ?_
  rintro world s reply later resumed written ⟨rfl, rfl, rfl⟩
  let r : Request := .remote limit call
  have added : serverWrites (world.2 ++ [env.exchange r s world.1]) =
      serverWrites world.2 ++ [env.exchange r s world.1] := by
    rw [serverWrites_append, serverWrites_single write]
  have kept := written.of_session (bystanding.localState r world.1 s) (bystanding.cycle r world.1 s)
  cases replied : outcome limit operation (env.reply r world.1) with
  | ok answer =>
      have exchanged : env.exchange r s world.1 =
          ⟨r, s, some (.ok answer), env.touch r world.1 s⟩ := by
        rw [Environment.exchange, outcome_eq_ok.mp replied]
      refine { kept with requests := ?_, granted := ?_ }
      · rw [added, List.map_append, written.requests]
        rfl
      · intro x member
        rw [added] at member
        rcases List.mem_append.mp member with earlier | last
        · exact written.granted x earlier
        · rw [List.mem_singleton.mp last, exchanged]
          rfl
  | error e =>
      refine ⟨kept.localState, env.exchange r s world.1, by rw [added]; simp, ?_⟩
      have exchanged : env.exchange r s world.1 =
          ⟨r, s, env.reply r world.1, env.touch r world.1 s⟩ := rfl
      rw [exchanged]
      generalize env.reply r world.1 = answer at replied
      cases answer with
      | none => rfl
      | some told =>
          cases told with
          | error _ => rfl
          | ok _ => cases replied

theorem assures_publish {limit : Duration} (r : RecoveryStep) (operation collection : String)
    (record : RemoteRecord) :
    (step r (publish limit operation collection record) : Program Session _).Assures env.answering
      (fun _ _ _ => True) (Written requests begun held)
      (fun _ => Written (requests ++ [storeRequest limit collection record]) begun held)
      (Refused held) := by
  rw [step_publish_eq]
  refine .bind (assures_write bystanding operation rfl) fun reply => ?_
  cases outcome limit operation reply with
  | ok modified => exact fun _ _ written => written
  | error e => exact .note_bind (.fail fun _ _ refused => refused)

section Unfailing

variable {inv broken : ω × List (Exchange Session) → Session → Prop}
  (stable : Stable (env.answering.only fun r => r.isWrite = false) inv)

omit bystanding

/-- What asks for no write leaves what is written. -/
theorem assures_other {program : Program Session α}
    (sustains : program.Sustains (env.answering.only fun r => r.isWrite = false)
      (fun r => r.isWrite = false) inv) (breaks : ∀ world s, inv world s → broken world s) :
    program.Assures env.answering (fun _ _ _ => True) inv (fun _ => inv) broken :=
  (Assures.unrestricted sustains fun _ _ _ asked => asked.2).conseq (fun _ _ _ _ => trivial)
    (fun _ _ holds => holds) (fun _ _ _ holds => holds) breaks

include stable

/-- A request does not fail by itself. -/
theorem assures_request {r : Request} (other : r.isWrite = false) :
    (request r : Program Session _).Assures env.answering (fun _ _ _ => True) inv (fun _ => inv)
      broken :=
  .request (fun _ _ _ => trivial) fun world s reply later resumed holds answered =>
    stable r world s reply later resumed holds ⟨other, answered⟩

theorem assures_generateId (draw : Draw) :
    (generateId draw : Program Session _).Assures env.answering (fun _ _ _ => True) inv
      (fun _ => inv) broken :=
  .bind (assures_request stable rfl) fun _ => .pure fun _ _ holds => holds

theorem assures_engines (collections : List CollectionConfig) (engines : NameMap EngineMetadata) :
    (generateEngines engines collections : Program Session _).Assures env.answering
      (fun _ _ _ => True) inv (fun _ => inv) broken := by
  induction collections generalizing engines with
  | nil => exact .pure fun _ _ holds => holds
  | cons c rest ih => exact .bind (assures_generateId stable _) fun syncId => ih _

theorem assures_resetAll (synchronizers : List Synchronizer) :
    (resetAll synchronizers : Program Session _).Assures env.answering (fun _ _ _ => True) inv
      (fun _ => inv) broken := by
  induction synchronizers with
  | nil => exact .pure fun _ _ holds => holds
  | cons c rest ih =>
      refine .bind (assures_request stable rfl) fun reply => ?_
      cases reply with
      | ok _ => exact ih
      | error e => exact .note_bind (.bind ih fun _ => .pure fun _ _ holds => holds)

end Unfailing

/-- A new epoch is published by putting the keys, and then the metadata. -/
theorem assures_publishAnew (plan : FreshStartPlan) :
    (publishAnew plan key : Program Session _).Assures env.answering (fun _ _ _ => True)
      (Written requests begun held)
      (fun _ world s => ∃ keys metadata, keys.id = keysRecordId ∧ metadata.id = globalRecordId ∧
        Written (requests ++ [storeRequest plan.limit cryptoCollection keys] ++
          [storeRequest plan.limit metaCollection metadata]) begun held world s)
      (Refused held) := by
  have stable : Stable (env.answering.only fun r => r.isWrite = false)
      (Written requests begun held) := stable_written bystanding
  refine .bind (assures_generateId stable _) fun syncId => .note_bind ?_
  have generating : (generateBundle : Program Session _).Assures env.answering (fun _ _ _ => True)
      (Written requests begun held) (fun _ => Written requests begun held) (Refused held) :=
    .bind (assures_request stable rfl) fun bytes => .note_bind (.pure fun _ _ holds => holds)
  refine .bind generating fun bundle => ?_
  let keys (nonce : Nonce) := RemoteRecord.ofPayload keysRecordId (bundle.toPayload key nonce)
  have putting : (publishKeys plan key bundle : Program Session _).Assures env.answering
      (fun _ _ _ => True) (Written requests begun held)
      (fun _ world s => ∃ nonce,
        Written (requests ++ [storeRequest plan.limit cryptoCollection (keys nonce)]) begun held world s)
      (Refused held) :=
    .bind (assures_request stable rfl) fun nonce =>
      (assures_publish bystanding _ _ _ (keys nonce)).conseq (fun _ _ _ asked => asked)
        (fun _ _ holds => holds) (fun _ _ _ written => ⟨nonce, written⟩) fun _ _ refused => refused
  refine .bind putting fun _ => ?_
  rintro world s ⟨nonce, written⟩
  refine Assures.bind (assures_engines (stable_written bystanding) plan.collections .empty)
    (fun engines => ?_) world s written
  let m : GlobalMetadata := ⟨syncId, plan.storageVersion, engines⟩
  refine .bind (assures_publish bystanding _ _ _ (.ofPayload globalRecordId m.toJson.render))
    fun _ => .pure fun _ _ written => ?_
  exact ⟨keys nonce, _, rfl, rfl, written⟩

/-- Once the server is wiped, the records are dropped if the new epoch is published, and only then. -/
theorem assures_republish (synchronizers : List Synchronizer) :
    (onBook (republish (.ofConfig p.config) key synchronizers)).Assures env.answering
      (fun _ _ _ => True) (Written [wipeRequest p.limit] true held) (fun _ => Refounded p .empty)
      (Accounted p held) := by
  have publishing : (publishAnew (.ofConfig p.config) key : Program Session _).Assures env.answering
      (fun _ _ _ => True) (Written [wipeRequest p.limit] true held) (fun _ => Refounded p held)
      (Accounted p held) :=
    (assures_publishAnew bystanding (.ofConfig p.config)).conseq (fun _ _ _ asked => asked)
      (fun _ _ holds => holds) (fun _ _ _ holds => holds) fun _ _ refused => .inr refused
  have keyring (world : ω × List (Exchange Session)) (s : Session) (holds : Refounded p held world s) :
      Refounded p held world (s.withKeyring .empty) := steady_refounded.keyring world s .empty holds
  have records (world : ω × List (Exchange Session)) (s : Session) (holds : Refounded p held world s) :
      Refounded p .empty world s.forgettingRecords := by
    obtain ⟨keys, metadata, named, titled, written⟩ := holds
    exact ⟨keys, metadata, named, titled, written.forgetting⟩
  have saving (failures : List String) : (saveReset p.config.statePath failures).Assures env.answering
      (fun _ _ _ => True) (Refounded p .empty) (fun _ => Refounded p .empty) (Accounted p held) :=
    assures_other (sustains_saveReset (stable_refounded bystanding)
      (fun _ => Request.isWrite_eq_false_of_isFileWrite) _ failures)
      fun _ _ refounded => .inl (.inr refounded)
  exact assures_republish_of publishing keyring
    (assures_resetAll (stable_refounded bystanding) synchronizers) records saving

/-- A fresh start ends with a new epoch on the server and without records, unless it fails. -/
theorem assures_freshStart (reason : FreshStartReason) :
    (freshStart p key reason).Assures env.answering (fun _ _ _ => True) (Written [] false held)
      (fun _ => Refounded p .empty) (Accounted p held) := by
  have wiping : (request (wipeRequest p.limit) : Program Session _).Assures env.answering
      (fun _ _ _ => True) (Written [] true held)
      (fun reply => Attempted ([] ++ [wipeRequest p.limit]) true held
        (outcome p.limit "server wipe" reply))
      (Accounted p held) :=
    (assures_write bystanding "server wipe" rfl).conseq (fun _ _ _ asked => asked)
      (fun _ _ holds => holds) (fun _ _ _ holds => holds) fun _ _ refused => .inr refused
  refine assures_freshStart_of (fun world s written => ?_) wiping (fun reply e failed world s => ?_)
    fun reply granted synchronizers => ?_
  · exact { written with
      begun := afresh_startingAfresh reason written.running
      running := (isSyncing_withReport _).trans ((isSyncing_entering s _).trans written.running) }
  · rw [failed]
    exact .inr
  · rw [granted]
    exact assures_republish bystanding synchronizers

/-- What a cycle has written is known in all its phases. -/
theorem phases_written (p : Profile) (held : LocalState) :
    Phases env.answering (fun _ _ _ => True) (fun r => r.isWrite = false) (Written [] false held)
      (Intact p held .empty) (Accounted p held) where
  stableEarly := stable_written bystanding
  stable := stable_intact bystanding
  steadyEarly := steady_written
  steady := steady_intact
  harmless _ other _ := other
  permits _ _ _ _ _ := trivial
  begun _ _ written := .inl written
  unstarted world s intact unbegun := by
    rcases intact with written | ⟨keys, metadata, -, -, written⟩
    · exact written
    · exact absurd (unbegun.symm.trans written.begun) Bool.false_ne_true
  breaks _ _ intact := .inl intact

/-- A commit replaces the records, or it fails before that. -/
theorem assures_commit (index : CollectionIndex) (m : GlobalMetadata) :
    (commit p index m).Assures env.answering (fun _ _ _ => True) (Intact p held .empty)
      (fun _ world s => ∃ next, Intact p next next world s) (Accounted p held) := by
  have phases := phases_written bystanding p held
  refine .bind (phases.of_inv sustains_report) fun r => ?_
  refine .bind (phases.of_inv (.request rfl phases.stable)) fun now => ?_
  let next : LocalState :=
    ⟨some m.syncId, if r.performedFreshStart then none else some index.fingerprint, some now⟩
  refine .bind (phases.of_inv (StateFile.sustains_save phases.stable
    (fun _ => Request.isWrite_eq_false_of_isFileWrite) _ next)) fun _ => ?_
  have recorded (world : ω × List (Exchange Session)) (s : Session)
      (intact : Intact p held .empty world s) :
      Intact p next next world { s with book := { s.book with localState := next } } := by
    rcases intact with written | ⟨keys, metadata, named, titled, written⟩
    · exact .inl { written with localState := rfl, begun := written.begun, running := written.running }
    · exact .inr ⟨keys, metadata, named, titled,
        { written with localState := rfl, begun := written.begun, running := written.running }⟩
  refine .modify_bind recorded ?_
  intro world s intact
  exact ⟨next, steady_intact.report world s _ (fun _ => rfl) intact⟩

/-- What a cycle has written is known, and what became of its records. -/
theorem runCycle_writes {s : Session} {before after : ω} {xs : List (Exchange Session)}
    {inner : Ending Session Unit} (taken : (runCycle p).Takes env s.starting before xs inner after) :
    inner.Meets (fun _ t => ∃ next, Intact p next next (after, xs) t)
      (Accounted p s.book.localState (after, xs)) := by
  have begun : Written [] false s.book.localState (before, []) s.starting := by
    constructor <;> first | rfl | simp [serverWrites]
  have phases := phases_written bystanding p s.book.localState
  have cycle := phases.assures_runCycle (fun key reason => (assures_freshStart bystanding reason).conseq
    (fun _ _ _ asked => asked) (fun _ _ holds => holds) (fun _ _ _ refounded => .inr refounded)
    fun _ _ holds => holds) (assures_commit bystanding)
  exact (cycle.exchanged begun taken).1

/-- A cycle of which no write is refused makes no write, or all three of a fresh start. -/
theorem sync_writes {s : Session} {before after : ω} {xs : List (Exchange Session)}
    {ending : Ending Session CycleReport} (taken : (sync p).Takes env s before xs ending after)
    (granted : ∀ x ∈ serverWrites xs, x.isGranted = true) : serverWrites xs = [] ∨ Founding p xs := by
  have intact {old new : LocalState} {t : Session} (intact : Intact p old new (after, xs) t) :
      serverWrites xs = [] ∨ Founding p xs := by
    rcases intact with written | ⟨keys, metadata, named, titled, written⟩
    · exact .inl (List.map_eq_nil_iff.mp written.requests)
    · exact .inr ⟨keys, metadata, named, titled, written.requests⟩
  cases busy : s.isSyncing with
  | true =>
      obtain ⟨rfl, -, -⟩ := (takes_sync_refused busy).mp taken
      exact .inl rfl
  | false =>
      obtain ⟨inner, run, -⟩ := (takes_sync busy).mp taken
      have writes := runCycle_writes bystanding run
      cases inner with
      | returned _ t =>
          obtain ⟨next, written⟩ := writes
          exact intact written
      | failed e t =>
          rcases writes with written | ⟨-, x, member, refused⟩
          · exact intact written
          · exact absurd ((granted x member).symm.trans refused) (by decide)

end Answers

end Session

end SealedSync
