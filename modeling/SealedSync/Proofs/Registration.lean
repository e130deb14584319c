import SealedSync.Proofs.Preparation

/-!
# Registration and resets

A cycle reads the list of synchronizers when it finds another epoch, again when it begins a fresh
start, and once more when it hands out keys. One that is registered in between works in the epoch
without a reset: what is reset in a cycle is what was registered in time.
-/
namespace SealedSync

/-- The exchange resets a synchronizer, which succeeds. -/
inductive Exchange.Resets {σ : Type} (c : Synchronizer) : Exchange σ → Prop where
  | intro (asked resumed : σ) : Resets c ⟨.resetClient c, asked, .ok (), resumed⟩

theorem Exchange.Resets.request_eq {σ : Type} {c : Synchronizer} {x : Exchange σ}
    (resets : x.Resets c) : x.request = .resetClient c := by
  cases resets
  rfl

/-- A synchronizer is reset in some exchanges. -/
def ResetIn {σ : Type} (c : Synchronizer) (exchanges : List (Exchange σ)) : Prop :=
  ∃ x ∈ exchanges, x.Resets c

/-- The identifier of an epoch that the exchange draws. -/
def Exchange.drawnId? {σ : Type} : Exchange σ → Option String
  | ⟨.random .epochId, _, bytes, _⟩ => some (Base64.encodeUrlSafe bytes.val)
  | _ => none

/-- The identifier of the epoch whose metadata the exchange finds. -/
def Exchange.foundId? {σ : Type} : Exchange σ → Option String
  | ⟨.remote limit (.fetch collection id), _, reply, _⟩ =>
      if collection = metaCollection ∧ id = globalRecordId then
        (RemoteState.metadataFrom limit reply).toOption.map (·.syncId)
      else none
  | _ => none

/-- The identifier of the epoch that a cycle works in: the one that it drew for a fresh start, or
else that of the metadata it found. -/
def activeId {σ : Type} (exchanges : List (Exchange σ)) : Option String :=
  (exchanges.findSome? Exchange.drawnId?).or (exchanges.findSome? Exchange.foundId?)

/-- The request reads the metadata, derives the key, begins a fresh start, resets a synchronizer or
draws the identifier of an epoch. -/
def Request.isMilestone : Request → Bool
  | .deriveKey => true
  | .remote _ (.fetch collection _) => collection == metaCollection
  | .remote _ .wipe => true
  | .resetClient _ => true
  | .random draw => draw == .epochId
  | _ => false

namespace Session

open RemoteState FreshStart

variable {ω : Type} {p : Profile} {c : Synchronizer} {xs ys : List (Exchange Session)}

/-- A synchronizer was registered when the metadata were found, when the key had been derived or when
a wipe was begun. -/
def InTime (p : Profile) (c : Synchronizer) (exchanges : List (Exchange Session)) : Prop :=
  ∃ x ∈ exchanges,
    ((x.request = metadataRequest p.limit ∨ x.request = .deriveKey) ∧ c ∈ x.resumed.synchronizers) ∨
      (x.request = wipeRequest p.limit ∧ c ∈ x.asked.synchronizers)

theorem resetIn_append : ResetIn c (xs ++ ys) ↔ ResetIn c xs ∨ ResetIn c ys := by
  simp only [ResetIn, List.mem_append, or_and_right, exists_or]

theorem inTime_append : InTime p c (xs ++ ys) ↔ InTime p c xs ∨ InTime p c ys := by
  simp only [InTime, List.mem_append, or_and_right, exists_or]

section Between

variable (between : ∀ y ∈ ys, y.request.isMilestone = false)

include between

theorem not_resetIn_between : ¬ResetIn c ys := by
  rintro ⟨y, member, resets⟩
  have passed := between y member
  rw [resets.request_eq] at passed
  cases passed

theorem not_inTime_between : ¬InTime p c ys := by
  rintro ⟨y, member, ⟨request | request, -⟩ | ⟨request, -⟩⟩
  all_goals
    have passed := between y member
    rw [request] at passed
    cases passed

theorem drawnId_between : ys.findSome? Exchange.drawnId? = none := by
  rw [List.findSome?_eq_none_iff]
  intro y member
  have passed := between y member
  unfold Exchange.drawnId?
  split
  · cases passed
  · rfl

theorem foundId_between : ys.findSome? Exchange.foundId? = none := by
  rw [List.findSome?_eq_none_iff]
  intro y member
  have passed := between y member
  unfold Exchange.foundId?
  split
  · rename_i limit collection id asked reply resumed
    have other : (collection == metaCollection) = false := passed
    rw [if_neg fun both => ne_of_beq_false other both.1]
  · rfl

theorem activeId_append_between : activeId (xs ++ ys) = activeId xs := by
  rw [activeId, List.findSome?_append, List.findSome?_append, drawnId_between between,
    foundId_between between, Option.or_none, Option.or_none, activeId]

end Between

/-! ## What others do meanwhile -/

/-- While a session waits, others may register synchronizers, ask it to stop and use its keyring, but
they leave its records and its report alone. -/
structure Bystanding (env : Environment ω Session) : Prop where
  localState : ∀ r w s, (env.touch r w s).book.localState = s.book.localState
  cycle : ∀ r w s, (env.touch r w s).cycle = s.cycle
  synchronizers : ∀ r w s, s.synchronizers <+: (env.touch r w s).synchronizers

namespace Bystanding

variable {env : Environment ω Session} (bystanding : Bystanding env) (r : Request) (w : ω)
  (s : Session)

include bystanding

theorem isSyncing : (env.touch r w s).isSyncing = s.isSyncing :=
  congrArg Option.isSome (bystanding.cycle r w s)

theorem state : (env.touch r w s).state = s.state :=
  congrArg (fun cycle : Option CycleReport => (cycle.getD .start).state) (bystanding.cycle r w s)

theorem performedFreshStart : (env.touch r w s).performedFreshStart = s.performedFreshStart :=
  congrArg (fun cycle : Option CycleReport => (cycle.getD .start).performedFreshStart)
    (bystanding.cycle r w s)

theorem sawNewEpoch : (env.touch r w s).sawNewEpoch = s.sawNewEpoch :=
  congrArg (fun cycle : Option CycleReport => (cycle.getD .start).epochChanged)
    (bystanding.cycle r w s)

end Bystanding

section Stages

variable {env : Environment ω Session} {before after : ω} {s t : Session} {m : GlobalMetadata}
  {key : Key} {index : CollectionIndex}

/-! ## Resets -/

theorem resetIn_cons {x : Exchange Session} {rest : List (Exchange Session)} :
    ResetIn c (x :: rest) ↔ x.Resets c ∨ ResetIn c rest := by
  simp only [ResetIn, List.mem_cons, exists_eq_or_imp]

theorem resets_exchange {d : Synchronizer} {s : Session} {w : ω}
    (replied : env.reply (.resetClient d) w = .ok ()) :
    (env.exchange (.resetClient d) s w).Resets c ↔ c = d := by
  have same : env.exchange (.resetClient d) s w =
      ⟨.resetClient d, s, .ok (), env.touch (.resetClient d) w s⟩ := by
    rw [Environment.exchange, replied]
  rw [same]
  constructor
  · rintro ⟨⟩
    rfl
  · rintro rfl
    exact .intro _ _

/-- Resets for an epoch that end well are resets of all that were listed. -/
theorem resetForEpoch_returned {synchronizers : List Synchronizer}
    (taken : (resetForEpoch synchronizers).Takes env s before xs (.returned () t) after) :
    ResetIn c xs ↔ c ∈ synchronizers := by
  induction synchronizers generalizing s before xs with
  | nil =>
      obtain ⟨rfl, -, -⟩ := Program.takes_pure.mp taken
      simp [ResetIn]
  | cons d rest ih =>
      obtain ⟨tail, rfl, continued⟩ := takes_resetForEpoch_cons.mp taken
      cases replied : env.reply (.resetClient d) before with
      | error e =>
          simp only [replied] at continued
          cases continued.2.1
      | ok _ =>
          simp only [replied] at continued
          rw [resetIn_cons, resets_exchange replied, ih continued, List.mem_cons]

/-- Resets of which none fails are resets of all that were listed. -/
theorem resetAll_returned {synchronizers : List Synchronizer}
    (taken : (resetAll synchronizers).Takes env s before xs (.returned [] t) after) :
    ResetIn c xs ↔ c ∈ synchronizers := by
  induction synchronizers generalizing s before xs with
  | nil =>
      obtain ⟨rfl, -, -⟩ := Program.takes_pure.mp taken
      simp [ResetIn]
  | cons d rest ih =>
      obtain ⟨tail, rfl, continued⟩ := Program.takes_request_bind.mp taken
      cases replied : env.reply (.resetClient d) before with
      | error e =>
          simp only [replied] at continued
          rw [Program.takes_note_bind, Program.takes_bind_returned] at continued
          obtain ⟨_, _, _, _, _, -, told, -⟩ := continued
          cases (Program.takes_pure.mp told).2.1
      | ok _ =>
          simp only [replied] at continued
          rw [resetIn_cons, resets_exchange replied, ih continued, List.mem_cons]

theorem tell_returned {failures : List String}
    (taken : (tell failures).Takes env s before xs (.returned () t) after) :
    failures = [] ∧ xs = [] := by
  unfold tell at taken
  cases failures with
  | nil => exact ⟨rfl, (Program.takes_pure.mp taken).1⟩
  | cons failure rest => cases (Program.takes_fail.mp taken).2.1

/-- Empty records are saved without a complaint only if nothing went wrong before. -/
theorem saveReset_returned {file : StateFile} {failures : List String}
    (taken : (saveReset file failures).Takes env s before xs (.returned () t) after) :
    failures = [] ∧ ∀ x ∈ xs, x.request.isFileWrite = true := by
  obtain ⟨inner, world, saves, told, saved, telling, rfl⟩ := Program.takes_attempt_bind.mp taken
  have kept : (StateFile.save file .empty : Program Session Unit).Keeps (fun _ => True)
      fun r => r.isFileWrite = true := StateFile.keeps_save (fun _ h => h) _ _
  have files := (kept.takes trivial (fun _ _ _ h => h) saved).1
  cases inner with
  | returned _ last =>
      obtain ⟨rfl, rfl⟩ := tell_returned telling
      exact ⟨rfl, by simpa using fun x member => (files x member).2.1⟩
  | failed e last =>
      have telling := Program.takes_note_bind.mp telling
      have impossible := (tell_returned telling).1
      simp at impossible

/-- A new epoch is published with the identifier that is drawn first. -/
theorem publishAnew_returned {plan : FreshStartPlan}
    (taken : (publishAnew plan key).Takes env s before xs (.returned m t) after) :
    xs.findSome? Exchange.drawnId? = some m.syncId ∧ ∀ x ∈ xs, x.request.isPublication = true := by
  have kept : (publishAnew plan key : Program Session _).Keeps (fun _ => True)
      fun r => r.isPublication = true := keeps_publishAnew (fun _ h => h) _ _
  refine ⟨?_, fun x member => ((kept.takes trivial (fun _ _ _ h => h) taken).1 x member).2.1⟩
  obtain ⟨rest, rfl, noted⟩ := takes_generateId_bind.mp taken
  rw [Program.takes_note_bind, Program.takes_bind_returned] at noted
  obtain ⟨bundle, _, _, _, _, -, generated, rfl⟩ := noted
  obtain ⟨_, _, _, _, _, -, stored, rfl⟩ := Program.takes_bind_returned.mp generated
  obtain ⟨engines, _, _, _, _, -, numbered, rfl⟩ := Program.takes_bind_returned.mp stored
  obtain ⟨_, _, _, _, _, -, published, rfl⟩ := Program.takes_bind_returned.mp numbered
  cases (Program.takes_pure.mp published).2.1
  rfl

/-- A fresh start that ends well has reset the synchronizers that were registered when it began. -/
structure Refreshed (p : Profile) (s : Session) (m : GlobalMetadata)
    (exchanges : List (Exchange Session)) (t : Session) : Prop where
  reset : ∀ c, ResetIn c exchanges ↔ c ∈ s.synchronizers
  inTime : ∀ c, InTime p c exchanges ↔ c ∈ s.synchronizers
  drawn : exchanges.findSome? Exchange.drawnId? = some m.syncId

theorem not_resetIn_of_requests (others : ∀ x ∈ xs, x.request ≠ .resetClient c) :
    ¬ResetIn c xs :=
  fun ⟨x, member, resets⟩ => others x member resets.request_eq

theorem republish_not_inTime {plan : FreshStartPlan} {synchronizers : List Synchronizer}
    {ending : Ending Session GlobalMetadata}
    (taken : (onBook (republish plan key synchronizers)).Takes env s before xs ending after) :
    ¬InTime p c xs := by
  let later (r : Request) : Prop :=
    r ≠ metadataRequest p.limit ∧ r ≠ .deriveKey ∧ r ≠ wipeRequest p.limit
  have kept : (republish plan key synchronizers).Keeps (fun _ => True) later := by
    apply keeps_republish
    · intro c
      refine ⟨?_, ?_, ?_⟩ <;> simp
    · intro r published
      refine ⟨?_, ?_, ?_⟩ <;> rintro rfl <;> cases published
    · intro r file
      refine ⟨?_, ?_, ?_⟩ <;> rintro rfl <;> cases file
  have kept : (onBook (republish plan key synchronizers)).Keeps (fun _ => True) later :=
    kept.zoom fun _ _ h => h
  have requests := (kept.takes trivial (fun _ _ _ h => h) taken).1
  rintro ⟨x, member, ⟨request | request, -⟩ | ⟨request, -⟩⟩
  · exact (requests x member).2.1.1 request
  · exact (requests x member).2.1.2.1 request
  · exact (requests x member).2.1.2.2 request

theorem freshStart_returned {reason : FreshStartReason}
    (taken : (freshStart p key reason).Takes env s before xs (.returned m t) after) :
    Refreshed p s m xs t := by
  obtain ⟨rest, rfl, renewing⟩ := takes_freshStart.mp taken
  cases wiped : Program.outcome p.limit "server wipe" (env.reply (wipeRequest p.limit) before) with
  | error e =>
      simp only [wiped] at renewing
      cases renewing.2.1
  | ok _ =>
      simp only [wiped] at renewing
      have late (c : Synchronizer) : ¬InTime p c rest := republish_not_inTime renewing
      rw [onBook_republish] at renewing
      obtain ⟨m', _, _, published, _, publishing, resetting, rfl⟩ :=
        Program.takes_bind_returned.mp renewing
      rw [Program.takes_modify_bind, Program.takes_note_bind, Program.takes_bind_returned] at resetting
      obtain ⟨failures, _, _, resets, _, reset, saving, rfl⟩ := resetting
      rw [Program.takes_modify_bind, Program.takes_bind_returned] at saving
      obtain ⟨_, _, _, saves, _, saved, closing, rfl⟩ := saving
      rw [Program.takes_note_bind, Program.takes_pure] at closing
      obtain ⟨rfl, same, -⟩ := closing
      cases same
      obtain ⟨rfl, files⟩ := saveReset_returned saved
      obtain ⟨drawn, publications⟩ := publishAnew_returned publishing
      have unpublished (c : Synchronizer) : ¬ResetIn c published :=
        not_resetIn_of_requests fun x member same => by
          have published := publications x member
          rw [same] at published
          cases published
      have unsaved (c : Synchronizer) : ¬ResetIn c saves :=
        not_resetIn_of_requests fun x member same => by
          have file := files x member
          rw [same] at file
          cases file
      refine ⟨fun c => ?_, fun c => ?_, ?_⟩
      · have unwiped : ¬(env.exchange (wipeRequest p.limit) (s.startingAfresh reason) before).Resets c :=
          fun resets => nomatch resets.request_eq
        simp only [resetIn_cons, resetIn_append, unwiped, unpublished, unsaved, false_or, or_false,
          List.append_nil, resetAll_returned reset]
      · constructor
        · rintro ⟨x, member, inTime⟩
          rcases List.mem_cons.mp member with rfl | member
          · rcases inTime with ⟨impossible | impossible, -⟩ | ⟨-, registered⟩
            · cases impossible
            · cases impossible
            · exact registered
          · exact absurd ⟨x, member, inTime⟩ (late c)
        · exact fun registered => ⟨_, List.mem_cons_self, .inr ⟨rfl, registered⟩⟩
      · rw [List.findSome?_cons, List.findSome?_append, drawn]
        rfl

/-! ## From the reads to the keys -/

/-- A cycle that has not reset anything nor begun a fresh start, and what it exchanged so far. -/
structure Untouched (s : Session) (exchanges : List (Exchange Session)) (u : Session) : Prop where
  unreset : ∀ c, ¬ResetIn c exchanges
  undrawn : exchanges.findSome? Exchange.drawnId? = none
  localState : u.book.localState = s.book.localState
  synchronizers : s.synchronizers <+: u.synchronizers
  running : u.isSyncing = true
  unstarted : u.performedFreshStart = false
  unchanged : u.sawNewEpoch = false

/-- A cycle that has evaluated the server's state. -/
structure Read (p : Profile) (s : Session) (evaluated : Evaluated)
    (exchanges : List (Exchange Session)) (u : Session) : Prop
    extends Untouched s exchanges u where
  registered : ∀ c, InTime p c exchanges → c ∈ u.synchronizers
  found : ∀ m, evaluated = .current m → exchanges.findSome? Exchange.foundId? = some m.syncId ∧
    ∀ c ∈ u.synchronizers, InTime p c exchanges

/-- What follows the evaluation before keys are handed out. -/
def secure (p : Profile) (key : Key) (index : CollectionIndex) (evaluated : Evaluated) :
    Program Session (CollectionIndex × GlobalMetadata) := do
  let m ← settleEpoch p key evaluated
  checkpoint p
  let m ← secureKeys p key index m
  return (index, m)

theorem checkpoint_bind_returned {α : Type} {next : Unit → Program Session α} {value : α}
    (taken : (checkpoint p >>= next).Takes env s before xs (.returned value t) after) :
    (next ()).Takes env s before xs (.returned value t) after := by
  rw [takes_checkpoint_bind] at taken
  split at taken
  · cases taken.2.1
  · exact taken

theorem sawNewEpoch_entering (s : Session) (state : CycleState) :
    (s.entering state).sawNewEpoch = s.sawNewEpoch :=
  sawNewEpoch_withReport (by intros; rfl) s

theorem isSyncing_entering (s : Session) (state : CycleState) :
    (s.entering state).isSyncing = s.isSyncing :=
  isSyncing_withReport s

theorem evaluatedFrom_found {reply : (metadataRequest p.limit).Reply}
    (found : evaluatedFrom (metadataFrom p.limit reply) p.config.storageVersion = .ok (.current m))
    (asked resumed : Session) :
    Exchange.foundId? ⟨metadataRequest p.limit, asked, reply, resumed⟩ = some m.syncId := by
  have told : Exchange.foundId? ⟨metadataRequest p.limit, asked, reply, resumed⟩ =
      if metaCollection = metaCollection ∧ globalRecordId = globalRecordId then
        (metadataFrom p.limit reply).toOption.map (·.syncId)
      else none := rfl
  rw [told, if_pos ⟨rfl, rfl⟩, (evaluatedFrom_eq_current.mp found).1]
  rfl

variable (bystanding : Bystanding env)

include bystanding

/-- The index tells nothing of an epoch. -/
theorem untouched_index (s : Session) (w : ω) :
    Untouched s [env.exchange (indexRequest p.limit) (s.starting.entering .fetchingState) w]
      ((env.touch (indexRequest p.limit) w (s.starting.entering .fetchingState)).entering
        .evaluating) := by
  have between : ∀ x ∈ [env.exchange (indexRequest p.limit) (s.starting.entering .fetchingState) w],
      x.request.isMilestone = false := List.forall_mem_singleton.mpr rfl
  constructor
  case unreset => exact fun c => not_resetIn_between between
  case undrawn => exact drawnId_between between
  case localState => exact bystanding.localState _ _ (s.starting.entering .fetchingState)
  case synchronizers => exact bystanding.synchronizers _ _ (s.starting.entering .fetchingState)
  case running => rw [isSyncing_entering, bystanding.isSyncing, isSyncing_entering]; rfl
  case unstarted => rw [performedFreshStart_entering, bystanding.performedFreshStart]; rfl
  case unchanged =>
    rw [sawNewEpoch_entering, bystanding.sawNewEpoch, sawNewEpoch_entering]
    rfl

omit bystanding in
/-- Where the index alone asks for a fresh start, no metadata are read. -/
theorem Untouched.read_nothing {evaluated : Evaluated} {x : Exchange Session} {u : Session}
    (untouched : Untouched s [x] u) (index : x.request = indexRequest p.limit)
    (diverged : ∀ m, evaluated ≠ .current m) : Read p s evaluated [x] u := by
  refine ⟨untouched, fun c inTime => ?_, fun m same => absurd same (diverged m)⟩
  have between : ∀ z ∈ [x], z.request.isMilestone = false :=
    List.forall_mem_singleton.mpr (by rw [index]; rfl)
  exact absurd inTime (not_inTime_between between)

omit bystanding in
/-- Who is registered when the metadata are found or the key has been derived, is so in time. -/
theorem inTime_singleton {x : Exchange Session}
    (early : x.request = metadataRequest p.limit ∨ x.request = .deriveKey) :
    InTime p c [x] ↔ c ∈ x.resumed.synchronizers := by
  constructor
  · rintro ⟨y, member, ⟨-, registered⟩ | ⟨wipe, -⟩⟩
    · exact List.mem_singleton.mp member ▸ registered
    · rw [List.mem_singleton.mp member] at wipe
      rcases early with same | same <;> cases same.symm.trans wipe
  · exact fun registered => ⟨x, List.mem_singleton_self x, .inl ⟨early, registered⟩⟩

/-- A session stays untouched by a request that resets nothing and draws no identifier. -/
theorem Untouched.exchanged {u : Session} {r : Request} {w : ω} (untouched : Untouched s xs u)
    (others : ∀ c, r ≠ .resetClient c) (undrawn : (env.exchange r u w).drawnId? = none) :
    Untouched s (xs ++ [env.exchange r u w]) (env.touch r w u) where
  unreset c reset := by
    have later : ¬ResetIn c [env.exchange r u w] :=
      not_resetIn_of_requests (List.forall_mem_singleton.mpr (others c))
    exact (resetIn_append.mp reset).elim (untouched.unreset c) later
  undrawn := by
    rw [List.findSome?_append, untouched.undrawn, Option.none_or, List.findSome?_cons, undrawn]
    rfl
  localState := (bystanding.localState ..).trans untouched.localState
  synchronizers := untouched.synchronizers.trans (bystanding.synchronizers ..)
  running := (bystanding.isSyncing ..).trans untouched.running
  unstarted := (bystanding.performedFreshStart ..).trans untouched.unstarted
  unchanged := (bystanding.sawNewEpoch ..).trans untouched.unchanged

/-- The metadata tell the epoch that the server is in. -/
theorem Untouched.read {evaluated : Evaluated} {x : Exchange Session} {u : Session} {w : ω}
    (untouched : Untouched s [x] u) (index : x.request = indexRequest p.limit)
    (found : evaluatedFrom (metadataFrom p.limit (env.reply (metadataRequest p.limit) w))
      p.config.storageVersion = .ok evaluated) :
    Read p s evaluated [x, env.exchange (metadataRequest p.limit) u w]
      (env.touch (metadataRequest p.limit) w u) := by
  let y := env.exchange (metadataRequest p.limit) u w
  have between : ∀ z ∈ [x], z.request.isMilestone = false :=
    List.forall_mem_singleton.mpr (by rw [index]; rfl)
  have split (c : Synchronizer) : InTime p c ([x] ++ [y]) ↔ c ∈ y.resumed.synchronizers := by
    rw [inTime_append, inTime_singleton (x := y) (.inl rfl)]
    exact or_iff_right (not_inTime_between between)
  refine ⟨untouched.exchanged bystanding (fun c => nofun) rfl, fun c => (split c).mp, ?_⟩
  rintro m rfl
  refine ⟨?_, fun c => (split c).mpr⟩
  have told : y.foundId? = some m.syncId := evaluatedFrom_found found ..
  show ([x] ++ [y]).findSome? _ = _
  rw [List.findSome?_append, foundId_between between, Option.none_or, List.findSome?_cons, told]

/-- While the key is derived, synchronizers may be registered in time. -/
theorem Read.awaits {evaluated : Evaluated} {u v : Session} {w w' : ω}
    (read : Read p s evaluated xs u) (awaits : AwaitsKey env u w ys v w') :
    Read p s evaluated (xs ++ ys) v.keyed := by
  cases awaits with
  | known derived =>
      rw [List.append_nil, keyed_of_derived derived]
      exact read
  | awaited underived =>
      let y := env.exchange .deriveKey u w
      have grown : u.synchronizers <+: y.resumed.synchronizers := bystanding.synchronizers ..
      have split (c : Synchronizer) : InTime p c (xs ++ [y]) ↔ c ∈ y.resumed.synchronizers := by
        rw [inTime_append, inTime_singleton (x := y) (.inr rfl)]
        exact or_iff_right_of_imp fun earlier => grown.subset (read.registered c earlier)
      have untouched := read.toUntouched.exchanged bystanding (w := w) (r := .deriveKey) (fun c => nofun) rfl
      refine ⟨{ untouched with }, fun c => (split c).mp, fun m same => ⟨?_, fun c => (split c).mpr⟩⟩
      rw [List.findSome?_append, (read.found m same).1]
      rfl

theorem prepare_read {found : CollectionIndex × GlobalMetadata}
    (taken : (prepare p).Takes env s.starting before xs (.returned found t) after) :
    ∃ reads rest evaluated key index u world, xs = reads ++ rest ∧ Read p s evaluated reads u ∧
      p.sealingKey = .ok key ∧
      (secure p key index evaluated).Takes env u world rest (.returned found t) after := by
  unfold prepare at taken
  rw [takes_enter_bind, Program.takes_bind_returned] at taken
  obtain ⟨index, _, _, _, rest, listed, checking, rfl⟩ := taken
  obtain ⟨rfl, indexed, rfl⟩ := takes_fetchIndex.mp listed
  obtain rfl := (Ending.of_returned_eq_ofExcept indexed).2
  have entering := checkpoint_bind_returned checking
  rw [takes_enter_bind, Program.takes_bind_returned] at entering
  obtain ⟨evaluated, u, world, reads, rest, evaluating, sealing, rfl⟩ := entering
  have untouched := untouched_index (p := p) bystanding s before
  have read : Read p s evaluated
      (env.exchange (indexRequest p.limit) (s.starting.entering .fetchingState) before :: reads) u := by
    cases decision : index.evaluate with
    | needsFreshStart reason =>
        obtain ⟨rfl, same, rfl⟩ := (takes_evaluateRemote_diverged decision).mp evaluating
        cases same
        exact untouched.read_nothing rfl fun m impossible => nomatch impossible
    | consistent =>
        obtain ⟨rfl, same, rfl⟩ := (takes_evaluateRemote_consistent decision).mp evaluating
        obtain ⟨found, rfl⟩ := Ending.of_returned_eq_ofExcept same
        exact untouched.read bystanding rfl found
  obtain ⟨wait, v, _, rest, awaits, rfl, sealed⟩ := takes_sealingKey_bind.mp sealing
  cases usable : p.sealingKey with
  | error e =>
      simp only [usable] at sealed
      cases sealed.2.1
  | ok key =>
      simp only [usable] at sealed
      exact ⟨_, rest, evaluated, key, index, v.keyed, _, by rw [List.append_assoc]; rfl,
        read.awaits bystanding awaits, rfl, checkpoint_bind_returned sealed⟩

/-- A cycle that is about to hand out keys. Either all that was registered in time is reset, or the
cycle is in the epoch that the session knew and has begun nothing anew. -/
structure Readied (p : Profile) (s : Session) (m : GlobalMetadata)
    (exchanges : List (Exchange Session)) (t : Session) : Prop where
  registered : ∀ c, InTime p c exchanges → c ∈ t.synchronizers
  present : ∀ c ∈ s.synchronizers, InTime p c exchanges
  active : activeId exchanges = some m.syncId
  undrawn : t.performedFreshStart = false → exchanges.findSome? Exchange.drawnId? = none
  resets : (∀ c, ResetIn c exchanges ↔ InTime p c exchanges) ∨
    ((∀ c, ¬ResetIn c exchanges) ∧ s.book.localState.lastSyncId = some m.syncId ∧
      t.performedFreshStart = false ∧ t.sawNewEpoch = false)

omit bystanding in
theorem Readied.append_between {u : Session} (readied : Readied p s m xs u)
    (between : ∀ y ∈ ys, y.request.isMilestone = false)
    (synchronizers : u.synchronizers <+: t.synchronizers)
    (started : t.performedFreshStart = u.performedFreshStart)
    (seen : t.sawNewEpoch = u.sawNewEpoch) : Readied p s m (xs ++ ys) t where
  registered c inTime := synchronizers.subset
    (readied.registered c ((inTime_append.mp inTime).resolve_right (not_inTime_between between)))
  present c member := inTime_append.mpr (.inl (readied.present c member))
  active := (activeId_append_between between).trans readied.active
  undrawn unstarted := by
    rw [List.findSome?_append, readied.undrawn (started ▸ unstarted), drawnId_between between]
    rfl
  resets := by
    simp only [resetIn_append, inTime_append, not_resetIn_between between,
      not_inTime_between between, or_false, started, seen]
    exact readied.resets

theorem afresh_touch : ∀ r w s, Afresh s → Afresh (env.touch r w s) :=
  fun r w s afresh => (bystanding.performedFreshStart r w s).trans afresh

omit bystanding in
theorem preparatory_registered (listed : List Synchronizer) :
    Preparatory fun s => listed <+: s.synchronizers := by
  constructor <;> intros <;> assumption

/-- A fresh start resets all that was registered in time. -/
theorem freshStart_readied {reason : FreshStartReason} {u : Session} (running : u.isSyncing = true)
    (undrawn : xs.findSome? Exchange.drawnId? = none)
    (registered : ∀ c, InTime p c xs → c ∈ u.synchronizers)
    (early : ∀ c, ResetIn c xs → InTime p c xs) (present : s.synchronizers <+: u.synchronizers)
    (taken : (freshStart p key reason).Takes env u before ys (.returned m t) after) :
    Readied p s m (xs ++ ys) t := by
  have refreshed := freshStart_returned taken
  obtain ⟨-, -, -, -, -, afresh⟩ := freshStart_wipes (afresh_touch bystanding) running taken
  have grown : u.synchronizers <+: t.synchronizers := by
    have kept : (freshStart p key reason).Keeps (fun v => u.synchronizers <+: v.synchronizers)
        fun _ => True :=
      (preparatory_registered u.synchronizers).keeps_freshStart (fun _ _ _ => trivial) reason
    exact (kept.takes List.prefix_rfl
      (fun r w v holds => holds.trans (bystanding.synchronizers r w v)) taken).2
  have inTime (c : Synchronizer) : InTime p c (xs ++ ys) ↔ c ∈ u.synchronizers := by
    rw [inTime_append, refreshed.inTime]
    exact ⟨fun either => either.elim (registered c) id, Or.inr⟩
  constructor
  case registered => exact fun c member => grown.subset ((inTime c).mp member)
  case present => exact fun c member => (inTime c).mpr (present.subset member)
  case active =>
    rw [activeId, List.findSome?_append, undrawn, Option.none_or, refreshed.drawn]
    rfl
  case undrawn => exact fun unstarted => absurd (unstarted.symm.trans afresh) Bool.false_ne_true
  case resets =>
    refine .inl fun c => ?_
    rw [inTime, resetIn_append, refreshed.reset]
    exact ⟨fun either => either.elim (fun reset => registered c (early c reset)) id, Or.inr⟩

omit bystanding in
theorem Readied.withKeyring {u : Session} (readied : Readied p s m xs u) (keyring : Keyring) :
    Readied p s m xs (u.withKeyring keyring) :=
  ⟨readied.registered, readied.present, readied.active, readied.undrawn, readied.resets⟩

omit bystanding in
theorem Readied.early {u : Session} (readied : Readied p s m xs u) (reset : ResetIn c xs) :
    InTime p c xs := by
  rcases readied.resets with same | ⟨unreset, -⟩
  · exact (same c).mp reset
  · exact absurd reset (unreset c)

/-- Refreshing the keys of the epoch of a fresh start makes no difference to what is reset. -/
theorem renewal_readied {u : Session} (readied : Readied p s m xs u) {m' : GlobalMetadata}
    (taken : (do
      enter .keyRefresh
      bindKeys index m
      refreshKeys p
      return m : Program Session GlobalMetadata).Takes env u before ys (.returned m' t) after) :
    Readied p s m' (xs ++ ys) t := by
  rw [takes_keyBound_bind, Program.takes_bind_returned] at taken
  obtain ⟨_, _, _, refreshes, _, refreshing, returning, rfl⟩ := taken
  obtain ⟨rfl, same, -⟩ := Program.takes_pure.mp returning
  cases same
  let kind (v : Session) : Prop := u.synchronizers <+: v.synchronizers ∧
    v.performedFreshStart = u.performedFreshStart ∧ v.sawNewEpoch = u.sawNewEpoch
  have kept : (refreshKeys p).Keeps kind fun r => r.isMilestone = false :=
    keeps_onKeyring (Keyring.keeps_refresh (by rfl)) fun _ _ holds => holds
  have others (r : Request) (w : ω) (v : Session) (holds : kind v) : kind (env.touch r w v) :=
    ⟨holds.1.trans (bystanding.synchronizers r w v),
      (bystanding.performedFreshStart r w v).trans holds.2.1,
      (bystanding.sawNewEpoch r w v).trans holds.2.2⟩
  have bound : kind (u.keyBound index m) :=
    ⟨List.prefix_rfl, performedFreshStart_entering u .keyRefresh, sawNewEpoch_entering u .keyRefresh⟩
  obtain ⟨exchanged, grown, started, seen⟩ := kept.takes bound others refreshing
  rw [List.append_nil]
  exact readied.append_between (fun y member => (exchanged y member).2.1) grown started seen

/-- Securing the keys makes no difference to what is reset, unless it takes a fresh start. -/
theorem secureKeys_readied {u : Session} (usable : p.sealingKey = .ok key)
    (running : u.isSyncing = true) (present : s.synchronizers <+: u.synchronizers)
    (readied : Readied p s m xs u) {m' : GlobalMetadata}
    (taken : (secureKeys p key index m).Takes env u before ys (.returned m' t) after) :
    Readied p s m' (xs ++ ys) t := by
  have started := performedFreshStart_entering u .keyRefresh
  have seen := sawNewEpoch_entering u .keyRefresh
  let x := env.exchange (bundleRequest p.limit) (u.keyBound index m) before
  let v := env.touch (bundleRequest p.limit) before (u.keyBound index m)
  have between : ∀ y ∈ [x], y.request.isMilestone = false := List.forall_mem_singleton.mpr rfl
  have grown : u.synchronizers <+: v.synchronizers :=
    bystanding.synchronizers _ _ (u.keyBound index m)
  have fetched : Readied p s m (xs ++ [x]) v :=
    readied.append_between between grown ((bystanding.performedFreshStart ..).trans started)
      ((bystanding.sawNewEpoch ..).trans seen)
  generalize ended : Ending.returned m' t = ending at taken
  cases secured_of_takes usable taken with
  | cached bundle held =>
      cases ended
      exact readied.append_between (by simp) List.prefix_rfl started seen
  | fetched w bundle fetching absent opened =>
      subst fetching
      cases ended
      exact fetched.withKeyring _
  | renewed w e rest ending after fetching absent failed unusable unmade renewing =>
      subst fetching ended
      rw [renewKeys, Program.takes_bind_returned] at renewing
      obtain ⟨m'', _, _, fresh, _, renewing, refreshing, rfl⟩ := renewing
      have running : v.isSyncing = true :=
        (bystanding.isSyncing ..).trans ((isSyncing_keyBound u index m).trans running)
      have renewed := freshStart_readied bystanding running (fetched.undrawn unmade)
        fetched.registered (fun c => fetched.early) (present.trans grown) renewing
      have done := renewal_readied bystanding renewed refreshing
      simpa [x] using done
  | refused w e fetching absent failed passed => cases ended

/-- Where another epoch is found, all that was registered by then is reset. -/
theorem resets_readied {u : Session} (read : Read p s (.current m) xs u)
    (taken : (resetForEpoch u.synchronizers).Takes env u.forgetting before ys (.returned () t)
      after) : Readied p s m (xs ++ ys) t := by
  obtain ⟨named, inTime⟩ := read.found m rfl
  have kept : (resetForEpoch u.synchronizers).Keeps (fun v => u.synchronizers <+: v.synchronizers)
      fun r => ∃ c, r = .resetClient c := keeps_resetForEpoch (fun c => ⟨c, rfl⟩) _
  have listed : u.synchronizers <+: u.forgetting.synchronizers := List.prefix_rfl
  obtain ⟨exchanged, grown⟩ := kept.takes listed
    (fun r w v holds => holds.trans (bystanding.synchronizers r w v)) taken
  have resetting : ∀ y ∈ ys, ∃ c, y.request = .resetClient c :=
    fun y member => (exchanged y member).2.1
  have untimed (c : Synchronizer) : ¬InTime p c ys := by
    rintro ⟨y, member, ⟨request | request, -⟩ | ⟨request, -⟩⟩
    all_goals
      obtain ⟨d, same⟩ := resetting y member
      cases request.symm.trans same
  have undrawn : ys.findSome? Exchange.drawnId? = none := by
    rw [List.findSome?_eq_none_iff]
    intro y member
    obtain ⟨d, same⟩ := resetting y member
    unfold Exchange.drawnId?
    split
    · cases same
    · rfl
  have settled (c : Synchronizer) : InTime p c (xs ++ ys) ↔ c ∈ u.synchronizers := by
    rw [inTime_append]
    exact ⟨fun either => read.registered c (either.resolve_right (untimed c)),
      fun member => .inl (inTime c member)⟩
  constructor
  case registered => exact fun c member => grown.subset ((settled c).mp member)
  case present => exact fun c member => (settled c).mpr (read.synchronizers.subset member)
  case active =>
    rw [activeId, List.findSome?_append, List.findSome?_append, read.undrawn, undrawn, named]
    rfl
  case undrawn =>
    intro _
    rw [List.findSome?_append, read.undrawn, undrawn]
    rfl
  case resets =>
    refine .inl fun c => ?_
    rw [settled, resetIn_append, resetForEpoch_returned taken]
    exact ⟨fun either => either.resolve_left (read.unreset c), Or.inr⟩

/-- Once the epoch is settled all that was registered in time is reset, or it is the known epoch. -/
theorem settleEpoch_readied {u : Session} {evaluated : Evaluated} (read : Read p s evaluated xs u)
    (taken : (settleEpoch p key evaluated).Takes env u before ys (.returned m t) after) :
    Readied p s m (xs ++ ys) t := by
  cases evaluated with
  | diverged reason =>
      exact freshStart_readied bystanding read.running read.undrawn read.registered
        (fun c reset => absurd reset (read.unreset c)) read.synchronizers taken
  | current m' =>
      obtain ⟨_, _, _, resets, _, observing, returning, rfl⟩ := Program.takes_bind_returned.mp taken
      obtain ⟨rfl, same, -⟩ := Program.takes_pure.mp returning
      cases same
      rw [List.append_nil]
      rw [takes_observeEpoch] at observing
      split at observing
      · exact resets_readied bystanding read observing
      · rename_i unchanged
        obtain ⟨rfl, same, -⟩ := observing
        cases same
        obtain ⟨named, inTime⟩ := read.found m rfl
        have known : s.book.localState.lastSyncId = some m.syncId := by
          rw [← read.localState]
          simpa [GlobalMetadata.epochChanged] using unchanged
        rw [List.append_nil]
        constructor
        case registered => exact read.registered
        case present => exact fun c member => inTime c (read.synchronizers.subset member)
        case active => rw [activeId, read.undrawn, named]; rfl
        case undrawn => exact fun _ => read.undrawn
        case resets => exact .inr ⟨read.unreset, known, read.unstarted, read.unchanged⟩

/-- A cycle that has prepared its keys is ready to hand them out. -/
theorem prepare_readied {found : CollectionIndex × GlobalMetadata}
    (taken : (prepare p).Takes env s.starting before xs (.returned found t) after) :
    Readied p s found.2 xs t := by
  obtain ⟨reads, rest, evaluated, key, index, u, world, rfl, read, usable, securing⟩ :=
    prepare_read bystanding taken
  obtain ⟨m, v, _, settling, _, settled, checking, rfl⟩ := Program.takes_bind_returned.mp securing
  have checked := checkpoint_bind_returned checking
  rw [Program.takes_bind_returned] at checked
  obtain ⟨m', _, _, keys, _, secured, returning, rfl⟩ := checked
  obtain ⟨rfl, same, -⟩ := Program.takes_pure.mp returning
  cases same
  let kind (w : Session) : Prop := w.isSyncing = true ∧ s.synchronizers <+: w.synchronizers
  have preparatory : Preparatory kind := by
    constructor
    case keyring => exact fun _ _ holds => holds
    case records => exact fun _ holds => holds
    case report => exact fun u f _ holds => ⟨(isSyncing_withReport u).trans holds.1, holds.2⟩
    case entering => exact fun u state _ holds => ⟨(isSyncing_entering u state).trans holds.1, holds.2⟩
    case counting => exact fun _ _ holds => holds
    case keyed => exact fun _ holds => holds
  have others (r : Request) (w : ω) (v : Session) (holds : kind v) : kind (env.touch r w v) :=
    ⟨(bystanding.isSyncing r w v).trans holds.1, holds.2.trans (bystanding.synchronizers r w v)⟩
  obtain ⟨running, present⟩ := ((preparatory.keeps_settleEpoch (fun _ _ _ => trivial) evaluated).takes
    ⟨read.running, read.synchronizers⟩ others settled).2
  have readied := secureKeys_readied bystanding usable running present
    (settleEpoch_readied bystanding read settled) secured
  simpa using readied

/-- Handing out keys passes no milestone, and tells nothing new of the epoch. -/
theorem conclude_between {ending : Ending Session Unit}
    (taken : (conclude p index m).Takes env t before xs ending after) :
    ∀ x ∈ xs, x.request.isMilestone = false ∧
      x.asked.performedFreshStart = t.performedFreshStart ∧ x.asked.sawNewEpoch = t.sawNewEpoch := by
  let kind (u : Session) : Prop :=
    u.performedFreshStart = t.performedFreshStart ∧ u.sawNewEpoch = t.sawNewEpoch
  have kept : (conclude p index m).Keeps kind fun r => r.isMilestone = false := by
    apply keeps_conclude
    case keys => exact fun name => keeps_onKeyring (Keyring.keeps_keyFor (by rfl) name) fun _ _ h => h
    case permitted =>
      intro r closing
      cases r <;> first | rfl | cases closing
    case reporting =>
      intro u f kept holds
      exact ⟨(performedFreshStart_withReport u fun r => (kept r).1).trans holds.1,
        (sawNewEpoch_withReport (fun r => (kept r).2.2) u).trans holds.2⟩
    case entering =>
      exact fun u holds => ⟨(performedFreshStart_entering u _).trans holds.1,
        (sawNewEpoch_entering u _).trans holds.2⟩
    case committing => exact fun _ _ holds => holds
  have others (r : Request) (w : ω) (u : Session) (holds : kind u) : kind (env.touch r w u) :=
    ⟨(bystanding.performedFreshStart r w u).trans holds.1,
      (bystanding.sawNewEpoch r w u).trans holds.2⟩
  have begun : kind t := ⟨rfl, rfl⟩
  intro x member
  obtain ⟨flags, passed, -⟩ := (kept.takes begun others taken).1 x member
  exact ⟨passed, flags⟩

/-! ## The cycle, cut where it hands out keys -/

/-- A session in a cycle that has not come to hand out keys. It has the records with which the cycle
began, or none. -/
structure Preparing (s u : Session) : Prop where
  early : u.state ≠ .delegating
  localState : u.book.localState = s.book.localState ∨ u.book.localState = .empty
  running : u.isSyncing = true
  synchronizers : s.synchronizers <+: u.synchronizers

omit bystanding in
theorem state_withReport {f : CycleReport → CycleReport} (kept : ∀ r, (f r).states = r.states)
    (s : Session) : (s.withReport f).state = s.state := by
  unfold state withReport CycleReport.state
  cases s.cycle with
  | none => rfl
  | some r => exact congrArg (·.getLastD .start) (kept r)

omit bystanding in
theorem state_entering (running : s.isSyncing = true) (state : CycleState) :
    (s.entering state).state = state := by
  obtain ⟨r, running⟩ := Option.isSome_iff_exists.mp running
  simp [Session.state, entering, withReport, running, CycleReport.state, CycleReport.enter]

omit bystanding in
theorem preparatory_preparing (s : Session) : Preparatory (Preparing s) := by
  constructor
  case keyring => exact fun _ _ holds => { holds with }
  case records => exact fun _ holds => { holds with localState := .inr rfl }
  case report =>
    intro u f kept holds
    exact { holds with
      early := by rw [state_withReport fun r => (kept r).1]; exact holds.early
      running := (isSyncing_withReport u).trans holds.running }
  case entering =>
    intro u state early holds
    exact { holds with
      early := by rw [state_entering holds.running]; exact early
      running := (isSyncing_entering u state).trans holds.running }
  case counting => exact fun _ _ holds => { holds with }
  case keyed => exact fun _ holds => { holds with }

theorem preparing_touch (r : Request) (w : ω) (u : Session) (holds : Preparing s u) :
    Preparing s (env.touch r w u) where
  early := by
    rw [bystanding.state]
    exact holds.early
  localState := by
    rw [bystanding.localState]
    exact holds.localState
  running := (bystanding.isSyncing r w u).trans holds.running
  synchronizers := holds.synchronizers.trans (bystanding.synchronizers r w u)

omit bystanding in
theorem preparing_starting (s : Session) : Preparing s s.starting where
  early := nofun
  localState := .inl rfl
  running := rfl
  synchronizers := List.prefix_rfl

/-- Up to where keys are handed out a cycle is preparing, and asks nothing that comes later. -/
theorem prepare_preparing {ending : Ending Session (CollectionIndex × GlobalMetadata)}
    (taken : (prepare p).Takes env s.starting before xs ending after) :
    (∀ x ∈ xs, Preparing s x.asked ∧ x.request.isLate = false) ∧ Preparing s ending.state := by
  have kept : (prepare p).Keeps (Preparing s) fun r => r.isLate = false :=
    (preparatory_preparing s).keeps_prepare fun _ h => h
  obtain ⟨exchanged, last⟩ := kept.takes (preparing_starting s) (preparing_touch bystanding) taken
  exact ⟨fun x member => ⟨(exchanged x member).1, (exchanged x member).2.1⟩, last⟩

/-- How a cycle goes: it stops before it hands out keys, or it is ready to and concludes. -/
inductive Cut (env : Environment ω Session) (p : Profile) (s : Session) (after : ω) :
    List (Exchange Session) → Ending Session CycleReport → Prop where
  | stopped (exchanges : List (Exchange Session)) (e : SyncError) (u : Session)
      (early : ∀ x ∈ exchanges, Preparing s x.asked ∧ x.request.isSynchronize = false)
      (preparing : Preparing s u) : Cut env p s after exchanges (.failed e u.resting)
  | handed (head tail : List (Exchange Session)) (index : CollectionIndex) (m : GlobalMetadata)
      (t : Session) (world : ω) (inner : Ending Session Unit)
      (early : ∀ x ∈ head, Preparing s x.asked ∧ x.request.isSynchronize = false)
      (preparing : Preparing s t) (readied : Readied p s m head t)
      (concluding : (conclude p index m).Takes env t world tail inner after) :
      Cut env p s after (head ++ tail) (closed inner)

theorem sync_cut (idle : s.isSyncing = false) {ending : Ending Session CycleReport}
    (taken : (sync p).Takes env s before xs ending after) : Cut env p s after xs ending := by
  obtain ⟨inner, run, rfl⟩ := (takes_sync idle).mp taken
  rw [runCycle_eq_prepare] at run
  obtain ⟨prepared, world, head, tail, preparing, rfl, concluding⟩ := run.split
  obtain ⟨exchanged, last⟩ := prepare_preparing bystanding preparing
  have early : ∀ x ∈ head, Preparing s x.asked ∧ x.request.isSynchronize = false :=
    fun x member => (exchanged x member).imp_right Request.isSynchronize_eq_false_of_not_isLate
  cases prepared with
  | failed e u =>
      obtain ⟨rfl, rfl, rfl⟩ := concluding
      rw [List.append_nil]
      exact .stopped head e u early last
  | returned found t =>
      exact .handed head tail found.1 found.2 t world inner early last
        (prepare_readied bystanding preparing) concluding

end Stages

/-- What does not stand in the first part stands in the second. -/
theorem split_later {before rest head tail : List (Exchange Session)} {x : Exchange Session}
    (same : before ++ x :: rest = head ++ tail) (late : x ∉ head) :
    ∃ middle, before = head ++ middle ∧ tail = middle ++ x :: rest := by
  rcases List.append_eq_append_iff.mp same with ⟨middle, rfl, later⟩ | ⟨middle, rfl, later⟩
  · cases middle with
    | nil => exact ⟨[], by simp, by simpa using later.symm⟩
    | cons y middle =>
        obtain ⟨rfl, -⟩ := List.cons.inj later
        exact absurd (by simp) late
  · exact ⟨middle, rfl, later⟩

end Session

end SealedSync
