import SealedSync.Proofs.FatalReplies
import SealedSync.Proofs.ResetDuty
import SealedSync.Proofs.ServerWrites

/-!
# The states a cycle visits

A cycle that returns has gone through its states in one of three ways: without a fresh start, with one
instead of an epoch, or with one for want of keys. Whatever the server answers it begins at most one, and
the session counts it before the wipe is sent.
-/
namespace SealedSync

variable {ω α : Type}

/-- How many of the exchanges ask for a wipe. -/
def wipesIn {σ : Type} (exchanges : List (Exchange σ)) : Nat :=
  exchanges.countP (·.request.isWipe)

/-- The request stores a certain record. -/
def Request.puts (collection id : String) : Request → Bool
  | .remote _ (.store name record) => name == collection && record.id == id
  | _ => false

theorem Request.isWrite_of_puts {collection id : String} {r : Request}
    (puts : r.puts collection id = true) : r.isWrite = true := by
  cases r with
  | remote limit call =>
      cases call with
      | store name record => rfl
      | _ => cases puts
  | _ => cases puts

/-- How many of the exchanges ask to store a certain record. -/
def putsIn {σ : Type} (collection id : String) (exchanges : List (Exchange σ)) : Nat :=
  exchanges.countP (·.request.puts collection id)

namespace Session

open RemoteState FreshStart Program

/-- While a session waits, others may ask it to stop, register synchronizers and ask its keyring for keys,
but the report, the count of fresh starts and a bundle that is held are left alone. -/
structure Onlooking (env : Environment ω Session) : Prop where
  cycle : ∀ r w s, (env.touch r w s).cycle = s.cycle
  freshStarts : ∀ r w s, (env.touch r w s).freshStarts = s.freshStarts
  keys : LeavesKeys env

theorem OnlyCancels.onlooking {env : Environment ω Session} (polite : OnlyCancels env) :
    Onlooking env where
  cycle r w s := by
    rcases polite r w s with same | same <;> rw [same]
    rfl
  freshStarts r w s := by
    rcases polite r w s with same | same <;> rw [same]
    rfl
  keys := polite.leavesKeys

/-! ## Where a cycle is -/

/-- A cycle has visited some states, it has begun a fresh start or not, and it has made some requests to
write. The count of fresh starts was `held` before it. -/
structure Along (held : Nat) (visited : List CycleState) (afresh : Bool) (writes : List Request)
    (world : ω × List (Exchange Session)) (s : Session) : Prop where
  states : s.cycle.map (·.states) = some visited
  begun : s.performedFreshStart = afresh
  counted : s.freshStarts = held + afresh.toNat
  requests : (serverWrites world.2).map (·.request) = writes

/-- The writes of a fresh start, as far as it has come. -/
def Commenced (p : Profile) (writes : List Request) : Prop :=
  ∃ keys metadata, keys.id = keysRecordId ∧ metadata.id = globalRecordId ∧
    writes <+: foundingRequests p.limit keys metadata

/-- The count is right while a request is on its way, a wipe included, and who has wiped the server has
it on record. -/
def Counted (held : Nat) : Asking (ω × List (Exchange Session)) Session := fun world s r =>
  s.freshStarts = held + wipesIn world.2 + r.isWipe.toNat ∧
    (0 < wipesIn world.2 → s.performedFreshStart = true)

/-- What is true of a cycle wherever it ends. -/
structure Tallied (p : Profile) (held : Nat) (world : ω × List (Exchange Session)) (s : Session) :
    Prop where
  counted : s.freshStarts = held + wipesIn world.2
  commenced : Commenced p ((serverWrites world.2).map (·.request))

theorem wipesIn_append {σ : Type} (xs ys : List (Exchange σ)) :
    wipesIn (xs ++ ys) = wipesIn xs + wipesIn ys :=
  List.countP_append ..

theorem wipesIn_single {σ : Type} (x : Exchange σ) : wipesIn [x] = x.request.isWipe.toNat := by
  unfold wipesIn
  rw [List.countP_singleton]
  cases x.request.isWipe <;> rfl

/-- Writes of any kind are counted among the writes. -/
theorem countP_serverWrites {kind : Request → Bool} (writes : ∀ r, kind r = true → r.isWrite = true)
    (xs : List (Exchange Session)) :
    xs.countP (fun x => kind x.request) = ((serverWrites xs).map (·.request)).countP kind := by
  unfold serverWrites
  rw [List.countP_map, List.countP_filter]
  refine List.countP_congr fun x _ => ?_
  simp only [Function.comp_apply, Bool.and_eq_true]
  exact ⟨fun counts => ⟨counts, writes x.request counts⟩, And.left⟩

theorem wipesIn_eq (xs : List (Exchange Session)) :
    wipesIn xs = ((serverWrites xs).map (·.request)).countP Request.isWipe :=
  countP_serverWrites (fun _ => Request.isWrite_of_isWipe) xs

section Assertions

variable {held : Nat} {visited : List CycleState} {afresh : Bool} {writes : List Request} {p : Profile}
  {world : ω × List (Exchange Session)} {s t : Session}

theorem Along.wipes (along : Along held visited afresh writes world s) :
    wipesIn world.2 = writes.countP Request.isWipe := by
  rw [wipesIn_eq, along.requests]

/-- What a session says of its cycle is all that counts. -/
theorem Along.of_session (along : Along held visited afresh writes world s) (cycle : t.cycle = s.cycle)
    (freshStarts : t.freshStarts = s.freshStarts) : Along held visited afresh writes world t where
  states := by rw [cycle, along.states]
  begun := by rw [← along.begun, performedFreshStart, cycle, performedFreshStart]
  counted := freshStarts.trans along.counted
  requests := along.requests

theorem Along.withReport {f : CycleReport → CycleReport}
    (along : Along held visited afresh writes world s)
    (kept : ∀ r, (f r).freshStart = r.freshStart ∧ (f r).states = r.states) :
    Along held visited afresh writes world (s.withReport f) where
  states := by
    rw [← along.states]
    show (s.cycle.map f).map (·.states) = _
    rw [Option.map_map]
    exact congrArg (Option.map · s.cycle) (funext fun r => (kept r).2)
  begun := (performedFreshStart_withReport s fun r => (kept r).1).trans along.begun
  counted := along.counted
  requests := along.requests

theorem Along.entering (along : Along held visited afresh writes world s) (state : CycleState) :
    Along held (visited ++ [state]) afresh writes world (s.entering state) where
  states := by
    obtain ⟨r, running, same⟩ := Option.map_eq_some_iff.mp along.states
    show (s.cycle.map (·.enter state)).map (·.states) = _
    rw [running, ← same]
    rfl
  begun := (performedFreshStart_entering s state).trans along.begun
  counted := along.counted
  requests := along.requests

theorem Along.forgetting (along : Along held visited afresh writes world s) :
    Along held visited afresh writes world s.forgetting :=
  (along.withReport (f := fun r => { r with epochChanged := true }) fun _ => ⟨rfl, rfl⟩).of_session rfl rfl

theorem Along.startingAfresh (along : Along held visited false writes world s)
    (reason : FreshStartReason) :
    Along held (visited ++ [CycleState.freshStart]) true writes world (s.startingAfresh reason) where
  states := by
    obtain ⟨r, running, same⟩ := Option.map_eq_some_iff.mp (along.entering .freshStart).states
    show ((s.entering .freshStart).cycle.map fun r => { r with freshStart := some reason }).map
      CycleReport.states = _
    rw [running, ← same]
    rfl
  begun := by
    obtain ⟨r, running, -⟩ := Option.map_eq_some_iff.mp along.states
    exact afresh_startingAfresh reason (by rw [isSyncing, running]; rfl)
  counted := congrArg (· + 1) along.counted
  requests := along.requests

/-- The writes that are made fit what the cycle has begun. -/
structure Fitting (p : Profile) (afresh : Bool) (writes : List Request) : Prop where
  commenced : Commenced p writes
  wiped : writes.countP Request.isWipe = afresh.toNat

theorem Along.tallied (along : Along held visited afresh writes world s)
    (fitting : Fitting p afresh writes) : Tallied p held world s where
  counted := by rw [along.counted, along.wipes, fitting.wiped]
  commenced := by
    rw [along.requests]
    exact fitting.commenced

theorem Along.asks (along : Along held visited afresh writes world s)
    (fitting : Fitting p afresh writes) {r : Request} (other : r.isWipe = false) :
    Counted held world s r := by
  refine ⟨by rw [along.counted, along.wipes, fitting.wiped, other]; rfl, fun wiped => ?_⟩
  rw [along.wipes, fitting.wiped] at wiped
  rw [along.begun]
  cases afresh with
  | false => cases wiped
  | true => rfl

theorem fitting_none : Fitting p false [] where
  commenced := ⟨.ofPayload keysRecordId "", .ofPayload globalRecordId "", rfl, rfl, List.nil_prefix⟩
  wiped := rfl

theorem fitting_wiped : Fitting p true [wipeRequest p.limit] where
  commenced := ⟨.ofPayload keysRecordId "", .ofPayload globalRecordId "", rfl, rfl, _, rfl⟩
  wiped := rfl

theorem fitting_keys {keys : RemoteRecord} (named : keys.id = keysRecordId) :
    Fitting p true [wipeRequest p.limit, storeRequest p.limit cryptoCollection keys] where
  commenced := ⟨keys, .ofPayload globalRecordId "", named, rfl, _, rfl⟩
  wiped := rfl

theorem fitting_founded {keys metadata : RemoteRecord} (named : keys.id = keysRecordId)
    (titled : metadata.id = globalRecordId) :
    Fitting p true (foundingRequests p.limit keys metadata) where
  commenced := ⟨keys, metadata, named, titled, List.prefix_rfl⟩
  wiped := rfl

end Assertions

/-- A cycle that has made a fresh start has wiped the server once and has put keys and metadata there. -/
def Anew (p : Profile) (held : Nat) (visited : List CycleState)
    (world : ω × List (Exchange Session)) (s : Session) : Prop :=
  ∃ keys metadata, keys.id = keysRecordId ∧ metadata.id = globalRecordId ∧
    Along held visited true (foundingRequests p.limit keys metadata) world s

theorem Anew.located {p : Profile} {held : Nat} {visited : List CycleState}
    {world : ω × List (Exchange Session)} {s : Session} (anew : Anew p held visited world s) :
    ∃ visited afresh writes, Fitting p afresh writes ∧ Along held visited afresh writes world s := by
  obtain ⟨keys, metadata, named, titled, along⟩ := anew
  exact ⟨visited, true, _, fitting_founded named titled, along⟩

theorem Anew.of_session {p : Profile} {held : Nat} {visited : List CycleState}
    {world : ω × List (Exchange Session)} {s t : Session} (anew : Anew p held visited world s)
    (cycle : t.cycle = s.cycle) (freshStarts : t.freshStarts = s.freshStarts) :
    Anew p held visited world t := by
  obtain ⟨keys, metadata, named, titled, along⟩ := anew
  exact ⟨keys, metadata, named, titled, along.of_session cycle freshStarts⟩

section Steps

variable {env : Environment ω Session} (onlooking : Onlooking env) {held : Nat}
  {visited : List CycleState} {afresh : Bool} {writes : List Request} {p : Profile} {key : Key}

include onlooking

theorem stable_along : Stable (env.answering.only fun r => r.isWrite = false)
    (Along held visited afresh writes) := by
  rintro r world s reply later resumed along ⟨other, -, rfl, rfl⟩
  have same : serverWrites (world.2 ++ [env.exchange r s world.1]) = serverWrites world.2 := by
    rw [serverWrites_append, serverWrites_other other, List.append_nil]
  have kept := along.of_session (onlooking.cycle r world.1 s) (onlooking.freshStarts r world.1 s)
  exact { kept with requests := by rw [same]; exact kept.requests }

theorem stable_anew : Stable (env.answering.only fun r => r.isWrite = false) (Anew p held visited) := by
  rintro r world s reply later resumed ⟨keys, metadata, named, titled, along⟩ answered
  exact ⟨keys, metadata, named, titled,
    stable_along onlooking r world s reply later resumed along answered⟩

omit onlooking in
/-- What asks for no write leaves the cycle where it is, also if it fails. -/
theorem assures_passing {inv : ω × List (Exchange Session) → Session → Prop}
    (located : ∀ world s, inv world s → ∃ visited afresh writes, Fitting p afresh writes ∧
      Along held visited afresh writes world s) {program : Program Session α}
    (sustains : program.Sustains (env.answering.only fun r => r.isWrite = false)
      (fun r => r.isWrite = false) inv) :
    program.Assures env.answering (Counted held) inv (fun _ => inv) inv := by
  refine (Assures.unrestricted sustains fun _ _ _ asked => asked.2).conseq ?_ (fun _ _ holds => holds)
    (fun _ _ _ holds => holds) fun _ _ holds => holds
  rintro world s r ⟨holds, other⟩
  obtain ⟨visited, afresh, writes, fitting, along⟩ := located world s holds
  refine along.asks fitting (Bool.eq_false_iff.mpr fun wipe => ?_)
  cases other.symm.trans (Request.isWrite_of_isWipe wipe)

omit onlooking in
theorem assures_staying {inv : ω × List (Exchange Session) → Session → Prop}
    (located : ∀ world s, inv world s → ∃ visited afresh writes, Fitting p afresh writes ∧
      Along held visited afresh writes world s) {program : Program Session α}
    (sustains : program.Sustains (env.answering.only fun r => r.isWrite = false)
      (fun r => r.isWrite = false) inv) :
    program.Assures env.answering (Counted held) inv (fun _ => inv) (Tallied p held) := by
  refine (assures_passing located sustains).conseq (fun _ _ _ asked => asked) (fun _ _ holds => holds)
    (fun _ _ _ holds => holds) ?_
  intro world s holds
  obtain ⟨visited, afresh, writes, fitting, along⟩ := located world s holds
  exact along.tallied fitting

omit onlooking in
theorem assures_along (fitting : Fitting p afresh writes) {program : Program Session α}
    (sustains : program.Sustains (env.answering.only fun r => r.isWrite = false)
      (fun r => r.isWrite = false) (Along held visited afresh writes)) :
    program.Assures env.answering (Counted held) (Along held visited afresh writes)
      (fun _ => Along held visited afresh writes) (Tallied p held) :=
  assures_staying (fun _ _ along => ⟨visited, afresh, writes, fitting, along⟩) sustains

omit onlooking in
theorem assures_enter (state : CycleState) :
    (enter state).Assures env.answering (Counted held) (Along held visited afresh writes)
      (fun _ => Along held (visited ++ [state]) afresh writes) (Tallied p held) :=
  fun _ _ along => along.entering state

/-- A write is added to what was written, whatever it is answered. -/
theorem Along.writing {world : ω × List (Exchange Session)} {s : Session} {r : Request}
    (along : Along held visited afresh writes world s) (write : r.isWrite = true) :
    Along held visited afresh (writes ++ [r])
      (env.next r world.1, world.2 ++ [env.exchange r s world.1]) (env.touch r world.1 s) := by
  have kept := along.of_session (onlooking.cycle r world.1 s) (onlooking.freshStarts r world.1 s)
  refine { kept with requests := ?_ }
  rw [serverWrites_append, serverWrites_single write, List.map_append, along.requests]
  rfl

theorem assures_put {r : RecoveryStep} {limit : Duration} {operation collection : String}
    {record : RemoteRecord} (fitting : Fitting p true writes)
    (fits : Fitting p true (writes ++ [storeRequest limit collection record])) :
    (step r (publish limit operation collection record)).Assures env.answering (Counted held)
      (Along held visited true writes)
      (fun _ => Along held visited true (writes ++ [storeRequest limit collection record]))
      (Tallied p held) := by
  rw [step_publish_eq]
  have storing : (Program.request (storeRequest limit collection record) :
      Program Session _).Assures env.answering (Counted held) (Along held visited true writes)
      (fun _ => Along held visited true (writes ++ [storeRequest limit collection record]))
      (Tallied p held) := by
    refine .request (fun world s along => along.asks fitting rfl) ?_
    rintro world s reply later resumed along ⟨rfl, rfl, rfl⟩
    exact along.writing onlooking rfl
  refine .bind storing fun reply => ?_
  cases outcome limit operation reply with
  | ok modified => exact fun _ _ along => along
  | error e => exact .note_bind (.fail fun _ _ along => along.tallied fits)

/-- A new epoch is published by a put of the keys and then one of the metadata. -/
theorem assures_publishing :
    (publishAnew (.ofConfig p.config) key).Assures env.answering (Counted held)
      (Along held visited true [wipeRequest p.limit])
      (fun _ => Anew p held visited) (Tallied p held) := by
  have stable (writes : List Request) : Stable (env.answering.only fun r => r.isWrite = false)
      (Along held visited true writes) := stable_along onlooking
  have drawing : (fun r : Request => r.isWrite = false) (.random .engineId) := rfl
  have engines (writes : List Request) : (generateEngines .empty p.config.collections).Sustains
      (env.answering.only fun r => r.isWrite = false) (fun r => r.isWrite = false)
      (Along held visited true writes) :=
    (assures_generateEngines (stable writes) drawing _ _).conseq (fun _ _ _ asked => asked)
      (fun _ _ along => along) (fun _ _ _ generated => generated.1) fun _ _ along => along
  refine .bind (assures_along fitting_wiped (sustains_generateId (stable _) rfl)) fun syncId => ?_
  refine .note_bind (.bind (assures_along fitting_wiped ?_) fun bundle => ?_)
  · exact .bind (.request rfl (stable _)) fun _ => .bind (.note _) fun _ => .pure _
  let keys (nonce : Nonce) : RemoteRecord := .ofPayload keysRecordId (bundle.toPayload key nonce)
  have putting : (publishKeys (.ofConfig p.config) key bundle).Assures env.answering (Counted held)
      (Along held visited true [wipeRequest p.limit])
      (fun _ world s => ∃ nonce, Along held visited true
        [wipeRequest p.limit, storeRequest p.limit cryptoCollection (keys nonce)] world s)
      (Tallied p held) := by
    refine .bind (assures_along fitting_wiped (.request rfl (stable _))) fun nonce => ?_
    exact (assures_put onlooking fitting_wiped (fitting_keys rfl)).conseq (fun _ _ _ asked => asked)
      (fun _ _ along => along) (fun _ _ _ along => ⟨nonce, along⟩) fun _ _ tallied => tallied
  refine .bind putting fun _ => ?_
  rintro world s ⟨nonce, along⟩
  refine Assures.bind (assures_along (fitting_keys rfl) (engines _)) (fun found => ?_) world s along
  refine .bind (assures_put onlooking (fitting_keys rfl) (fitting_founded rfl rfl)) fun _ => ?_
  exact .pure fun _ _ along => ⟨keys nonce, _, rfl, rfl, along⟩

/-- A fresh start that returns has been visited, and it has made its writes. -/
theorem assures_freshly (reason : FreshStartReason) :
    (freshStart p key reason).Assures env.answering (Counted held) (Along held visited false [])
      (fun _ => Anew p held (visited ++ [CycleState.freshStart])) (Tallied p held) := by
  have stable : Stable (env.answering.only fun r => r.isWrite = false)
      (Anew p held (visited ++ [CycleState.freshStart])) := stable_anew onlooking
  have wiping : (Program.request (wipeRequest p.limit) : Program Session _).Assures env.answering
      (Counted held) (Along held (visited ++ [CycleState.freshStart]) true [])
      (fun _ => Along held (visited ++ [CycleState.freshStart]) true [wipeRequest p.limit])
      (Tallied p held) := by
    refine .request ?_ ?_
    · intro world s along
      exact ⟨by rw [along.wipes]; exact along.counted, fun _ => along.begun⟩
    · rintro world s reply later resumed along ⟨rfl, rfl, rfl⟩
      exact along.writing onlooking rfl
  have republishing (synchronizers : List Synchronizer) :
      (onBook (republish (.ofConfig p.config) key synchronizers)).Assures env.answering (Counted held)
        (Along held (visited ++ [CycleState.freshStart]) true [wipeRequest p.limit])
        (fun _ => Anew p held (visited ++ [CycleState.freshStart])) (Tallied p held) := by
    have resetting : (resetAll synchronizers).Assures env.answering (Counted held)
        (Anew p held (visited ++ [CycleState.freshStart]))
        (fun _ => Anew p held (visited ++ [CycleState.freshStart]))
        (Tallied p held) :=
      assures_staying (fun _ _ => Anew.located) (sustains_resetAll stable (fun _ => rfl) _)
    have saving (failures : List String) : (saveReset p.config.statePath failures).Assures
        env.answering (Counted held) (Anew p held (visited ++ [CycleState.freshStart]))
        (fun _ => Anew p held (visited ++ [CycleState.freshStart])) (Tallied p held) :=
      assures_staying (fun _ _ => Anew.located) (sustains_saveReset stable
        (fun _ => Request.isWrite_eq_false_of_isFileWrite) _ failures)
    exact assures_republish_of (assures_publishing onlooking) (fun _ _ anew => anew.of_session rfl rfl)
      resetting (fun _ _ anew => anew.of_session rfl rfl) saving
  exact assures_freshStart_of (fun _ _ along => along.startingAfresh reason) wiping
    (fun _ _ _ _ _ along => along.tallied fitting_wiped) fun _ _ => republishing

end Steps

/-! ## The walk -/

/-- A place in a cycle: what the cycle has visited and written stays as it is as long as nothing is
written, no state is entered and no fresh start is begun. -/
structure Place (env : Environment ω Session) (p : Profile) (held : Nat)
    (inv : ω × List (Exchange Session) → Session → Prop) : Prop where
  located : ∀ world s, inv world s → ∃ visited afresh writes, Fitting p afresh writes ∧
    Along held visited afresh writes world s
  stable : Stable (env.answering.only fun r => r.isWrite = false) inv
  session : ∀ world s t, t.cycle = s.cycle → t.freshStarts = s.freshStarts → inv world s → inv world t
  report : ∀ world s f, (∀ r, (f r).freshStart = r.freshStart ∧ (f r).states = r.states) →
    inv world s → inv world (s.withReport f)

section Places

variable {env : Environment ω Session} (onlooking : Onlooking env) {p : Profile} {held : Nat}
  {visited : List CycleState} {afresh : Bool} {writes : List Request} {key : Key}
  {inv later : ω × List (Exchange Session) → Session → Prop}

include onlooking

theorem place_along (fitting : Fitting p afresh writes) :
    Place env p held (Along held visited afresh writes) where
  located _ _ along := ⟨visited, afresh, writes, fitting, along⟩
  stable := stable_along onlooking
  session _ _ _ cycle freshStarts along := along.of_session cycle freshStarts
  report _ _ _ kept along := along.withReport kept

theorem place_anew : Place env p held (Anew p held visited) where
  located _ _ anew := anew.located
  stable := stable_anew onlooking
  session _ _ _ cycle freshStarts anew := anew.of_session cycle freshStarts
  report := by
    rintro world s f kept ⟨keys, metadata, named, titled, along⟩
    exact ⟨keys, metadata, named, titled, along.withReport kept⟩

omit onlooking

namespace Place

variable (place : Place env p held inv)

include place

theorem staying {program : Program Session α}
    (sustains : program.Sustains (env.answering.only fun r => r.isWrite = false)
      (fun r => r.isWrite = false) inv) :
    program.Assures env.answering (Counted held) inv (fun _ => inv) (Tallied p held) :=
  assures_staying place.located sustains

theorem sustains_onKeyring {program : Program Keyring α}
    (kept : program.Keeps (fun _ => True) fun r => r.isWrite = false) :
    (onKeyring program).Sustains (env.answering.only fun r => r.isWrite = false)
      (fun r => r.isWrite = false) inv := by
  rw [onKeyring_eq_zoom]
  intro world s holds
  refine (kept s.book.keyring trivial).sustains_zoom place.stable ?_ holds
  exact fun world k s => place.session world s (s.withKeyring k) rfl rfl

theorem sustains_refreshKeys : (refreshKeys p).Sustains
    (env.answering.only fun r => r.isWrite = false) (fun r => r.isWrite = false) inv :=
  place.sustains_onKeyring (Keyring.keeps_refresh rfl)

theorem binding (index : CollectionIndex) (m : GlobalMetadata) :
    (bindKeys index m).Assures env.answering (Counted held) inv (fun _ => inv) (Tallied p held) := by
  refine place.staying (.bind sustains_report fun r => .bind ?_ fun _ => .pure _)
  refine place.sustains_onKeyring fun k _ => ?_
  rw [Keyring.bind_run]
  split
  · trivial
  · split <;> trivial

theorem checking : (checkpoint p).Assures env.answering (Counted held) inv (fun _ => inv)
    (Tallied p held) :=
  place.staying sustains_checkpoint

/-- Handing out keys enters one more state. -/
theorem concluding (next : Place env p held later)
    (entering : ∀ world s, inv world s → later world (s.entering .delegating))
    (index : CollectionIndex) (m : GlobalMetadata) :
    (conclude p index m).Assures env.answering (Counted held) inv (fun _ => later) (Tallied p held) := by
  have asking {inv : ω × List (Exchange Session) → Session → Prop} (place : Place env p held inv)
      (name : String) : (onKeyring (Keyring.keyFor p.keyAccess name)).Assures
        (env.answering.only fun r => r.isWrite = false) (fun world s r => inv world s ∧ r.isWrite = false)
        inv (fun _ world s => inv world s ∧ True) inv :=
    (place.sustains_onKeyring (Keyring.keeps_keyFor (by rfl) name)).returning
  have reporting (world : ω × List (Exchange Session)) (s : Session) (f : CycleReport → CycleReport)
      (kept : ∀ r, (f r).freshStart = r.freshStart ∧ (f r).states = r.states ∧
        (f r).epochChanged = r.epochChanged) (holds : later world s) : later world (s.withReport f) :=
    next.report world s f (fun r => ⟨(kept r).1, (kept r).2.1⟩) holds
  refine .bind (place.staying (sustains_checkKeys (asking place) _)) fun _ => .bind place.checking fun _ => ?_
  have enter : (enter .delegating).Assures env.answering (Counted held) inv (fun _ => later)
      (Tallied p held) := entering
  refine .bind enter fun _ => .bind (next.staying .get) fun s => ?_
  refine .bind (next.staying ?_) fun _ => next.staying ?_
  · exact sustains_delegate next.stable (asking next) reporting (fun _ _ _ => rfl) _
  · refine sustains_commit next.stable reporting (by rfl)
      (fun _ => Request.isWrite_eq_false_of_isFileWrite) ?_ index m
    exact fun world s localState => next.session world s _ rfl rfl

end Place

/-- The cycle is still without a fresh start, or it has made one. -/
def Either (p : Profile) (held : Nat) (plain fresh : List CycleState)
    (world : ω × List (Exchange Session)) (s : Session) : Prop :=
  Along held plain false [] world s ∨ Anew p held fresh world s

include onlooking

/-- The epoch is settled without entering a state, or by a fresh start. -/
theorem assures_settling (evaluated : Evaluated) :
    (settleEpoch p key evaluated).Assures env.answering (Counted held) (Along held visited false [])
      (fun _ => Either p held visited (visited ++ [CycleState.freshStart])) (Tallied p held) := by
  have place : Place env p held (Along held visited false []) := place_along onlooking fitting_none
  cases evaluated with
  | diverged reason =>
      exact (assures_freshly onlooking reason).conseq (fun _ _ _ asked => asked)
        (fun _ _ along => along) (fun _ _ _ anew => .inr anew) fun _ _ tallied => tallied
  | current m =>
      have observing : (observeEpoch m).Assures env.answering (Counted held)
          (Along held visited false []) (fun _ => Along held visited false []) (Tallied p held) :=
        place.staying (sustains_observeEpoch place.stable (fun _ => rfl)
          (fun _ _ along => along.forgetting) m)
      exact .bind observing fun _ => .pure fun _ _ along => .inl along

omit onlooking in
theorem Anew.entering {world : ω × List (Exchange Session)} {s : Session}
    (anew : Anew p held visited world s) (state : CycleState) :
    Anew p held (visited ++ [state]) world (s.entering state) := by
  obtain ⟨keys, metadata, named, titled, along⟩ := anew
  exact ⟨keys, metadata, named, titled, along.entering state⟩

/-- After a fresh start the keys are secured without another. -/
theorem assures_securing_anew (index : CollectionIndex) (m : GlobalMetadata) :
    (secureKeys p key index m).Assures env.answering (Counted held) (Anew p held visited)
      (fun _ => Anew p held (visited ++ [CycleState.keyRefresh])) (Tallied p held) := by
  have place : Place env p held (Anew p held (visited ++ [CycleState.keyRefresh])) :=
    place_anew onlooking
  have enter : (enter .keyRefresh).Assures env.answering (Counted held) (Anew p held visited)
      (fun _ => Anew p held (visited ++ [CycleState.keyRefresh])) (Tallied p held) :=
    fun _ _ anew => anew.entering .keyRefresh
  have refreshing := assures_passing place.located place.sustains_refreshKeys
  rw [secureKeys_eq]
  refine .bind enter fun _ => .bind (place.binding index m) fun _ => ?_
  refine .attempt_bind refreshing (fun _ => .pure fun _ _ anew => anew) fun e => ?_
  refine .get_bind fun found => ?_
  show (if e.isAbsentOrMalformed && !found.performedFreshStart then _ else _ :
    Program Session GlobalMetadata).Assures env.answering (Counted held) _ _ _
  split
  · rename_i due
    rintro world s ⟨⟨keys, metadata, named, titled, along⟩, rfl⟩
    rw [along.begun, Bool.not_true, Bool.and_false] at due
    cases due
  · refine .fail ?_
    rintro world s ⟨⟨keys, metadata, named, titled, along⟩, -⟩
    exact along.tallied (fitting_founded named titled)

/-- Without a fresh start before, one may be made for want of keys. -/
theorem assures_securing (index : CollectionIndex) (m : GlobalMetadata) :
    (secureKeys p key index m).Assures env.answering (Counted held) (Along held visited false [])
      (fun _ => Either p held (visited ++ [CycleState.keyRefresh])
        (visited ++ [CycleState.keyRefresh] ++ [CycleState.freshStart] ++ [CycleState.keyRefresh]))
      (Tallied p held) := by
  have place : Place env p held (Along held (visited ++ [CycleState.keyRefresh]) false []) :=
    place_along onlooking fitting_none
  have anew : Place env p held
      (Anew p held
        (visited ++ [CycleState.keyRefresh] ++ [CycleState.freshStart] ++ [CycleState.keyRefresh])) :=
    place_anew onlooking
  have refreshing := assures_passing place.located place.sustains_refreshKeys
  have entering : (enter .keyRefresh).Assures env.answering (Counted held)
      (Anew p held (visited ++ [CycleState.keyRefresh] ++ [CycleState.freshStart]))
      (fun _ => Anew p held
        (visited ++ [CycleState.keyRefresh] ++ [CycleState.freshStart] ++ [CycleState.keyRefresh]))
      (Tallied p held) :=
    fun _ _ anew => anew.entering .keyRefresh
  rw [secureKeys_eq]
  refine .bind (assures_enter _) fun _ => .bind (place.binding index m) fun _ => ?_
  refine .attempt_bind refreshing (fun _ => .pure fun _ _ along => .inl along) fun e => ?_
  refine .get_bind fun found => ?_
  show (if e.isAbsentOrMalformed && !found.performedFreshStart then _ else _ :
    Program Session GlobalMetadata).Assures env.answering (Counted held) _ _ _
  split
  · have renewing : (renewKeys p key index).Assures env.answering (Counted held)
        (Along held (visited ++ [CycleState.keyRefresh]) false [])
        (fun _ => Anew p held
        (visited ++ [CycleState.keyRefresh] ++ [CycleState.freshStart] ++ [CycleState.keyRefresh]))
        (Tallied p held) :=
      .bind (assures_freshly onlooking .unusableKeys) fun m => .bind entering fun _ =>
        .bind (anew.binding index m) fun _ =>
          .bind (anew.staying anew.sustains_refreshKeys) fun _ => .pure fun _ _ anew => anew
    exact (renewing.conseq (fun _ _ _ asked => asked) (fun _ _ along => along.1)
      (fun _ _ _ anew => .inr anew) fun _ _ tallied => tallied).note_bind
  · exact .fail fun _ _ along => along.1.tallied fitting_none

/-! ## The whole way -/

omit onlooking

/-- The states before the keys are secured. -/
def outset : List CycleState := [.start, .fetchingState, .evaluating]

/-- A cycle has handed out keys, without a fresh start or after one of either kind. -/
def Through (p : Profile) (held : Nat) (world : ω × List (Exchange Session)) (s : Session) : Prop :=
  Along held (outset ++ [CycleState.keyRefresh, .delegating]) false [] world s ∨
    Anew p held (outset ++ [CycleState.freshStart, .keyRefresh, .delegating]) world s ∨
    Anew p held (outset ++ [CycleState.keyRefresh, .freshStart, .keyRefresh, .delegating]) world s

include onlooking

theorem assures_maintain_plain (index : CollectionIndex) (m : GlobalMetadata) :
    (maintain p key index m).Assures env.answering (Counted held) (Along held outset false [])
      (fun _ => Through p held) (Tallied p held) := by
  have place (visited : List CycleState) : Place env p held (Along held visited false []) :=
    place_along onlooking fitting_none
  have anew (visited : List CycleState) : Place env p held (Anew p held visited) := place_anew onlooking
  refine .bind (place _).checking fun _ => .bind (assures_securing onlooking index m) fun m => ?_
  rintro world s (along | renewed)
  · exact ((place _).concluding (place _) (fun _ _ along => along.entering .delegating) index m).conseq
      (fun _ _ _ asked => asked) (fun _ _ along => along) (fun _ _ _ along => .inl along)
      (fun _ _ tallied => tallied) world s along
  · exact ((anew _).concluding (anew _) (fun _ _ anew => anew.entering .delegating) index m).conseq
      (fun _ _ _ asked => asked) (fun _ _ anew => anew) (fun _ _ _ anew => .inr (.inr anew))
      (fun _ _ tallied => tallied) world s renewed

theorem assures_maintain_anew (index : CollectionIndex) (m : GlobalMetadata) :
    (maintain p key index m).Assures env.answering (Counted held)
      (Anew p held (outset ++ [CycleState.freshStart])) (fun _ => Through p held)
      (Tallied p held) := by
  have anew (visited : List CycleState) : Place env p held (Anew p held visited) := place_anew onlooking
  refine .bind (anew _).checking fun _ => .bind (assures_securing_anew onlooking index m) fun m => ?_
  exact ((anew _).concluding (anew _) (fun _ _ anew => anew.entering .delegating) index m).conseq
    (fun _ _ _ asked => asked) (fun _ _ anew => anew) (fun _ _ _ anew => .inr (.inl anew))
    fun _ _ tallied => tallied

theorem assures_route : (runCycle p).Assures env.answering (Counted held) (Along held [.start] false [])
    (fun _ => Through p held) (Tallied p held) := by
  have place (visited : List CycleState) : Place env p held (Along held visited false []) :=
    place_along onlooking fitting_none
  rw [runCycle_eq]
  refine .bind (assures_enter _) fun _ => .bind ((place _).staying ?_) fun index => ?_
  · exact .bind (.remote rfl (place _).stable) fun _ => .bind (.note _) fun _ => .pure _
  refine .bind (place _).checking fun _ => .bind (assures_enter _) fun _ => ?_
  refine .bind ((place _).staying (sustains_evaluateRemote (place _).stable (by rfl) index)) fun evaluated => ?_
  have sealing : (sealingKey p).Sustains (env.answering.only fun r => r.isWrite = false)
      (fun r => r.isWrite = false) (Along held outset false []) :=
    sustains_sealingKey (place _).stable rfl fun world s => (place _).session world s s.keyed rfl rfl
  refine .bind ((place _).staying sealing) fun key => ?_
  refine .bind (place _).checking fun _ => .bind (assures_settling onlooking evaluated) fun m => ?_
  rintro world s (along | anew)
  · exact assures_maintain_plain onlooking index m world s along
  · exact assures_maintain_anew onlooking index m world s anew

end Places

/-! ## One cycle -/

/-- How a cycle that returns has gone: in one of three ways, and a fresh start is on its report just if it
was visited and just if the server was wiped. -/
structure Routed (xs : List (Exchange Session)) (r : CycleReport) : Prop where
  states : r.states ∈ [
    [.start, .fetchingState, .evaluating, .keyRefresh, .delegating, .done],
    [.start, .fetchingState, .evaluating, .freshStart, .keyRefresh, .delegating, .done],
    [.start, .fetchingState, .evaluating, .keyRefresh, .freshStart, .keyRefresh, .delegating, .done]]
  visited : r.performedFreshStart = true ↔ .freshStart ∈ r.states
  wiped : r.performedFreshStart = true ↔ wipesIn xs = 1

/-- What the report of a cycle says is where the cycle is. -/
theorem Along.reported {held : Nat} {visited : List CycleState} {afresh : Bool} {writes : List Request}
    {world : ω × List (Exchange Session)} {s : Session}
    (along : Along held visited afresh writes world s) :
    (s.cycle.getD .start).states = visited ∧ (s.cycle.getD .start).performedFreshStart = afresh ∧
      wipesIn world.2 = writes.countP Request.isWipe := by
  obtain ⟨r, running, same⟩ := Option.map_eq_some_iff.mp along.states
  refine ⟨?_, along.begun, along.wipes⟩
  rw [running]
  exact same

/-- A cycle that has handed out keys ends on one of the three ways. -/
theorem Through.routed {p : Profile} {held : Nat} {after : ω} {xs : List (Exchange Session)}
    {t : Session} (through : Through p held (after, xs) t) :
    Routed xs ((t.entering .done).cycle.getD .start) := by
  rcases through with along | ⟨_, _, -, -, along⟩ | ⟨_, _, -, -, along⟩
  all_goals obtain ⟨states, begun, wiped⟩ := (along.entering .done).reported
  all_goals rw [outset] at states
  · refine ⟨by simp [states], ?_, ?_⟩
    · rw [states, begun]
      decide
    · rw [begun, show wipesIn xs = 0 from wiped]
      decide
  · refine ⟨by simp [states], ?_, ?_⟩
    · rw [states, begun]
      decide
    · rw [begun]
      exact ⟨fun _ => wiped, fun _ => rfl⟩
  · refine ⟨by simp [states], ?_, ?_⟩
    · rw [states, begun]
      decide
    · rw [begun]
      exact ⟨fun _ => wiped, fun _ => rfl⟩

section Cycle

variable {env : Environment ω Session} (onlooking : Onlooking env) {p : Profile} {s : Session}
  {before after : ω} {xs : List (Exchange Session)} {ending : Ending Session CycleReport}

include onlooking

/-- What a cycle comes to, be it refused because another one is running. -/
theorem sync_routed (taken : (sync p).Takes env s before xs ending after) :
    (∀ r t, ending = .returned r t → Routed xs r) ∧
      ending.state.freshStarts = s.freshStarts + wipesIn xs ∧
      Commenced p ((serverWrites xs).map (·.request)) ∧
      ∀ head x tail, xs = head ++ x :: tail →
        x.asked.freshStarts = s.freshStarts + wipesIn (head ++ [x]) ∧
          (0 < wipesIn head → x.asked.performedFreshStart = true) := by
  cases busy : s.isSyncing with
  | true =>
      obtain ⟨rfl, rfl, -⟩ := (takes_sync_refused busy).mp taken
      refine ⟨(fun _ _ same => nomatch same), rfl, fitting_none.commenced, fun head x tail same => ?_⟩
      simp at same
  | false =>
      obtain ⟨inner, run, rfl⟩ := (takes_sync busy).mp taken
      have begun : Along s.freshStarts [.start] false [] (before, []) s.starting := by
        constructor <;> rfl
      obtain ⟨ended, asked⟩ := (assures_route onlooking).exchanged begun run
      have counted (head : List (Exchange Session)) (x : Exchange Session)
          (tail : List (Exchange Session)) (same : xs = head ++ x :: tail) :
          x.asked.freshStarts = s.freshStarts + wipesIn (head ++ [x]) ∧
            (0 < wipesIn head → x.asked.performedFreshStart = true) := by
        obtain ⟨count, known⟩ := asked head x tail same
        refine ⟨?_, known⟩
        have added := wipesIn_append head [x]
        rw [wipesIn_single] at added
        rw [count, added, ← Nat.add_assoc]
        rfl
      cases inner with
      | failed e last =>
          exact ⟨(fun _ _ same => nomatch same), ended.counted, ended.commenced, counted⟩
      | returned _ last =>
          have tallied : Tallied p s.freshStarts (after, xs) last := by
            rcases ended with along | anew | anew
            · exact along.tallied fitting_none
            · obtain ⟨visited, afresh, writes, fitting, along⟩ := anew.located
              exact along.tallied fitting
            · obtain ⟨visited, afresh, writes, fitting, along⟩ := anew.located
              exact along.tallied fitting
          refine ⟨?_, tallied.counted, tallied.commenced, counted⟩
          rintro r t ⟨⟩
          exact Through.routed ended

omit onlooking in
/-- A cycle makes each of the writes of a fresh start once at most. -/
theorem writes_once (commenced : Commenced p ((serverWrites xs).map (·.request))) :
    wipesIn xs ≤ 1 ∧ putsIn cryptoCollection keysRecordId xs ≤ 1 ∧
      putsIn metaCollection globalRecordId xs ≤ 1 := by
  obtain ⟨keys, metadata, named, titled, made⟩ := commenced
  have once {kind : Request → Bool} (writes : ∀ r, kind r = true → r.isWrite = true)
      (single : (foundingRequests p.limit keys metadata).countP kind = 1) :
      xs.countP (fun x => kind x.request) ≤ 1 := by
    rw [countP_serverWrites writes, ← single]
    exact made.sublist.countP_le
  have other : (metaCollection == cryptoCollection) = false := by decide
  have another : (cryptoCollection == metaCollection) = false := by decide
  refine ⟨once (fun _ => Request.isWrite_of_isWipe) rfl, once (fun _ => Request.isWrite_of_puts) ?_,
    once (fun _ => Request.isWrite_of_puts) ?_⟩
  · simp [foundingRequests, Request.puts, named, other]
  · simp [foundingRequests, Request.puts, titled, another]

/-- A bundle that cannot be had once the cycle has wiped the server fails the cycle. -/
theorem second_divergence_fails {asked resumed : Session} {head tail : List (Exchange Session)}
    {reply : (bundleRequest p.limit).Reply} {e : SyncError}
    (taken : (sync p).Takes env s before
      (head ++ ⟨bundleRequest p.limit, asked, reply, resumed⟩ :: tail) ending after)
    (wiped : 0 < wipesIn head) (failed : openedFrom p p.limit reply = .error e) :
    tail = [] ∧ ending = .failed e resumed.resting := by
  refine fatal_ends onlooking.keys taken ?_
  obtain ⟨-, -, -, counted⟩ := sync_routed onlooking taken
  have known : asked.performedFreshStart = true := (counted head _ tail rfl).2 wiped
  have resumes : resumed = env.touch (bundleRequest p.limit) (env.world before head) asked :=
    congrArg Exchange.resumed (Run.Takes.exchange_at taken)
  have still : resumed.performedFreshStart = true := by
    rw [resumes, performedFreshStart, onlooking.cycle]
    exact known
  have other : ¬cryptoCollection = metaCollection := by decide
  simp only [fatal?, if_neg other, failed, still, Bool.not_true, Bool.and_false, Bool.false_eq_true,
    if_false]

end Cycle

/-! ## All cycles -/

section Cycles

variable (env : Environment ω Session) (p : Profile) (s : Nat → Session) (w : Nat → ω)

/-- How often the server was asked to wipe before the cycle of a number. -/
def wipesBefore : Nat → Nat
  | 0 => 0
  | n + 1 => wipesBefore n + wipesIn (courseAt env p s w n).exchanges

/-- The cycles of a session since it was opened. Between them nothing counts as a fresh start. -/
structure Recounted : Prop where
  opened : (s 0).freshStarts = 0
  between : ∀ n, (s (n + 1)).freshStarts = (courseAt env p s w n).ending.state.freshStarts

end Cycles

section Run

variable {env : Environment ω Session} {p : Profile} {s : Nat → Session} {w : Nat → ω}

theorem freshStarts_eq (onlooking : Onlooking env) (recounted : Recounted env p s w) (n : Nat) :
    (s n).freshStarts = wipesBefore env p s w n := by
  induction n with
  | zero => exact recounted.opened
  | succ n ih =>
      obtain ⟨-, counted, -⟩ := sync_routed onlooking (taken_courseAt env p s w n)
      rw [recounted.between n, counted, ih]
      rfl

/-- A cycle that returns has gone one of three ways. Any cycle makes one fresh start at most, and it fails
if that does not help; the session always knows how often it has asked for a wipe. -/
theorem one_fresh_start_a_cycle (onlooking : Onlooking env) (recounted : Recounted env p s w) (n : Nat) :
    (∀ r last, (courseAt env p s w n).ending = .returned r last →
      Routed (courseAt env p s w n).exchanges r) ∧
    (wipesIn (courseAt env p s w n).exchanges ≤ 1 ∧
      putsIn cryptoCollection keysRecordId (courseAt env p s w n).exchanges ≤ 1 ∧
      putsIn metaCollection globalRecordId (courseAt env p s w n).exchanges ≤ 1) ∧
    (∀ head asked reply resumed tail e, (courseAt env p s w n).exchanges =
        head ++ ⟨bundleRequest p.limit, asked, reply, resumed⟩ :: tail → 0 < wipesIn head →
      openedFrom p p.limit reply = .error e → (courseAt env p s w n).ending.result = .error e) ∧
    (s n).freshStarts = wipesBefore env p s w n ∧
    ∀ head x tail, (courseAt env p s w n).exchanges = head ++ x :: tail →
      x.asked.freshStarts = wipesBefore env p s w n + wipesIn (head ++ [x]) := by
  have taken := taken_courseAt env p s w n
  have before := freshStarts_eq onlooking recounted n
  obtain ⟨routed, -, commenced, counted⟩ := sync_routed onlooking taken
  refine ⟨routed, writes_once commenced, ?_, before, ?_⟩
  · intro head asked reply resumed tail e split wiped failed
    rw [split] at taken
    rw [(second_divergence_fails onlooking taken wiped failed).2]
    rfl
  · intro head x tail split
    rw [← before]
    exact (counted head x tail split).1

end Run

theorem recounted_visiting (oracle : Oracle ω) (p : Profile) {first : Session} (w : Nat → ω)
    (opened : first.freshStarts = 0) :
    Recounted oracle.alone p (visiting oracle p first w) w where
  opened := opened
  between _ := rfl

open Simulation in
/-- The cycles of a session whose server loses everything before each of them. -/
def forgetfulSession : Nat → Session :=
  visiting Memory.oracle Memory.profile (.ofLocalState .empty) fun _ => Memory.blank

open Simulation in
/-- Each of its cycles makes a fresh start. -/
theorem forgetfulSession_renews (n : Nat) : ∃ r last,
    (courseAt Memory.oracle.alone Memory.profile forgetfulSession (fun _ => Memory.blank) n).ending =
      .returned r last ∧ r.performedFreshStart = true := by
  have diverged : (Memory.storage Memory.blank).evaluated Memory.profile.config.storageVersion =
      .ok (.diverged .missingMetadata) := rfl
  have idle : (forgetfulSession n).isSyncing = false :=
    (succession_visiting Memory.oracle Memory.profile (fun _ => Memory.blank) rfl n).idle n (Nat.le_refl n)
  obtain ⟨reads, rest, inner, -, ended, -, renewed⟩ := sync_diverged Memory.oracle_faithful
    Memory.profile_fits rfl idle diverged
    (taken_courseAt Memory.oracle.alone Memory.profile forgetfulSession (fun _ => Memory.blank) n)
  obtain ⟨r, last, m, closing, -, -, fresh⟩ := renewed.settles rfl
  exact ⟨r, last, ended.trans closing, Option.isSome_iff_ne_none.mpr fresh⟩

open Simulation in
theorem forgetful_one_fresh_start_a_cycle : ∃ r last,
    (courseAt Memory.oracle.alone Memory.profile forgetfulSession (fun _ => Memory.blank) 1).ending =
        .returned r last ∧
      .freshStart ∈ r.states ∧ (forgetfulSession 1).freshStarts = 1 := by
  have onlooking : Onlooking (Memory.oracle.alone : Environment Memory Session) :=
    (onlyCancels_alone Memory.oracle).onlooking
  have recounted : Recounted Memory.oracle.alone Memory.profile forgetfulSession fun _ => Memory.blank :=
    recounted_visiting Memory.oracle Memory.profile _ rfl
  obtain ⟨first, earlier, returned, renewed⟩ := forgetfulSession_renews 0
  obtain ⟨r, last, returns, renews⟩ := forgetfulSession_renews 1
  have start := one_fresh_start_a_cycle onlooking recounted 0
  have next := one_fresh_start_a_cycle onlooking recounted 1
  refine ⟨r, last, returns, (next.1 r last returns).visited.mp renews, ?_⟩
  rw [next.2.2.2.1, wipesBefore, wipesBefore, Nat.zero_add]
  exact (start.1 first earlier returned).wiped.mp renewed

end Session

end SealedSync
