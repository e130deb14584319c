import SealedSync.Proofs.KeyCustody
import SealedSync.Proofs.ResetDuty

/-!
# Keys are never stale

Other clients may put keys and wipe between any two requests of a session, and anyone may ask the
session for keys. Each cycle hands out the keys of one bundle all the same, and the server held that
bundle at some moment since the cycle fetched the index.
-/
namespace SealedSync

namespace Session

open RemoteState FreshStart Keyring

variable {ω : Type} {env : Environment ω Session} {p : Profile} {history : ω → List Storage}

/-- The server answers in order, and others put keys, wipe and ask the session for keys. Who has
to wait for the keyring meanwhile counts as waiting for the request before. -/
def Linear (env : Environment ω Session) (p : Profile) (history : ω → List Storage) : Prop :=
  ∀ r w s, Served p r (history w) s (env.reply r w) (history (env.next r w)) (env.touch r w s)

/-- The cycles of a session that was opened with an empty keyring, up to the last of them. -/
structure Attended (env : Environment ω Session) (p : Profile) (history : ω → List Storage)
    (s : Nat → Session) (w : Nat → ω) (last : Nat) : Prop where
  empty : (s 0).book.keyring = .empty
  idle : ∀ n ≤ last, (s n).isSyncing = false
  chronicle : ∀ n ≤ last, Chronicle (history (w n))
  grown : ∀ n < last, history (courseAt env p s w n).world <:+ history (w (n + 1))
  keyring : ∀ n < last, Consulted p.keyAccess (history (courseAt env p s w n).world)
    (history (w (n + 1))) (courseAt env p s w n).ending.state.book.keyring (s (n + 1)).book.keyring

/-! ## One cycle -/

section Cycle

variable {s t : Session} {before after : ω} {xs : List (Exchange Session)} (linear : Linear env p history)

include linear

/-- Once a bundle is in the keyring, every key that is handed out is a key of that bundle. -/
theorem conclude_hands {bundle : KeyBundle} {index : CollectionIndex} {m : GlobalMetadata}
    {ending : Ending Session Unit} (held : t.book.keyring.bundle = some bundle)
    (taken : (conclude p index m).Takes env t before xs ending after) :
    ∀ x ∈ xs, ∀ c key, x.request = .synchronize c key → key = bundle.keyFor c.name := by
  let kind (u : Session) : Prop := u.book.keyring.bundle = some bundle
  let allowed (r : Request) : Prop := ∀ c key, r = .synchronize c key → key = bundle.keyFor c.name
  have keys (name : String) : (onKeyring (Keyring.keyFor p.keyAccess name)).Assures
      (Program.leaving kind) (fun _ u r => kind u ∧ allowed r) (fun _ => kind)
      (fun key _ u => kind u ∧ key = bundle.keyFor name) (fun _ => kind) := by
    intro _ u holds
    rw [keyFor_run_loaded holds]
    exact ⟨holds, rfl⟩
  have others (r : Request) (w : ω) (u : Session) (holds : kind u) : kind (env.touch r w u) :=
    (linear r w u).keyring.keeps_bundle holds
  have concludes : (conclude p index m).Keeps kind allowed := by
    refine (sustains_conclude (Program.stable_leaving kind) keys ?_ ?_ ?_ ?_ ?_ ?_ index m).keeps
    · exact fun _ _ _ _ holds => holds
    · rintro c key known _ _ ⟨⟩
      exact known
    · exact nofun
    · intro r file c key same
      rw [same] at file
      cases file
    · exact fun _ _ holds => holds
    · exact fun _ _ _ holds => holds
  intro x member
  exact ((concludes.takes held others taken).1 x member).2.1

omit linear in
/-- A session whose cycle has not come to hand out keys. -/
def Early (u : Session) : Prop := u.isSyncing = true ∧ u.state ≠ .delegating

omit linear in
theorem preparatory_early : Preparatory Early := by
  constructor
  case keyring => exact fun _ _ holds => holds
  case records => exact fun _ holds => holds
  case report =>
    intro u f kept holds
    refine ⟨(isSyncing_withReport u).trans holds.1, ?_⟩
    rw [state_withReport fun r => (kept r).1]
    exact holds.2
  case entering =>
    intro u state early holds
    refine ⟨(isSyncing_withReport u).trans holds.1, ?_⟩
    rw [state_entering holds.1]
    exact early
  case counting => exact fun _ _ holds => holds
  case keyed => exact fun _ holds => holds

/-- A cycle that hands out keys has prepared them first. -/
theorem sync_prepared (idle : s.isSyncing = false) {ending : Ending Session CycleReport}
    (delegates : Delegates xs) (taken : (sync p).Takes env s before xs ending after) :
    ∃ head tail found t inner, xs = head ++ tail ∧
      (∀ x ∈ head, x.request.isSynchronize = false) ∧
      (prepare p).Takes env s.starting before head (.returned found t) (env.world before head) ∧
      (conclude p found.1 found.2).Takes env t (env.world before head) tail inner after := by
  obtain ⟨inner, run, -⟩ := (takes_sync idle).mp taken
  rw [runCycle_eq_prepare] at run
  obtain ⟨prepared, world, head, tail, preparing, rfl, concluding⟩ := run.split
  obtain rfl := preparing.world_eq
  have others (r : Request) (w : ω) (u : Session) (holds : Early u) : Early (env.touch r w u) := by
    have same := (linear r w u).cycle
    refine ⟨(congrArg Option.isSome same).trans holds.1, ?_⟩
    rw [state, same]
    exact holds.2
  have kept : (prepare p).Keeps Early fun r => r.isSynchronize = false :=
    preparatory_early.keeps_prepare fun _ => Request.isSynchronize_eq_false_of_not_isLate
  have begun : Early s.starting := ⟨rfl, (by decide : CycleState.start ≠ .delegating)⟩
  have exchanged := (kept.takes begun others preparing).1
  cases prepared with
  | returned found t =>
      exact ⟨head, tail, found, t, inner, rfl, fun x member => (exchanged x member).2.1, preparing,
        concluding⟩
  | failed e u =>
      obtain ⟨rfl, -, -⟩ := concluding
      obtain ⟨x, member, delegating⟩ := delegates
      rw [List.append_nil] at member
      exact absurd delegating (exchanged x member).1.2

end Cycle

/-! ## All cycles -/

section Cycles

variable {s : Nat → Session} {w : Nat → ω} {last : Nat} (linear : Linear env p history)
  (attended : Attended env p history s w last)

include linear attended

/-- Before each cycle the keyring is empty, or dated by the history. -/
theorem resting_attended {n : Nat} (within : n ≤ last) : Resting p (history (w n)) (s n) := by
  induction n with
  | zero =>
      constructor
      · exact attended.chronicle 0 within
      · rw [attended.empty]
        exact dated_of_unbound rfl
      · exact attended.idle 0 within
  | succ n ih =>
      have rests := upholds_sync.takes (ih (Nat.le_of_succ_le within)) linear (taken_courseAt env p s w n)
      have ended : Resting p (history (courseAt env p s w n).world)
          (courseAt env p s w n).ending.state := by
        generalize (courseAt env p s w n).ending = ending at rests
        cases ending with
        | returned _ _ => exact rests
        | failed _ _ => exact rests
      constructor
      · exact attended.chronicle (n + 1) within
      · exact durable_dated _ _ _ _ (attended.grown n within) (attended.keyring n within).refilled
          ended.dated
      · exact attended.idle (n + 1) within

/-- Whatever becomes of the cycles before, a cycle that comes to hand out keys hands out those of one
bundle, and the server held that bundle at some moment after the cycle had fetched the index and
before it handed out the first key. -/
theorem keys_current {n : Nat} (within : n ≤ last)
    (delegates : Delegates (courseAt env p s w n).exchanges) :
    ∃ fetch head tail key bundle moment,
      (courseAt env p s w n).exchanges = fetch :: head ++ tail ∧
      fetch.request = indexRequest p.limit ∧ (∀ x ∈ head, x.request.isSynchronize = false) ∧
      Since (history (w n)) (history (env.world (w n) (fetch :: head))) moment ∧
      p.sealingKey = .ok key ∧ moment.bundle key = .ok bundle ∧
      ∀ x ∈ tail, ∀ c k, x.request = .synchronize c k → k = bundle.keyFor c.name := by
  have resting := resting_attended linear attended within
  obtain ⟨head, tail, found, t, inner, split, unhanded, preparing, concluding⟩ :=
    sync_prepared linear resting.idle delegates (taken_courseAt env p s w n)
  obtain ⟨now, earlier, start⟩ := List.exists_cons_of_ne_nil resting.chronicle.ne_nil
  have begun : Unbegun p (history (w n)) (history (w n)) (s n).starting :=
    ⟨⟨resting.chronicle, ⟨List.suffix_rfl, resting.dated⟩, rfl⟩, rfl⟩
  obtain ⟨holds, bundle, held⟩ : Holding (CurrentAfter p.keyAccess (now :: earlier))
      (history (env.world (w n) head)) t ∧ ∃ bundle, t.book.keyring.bundle = some bundle :=
    upholds_prepare.takes ⟨start, begun⟩ linear preparing
  obtain ⟨moment, since, key, usable, opened⟩ := holds.keyring.held bundle held
  obtain ⟨fetch, rest, rfl, request⟩ : ∃ fetch rest, head = fetch :: rest ∧
      fetch.request = indexRequest p.limit := by
    rw [prepare, takes_enter_bind, fetchIndex_eq, bind_assoc, Program.takes_request_bind] at preparing
    obtain ⟨rest, rfl, -⟩ := preparing
    exact ⟨_, rest, rfl, rfl⟩
  refine ⟨fetch, rest, tail, key, bundle, moment, split, request, ?_, ?_, usable, opened, ?_⟩
  · exact fun x member => unhanded x (List.mem_cons_of_mem _ member)
  · rw [start]
    exact since
  · exact conclude_hands linear held concluding

end Cycles

/-! ## A bundle that is rotated -/

open Simulation

/-- A server of which only the history is known. It can be read, and writes do not reach it. -/
def archive : Oracle { history : List Storage // Chronicle history } where
  reply
    | .remote _ .index, w => some (.ok (w.val.headD .empty).index)
    | .remote _ (.fetch collection id), w => some (.ok ((w.val.headD .empty).records collection id))
    | .remote _ (.store ..), _ => none
    | .remote _ .wipe, _ => none
    | r, _ => Memory.blank.reply r
  next _ w := w

theorem archive_honest : archive.Honest fun w => w.val.headD .empty where
  index _ _ := rfl
  fetch _ _ _ _ := rfl
  store _ _ _ _ := .inr ⟨.refl _, nofun⟩
  wipe _ _ := .inr ⟨.refl _, nofun⟩
  others _ _ _ := .refl _

theorem archive_obliging : archive.Obliging := ⟨fun _ _ => rfl, fun _ _ _ => rfl, fun _ _ _ => rfl⟩

theorem archive_linear (p : Profile) : Linear archive.alone p (·.val) := by
  rintro r ⟨history, chronicle⟩ s
  refine ⟨chronicle, List.suffix_rfl, ?_, rfl, .unused _⟩
  obtain ⟨now, earlier, rfl⟩ := List.exists_cons_of_ne_nil chronicle.ne_nil
  match r with
  | .remote _ .index => rfl
  | .remote _ (.fetch ..) => rfl
  | .remote _ (.store ..) => trivial
  | .remote _ .wipe => trivial
  | .resetClient _ | .synchronize .. | .readFile _ | .writeFile .. | .renameFile .. => trivial
  | .random _ | .clock | .deriveKey => trivial

def rotatedKeys (n : Nat) : RemoteRecord :=
  .ofPayload keysRecordId
    ((KeyBundle.ofDefault ⟨.fit 32 [UInt8.ofNat n]⟩).toPayload Memory.key (.fit 12 []))

/-- What the server holds when its keys have been rotated so often. -/
def rotated (n : Nat) : Storage :=
  (Storage.empty.store cryptoCollection (rotatedKeys n) (.ofNat n)).store metaCollection
    (.ofPayload globalRecordId (Memory.metadata "epoch").toJson.render) (.ofNat 1)

theorem rotated_sound (n : Nat) :
    (rotated n).Sound Memory.profile.config.storageVersion Memory.key (Memory.metadata "epoch") := by
  have fits : (Memory.metadata "epoch").Fits :=
    ⟨(by decide : currentStorageVersion < Nat.pow 2 32), fun _ member => by cases member⟩
  exact sound_of_stored fits _ _ _ (Binary64.isNaN_ofNat n)

theorem keysTime_rotated (n : Nat) : (rotated n).keysTime = some (.ofNat n) := by
  simp [rotated, Storage.keysTime, Storage.store, CollectionIndex.modified?_insert, metaCollection,
    cryptoCollection]

theorem chronicle_rotated : Chronicle [rotated 2, rotated 1] := by
  have sameKeys : Storage.SameIn cryptoCollection (rotated 2)
      ((rotated 1).store cryptoCollection (rotatedKeys 2) (.ofNat 2)) := by
    constructor
    · simp [rotated, Storage.store, CollectionIndex.modified?_insert, metaCollection, cryptoCollection]
    · funext id
      by_cases found : id = keysRecordId <;>
        simp [rotated, rotatedKeys, Storage.store, found, metaCollection, cryptoCollection,
          RemoteRecord.ofPayload]
  refine .put (.start _) (rotatedKeys 2) (.ofNat 2) ?_ sameKeys
  intro old member earlier timed
  rw [List.mem_singleton.mp member, keysTime_rotated] at timed
  rw [← Option.some.inj timed]
  decide

/-- The keys are rotated after the first cycle. -/
def rotating : Nat → { history : List Storage // Chronicle history }
  | 0 => ⟨[rotated 1], .start _⟩
  | _ + 1 => ⟨[rotated 2, rotated 1], chronicle_rotated⟩

/-- The cycles of a session with one synchronizer while the keys are rotated. -/
def rotation : Nat → Course { history : List Storage // Chronicle history } Session CycleReport :=
  courseAt archive.alone Memory.profile
    (visiting archive Memory.profile ((ofLocalState .empty).enlisting "tabs") rotating) rotating

/-- An archive is not changed by reading it. -/
theorem world_archive (w : { history : List Storage // Chronicle history })
    (exchanges : List (Exchange Session)) : archive.world w exchanges = w := by
  have kept : ∀ x ∈ exchanges, ∀ world, world = w → archive.next x.request world = w :=
    fun _ _ _ same => same
  exact Oracle.world_preserves kept rfl

theorem attended_rotation : Attended archive.alone Memory.profile (·.val)
    (visiting archive Memory.profile ((ofLocalState .empty).enlisting "tabs") rotating) rotating 1 where
  empty := rfl
  idle := (succession_visiting archive Memory.profile rotating rfl 1).idle
  chronicle n _ := (rotating n).property
  grown n within := by
    obtain rfl : n = 0 := by omega
    rw [(taken_courseAt archive.alone Memory.profile _ rotating 0).world_eq]
    show (archive.world (rotating 0) _).val <:+ _
    rw [world_archive]
    exact List.suffix_cons _ _
  keyring n _ := .unused _

theorem rotation_keys_current : Delegates (rotation 1).exchanges ∧
    ∃ fetch head tail key bundle moment, (rotation 1).exchanges = fetch :: head ++ tail ∧
      fetch.request = indexRequest Memory.profile.limit ∧
      (∀ x ∈ head, x.request.isSynchronize = false) ∧
      Since [rotated 2, rotated 1] [rotated 2, rotated 1] moment ∧
      Memory.profile.sealingKey = .ok key ∧ moment.bundle key = .ok bundle ∧
      ∀ x ∈ tail, ∀ c k, x.request = .synchronize c k → k = bundle.keyFor c.name := by
  have linear := archive_linear Memory.profile
  have bystanding : Bystanding (archive.alone : Environment _ Session) := bystanding_alone archive
  have succession := succession_visiting archive Memory.profile rotating
    (rfl : ((ofLocalState .empty).enlisting "tabs").isSyncing = false) 1
  have cycle := taken_courseAt archive.alone Memory.profile
    (visiting archive Memory.profile ((ofLocalState .empty).enlisting "tabs") rotating) rotating 1
  have registered : (⟨"tabs", 0⟩ : Synchronizer) ∈
      ((ofLocalState .empty).enlisting "tabs").synchronizers := List.mem_cons_self
  have present := stays_registered bystanding succession registered (Nat.le_refl 1)
  have sound : ((rotating 1).val.headD .empty).Sound Memory.profile.config.storageVersion Memory.key
      (Memory.metadata "epoch") := rotated_sound 2
  obtain ⟨-, -, hands⟩ := sync_works archive_honest archive_obliging rfl
    (succession.idle 1 (Nat.le_refl 1)) sound cycle
  obtain ⟨x, member, bundle, handed⟩ := hands _ present
  obtain ⟨first, rest, split⟩ := List.append_of_mem member
  have delegates : Delegates (rotation 1).exchanges :=
    (sync_handed bystanding (succession.idle 1 (Nat.le_refl 1)) cycle present split handed).1
  obtain ⟨fetch, head, tail, key, served, moment, cut, request, unhanded, since, usable, opened, keys⟩ :=
    keys_current linear attended_rotation (Nat.le_refl 1) delegates
  refine ⟨delegates, fetch, head, tail, key, served, moment, cut, request, unhanded, ?_, usable,
    opened, keys⟩
  have since : Since (rotating 1).val (archive.world (rotating 1) (fetch :: head)).val moment := since
  rw [world_archive] at since
  exact since

end Session

end SealedSync
