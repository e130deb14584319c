import SealedSync.Proofs.Companions
import SealedSync.Proofs.StateRoundTrip

/-!
# Cycles with and without keys at hand

A keyring that is dated by the history of the server holds no other keys than those that the server
would answer with, once it is bound to the index. So a cycle that finds its keys at hand ends like one
that has to fetch them: with the same report or error, the same records, and the same server.
-/
namespace SealedSync

open Program (Lasting)

variable {ω α : Type}

/-- The request looks at something or works out a key, and leaves everything as it is. -/
def Request.isLook : Request → Bool
  | .remote _ .index => true
  | .remote _ (.fetch ..) => true
  | .readFile _ => true
  | .deriveKey => true
  | _ => false

/-- An honest server that is not changed by being looked at, and a place for files where saves
succeed. -/
structure Oracle.Dependable (oracle : Oracle ω) (content : ω → Storage)
    (files : ω → String → Option (List UInt8)) : Prop where
  honest : oracle.Honest content
  keeping : oracle.Files files
  unmoved : ∀ r w, r.isLook = true → oracle.next r w = w
  written : ∀ path bytes w, oracle.reply (.writeFile path bytes) w = .ok ()
  renamed : ∀ source target w, oracle.reply (.renameFile source target) w = .ok ()

/-- A request that writes no file leaves all files as they are. -/
theorem Oracle.Files.unwritten {oracle : Oracle ω} {files : ω → String → Option (List UInt8)}
    (keeping : oracle.Files files) {r : Request} (other : r.isFileWrite = false) (w : ω) :
    files (oracle.next r w) = files w := by
  have quiet : ∀ x ∈ [oracle.alone.exchange r () w], x.request.isFileWrite = false :=
    List.forall_mem_singleton.mpr other
  exact keeping.quiet quiet

namespace Session

open RemoteState FreshStart Keyring

/-- Two sessions of which nobody can tell which is which, but by their keyrings and by how many fresh
starts they have seen. -/
structure Alike (roster : List Synchronizer) (keys : Keyring → Keyring → Prop) (s t : Session) :
    Prop where
  rosters : s.synchronizers = roster ∧ t.synchronizers = roster
  uncancelled : s.cancelRequested = false ∧ t.cancelRequested = false
  cycle : t.cycle = s.cycle
  localState : t.book.localState = s.book.localState
  keyrings : keys s.book.keyring t.book.keyring

namespace Alike

variable {roster : List Synchronizer} {keys other : Keyring → Keyring → Prop} {s t : Session}

theorem imp (alike : Alike roster keys s t) (implies : ∀ k l, keys k l → other k l) :
    Alike roster other s t :=
  { alike with keyrings := implies _ _ alike.keyrings }

theorem withReport (alike : Alike roster keys s t) (f : CycleReport → CycleReport) :
    Alike roster keys (s.withReport f) (t.withReport f) :=
  { alike with cycle := congrArg (Option.map f) alike.cycle }

theorem withKeyring (alike : Alike roster keys s t) {k l : Keyring} (holds : other k l) :
    Alike roster other (s.withKeyring k) (t.withKeyring l) :=
  { alike with keyrings := holds }

theorem report_eq (alike : Alike roster keys s t) :
    t.cycle.getD .start = s.cycle.getD .start := by
  rw [alike.cycle]

theorem performedFreshStart_eq (alike : Alike roster keys s t) :
    t.performedFreshStart = s.performedFreshStart :=
  congrArg CycleReport.performedFreshStart alike.report_eq

end Alike

section Cycle

variable (files : ω → String → Option (List UInt8)) (path : String) (roster : List Synchronizer)

/-- Two sessions in the same cycle, the records of which are in the state file. -/
structure Companions (keys : Keyring → Keyring → Prop) (w : ω) (s t : Session) : Prop
    extends Alike roster keys s t where
  running : s.isSyncing = true
  recalled : StateFile.recalled (some path) (files w) = s.book.localState

variable {files path roster}

namespace Companions

variable {keys other : Keyring → Keyring → Prop} {w : ω} {s t : Session}

theorem imp (companions : Companions files path roster keys w s t)
    (implies : ∀ k l, keys k l → other k l) : Companions files path roster other w s t :=
  { companions with keyrings := implies _ _ companions.keyrings }

theorem withReport (companions : Companions files path roster keys w s t)
    (f : CycleReport → CycleReport) :
    Companions files path roster keys w (s.withReport f) (t.withReport f) :=
  { companions.toAlike.withReport f with
    running := (isSyncing_withReport s).trans companions.running
    recalled := companions.recalled }

theorem entering (companions : Companions files path roster keys w s t) (state : CycleState) :
    Companions files path roster keys w (s.entering state) (t.entering state) :=
  companions.withReport _

theorem withKeyring (companions : Companions files path roster keys w s t) {k l : Keyring}
    (holds : other k l) :
    Companions files path roster other w (s.withKeyring k) (t.withKeyring l) :=
  { companions.toAlike.withKeyring holds with
    running := companions.running
    recalled := companions.recalled }

end Companions

theorem lasting_companions {oracle : Oracle ω} (keeping : oracle.Files files)
    (keys : Keyring → Keyring → Prop) :
    Lasting oracle (fun r => r.isFileWrite = false) (Companions files path roster keys) := by
  intro r w s t other companions
  refine { companions with recalled := ?_ }
  rw [keeping.unwritten other w]
  exact companions.recalled

/-! ## Where a cycle is -/

section Assertions

variable {content : ω → Storage} {p : Profile} {history : List Storage} {now : Storage}
  {earlier : List Storage}

/-- Both keyrings are dated by the history of the server. -/
def Dating (p : Profile) (history : List Storage) (k l : Keyring) : Prop :=
  Dated p.keyAccess history k ∧ Dated p.keyAccess history l

/-- Both keyrings have been emptied. -/
def Emptied (k l : Keyring) : Prop := k = .empty ∧ l = .empty

theorem Emptied.dating {k l : Keyring} (emptied : Emptied k l) : Dating p history k l := by
  obtain ⟨rfl, rfl⟩ := emptied
  exact ⟨dated_of_unbound rfl, dated_of_unbound rfl⟩

theorem Companions.startingAfresh {keys : Keyring → Keyring → Prop} {w : ω} {s t : Session}
    (companions : Companions files path roster keys w s t) (reason : FreshStartReason) :
    Companions files path roster keys w (s.startingAfresh reason) (t.startingAfresh reason) :=
  { (companions.entering .freshStart).withReport (fun r => { r with freshStart := some reason }) with }

/-- Two sessions in a cycle that has begun a fresh start. -/
abbrev Renewing (files : ω → String → Option (List UInt8)) (path : String) (roster : List Synchronizer)
    (keys : Keyring → Keyring → Prop) (w : ω) (s t : Session) : Prop :=
  Companions files path roster keys w s t ∧ s.performedFreshStart = true

/-- What a fresh start leaves: the keys are forgotten, and the fresh start is on the report. -/
abbrev Restarted (files : ω → String → Option (List UInt8)) (path : String)
    (roster : List Synchronizer) (w : ω) (s t : Session) : Prop :=
  Renewing files path roster Emptied w s t

/-- Nothing has been written to the server in this cycle. -/
structure Unstarted (files : ω → String → Option (List UInt8)) (path : String)
    (roster : List Synchronizer) (content : ω → Storage) (p : Profile) (now : Storage)
    (earlier : List Storage) (w : ω) (s t : Session) : Prop
    extends Companions files path roster (Dating p (now :: earlier)) w s t where
  unbegun : s.performedFreshStart = false
  same : (content w).SameBookkeeping now

theorem Unstarted.entering {w : ω} {s t : Session}
    (unstarted : Unstarted files path roster content p now earlier w s t) (state : CycleState) :
    Unstarted files path roster content p now earlier w (s.entering state) (t.entering state) :=
  { unstarted.toCompanions.entering state with
    unbegun := (performedFreshStart_entering s state).trans unstarted.unbegun
    same := unstarted.same }

theorem Unstarted.keyed {w : ω} {s t : Session}
    (unstarted : Unstarted files path roster content p now earlier w s t) :
    Unstarted files path roster content p now earlier w s.keyed t.keyed :=
  { unstarted with }

theorem Unstarted.forgetting {w : ω} {s t : Session}
    (unstarted : Unstarted files path roster content p now earlier w s t) :
    Unstarted files path roster content p now earlier w s.forgetting t.forgetting := by
  have emptied : Dating p (now :: earlier) .empty .empty := Emptied.dating ⟨rfl, rfl⟩
  have companions := (unstarted.toCompanions.withReport fun r => { r with epochChanged := true }).withKeyring
    emptied
  exact { companions with
    unbegun := (performedFreshStart_forgetting s).trans unstarted.unbegun
    same := unstarted.same }

/-- The keyring is bound to an epoch. What it holds is what the server holds, and it stays dated if it
takes that in. -/
structure Ready (p : Profile) (history : List Storage) (m : GlobalMetadata) (st : Storage)
    (k : Keyring) : Prop where
  epoch : k.epoch = some m.syncId
  dated : Dated p.keyAccess history k
  opens : ∀ bundle, k.bundle = some bundle → st.Opens p.keyAccess bundle
  refills : ∀ bundle, st.Opens p.keyAccess bundle →
    Dated p.keyAccess history { k with bundle := some bundle }

/-- Both keyrings hold a bundle. -/
structure Sharing (p : Profile) (history : List Storage) (bundle : KeyBundle) (k l : Keyring) : Prop where
  held : k.bundle = some bundle ∧ l.bundle = some bundle
  dating : Dating p history k l

/-- Both keyrings hold the same keys. -/
def Shared (p : Profile) (history : List Storage) (k l : Keyring) : Prop :=
  ∃ bundle, Sharing p history bundle k l

/-- Where nothing has been written, a keyring that is bound to the index is ready. -/
theorem ready_rebind {k : Keyring} {st : Storage} {time : Binary64} {m : GlobalMetadata}
    (unrepeated : Unrepeated (now :: earlier)) (dated : Dated p.keyAccess (now :: earlier) k)
    (same : st.SameBookkeeping now) (timed : now.keysTime = some time) :
    Ready p (now :: earlier) m st (k.rebind m.syncId (some time)) := by
  obtain ⟨rebound, held⟩ := dated.rebind unrepeated List.suffix_rfl timed m.syncId
  have bound := epoch_rebind k m.syncId (some time)
  constructor
  case epoch => exact bound
  case dated => exact rebound
  case opens =>
    intro bundle found
    obtain ⟨moment, ⟨rest, within, after⟩, opens⟩ := held bundle found
    obtain ⟨rfl, -⟩ := List.cons.inj (within.eq_of_length_le after.length_le)
    exact opens.congr same.keys
  case refills =>
    intro bundle opens
    have since : Since (now :: earlier) (now :: earlier) now :=
      ⟨earlier, List.suffix_rfl, List.suffix_rfl⟩
    have unbound : (k.rebind m.syncId (some time)).epoch ≠ none := by simp [bound]
    exact durable_dated _ _ _ _ List.suffix_rfl
      (.inr ⟨bundle, now, unbound, since, opens.congr same.symm.keys, rfl⟩) rebound

theorem ready_empty {st : Storage} {m : GlobalMetadata} :
    Ready p history m st (Keyring.empty.rebind m.syncId none) where
  epoch := epoch_rebind ..
  dated := dated_of_unbound rfl
  opens := nofun
  refills _ _ := dated_of_unbound rfl

/-- The epoch is settled: the index gives the time of the keys, or a fresh start has replaced it. -/
def EpochSettled (files : ω → String → Option (List UInt8)) (path : String) (roster : List Synchronizer)
    (content : ω → Storage) (p : Profile) (now : Storage) (earlier : List Storage)
    (index : CollectionIndex) (w : ω) (s t : Session) : Prop :=
  (Unstarted files path roster content p now earlier w s t ∧
    ∃ time, index.modified? cryptoCollection = some time ∧ now.keysTime = some time) ∨
  Restarted files path roster w s t

theorem EpochSettled.companions {index : CollectionIndex} {w : ω} {s t : Session}
    (settled : EpochSettled files path roster content p now earlier index w s t) :
    Companions files path roster (Dating p (now :: earlier)) w s t := by
  rcases settled with ⟨unstarted, -⟩ | restarted
  · exact unstarted.toCompanions
  · exact restarted.1.imp fun _ _ emptied => emptied.dating

/-- Once the epoch is settled, binding makes both keyrings ready. -/
theorem EpochSettled.ready {index : CollectionIndex} {w : ω} {s t : Session}
    (unrepeated : Unrepeated (now :: earlier))
    (settled : EpochSettled files path roster content p now earlier index w s t) (m : GlobalMetadata) :
    Companions files path roster (fun k l => Ready p (now :: earlier) m (content w) k ∧
      Ready p (now :: earlier) m (content w) l) w (s.keyBound index m) (t.keyBound index m) := by
  have companions := settled.companions
  have begun := companions.performedFreshStart_eq
  refine (companions.entering .keyRefresh).withKeyring ?_
  rw [begun]
  rcases settled with ⟨unstarted, time, listed, timed⟩ | ⟨restarted, performed⟩
  · rw [unstarted.unbegun, listed]
    exact ⟨ready_rebind unrepeated unstarted.keyrings.1 unstarted.same timed,
      ready_rebind unrepeated unstarted.keyrings.2 unstarted.same timed⟩
  · obtain ⟨first, second⟩ := restarted.keyrings
    rw [performed, first, second]
    exact ⟨ready_empty, ready_empty⟩

end Assertions

/-! ## The steps of a cycle -/

section Rules

variable {oracle : Oracle ω} {pre middle broken : ω → Session → Session → Prop}
  {post : α → ω → Session → Session → Prop}

/-- A program that goes the way of another from another state goes in accord as that one does. -/
theorem accords_of_course {program next : Program Session α} {f : Session → Session}
    (same : ∀ w s t, pre w s t →
      (program s).course oracle.alone w = (next (f s)).course oracle.alone w ∧
      (program t).course oracle.alone w = (next (f t)).course oracle.alone w)
    (holds : ∀ w s t, pre w s t → middle w (f s) (f t))
    (rest : next.Accords oracle middle post broken) : program.Accords oracle pre post broken := by
  intro w s t begun
  obtain ⟨first, second⟩ := same w s t begun
  have reached := rest w (f s) (f t) (holds w s t begun)
  unfold Run.Accords at reached ⊢
  rw [first, second]
  exact reached

theorem accords_enter_bind {state : CycleState} {next : Unit → Program Session α}
    (entering : ∀ w s t, pre w s t → middle w (s.entering state) (t.entering state))
    (rest : (next ()).Accords oracle middle post broken) :
    (enter state >>= next).Accords oracle pre post broken :=
  fun w s t begun => rest w _ _ (entering w s t begun)

theorem accords_report_bind {next : CycleReport → Program Session α}
    (same : ∀ w s t, pre w s t → t.cycle.getD .start = s.cycle.getD .start)
    (rest : ∀ r, (next r).Accords oracle (fun w s t => pre w s t ∧ s.cycle.getD .start = r) post
      broken) : (report >>= next).Accords oracle pre post broken :=
  Program.Accords.read_bind (fun s => s.cycle.getD .start) next same rest

theorem accords_checkpoint_bind {p : Profile} {next : Unit → Program Session α}
    (passing : ∀ w s t, pre w s t → s.cancelRequested = false ∧ t.cancelRequested = false)
    (rest : (next ()).Accords oracle pre post broken) :
    (checkpoint p >>= next).Accords oracle pre post broken := by
  have passed {w : ω} {s : Session} (wanted : s.cancelRequested = false) :
      ((checkpoint p >>= next) s).course oracle.alone w = (next () s).course oracle.alone w := by
    have unasked : ¬s.cancelRequested = true := by simp [wanted]
    apply takes_checkpoint_bind.mpr
    rw [if_neg unasked]
    exact Run.takes_course oracle.alone _ w
  refine accords_of_course (f := id) (fun w s t begun => ?_) (fun _ _ _ begun => begun) rest
  exact ⟨passed (passing w s t begun).1, passed (passing w s t begun).2⟩

end Rules

section Steps

variable {oracle : Oracle ω} {content : ω → Storage} {p : Profile} {key : Key} {history : List Storage}
  {now : Storage} {earlier : List Storage}

theorem accords_keyBound_bind {next : Program Session α} {index : CollectionIndex} {m : GlobalMetadata}
    {post : α → ω → Session → Session → Prop} {broken : ω → Session → Session → Prop}
    (unrepeated : Unrepeated (now :: earlier))
    (rest : next.Accords oracle (fun w s t => Companions files path roster
      (fun k l => Ready p (now :: earlier) m (content w) k ∧ Ready p (now :: earlier) m (content w) l)
      w s t) post broken) :
    (do
      enter .keyRefresh
      bindKeys index m
      next : Program Session α).Accords oracle
        (EpochSettled files path roster content p now earlier index) post broken := by
  refine accords_of_course (f := fun u => u.keyBound index m) (fun w s t _ => ?_)
    (fun w s t settled => settled.ready unrepeated m) rest
  exact ⟨takes_keyBound_bind.mpr (Run.takes_course oracle.alone _ w),
    takes_keyBound_bind.mpr (Run.takes_course oracle.alone _ w)⟩

variable (dependable : oracle.Dependable content files)

include dependable

/-- A save succeeds, and the file holds what was saved. -/
theorem accords_save (kind : Session → Session → Prop) (state : LocalState) :
    (StateFile.save (some path) state : Program Session Unit).Accords oracle (fun _ => kind)
      (fun _ w s t => kind s t ∧ StateFile.recalled (some path) (files w) = state)
      (fun _ _ _ => False) := by
  let temporary := StateFile.temporaryPath path
  let bytes := StateFile.contents state
  have writing : (Program.request (.writeFile temporary bytes) : Program Session _).Accords oracle
      (fun _ => kind) (fun reply w s t => reply = .ok () ∧ kind s t ∧ files w temporary = some bytes)
      fun _ _ _ => False := by
    apply Program.Accords.request
    intro w s t holds
    have written := dependable.written temporary bytes w
    exact ⟨written, holds, dependable.keeping.written temporary bytes w written⟩
  have replacing : (Program.request (.renameFile temporary path) : Program Session _).Accords oracle
      (fun w s t => kind s t ∧ files w temporary = some bytes)
      (fun reply w s t => reply = .ok () ∧ kind s t ∧
        StateFile.recalled (some path) (files w) = state) fun _ _ _ => False := by
    apply Program.Accords.request
    rintro w s t ⟨holds, held⟩
    have renamed := dependable.renamed temporary path w
    refine ⟨renamed, holds, ?_⟩
    have moved := (dependable.keeping.replaced temporary path w).resolve_right
      fun refused => refused.2 renamed
    rw [StateFile.recalled_of_found (moved.trans held)]
    exact LocalState.ofBytes_contents state
  refine .bind writing fun reply => ?_
  cases reply with
  | error fault => exact fun _ _ _ refused => nomatch refused.1
  | ok _ =>
      refine .bind (replacing.conseq (fun _ _ _ holds => holds.2) (fun _ _ _ _ holds => holds)
        fun _ _ _ holds => holds) fun reply => ?_
      cases reply with
      | error fault => exact fun _ _ _ refused => nomatch refused.1
      | ok _ => exact .pure fun _ _ _ holds => holds.2

/-! ### Fresh starts -/

theorem accords_saveReset (failures : List String) :
    (saveReset (some path) failures).Accords oracle
      (fun _ s t => Alike roster Emptied s t ∧ s.isSyncing = true ∧ s.performedFreshStart = true ∧
        s.book.localState = .empty)
      (fun _ => Restarted files path roster) (Companions files path roster (Dating p history)) := by
  have telling (failures : List String) : (tell failures).Accords oracle (Restarted files path roster)
      (fun _ => Restarted files path roster) (Companions files path roster (Dating p history)) := by
    unfold tell
    split
    · exact .pure fun _ _ _ holds => holds
    · exact .fail fun _ _ _ holds => holds.1.imp fun _ _ emptied => emptied.dating
  refine .attempt_bind (accords_save dependable _ .empty) (fun _ => ?_) fun e => ?_
  · refine (telling failures).conseq ?_ (fun _ _ _ _ holds => holds) fun _ _ _ holds => holds
    rintro w s t ⟨⟨alike, running, begun, forgotten⟩, recalled⟩
    exact ⟨{ alike with running := running, recalled := recalled.trans forgotten.symm }, begun⟩
  · exact fun _ _ _ impossible => impossible.elim

theorem lasting_renewing (keys : Keyring → Keyring → Prop) :
    Lasting oracle (fun r => r.isFileWrite = false) (Renewing files path roster keys) :=
  fun r w s t other renewing =>
    ⟨lasting_companions dependable.keeping keys r w s t other renewing.1, renewing.2⟩

/-- Once the server is wiped, both sessions begin the same epoch, or both fail in the same step. -/
theorem accords_republish (kept : p.config.statePath = some path) :
    (onBook (republish (.ofConfig p.config) key roster)).Accords oracle
      (Renewing files path roster (Dating p history)) (fun _ => Restarted files path roster)
      (Companions files path roster (Dating p history)) := by
  rw [onBook_republish]
  have publish : (publishAnew (.ofConfig p.config) key : Program Session _).Accords oracle
      (Renewing files path roster (Dating p history))
      (fun _ => Renewing files path roster (Dating p history))
      (Companions files path roster (Dating p history)) :=
    (pairs_publishAnew (lasting_renewing dependable _) (.ofConfig p.config) key fun _ =>
      Request.isFileWrite_eq_false_of_isPublication).conseq
      (fun _ _ _ holds => holds) (fun _ _ _ _ holds => holds) fun _ _ _ holds => holds.1
  have reset : (resetAll roster : Program Session _).Accords oracle (Restarted files path roster)
      (fun _ => Restarted files path roster) (Companions files path roster (Dating p history)) :=
    (pairs_resetAll (lasting_renewing dependable _) (fun _ => rfl) roster).conseq
      (fun _ _ _ holds => holds) (fun _ _ _ _ holds => holds)
      fun _ _ _ holds => holds.1.imp fun _ _ emptied => emptied.dating
  have empties (w : ω) (s t : Session) (renewing : Renewing files path roster (Dating p history) w s t) :
      Restarted files path roster w (s.withKeyring .empty) (t.withKeyring .empty) :=
    ⟨renewing.1.withKeyring ⟨rfl, rfl⟩, renewing.2⟩
  have forgets (w : ω) (s t : Session) (restarted : Restarted files path roster w s t) :
      Alike roster Emptied s.forgettingRecords t.forgettingRecords ∧
        s.forgettingRecords.isSyncing = true ∧ s.forgettingRecords.performedFreshStart = true ∧
        s.forgettingRecords.book.localState = .empty :=
    ⟨{ restarted.1.toAlike with localState := rfl }, restarted.1.running, restarted.2, rfl⟩
  have file : (FreshStartPlan.ofConfig p.config).file = some path := kept
  refine .bind publish fun m => .modify_bind empties (.note_bind (.bind reset fun failures => ?_))
  rw [file]
  refine .modify_bind forgets (.bind (accords_saveReset dependable failures) fun _ => .note_bind ?_)
  exact .pure fun _ _ _ holds => holds

theorem accords_freshStart (kept : p.config.statePath = some path) (reason : FreshStartReason) :
    (freshStart p key reason).Accords oracle (Companions files path roster (Dating p history))
      (fun _ => Restarted files path roster) (Companions files path roster (Dating p history)) := by
  have performing : (onBook (perform (.ofConfig p.config) key roster)).Accords oracle
      (Renewing files path roster (Dating p history)) (fun _ => Restarted files path roster)
      (Companions files path roster (Dating p history)) := by
    rw [perform_eq, onBook_bind, onBook_note, onBook_bind, onBook_request]
    have wiping : (Program.request (wipeRequest p.limit) : Program Session _).Accords oracle
        (Renewing files path roster (Dating p history))
        (fun _ => Renewing files path roster (Dating p history))
        (Companions files path roster (Dating p history)) :=
      .request fun w s t renewing => lasting_renewing dependable _ _ w s t rfl renewing
    refine .note_bind (.bind wiping fun reply => ?_)
    cases Program.outcome (FreshStartPlan.ofConfig p.config).limit "server wipe" reply with
    | ok _ => exact accords_republish dependable kept
    | error e =>
        show (Program.note (.stepFailed .wipe e) >>= fun _ => Program.fail e : Program Session _).Accords
          oracle _ _ _
        exact .note_bind (.fail fun _ _ _ holds => holds.1)
  -- Both sessions list the same synchronizers, so what begins in them is the same program.
  refine accords_of_course (f := fun s => s.startingAfresh reason) (fun w s t companions => ?_)
    (fun w s t companions => ?_) performing
  · obtain ⟨first, second⟩ := companions.rosters
    constructor
    · rw [← first]
      rfl
    · rw [← second]
      rfl
  · exact ⟨companions.startingAfresh reason, afresh_startingAfresh reason companions.running⟩

/-! ### Before the keys are secured -/

theorem lasting_unstarted : Lasting oracle (fun r => r.isFileWrite = false ∧ r.isWrite = false)
    (Unstarted files path roster content p now earlier) := by
  rintro r w s t ⟨file, write⟩ unstarted
  have companions := lasting_companions dependable.keeping _ r w s t file unstarted.toCompanions
  exact { companions with
    unbegun := unstarted.unbegun
    same := (dependable.honest.others r w write).trans unstarted.same }

/-- The index shows the time that the keys have on the server. -/
theorem accords_fetchIndex :
    (fetchIndex p.limit).Accords oracle (Unstarted files path roster content p now earlier)
      (fun index w s t => Unstarted files path roster content p now earlier w s t ∧
        index.modified? cryptoCollection = now.keysTime)
      (Companions files path roster (Dating p (now :: earlier))) := by
  rw [fetchIndex_eq]
  have asking : (Program.request (indexRequest p.limit) : Program Session _).Accords oracle
      (Unstarted files path roster content p now earlier)
      (fun reply w s t => Unstarted files path roster content p now earlier w s t ∧
        ∀ index, indexFrom p.limit reply = .ok index →
          index.modified? cryptoCollection = now.keysTime)
      (Companions files path roster (Dating p (now :: earlier))) := by
    apply Program.Accords.request
    intro w s t unstarted
    refine ⟨lasting_unstarted dependable _ w s t ⟨rfl, rfl⟩ unstarted, fun index found => ?_⟩
    rw [dependable.honest.indexFrom] at found
    rw [← Except.ok.inj found]
    exact Storage.keysTime_congr unstarted.same
  have telling (reply : (indexRequest p.limit).Reply) :
      (Program.ofExcept (indexFrom p.limit reply) : Program Session _).Accords oracle
        (fun w s t => Unstarted files path roster content p now earlier w s t ∧
          ∀ index, indexFrom p.limit reply = .ok index →
            index.modified? cryptoCollection = now.keysTime)
        (fun index w s t => Unstarted files path roster content p now earlier w s t ∧
          index.modified? cryptoCollection = now.keysTime)
        (Companions files path roster (Dating p (now :: earlier))) :=
    .ofExcept (fun index _ _ _ found holds => ⟨holds.1, holds.2 index found⟩)
      fun _ _ _ holds => holds.1.toCompanions
  exact .bind asking fun reply => .bind (telling reply) fun index =>
    .note_bind (.pure fun _ _ _ holds => holds)

/-- Only an index that lists the bookkeeping is evaluated to an epoch. -/
theorem accords_evaluateRemote (index : CollectionIndex) :
    (evaluateRemote p index).Accords oracle (Unstarted files path roster content p now earlier)
      (fun evaluated w s t => Unstarted files path roster content p now earlier w s t ∧
        ∀ m, evaluated = .current m → index.ListsBookkeeping)
      (Companions files path roster (Dating p (now :: earlier))) := by
  unfold evaluateRemote
  split
  · exact .note_bind (.pure fun _ _ _ holds => ⟨holds, nofun⟩)
  · rename_i consistent
    have listed := CollectionIndex.evaluate_eq_consistent.mp consistent
    rw [fetchMetadata_eq]
    have fetching : (Program.request (metadataRequest p.limit) >>= fun reply =>
        Program.ofExcept (metadataFrom p.limit reply) : Program Session _).Pairs oracle
          (Unstarted files path roster content p now earlier) :=
      .bind (.request (lasting_unstarted dependable) ⟨rfl, rfl⟩) fun _ => .ofExcept _
    have deciding (result : Except SyncError (Decision × Option GlobalMetadata)) :
        (Program.ofExcept result : Program Session _).Accords oracle
          (Unstarted files path roster content p now earlier)
          (fun _ => Unstarted files path roster content p now earlier)
          (Companions files path roster (Dating p (now :: earlier))) :=
      .ofExcept (fun _ _ _ _ _ holds => holds) fun _ _ _ holds => holds.toCompanions
    refine .attempt_bind fetching (fun m => ?_) fun e => ?_
    all_goals
      refine .bind (deciding _) fun evaluated => ?_
      split
      · exact .pure fun _ _ _ holds => ⟨holds, fun _ _ => listed⟩
      · exact .note_bind (.pure fun _ _ _ holds => ⟨holds, nofun⟩)
      · exact .pure fun _ _ _ holds => ⟨holds, nofun⟩

theorem pairs_resetForEpoch (synchronizers : List Synchronizer) :
    (resetForEpoch synchronizers).Pairs oracle (Unstarted files path roster content p now earlier) := by
  induction synchronizers with
  | nil => exact .pure ()
  | cons c rest ih =>
      refine .bind (.request (lasting_unstarted dependable) ⟨rfl, rfl⟩) fun reply => ?_
      cases reply with
      | ok _ => exact ih
      | error e => exact .bind (.note _) fun _ => .fail e

/-- Both sessions see a new epoch, or neither does. -/
theorem pairs_observeEpoch (m : GlobalMetadata) :
    (observeEpoch m).Pairs oracle (Unstarted files path roster content p now earlier) := by
  have changed : (observeEpoch m).Accords oracle
      (fun w s t => Unstarted files path roster content p now earlier w s t ∧
        m.epochChanged s.book.localState = true)
      (fun _ => Unstarted files path roster content p now earlier)
      (Unstarted files path roster content p now earlier) := by
    have course {w : ω} {u : Session} (listed : u.synchronizers = roster)
        (changed : m.epochChanged u.book.localState = true) : (observeEpoch m u).course oracle.alone w =
          (resetForEpoch roster u.forgetting).course oracle.alone w := by
      apply takes_observeEpoch.mpr
      rw [if_pos changed, listed]
      exact Run.takes_course oracle.alone _ w
    refine accords_of_course (f := forgetting) (fun w s t holds => ?_)
      (fun w s t holds => holds.1.forgetting) (pairs_resetForEpoch dependable roster)
    obtain ⟨unstarted, changed⟩ := holds
    refine ⟨course unstarted.rosters.1 changed, course unstarted.rosters.2 ?_⟩
    rw [unstarted.localState]
    exact changed
  have unchanged : (observeEpoch m).Accords oracle
      (fun w s t => Unstarted files path roster content p now earlier w s t ∧
        m.epochChanged s.book.localState = false)
      (fun _ => Unstarted files path roster content p now earlier)
      (Unstarted files path roster content p now earlier) := by
    have course {w : ω} {u : Session} (unchanged : m.epochChanged u.book.localState = false) :
        (observeEpoch m u).course oracle.alone w =
          ((pure () : Program Session Unit) u).course oracle.alone w := by
      apply takes_observeEpoch.mpr
      rw [if_neg (by simp [unchanged])]
      exact ⟨rfl, rfl, rfl⟩
    have still : (pure () : Program Session Unit).Pairs oracle
        (Unstarted files path roster content p now earlier) := .pure ()
    refine accords_of_course (f := id) (fun w s t holds => ?_) (fun w s t holds => holds.1) still
    obtain ⟨unstarted, unchanged⟩ := holds
    refine ⟨course unchanged, course ?_⟩
    rw [unstarted.localState]
    exact unchanged
  intro w s t unstarted
  cases seen : m.epochChanged s.book.localState with
  | true => exact changed w s t ⟨unstarted, seen⟩
  | false => exact unchanged w s t ⟨unstarted, seen⟩

/-! ### Securing the keys -/

/-- A keyring that is ready comes to the keys of the server, if it is not there already. -/
theorem course_refreshKeys (usable : p.sealingKey = .ok key) {w : ω} {s : Session} {m : GlobalMetadata}
    (ready : Ready p history m (content w) s.book.keyring) :
    let c := (refreshKeys p s).course oracle.alone w
    c.world = w ∧ c.ending = s.refreshed ((content w).bundle key) := by
  cases held : s.book.keyring.bundle with
  | some bundle =>
      have loaded : s.book.keyring.isLoaded = true := by simp [isLoaded, held]
      obtain ⟨key', usable', opened⟩ := ready.opens bundle held
      obtain rfl : key' = key := Except.ok.inj (usable'.symm.trans usable)
      rw [refreshKeys_run_loaded usable loaded, opened]
      have same : s.withKeyring { s.book.keyring with bundle := some bundle } = s := by
        rw [← held]
        rfl
      exact ⟨rfl, congrArg (Ending.returned ()) same.symm⟩
  | none =>
      have taken : (refreshKeys p).Takes oracle.alone s w _ _ _ :=
        (takes_refreshKeys_absent usable held ready.epoch).mpr ⟨rfl, rfl, rfl⟩
      have taken : (refreshKeys p s).course oracle.alone w = _ := taken
      rw [taken, ← dependable.honest.bundleFrom p.limit key w]
      exact ⟨dependable.unmoved _ w rfl, rfl⟩

/-- Two keyrings that are ready come to share their keys, or there are none to be had. -/
theorem accords_refreshKeys (usable : p.sealingKey = .ok key) (m : GlobalMetadata) :
    (refreshKeys p).Accords oracle
      (fun w s t => Companions files path roster
        (fun k l => Ready p history m (content w) k ∧ Ready p history m (content w) l) w s t)
      (fun _ => Companions files path roster (Shared p history))
      (Companions files path roster (Dating p history)) := by
  intro w s t companions
  obtain ⟨first, second⟩ := companions.keyrings
  obtain ⟨sameWorld, refreshed⟩ := course_refreshKeys dependable usable first
  obtain ⟨sameWorld', refreshed'⟩ := course_refreshKeys dependable usable second
  unfold Run.Accords
  dsimp only
  rw [sameWorld, sameWorld', refreshed, refreshed']
  refine ⟨rfl, ?_⟩
  cases opened : (content w).bundle key with
  | error e => exact ⟨rfl, companions.imp fun _ _ ready => ⟨ready.1.dated, ready.2.dated⟩⟩
  | ok bundle =>
      have opens : (content w).Opens p.keyAccess bundle := ⟨key, usable, opened⟩
      have sharing : Sharing p history bundle { s.book.keyring with bundle := some bundle }
          { t.book.keyring with bundle := some bundle } :=
        ⟨⟨rfl, rfl⟩, first.refills bundle opens, second.refills bundle opens⟩
      exact ⟨rfl, companions.withKeyring ⟨bundle, sharing⟩⟩

theorem accords_renewKeys (kept : p.config.statePath = some path) (usable : p.sealingKey = .ok key)
    (unrepeated : Unrepeated (now :: earlier)) (index : CollectionIndex) :
    (renewKeys p key index).Accords oracle
      (Companions files path roster (Dating p (now :: earlier)))
      (fun _ => Companions files path roster (Shared p (now :: earlier)))
      (Companions files path roster (Dating p (now :: earlier))) := by
  have restarting : (freshStart p key .unusableKeys).Accords oracle
      (Companions files path roster (Dating p (now :: earlier)))
      (fun _ => EpochSettled files path roster content p now earlier index)
      (Companions files path roster (Dating p (now :: earlier))) :=
    (accords_freshStart dependable kept .unusableKeys).conseq (fun _ _ _ holds => holds)
      (fun _ _ _ _ holds => .inr holds) fun _ _ _ holds => holds
  refine .bind restarting fun m => accords_keyBound_bind unrepeated ?_
  exact .bind (accords_refreshKeys dependable usable m) fun _ => .pure fun _ _ _ holds => holds

/-- A session that waits for its key comes out of the wait like one that has it. -/
theorem course_sealingKey (s : Session) (w : ω) :
    let c := (sealingKey p s).course oracle.alone w
    c.world = w ∧ c.ending = match p.sealingKey with
      | .ok key => .returned key s.keyed
      | .error e => .failed (.crypto e) s := by
  intro c
  have taken : (sealingKey p >>= fun key => pure key).Takes oracle.alone s w c.exchanges c.ending c.world := by
    rw [bind_pure]
    exact Run.takes_course ..
  obtain ⟨wait, t, world, rest, awaits, -, continued⟩ := takes_sealingKey_bind.mp taken
  obtain ⟨rfl, rfl⟩ := awaits.alone
  have still : oracle.keyWorld t.keyDerived w = w := by
    unfold Oracle.keyWorld
    split
    · rfl
    · exact dependable.unmoved .deriveKey w rfl
  cases usable : p.sealingKey with
  | ok key =>
      simp only [usable] at continued
      obtain ⟨-, ended, reached⟩ := Program.takes_pure.mp continued
      exact ⟨reached.trans still, ended⟩
  | error e =>
      simp only [usable] at continued
      exact ⟨continued.2.2.trans still, continued.2.1⟩

/-- Of two sessions one may have derived the key before. -/
theorem accords_sealingKey {pre broken : ω → Session → Session → Prop}
    (keyed : ∀ w s t, pre w s t → pre w s.keyed t.keyed) (fails : ∀ w s t, pre w s t → broken w s t) :
    (sealingKey p).Accords oracle pre (fun key w s t => pre w s t ∧ p.sealingKey = .ok key) broken := by
  intro w s t holds
  obtain ⟨stays, first⟩ := course_sealingKey (p := p) dependable s w
  obtain ⟨remains, second⟩ := course_sealingKey (p := p) dependable t w
  refine ⟨remains.trans stays.symm, ?_⟩
  rw [first, second, stays]
  cases usable : p.sealingKey with
  | ok key => exact ⟨rfl, keyed w s t holds, rfl⟩
  | error e => exact ⟨rfl, fails w s t holds⟩

/-- Both sessions come to share their keys, or both fail. -/
theorem accords_secureKeys (kept : p.config.statePath = some path) (usable : p.sealingKey = .ok key)
    (unrepeated : Unrepeated (now :: earlier)) (index : CollectionIndex) (m : GlobalMetadata) :
    (secureKeys p key index m).Accords oracle
      (EpochSettled files path roster content p now earlier index)
      (fun _ => Companions files path roster (Shared p (now :: earlier)))
      (Companions files path roster (Dating p (now :: earlier))) := by
  rw [secureKeys_eq]
  refine accords_keyBound_bind unrepeated (.attempt_bind (accords_refreshKeys dependable usable m)
    (fun _ => .pure fun _ _ _ holds => holds) fun e => ?_)
  refine accords_report_bind (fun _ _ _ companions => companions.report_eq) fun r => ?_
  split
  · exact .note_bind ((accords_renewKeys dependable kept usable unrepeated index).conseq
      (fun _ _ _ holds => holds.1) (fun _ _ _ _ holds => holds) fun _ _ _ holds => holds)
  · exact .fail fun _ _ _ holds => holds.1

end Steps

end Cycle

end Session

end SealedSync
