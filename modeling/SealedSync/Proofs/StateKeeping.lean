import SealedSync.Proofs.ResetDuty
import SealedSync.Proofs.ServerWrites
import SealedSync.Proofs.StateRoundTrip

/-!
# The state file and the records

A fresh start drops the records before it saves them, while a commit saves them before it replaces them.
Either way they are in the file as long as the last save succeeded: whoever loads the file then, in a
cycle or between cycles, finds the records of the session.
-/
namespace SealedSync

variable {ω σ α : Type}

/-- The exchanges by which states are saved. -/
def fileWrites (exchanges : List (Exchange σ)) : List (Exchange σ) :=
  exchanges.filter (·.request.isFileWrite)

/-- The exchange completes a save. -/
def Exchange.completesSave : Exchange σ → Bool
  | ⟨.renameFile .., _, .ok (), _⟩ => true
  | _ => false

/-- The last save that was attempted succeeded, if there was one. -/
def SavedLast (exchanges : List (Exchange σ)) : Prop :=
  ∀ x, (fileWrites exchanges).getLast? = some x → x.completesSave = true

theorem savedLast_append_other {xs : List (Exchange σ)} {x : Exchange σ}
    (other : x.request.isFileWrite = false) : SavedLast (xs ++ [x]) ↔ SavedLast xs := by
  rw [SavedLast, fileWrites, List.filter_append, List.filter_cons_of_neg (by simp [other]),
    List.filter_nil, List.append_nil]
  exact Iff.rfl

theorem savedLast_append_write {xs : List (Exchange σ)} {x : Exchange σ}
    (write : x.request.isFileWrite = true) : SavedLast (xs ++ [x]) ↔ x.completesSave = true := by
  have last : [x].filter (·.request.isFileWrite) = [x] := List.filter_cons_of_pos write
  rw [SavedLast, fileWrites, List.filter_append, last, List.getLast?_concat]
  simp

namespace Session

open Program FreshStart

variable {env : Environment ω Session} {files : ω → String → Option (List UInt8)} {path : String}
  {p : Profile} {key : Key}

/-- If the last save succeeded, the file holds the records. -/
def Mirrored (files : ω → String → Option (List UInt8)) (path : String)
    (world : ω × List (Exchange Session)) (s : Session) : Prop :=
  SavedLast world.2 → StateFile.recalled (some path) (files world.1) = s.book.localState

/-- Whoever asks for anything but the steps of a save has records that are in the file. -/
abbrev mirroring (files : ω → String → Option (List UInt8)) (path : String) :
    Asking (ω × List (Exchange Session)) Session :=
  fun world s r => r.isFileWrite = false → Mirrored files path world s

theorem steady_mirrored : Steady (Mirrored files path) where
  keyring _ _ _ mirrored := mirrored
  keyed _ _ mirrored := mirrored
  report _ _ _ _ mirrored := mirrored

theorem mirrored_of_unsaved {world : ω × List (Exchange Session)} {s : Session}
    (unsaved : ¬SavedLast world.2) : Mirrored files path world s :=
  fun saved => absurd saved unsaved

section Answers

variable (bystanding : Bystanding env) (keeping : env.toOracle.Files files)

include bystanding keeping

theorem stable_mirrored : Stable (env.answering.only fun r => r.isFileWrite = false)
    (Mirrored files path) := by
  rintro r world s reply later resumed mirrored ⟨other, -, rfl, rfl⟩ saved
  have unwritten : ∀ x ∈ [env.exchange r s world.1], x.request.isFileWrite = false :=
    List.forall_mem_singleton.mpr other
  have same : files (env.next r world.1) = files world.1 := keeping.quiet unwritten
  rw [savedLast_append_other other] at saved
  dsimp only
  rw [same, bystanding.localState]
  exact mirrored saved

/-- While a save is under way, the last one has not succeeded yet. -/
theorem assures_writeFile (kind : LocalState → Prop) (temporary : String) (bytes : List UInt8) :
    (request (.writeFile temporary bytes) : Program Session _).Assures env.answering
      (mirroring files path) (fun _ s => kind s.book.localState)
      (fun reply world s => (reply = .ok () → files world.1 temporary = some bytes) ∧
        ¬SavedLast world.2 ∧ kind s.book.localState)
      (fun world s => ¬SavedLast world.2 ∧ kind s.book.localState) := by
  refine .request (fun _ _ _ impossible => by cases impossible) ?_
  rintro world s reply later resumed holds ⟨rfl, rfl, rfl⟩
  refine ⟨keeping.written temporary bytes world.1, ?_, ?_⟩
  · rw [savedLast_append_write rfl]
    exact Bool.false_ne_true
  · rw [bystanding.localState]
    exact holds

/-- The bytes of a state are put in place of the state file, or the save has not succeeded. -/
theorem assures_renameFile (kind : LocalState → Prop) (temporary : String) (state : LocalState) :
    (request (.renameFile temporary path) : Program Session _).Assures env.answering
      (mirroring files path)
      (fun world s => files world.1 temporary = some (StateFile.contents state) ∧
        kind s.book.localState)
      (fun reply world s => (reply = .ok () → StateFile.recalled (some path) (files world.1) = state) ∧
        (reply ≠ .ok () → ¬SavedLast world.2) ∧ kind s.book.localState)
      (fun world s => ¬SavedLast world.2 ∧ kind s.book.localState) := by
  refine .request (fun _ _ _ impossible => by cases impossible) ?_
  rintro world s reply later resumed ⟨held, holds⟩ ⟨rfl, rfl, rfl⟩
  refine ⟨fun replaced => ?_, fun refused => ?_, ?_⟩
  · rcases keeping.replaced temporary path world.1 with moved | ⟨-, failed⟩
    · rw [StateFile.recalled_of_found (moved.trans held)]
      exact LocalState.ofBytes_contents state
    · exact absurd replaced failed
  · rw [savedLast_append_write rfl]
    intro completes
    have exchanged : env.exchange (.renameFile temporary path) s world.1 =
        ⟨.renameFile temporary path, s, env.reply (.renameFile temporary path) world.1,
          env.touch (.renameFile temporary path) world.1 s⟩ := rfl
    rw [exchanged] at completes
    generalize env.reply (.renameFile temporary path) world.1 = reply at completes refused
    match reply with
    | .ok () => exact refused rfl
    | .error _ => cases completes
  · rw [bystanding.localState]
    exact holds

/-- A save that succeeds is the last one, and the file holds what was saved. -/
theorem assures_save (kind : LocalState → Prop) (state : LocalState) :
    (StateFile.save (some path) state : Program Session Unit).Assures env.answering
      (mirroring files path) (fun _ s => kind s.book.localState)
      (fun _ world s => StateFile.recalled (some path) (files world.1) = state ∧
        kind s.book.localState)
      (fun world s => ¬SavedLast world.2 ∧ kind s.book.localState) := by
  refine .bind (assures_writeFile bystanding keeping kind _ _) fun written => ?_
  cases written with
  | error fault => exact .fail fun _ _ holds => holds.2
  | ok _ =>
      refine Assures.bind ((assures_renameFile bystanding keeping kind _ state).conseq
        (fun _ _ _ asked => asked) (fun _ _ holds => ⟨holds.1 rfl, holds.2.2⟩)
        (fun _ _ _ holds => holds) fun _ _ holds => holds) fun renamed => ?_
      cases renamed with
      | error fault => exact .fail fun _ _ holds => ⟨holds.2.1 nofun, holds.2.2⟩
      | ok _ => exact .pure fun _ _ holds => ⟨holds.1 rfl, holds.2.2⟩

/-- A session that has dropped its records has them in the file once they are saved. -/
theorem assures_saveReset (failures : List String) :
    (saveReset (some path) failures).Assures env.answering (mirroring files path)
      (fun _ s => s.book.localState = .empty) (fun _ => Mirrored files path) (Mirrored files path) := by
  have telling (failures : List String) : (tell failures).Assures env.answering (mirroring files path)
      (Mirrored files path) (fun _ => Mirrored files path) (Mirrored files path) := by
    unfold tell
    split
    · exact .pure fun _ _ holds => holds
    · exact .fail fun _ _ holds => holds
  refine .attempt_bind (assures_save bystanding keeping (· = .empty) .empty) (fun _ => ?_) fun e =>
    .note_bind ?_
  · exact (telling failures).conseq (fun _ _ _ asked => asked)
      (fun _ _ holds _ => holds.1.trans holds.2.symm) (fun _ _ _ holds => holds) fun _ _ holds => holds
  · exact (telling _).conseq (fun _ _ _ asked => asked) (fun _ _ holds => mirrored_of_unsaved holds.1)
      (fun _ _ _ holds => holds) fun _ _ holds => holds

theorem phases_mirrored (path : String) : Phases env.answering (mirroring files path) (fun r => r.isFileWrite = false)
    (Mirrored files path) (Mirrored files path) (Mirrored files path) where
  stableEarly := stable_mirrored bystanding keeping
  stable := stable_mirrored bystanding keeping
  steadyEarly := steady_mirrored
  steady := steady_mirrored
  harmless _ _ other := other
  permits _ _ _ mirrored _ _ := mirrored
  begun _ _ mirrored := mirrored
  unstarted _ _ mirrored _ := mirrored
  breaks _ _ mirrored := mirrored

variable (kept : p.config.statePath = some path)

include kept

theorem freshStart_mirrored (reason : FreshStartReason) :
    (freshStart p key reason).Assures env.answering (mirroring files path) (Mirrored files path)
      (fun _ => Mirrored files path) (Mirrored files path) := by
  have phases := phases_mirrored bystanding keeping path
  have republishing (synchronizers : List Synchronizer) :
      (onBook (republish (.ofConfig p.config) key synchronizers)).Assures env.answering
        (mirroring files path) (Mirrored files path) (fun _ => Mirrored files path)
        (Mirrored files path) := by
    have forgotten (world : ω × List (Exchange Session)) (s : Session) (_ : Mirrored files path world s) :
        s.forgettingRecords.book.localState = .empty := rfl
    have saving (failures : List String) : (saveReset p.config.statePath failures).Assures env.answering
        (mirroring files path) (fun _ s => s.book.localState = .empty) (fun _ => Mirrored files path)
        (Mirrored files path) :=
      kept ▸ assures_saveReset bystanding keeping failures
    have publishing : (publishAnew (.ofConfig p.config) key).Assures env.answering (mirroring files path)
        (Mirrored files path) (fun _ => Mirrored files path) (Mirrored files path) :=
      phases.of_inv (sustains_publishAnew phases.stable fun _ publishes =>
        Request.isFileWrite_eq_false_of_isPublication publishes.isPublication)
    exact assures_republish_of publishing (fun world s => phases.steady.keyring world s .empty)
      (phases.of_inv (sustains_resetAll phases.stable (fun _ => rfl) synchronizers)) forgotten saving
  exact assures_freshStart_of (fun _ _ mirrored => mirrored) (phases.of_inv (.request rfl phases.stable))
    (fun _ _ _ _ _ mirrored => mirrored) fun _ _ synchronizers => republishing synchronizers

theorem commit_mirrored (index : CollectionIndex) (m : GlobalMetadata) :
    (commit p index m).Assures env.answering (mirroring files path) (Mirrored files path)
      (fun _ => Mirrored files path) (Mirrored files path) := by
  have phases := phases_mirrored bystanding keeping path
  refine .bind (phases.of_inv sustains_report) fun r => ?_
  refine .bind (phases.of_inv (.request rfl phases.stable)) fun now => ?_
  let next : LocalState :=
    ⟨some m.syncId, if r.performedFreshStart then none else some index.fingerprint, some now⟩
  have saving : (StateFile.save (some path) next : Program Session Unit).Assures env.answering
      (mirroring files path) (Mirrored files path)
      (fun _ world _ => StateFile.recalled (some path) (files world.1) = next) (Mirrored files path) :=
    (assures_save bystanding keeping (fun _ => True) next).conseq (fun _ _ _ asked => asked)
      (fun _ _ _ => trivial) (fun _ _ _ holds => holds.1) fun _ _ holds => mirrored_of_unsaved holds.1
  rw [kept]
  refine .bind saving fun _ => ?_
  have recorded (world : ω × List (Exchange Session)) (s : Session)
      (saved : StateFile.recalled (some path) (files world.1) = next) :
      Mirrored files path world { s with book := { s.book with localState := next } } :=
    fun _ => saved
  refine .modify_bind recorded ?_
  exact fun world s mirrored => phases.steady.report world s _ (fun _ => rfl) mirrored

/-- A cycle that finds its records in the file leaves them there, and has them there whenever it asks
for anything but the steps of a save. -/
theorem sync_mirrored {s : Session} {before after : ω} {past xs : List (Exchange Session)}
    {ending : Ending Session CycleReport} (taken : (sync p).Takes env s before xs ending after)
    (mirrored : Mirrored files path (before, past) s) :
    Mirrored files path (after, past ++ xs) ending.state ∧
      ∀ head x tail, xs = head ++ x :: tail → x.request.isFileWrite = false →
        Mirrored files path (env.world before head, past ++ head) x.asked := by
  cases busy : s.isSyncing with
  | true =>
      obtain ⟨rfl, rfl, rfl⟩ := (takes_sync_refused busy).mp taken
      rw [List.append_nil]
      exact ⟨mirrored, fun head x tail same => by simp at same⟩
  | false =>
      obtain ⟨inner, run, rfl⟩ := (takes_sync busy).mp taken
      have cycle := (phases_mirrored bystanding keeping path).assures_runCycle
        (fun key reason => freshStart_mirrored bystanding keeping kept reason)
        (commit_mirrored bystanding keeping kept)
      have begun : Mirrored files path (before, past) s.starting := mirrored
      obtain ⟨last, asked⟩ := cycle.exchanged begun run
      refine ⟨?_, asked⟩
      cases inner with
      | returned _ t => exact last
      | failed e t => exact last

end Answers

/-! ## All cycles of a session -/

/-- All that is exchanged in the cycles before that of a number. -/
def exchangedBefore (env : Environment ω Session) (p : Profile) (s : Nat → Session) (w : Nat → ω) :
    Nat → List (Exchange Session)
  | 0 => []
  | n + 1 => exchangedBefore env p s w n ++ (courseAt env p s w n).exchanges

/-- What is loaded from a file. -/
def loaded (oracle : Oracle ω) (file : StateFile) (w : ω) : Ending Unit LocalState :=
  ((StateFile.load file : Program Unit LocalState) ()).course oracle.alone w |>.ending

theorem loaded_eq {oracle : Oracle ω} (keeping : oracle.Files files) (file : StateFile) (w : ω) :
    loaded oracle file w = .returned (file.recalled (files w)) () :=
  (keeping.takes_load (Run.takes_course oracle.alone (StateFile.load file ()) w)).1

/-- A load reads a file at most. -/
theorem keeps_load {kind : σ → Prop} {allowed : Request → Prop}
    (reading : ∀ path, allowed (.readFile path)) (file : StateFile) :
    (StateFile.load file : Program σ LocalState).Keeps kind allowed := by
  cases file with
  | none => exact .pure _
  | some path =>
      refine .bind (.request (reading path)) fun reply => ?_
      split
      · exact .bind (.note _) fun _ => .pure _
      · exact .fail _
      · split
        · exact .pure _
        · exact .bind (.note _) fun _ => .pure _

/-- Whoever opens a session reads a file at most. -/
theorem keeps_begin {allowed : Request → Prop} (reading : ∀ path, allowed (.readFile path))
    (credentials : Credentials) (config : SyncConfig) :
    (begin credentials config).Keeps (fun _ => True) allowed :=
  .bind (.ofExcept _) fun _ => .bind (keeps_load reading _) fun _ => .bind (.note _) fun _ => .pure _

/-- A session is opened without writing a file. -/
theorem begin_unwritten {oracle : Oracle ω} {credentials : Credentials} {config : SyncConfig}
    {before after : ω} {opening : List (Exchange Unit)} {ending : Ending Unit (Profile × Session)}
    (opened : (begin credentials config).Takes oracle.alone () before opening ending after) :
    ∀ x ∈ opening, x.request.isFileWrite = false := by
  have kept : (begin credentials config).Keeps (fun _ => True) fun r => r.isFileWrite = false :=
    keeps_begin (fun _ => rfl) credentials config
  exact fun x member => ((kept.takes trivial (fun _ _ _ _ => trivial) opened).1 x member).2.1

/-- A session begins with the records in its file. -/
theorem begin_mirrored {oracle : Oracle ω} (keeping : oracle.Files files) {credentials : Credentials}
    {config : SyncConfig} {first : Session} {before after : ω} {opening : List (Exchange Unit)}
    (opened : (begin credentials config).Takes oracle.alone () before opening
      (.returned (p, first) ()) after) :
    p.config = config ∧ first.book.localState = StateFile.recalled config.statePath (files after) := by
  have begins := (takes_begin keeping opened).1
  have quiet : files after = files before := by
    rw [Takes.world_eq opened]
    exact keeping.quiet (begin_unwritten opened)
  cases valid : config.validate with
  | error e =>
      rw [valid] at begins
      cases begins
  | ok _ =>
      rw [valid] at begins
      cases begins
      rw [quiet]
      exact ⟨rfl, rfl⟩

/-- If the last save succeeded, the records are what is loaded from the file. -/
def Loadable (oracle : Oracle ω) (file : StateFile) (world : ω × List (Exchange Session)) (s : Session) :
    Prop :=
  SavedLast world.2 → loaded oracle file world.1 = .returned s.book.localState ()

theorem loadable_iff {oracle : Oracle ω} (keeping : oracle.Files files)
    {world : ω × List (Exchange Session)} {s : Session} :
    Loadable oracle (some path) world s ↔ Mirrored files path world s := by
  rw [Loadable, loaded_eq keeping]
  exact ⟨fun holds saved => (Ending.returned.inj (holds saved)).1,
    fun holds saved => congrArg (Ending.returned · ()) (holds saved)⟩

/-- Some cycles of a session that was opened with the state in a file. Nobody else touches the file, and
nothing but the cycles themselves touches the records. -/
structure Opened (env : Environment ω Session) (files : ω → String → Option (List UInt8)) (p : Profile)
    (s : Nat → Session) (w : Nat → ω) (last : Nat) : Prop where
  opening : ∃ credentials config before exchanges first after,
    (begin credentials config).Takes env.toOracle.alone () before exchanges
        (.returned (p, first) ()) after ∧
      files (w 0) = files after ∧ (s 0).book.localState = first.book.localState
  succession : Succession env p s w last
  files : ∀ n < last, files (w (n + 1)) = files (courseAt env p s w n).world

section Cycles

variable {s : Nat → Session} {w : Nat → ω} {last : Nat}

/-- All along the cycles of a session the records are in the file, if the last save succeeded. -/
theorem cycles_mirrored (bystanding : Bystanding env) (keeping : env.toOracle.Files files)
    (opened : Opened env files p s w last) (kept : p.config.statePath = some path) {n : Nat}
    (within : n ≤ last) : Mirrored files path (w n, exchangedBefore env p s w n) (s n) := by
  induction n with
  | zero =>
      obtain ⟨credentials, config, before, exchanges, first, after, opening, untouched, records⟩ :=
        opened.opening
      obtain ⟨configured, begun⟩ := begin_mirrored keeping opening
      intro _
      dsimp only
      rw [records, begun, untouched, ← configured, kept]
  | succ n ih =>
      have cycle := sync_mirrored bystanding keeping kept (taken_courseAt env p s w n)
        (ih (Nat.le_of_succ_le within))
      intro saved
      dsimp only
      rw [opened.succession.localState n within, opened.files n within]
      exact cycle.1 saved

end Cycles

end Session

end SealedSync
