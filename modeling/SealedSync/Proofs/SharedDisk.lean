import SealedSync.Proofs.Disk

/-!
# Stores on one disk

Several stores save to paths of their own, each one state after another, and what they ask of the
disk may be interleaved in any way. A store writes under two names, that of its path and that of its
temporary path. As long as no other store writes under either of them, every save succeeds, and its
state is loaded until the next one.
-/
namespace SealedSync

open Simulation

namespace Simulation.Files

variable {f g : Files} {path : String} {names : List String}

/-- A path leads to a name under which a file may stand. -/
structure Spot (f : Files) (path : String) (names : List String) : Prop where
  leads : f.Leads path names
  free : f.node? names ≠ some .directory

theorem Spot.of_goal (path : String) (led : f.goal path = .ok (.entry names false))
    (free : f.node? names ≠ some .directory) : f.Spot path names := ⟨led, free⟩

theorem Spot.of_sameDirectories (spot : f.Spot path names) (same : f.SameDirectories g) :
    g.Spot path names :=
  ⟨same.goal.mp spot.leads, fun directory => spot.free ((same names).mpr directory)⟩

theorem Spot.ne_nil (spot : f.Spot path names) : names ≠ [] := ne_nil_of_goal spot.leads

theorem Spot.node?_put_self (spot : f.Spot path names) (g : Files) (node : FileNode) :
    (g.put names node).node? names = some node := by
  rw [node?_put _ _ _ spot.ne_nil, if_pos rfl]

theorem Spot.node?_put_of_key (spot : f.Spot path names) {others : List String}
    (same : key names = key others) (g : Files) (node : FileNode) :
    (g.put others node).node? names = some node := by
  rw [node?_put _ _ _ spot.ne_nil, if_pos same]

/-- The state of what stands under some names, which is the empty one if nothing does. -/
def stateOf : Option FileNode → LocalState
  | some (.file bytes) => .ofBytes bytes
  | _ => .empty

theorem Spot.stateAt_eq (spot : f.Spot path names) :
    f.stateAt path = .ok (stateOf (f.node? names)) := by
  rw [SealedSync.stateAt_eq, read_of_leads spot.leads]
  have free := spot.free
  cases found : f.node? names with
  | none => rfl
  | some node =>
      cases node with
      | file bytes => rfl
      | directory => exact absurd found free

theorem Spot.read_congr (spot : f.Spot path names) (same : f.SameDirectories g)
    (kept : g.node? names = f.node? names) : g.read path = f.read path := by
  rw [read_of_leads spot.leads, read_of_leads (spot.of_sameDirectories same).leads, kept]

end Simulation.Files

/-- Stores that save to one disk. -/
structure Stores (ι : Type) where
  files : Files
  /-- What a store is saving, and what is left to do. -/
  saving : ι → Option (LocalState × Run Unit Unit)
  /-- What a store saved last, or loaded before. -/
  saved : ι → LocalState
  results : List (Except SyncError Unit)

namespace Stores

variable {ι : Type} {paths : ι → String} {home temporary : ι → List String}

/-- Where the paths of stores and their temporary paths lead. -/
structure Places (paths : ι → String) (home temporary : ι → List String) (f : Files) : Prop where
  home : ∀ i, f.Spot (paths i) (home i)
  temporary : ∀ i, f.Spot (StateFile.temporaryPath (paths i)) (temporary i)

/-- No two stores write under the same name. -/
def Separated (home temporary : ι → List String) : Prop :=
  ∀ i j, i ≠ j → Files.key (home i) ≠ Files.key (home j) ∧
    Files.key (home i) ≠ Files.key (temporary j) ∧
      Files.key (temporary i) ≠ Files.key (temporary j)

theorem Places.of_sameDirectories {f g : Files} (places : Places paths home temporary f)
    (same : f.SameDirectories g) : Places paths home temporary g :=
  ⟨fun i => (places.home i).of_sameDirectories same,
    fun i => (places.temporary i).of_sameDirectories same⟩

theorem Places.write_eq {f : Files} (places : Places paths home temporary f) (i : ι)
    (bytes : List UInt8) : f.write (StateFile.temporaryPath (paths i)) bytes =
      .ok (f.put (temporary i) (.file bytes)) :=
  Files.write_eq_ok.mpr ⟨_, (places.temporary i).leads, (places.temporary i).free, rfl⟩

theorem Places.rename_eq {f : Files} (places : Places paths home temporary f) {i : ι}
    {bytes : List UInt8} (held : f.node? (temporary i) = some (.file bytes)) :
    f.rename (StateFile.temporaryPath (paths i)) (paths i) =
      .ok ((f.without (temporary i)).put (home i) (.file bytes)) :=
  Files.rename_eq_ok.mpr ⟨_, _, _, _, (places.temporary i).leads, (places.home i).leads, held,
    (places.home i).free, rfl⟩

inductive Action (ι : Type) where
  /-- A store that saves nothing begins to save a state. -/
  | begin (i : ι) (state : LocalState)
  /-- The disk answers what a store has asked. -/
  | serve (i : ι)

variable [DecidableEq ι]

/-- Something else for one store. -/
def assign {α : Type} (g : ι → α) (i : ι) (a : α) : ι → α := fun j => if j = i then a else g j

@[simp]
theorem assign_self {α : Type} (g : ι → α) (i : ι) (a : α) : assign g i a i = a := if_pos rfl

@[simp]
theorem assign_other {α : Type} (g : ι → α) {i j : ι} (other : j ≠ i) (a : α) :
    assign g i a j = g j := if_neg other

@[simp]
theorem assign_assign {α : Type} (g : ι → α) (i : ι) (a b : α) :
    assign (assign g i a) i b = assign g i b := by
  funext j
  by_cases self : j = i
  · rw [self, assign_self, assign_self]
  · rw [assign_other _ self, assign_other _ self, assign_other _ self]

theorem assign_eq_self {α : Type} {g : ι → α} {i : ι} {a : α} (same : g i = a) :
    assign g i a = g := by
  funext j
  by_cases self : j = i
  · rw [self, assign_self, same]
  · rw [assign_other _ self]

/-- Goes on with a save, which is over once it returns or fails. -/
def resume (d : Stores ι) (i : ι) (state : LocalState) : Run Unit Unit → Stores ι
  | .returned _ _ =>
      { d with
        saving := assign d.saving i none
        saved := assign d.saved i state
        results := d.results ++ [.ok ()] }
  | .failed e _ =>
      { d with saving := assign d.saving i none, results := d.results ++ [.error e] }
  | run => { d with saving := assign d.saving i (some (state, run)) }

def act (paths : ι → String) (d : Stores ι) : Action ι → Stores ι
  | .begin i state =>
      match d.saving i with
      | none =>
          { d with
            saving := assign d.saving i (some (state, StateFile.save (some (paths i)) state ())) }
      | some _ => d
  | .serve i =>
      match d.saving i with
      | some (state, .waiting request s resume) =>
          { d with files := disk.next request d.files }.resume i state
            (resume (disk.reply request d.files) s)
      | _ => d

/-- The stores after some actions. -/
def after (paths : ι → String) (d : Stores ι) (actions : List (Action ι)) : Stores ι :=
  actions.foldl (act paths) d

/-- Stores that have saved nothing yet. -/
def start (f : Files) (loaded : ι → LocalState) : Stores ι := ⟨f, fun _ => none, loaded, []⟩

/-- No store notices what the others save. -/
structure Undisturbed (paths : ι → String) (home temporary : ι → List String) (d : Stores ι) :
    Prop where
  succeeded : ∀ result ∈ d.results, result = .ok ()
  finishes : ∀ i, (d.after paths [.serve i, .serve i]).saving i = none
  /-- What was saved last is loaded, unless a save goes on that writes to the file itself. -/
  loads : ∀ i, d.saving i = none ∨ Files.key (home i) ≠ Files.key (temporary i) →
    d.files.stateAt (paths i) = .ok (d.saved i)
  /-- What the disk does for others changes neither the file of a store nor its temporary one. -/
  keeps : ∀ i j, j ≠ i → ∀ path ∈ [paths i, StateFile.temporaryPath (paths i)],
    (d.act paths (.serve j)).files.read path = d.files.read path

variable {d : Stores ι} {i j : ι} {state : LocalState}

theorem sameDirectories_act (paths : ι → String) (d : Stores ι) (action : Action ι) :
    d.files.SameDirectories (d.act paths action).files := by
  have resumed (d : Stores ι) (i : ι) (state : LocalState) (run : Run Unit Unit) :
      (d.resume i state run).files = d.files := by cases run <;> rfl
  unfold act
  split
  · split <;> exact fun _ => Iff.rfl
  · split
    · rw [resumed]
      exact sameDirectories_disk _ _
    · exact fun _ => Iff.rfl

theorem Places.act (places : Places paths home temporary d.files) (action : Action ι) :
    Places paths home temporary (d.act paths action).files :=
  places.of_sameDirectories (sameDirectories_act paths d action)

theorem Places.after (places : Places paths home temporary d.files) (actions : List (Action ι)) :
    Places paths home temporary (d.after paths actions).files := by
  induction actions generalizing d with
  | nil => exact places
  | cons action actions ih => exact ih (places.act action)

theorem serve_idle (idle : d.saving i = none) : d.act paths (.serve i) = d := by
  simp only [act, idle]

/-- The first answer: the temporary file is written. -/
theorem serve_writing (places : Places paths home temporary d.files)
    (saving : d.saving i = some (state, StateFile.save (some (paths i)) state ())) :
    d.act paths (.serve i) =
      { d with
        files := d.files.put (temporary i) (.file (StateFile.contents state))
        saving := assign d.saving i (some (state, StateFile.replacing (paths i) ())) } := by
  rw [StateFile.save_eq] at saving
  simp only [act, saving, disk, places.write_eq]
  rfl

/-- The second answer: the temporary file takes the place of the other. -/
theorem serve_replacing (places : Places paths home temporary d.files)
    (saving : d.saving i = some (state, StateFile.replacing (paths i) ())) {bytes : List UInt8}
    (held : d.files.node? (temporary i) = some (.file bytes)) :
    d.act paths (.serve i) =
      ⟨(d.files.without (temporary i)).put (home i) (.file bytes), assign d.saving i none,
        assign d.saved i state, d.results ++ [.ok ()]⟩ := by
  simp only [act, saving, StateFile.replacing, disk, places.rename_eq held]
  rfl

/-- What a store is doing, and what the disk holds for it. -/
inductive Phase (paths : ι → String) (temporary : ι → List String) (d : Stores ι) (i : ι) :
    Prop where
  | idle (saving : d.saving i = none)
  | writing (state : LocalState)
      (saving : d.saving i = some (state, StateFile.save (some (paths i)) state ()))
  | replacing (state : LocalState)
      (saving : d.saving i = some (state, StateFile.replacing (paths i) ()))
      (held : d.files.node? (temporary i) = some (.file (StateFile.contents state)))

/-- Stores that do not get into each other's way. A store that writes to its own file holds the new
state there before its save has ended. -/
structure Orderly (paths : ι → String) (home temporary : ι → List String) (d : Stores ι) :
    Prop where
  places : Places paths home temporary d.files
  phase : ∀ i, Phase paths temporary d i
  succeeded : ∀ result ∈ d.results, result = .ok ()
  loaded : ∀ i, d.saving i = none ∨ Files.key (home i) ≠ Files.key (temporary i) →
    Files.stateOf (d.files.node? (home i)) = d.saved i

/-- What the disk does for a store leaves everything under other names as it was. -/
theorem serve_frame (places : Places paths home temporary d.files)
    (phase : Phase paths temporary d i) {names : List String} (nonempty : names ≠ [])
    (away : Files.key names ≠ Files.key (home i))
    (apart : Files.key names ≠ Files.key (temporary i)) :
    (d.act paths (.serve i)).files.node? names = d.files.node? names := by
  cases phase with
  | idle saving => rw [serve_idle saving]
  | writing state saving =>
      rw [serve_writing places saving, Files.node?_put _ _ _ nonempty, if_neg apart]
  | replacing state saving held =>
      rw [serve_replacing places saving held, Files.node?_put _ _ _ nonempty, if_neg away,
        Files.node?_without _ _ nonempty, if_neg apart]

/-- What the disk does for a store is not seen by another. -/
theorem serve_other (places : Places paths home temporary d.files)
    (phase : Phase paths temporary d i) (separated : Separated home temporary) (other : j ≠ i) :
    (d.act paths (.serve i)).saving j = d.saving j ∧
      (d.act paths (.serve i)).saved j = d.saved j ∧
      (d.act paths (.serve i)).files.node? (home j) = d.files.node? (home j) ∧
      (d.act paths (.serve i)).files.node? (temporary j) = d.files.node? (temporary j) := by
  obtain ⟨homes, mixed, temporaries⟩ := separated j i other
  obtain ⟨-, crossed, -⟩ := separated i j other.symm
  have alone : (d.act paths (.serve i)).saving j = d.saving j ∧
      (d.act paths (.serve i)).saved j = d.saved j := by
    cases phase with
    | idle saving =>
        rw [serve_idle saving]
        exact ⟨rfl, rfl⟩
    | writing state saving =>
        rw [serve_writing places saving]
        exact ⟨assign_other _ other _, rfl⟩
    | replacing state saving held =>
        rw [serve_replacing places saving held]
        exact ⟨assign_other _ other _, assign_other _ other _⟩
  exact ⟨alone.1, alone.2, serve_frame places phase (places.home j).ne_nil homes mixed,
    serve_frame places phase (places.temporary j).ne_nil crossed.symm temporaries⟩

omit [DecidableEq ι] in
/-- What a store is doing depends on what it is saving and on its temporary file. -/
theorem Phase.congr {e : Stores ι} (phase : Phase paths temporary d i)
    (saving : e.saving i = d.saving i)
    (held : e.files.node? (temporary i) = d.files.node? (temporary i)) :
    Phase paths temporary e i := by
  cases phase with
  | idle idle => exact .idle (saving.trans idle)
  | writing state writing => exact .writing state (saving.trans writing)
  | replacing state replacing whole =>
      exact .replacing state (saving.trans replacing) (held.trans whole)

/-- What the disk does for a store brings its save on. -/
theorem serve_self (orderly : Orderly paths home temporary d) (i : ι) :
    Phase paths temporary (d.act paths (.serve i)) i ∧
      (∀ result ∈ (d.act paths (.serve i)).results, result = .ok ()) ∧
        ((d.act paths (.serve i)).saving i = none ∨
            Files.key (home i) ≠ Files.key (temporary i) →
          Files.stateOf ((d.act paths (.serve i)).files.node? (home i)) =
            (d.act paths (.serve i)).saved i) := by
  obtain ⟨places, phase, succeeded, loaded⟩ := orderly
  cases phase i with
  | idle saving =>
      rw [serve_idle saving]
      exact ⟨.idle saving, succeeded, loaded i⟩
  | writing state saving =>
      rw [serve_writing places saving]
      refine ⟨.replacing state (assign_self ..) ?_, succeeded, fun quiet => ?_⟩
      · exact (places.temporary i).node?_put_self _ _
      · have apart : Files.key (home i) ≠ Files.key (temporary i) :=
          quiet.resolve_left (by simp)
        rw [Files.node?_put _ _ _ (places.home i).ne_nil, if_neg apart]
        exact loaded i (.inr apart)
  | replacing state saving held =>
      rw [serve_replacing places saving held]
      refine ⟨.idle (assign_self ..), ?_, fun _ => ?_⟩
      · simpa [or_imp, forall_and] using succeeded
      · rw [(places.home i).node?_put_self]
        exact (LocalState.ofBytes_contents state).trans (assign_self ..).symm

theorem orderly_serve (orderly : Orderly paths home temporary d)
    (separated : Separated home temporary) (i : ι) :
    Orderly paths home temporary (d.act paths (.serve i)) := by
  obtain ⟨phase, succeeded, loaded⟩ := serve_self orderly i
  refine ⟨orderly.places.of_sameDirectories (sameDirectories_act paths d _), fun j => ?_, succeeded,
    fun j quiet => ?_⟩
  · by_cases self : j = i
    · exact self ▸ phase
    · obtain ⟨saving, -, -, held⟩ := serve_other orderly.places (orderly.phase i) separated self
      exact (orderly.phase j).congr saving held
  · by_cases self : j = i
    · subst self
      exact loaded quiet
    · obtain ⟨saving, saved, kept, -⟩ :=
        serve_other orderly.places (orderly.phase i) separated self
      rw [kept, saved]
      exact orderly.loaded j (by rwa [← saving])

theorem act_begin (idle : d.saving i = none) (state : LocalState) :
    d.act paths (.begin i state) =
      { d with
        saving := assign d.saving i
          (some (state, StateFile.save (some (paths i)) state ())) } := by
  simp only [act, idle]

theorem orderly_begin (orderly : Orderly paths home temporary d) (i : ι) (state : LocalState) :
    Orderly paths home temporary (d.act paths (.begin i state)) := by
  cases saving : d.saving i with
  | some save =>
      have still : d.act paths (.begin i state) = d := by simp only [act, saving]
      rwa [still]
  | none =>
      rw [act_begin saving]
      refine ⟨orderly.places, fun j => ?_, orderly.succeeded, fun j quiet => ?_⟩
      · by_cases self : j = i
        · subst self
          exact .writing state (assign_self ..)
        · exact (orderly.phase j).congr (assign_other _ self _) rfl
      · by_cases self : j = i
        · subst self
          exact orderly.loaded j (.inl saving)
        · simp only [assign_other _ self] at quiet
          exact orderly.loaded j quiet

/-- Stores that are separated are not disturbed by anything that others do. -/
theorem orderly_after (orderly : Orderly paths home temporary d)
    (separated : Separated home temporary) (actions : List (Action ι)) :
    Orderly paths home temporary (d.after paths actions) := by
  induction actions generalizing d with
  | nil => exact orderly
  | cons action actions ih =>
      cases action with
      | begin i state => exact ih (orderly_begin orderly i state)
      | serve i => exact ih (orderly_serve orderly separated i)

omit [DecidableEq ι] in
theorem orderly_start {f : Files} {loaded : ι → LocalState}
    (places : Places paths home temporary f)
    (initial : ∀ i, f.stateAt (paths i) = .ok (loaded i)) :
    Orderly paths home temporary (start f loaded) :=
  ⟨places, fun _ => .idle rfl, by simp [start], fun i _ =>
    Except.ok.inj ((places.home i).stateAt_eq.symm.trans (initial i))⟩

theorem finishes_of_orderly (orderly : Orderly paths home temporary d)
    (separated : Separated home temporary) (i : ι) :
    (d.after paths [.serve i, .serve i]).saving i = none := by
  have places := (orderly_serve orderly separated i).places
  change ((d.act paths (.serve i)).act paths (.serve i)).saving i = none
  cases orderly.phase i with
  | idle saving =>
      rw [serve_idle saving, serve_idle saving, saving]
  | writing state saving =>
      rw [serve_writing orderly.places saving] at places ⊢
      rw [serve_replacing places (assign_self ..) ((orderly.places.temporary i).node?_put_self _ _)]
      exact assign_self ..
  | replacing state saving held =>
      rw [serve_replacing orderly.places saving held]
      simp only [act, assign_self]

theorem undisturbed_of_orderly (orderly : Orderly paths home temporary d)
    (separated : Separated home temporary) : Undisturbed paths home temporary d where
  succeeded := orderly.succeeded
  finishes := finishes_of_orderly orderly separated
  loads i quiet := by rw [(orderly.places.home i).stateAt_eq, orderly.loaded i quiet]
  keeps i j other path member := by
    have same := sameDirectories_act paths d (.serve j)
    obtain ⟨-, -, home, temporary⟩ :=
      serve_other orderly.places (orderly.phase j) separated other.symm
    simp only [List.mem_cons, List.not_mem_nil, or_false] at member
    rcases member with rfl | rfl
    · exact (orderly.places.home i).read_congr same home
    · exact (orderly.places.temporary i).read_congr same temporary

/-! ## Stores in each other's way -/

theorem after_append (d : Stores ι) (first second : List (Action ι)) :
    d.after paths (first ++ second) = (d.after paths first).after paths second :=
  List.foldl_append ..

/-- A save up to its first answer. -/
theorem after_written (places : Places paths home temporary d.files) (idle : d.saving i = none)
    (state : LocalState) :
    (d.after paths [.begin i state, .serve i]).files =
        d.files.put (temporary i) (.file (StateFile.contents state)) ∧
      (d.after paths [.begin i state, .serve i]).saving =
        assign d.saving i (some (state, StateFile.replacing (paths i) ())) ∧
        (d.after paths [.begin i state, .serve i]).saved = d.saved ∧
          (d.after paths [.begin i state, .serve i]).results = d.results := by
  have begun := places.act (.begin i state)
  have saving : (d.act paths (.begin i state)).saving i =
      some (state, StateFile.save (some (paths i)) state ()) := by
    rw [act_begin idle]
    exact assign_self ..
  have written : d.after paths [.begin i state, .serve i] =
      (d.act paths (.begin i state)).act paths (.serve i) := rfl
  rw [written, serve_writing begun saving, act_begin idle]
  exact ⟨rfl, assign_assign .., rfl, rfl⟩

/-- A save that no other comes between. -/
theorem after_save (places : Places paths home temporary d.files) (idle : d.saving i = none)
    (state : LocalState) :
    (d.after paths [.begin i state, .serve i, .serve i]).files =
        ((d.files.put (temporary i) (.file (StateFile.contents state))).without (temporary i)).put
          (home i) (.file (StateFile.contents state)) ∧
      (d.after paths [.begin i state, .serve i, .serve i]).saving = d.saving ∧
        (d.after paths [.begin i state, .serve i, .serve i]).saved = assign d.saved i state ∧
          (d.after paths [.begin i state, .serve i, .serve i]).results =
            d.results ++ [.ok ()] := by
  have ended : d.after paths [.begin i state, .serve i, .serve i] =
      (d.after paths [.begin i state, .serve i]).act paths (.serve i) := rfl
  obtain ⟨files, saving, saved, results⟩ := after_written places idle state
  have held := (places.temporary i).node?_put_self d.files (.file (StateFile.contents state))
  rw [← files] at held ⊢
  rw [ended, serve_replacing (places.after _) (by rw [saving, assign_self]) held, saving, saved,
    results, assign_assign, assign_eq_self idle]
  exact ⟨rfl, rfl, rfl, rfl⟩

/-- Where a store saves nothing, its file holds what it saved last. -/
theorem Undisturbed.saved_eq (undisturbed : Undisturbed paths home temporary d)
    (places : Places paths home temporary d.files) (idle : d.saving i = none)
    (held : d.files.node? (home i) = some (.file (StateFile.contents state))) :
    d.saved i = state := by
  have loaded := (places.home i).stateAt_eq.symm.trans (undisturbed.loads i (.inl idle))
  rw [held] at loaded
  exact (Except.ok.inj loaded).symm.trans (LocalState.ofBytes_contents state)

theorem undisturbed_after
    (undisturbed : ∀ actions, Undisturbed paths home temporary (d.after paths actions))
    (first second : List (Action ι)) :
    Undisturbed paths home temporary ((d.after paths first).after paths second) :=
  after_append d first second ▸ undisturbed (first ++ second)

section

variable {state other : LocalState} (different : state ≠ other) (apart : i ≠ j)
  (places : Places paths home temporary d.files)
  (undisturbed : ∀ actions, Undisturbed paths home temporary (d.after paths actions))
  (idle : ∀ i, d.saving i = none)
include different apart places undisturbed idle

/-- Of two saves to one file the first is lost. -/
theorem homes_apart : Files.key (home i) ≠ Files.key (home j) := by
  intro same
  obtain ⟨-, saving, saved, -⟩ := after_save places (idle i) state
  have between := places.after [.begin i state, .serve i, .serve i]
  obtain ⟨files, savingToo, savedToo, -⟩ := after_save (i := j) between (by rw [saving, idle]) other
  have final := undisturbed_after undisturbed [.begin i state, .serve i, .serve i]
    [.begin j other, .serve j, .serve j]
  have lost := final.saved_eq (i := i) (between.after _) (by rw [savingToo, saving, idle])
    (by rw [files, (places.home i).node?_put_of_key same])
  rw [savedToo, assign_other _ apart, saved, assign_self] at lost
  exact different lost

/-- A file that another store takes for its temporary one is overwritten. -/
theorem home_apart : Files.key (home i) ≠ Files.key (temporary j) := by
  intro same
  -- The other save need not come to its end: its first answer overwrites the file.
  obtain ⟨-, saving, saved, -⟩ := after_save places (idle i) state
  have between := places.after [.begin i state, .serve i, .serve i]
  obtain ⟨files, savingToo, savedToo, -⟩ :=
    after_written (i := j) between (by rw [saving, idle]) other
  have final := undisturbed_after undisturbed [.begin i state, .serve i, .serve i]
    [.begin j other, .serve j]
  have lost := final.saved_eq (i := i) (between.after _)
    (by rw [savingToo, assign_other _ apart, saving, idle])
    (by rw [files, (places.home i).node?_put_of_key same])
  rw [savedToo, saved, assign_self] at lost
  exact different lost

/-- Of one temporary file with the states of two stores the first takes the last. -/
theorem temporaries_apart : Files.key (temporary i) ≠ Files.key (temporary j) := by
  intro same
  -- Both write before either renames, so the first moves what the second has written.
  obtain ⟨-, saving, -, -⟩ := after_written places (idle i) state
  have between := places.after [.begin i state, .serve i]
  obtain ⟨files, savingToo, -, -⟩ := after_written (i := j) between
    (by rw [saving, assign_other _ apart.symm, idle]) other
  have waiting : ((d.after paths [.begin i state, .serve i]).after paths
      [.begin j other, .serve j]).saving i = some (state, StateFile.replacing (paths i) ()) := by
    rw [savingToo, assign_other _ apart, saving, assign_self]
  have replaced := serve_replacing (between.after [.begin j other, .serve j]) waiting
    (by rw [files, (places.temporary i).node?_put_of_key same])
  have final : Undisturbed paths home temporary (((d.after paths [.begin i state, .serve i]).after
      paths [.begin j other, .serve j]).act paths (.serve i)) :=
    undisturbed_after (undisturbed_after undisturbed _) _ [.serve i]
  have lost := final.saved_eq ((between.after _).act _)
    (by rw [replaced]; exact assign_self ..)
    (by rw [replaced]; exact (places.home i).node?_put_self _ _)
  rw [replaced] at lost
  exact different ((assign_self ..).symm.trans lost)

end

/-- Whatever is saved in whatever order, stores do not disturb each other, unless two of them write
under the same name: that of the one's path or of its temporary path. -/
theorem undisturbed_iff {f : Files} {loaded : ι → LocalState}
    (places : Places paths home temporary f)
    (initial : ∀ i, f.stateAt (paths i) = .ok (loaded i)) :
    (∀ actions, Undisturbed paths home temporary ((start f loaded).after paths actions)) ↔
      Separated home temporary := by
  constructor
  · intro undisturbed i j apart
    obtain ⟨state, different⟩ := LocalState.exists_ne .empty
    have idle (i : ι) : (start f loaded).saving i = none := rfl
    exact ⟨homes_apart different apart places undisturbed idle,
      home_apart different apart places undisturbed idle,
      temporaries_apart different apart places undisturbed idle⟩
  · intro separated actions
    exact undisturbed_of_orderly
      (orderly_after (orderly_start places initial) separated actions) separated

/-- A file that another store takes for its temporary one is gone after a save of that store, although
no save has failed. -/
theorem stolen (places : Places paths home temporary d.files) (idle : ∀ i, d.saving i = none)
    (other : i ≠ j) (apart : Files.key (home i) ≠ Files.key (home j))
    (same : Files.key (home i) = Files.key (temporary j)) (first second : LocalState) :
    let e := (d.after paths [.begin i first, .serve i, .serve i]).after paths
      [.begin j second, .serve j, .serve j]
    e.results = d.results ++ [.ok (), .ok ()] ∧ e.saved i = first ∧
      e.files.stateAt (paths i) = .ok .empty := by
  intro e
  obtain ⟨-, saving, saved, results⟩ := after_save places (idle i) first
  have between := places.after [.begin i first, .serve i, .serve i]
  obtain ⟨files, -, savedToo, resultsToo⟩ :=
    after_save (i := j) between (by rw [saving, idle]) second
  have nonempty := (places.home i).ne_nil
  refine ⟨?_, ?_, ?_⟩
  · rw [resultsToo, results, List.append_assoc]
    rfl
  · rw [savedToo, assign_other _ other, saved, assign_self]
  · rw [((between.after _).home i).stateAt_eq, files, Files.node?_put _ _ _ nonempty, if_neg apart,
      Files.node?_without _ _ nonempty, if_pos same]
    rfl

omit [DecidableEq ι] in
/-- Names in one directory are as separate as they differ. -/
theorem separated_iff_names (place : List String) (name other : ι → String) :
    Separated (fun i => place ++ [name i]) (fun i => place ++ [other i]) ↔
      ∀ i j, i ≠ j → name i ≠ name j ∧ name i ≠ other j ∧ other i ≠ other j := by
  have apart (a b : String) : Files.key (place ++ [a]) ≠ Files.key (place ++ [b]) ↔ a ≠ b :=
    not_congr ⟨Files.key_concat, fun same => same ▸ rfl⟩
  simp only [Separated, apart]

/-- The one of two things that is meant. -/
def pick {α : Type} (first second : α) : Bool → α
  | false => first
  | true => second

/-- The stores of two accounts, of which one has a dot in its name. -/
theorem accounts_undisturbed :
    let paths := pick "<dir>/alice.json" "<dir>/alice.one.json"
    let home := fun i => [Files.root] ++ [pick "alice.json" "alice.one.json" i]
    let temporary := fun i => [Files.root] ++ [pick "alice.tmp" "alice.one.tmp" i]
    Places paths home temporary Files.empty ∧
      (∀ i, Files.empty.stateAt (paths i) = .ok .empty) ∧
        ∀ actions, Undisturbed paths home temporary
          ((start Files.empty fun _ => .empty).after paths actions) := by
  intro paths home temporary
  have places : Places paths home temporary Files.empty := by
    constructor
    · rintro (_ | _)
      · exact .of_goal "<dir>/alice.json" rfl nofun
      · exact .of_goal "<dir>/alice.one.json" rfl nofun
    · rintro (_ | _)
      · exact .of_goal (StateFile.temporaryPath "<dir>/alice.json") rfl nofun
      · exact .of_goal (StateFile.temporaryPath "<dir>/alice.one.json") rfl nofun
  have initial (i : Bool) : Files.empty.stateAt (paths i) = .ok .empty := by
    rw [(places.home i).stateAt_eq]
    cases i with
    | false => rfl
    | true => rfl
  have separated : Separated home temporary := (separated_iff_names ..).mpr (by decide)
  exact ⟨places, initial, (undisturbed_iff places initial).mpr separated⟩

/-- Of two files of the same stem the one with the extension of temporary files is gone once the other
is saved. -/
theorem temporaryPath_steals :
    let paths := pick "<dir>/state.tmp" "<dir>/state.json"
    let state : LocalState := ⟨some "abc", none, none⟩
    let d := ((start Files.empty fun _ => .empty).after paths
      [.begin false state, .serve false, .serve false]).after paths
        [.begin true state, .serve true, .serve true]
    d.results = [.ok (), .ok ()] ∧ d.saved false = state ∧
      d.files.stateAt "<dir>/state.tmp" = .ok .empty := by
  intro paths state
  have places : Places paths (fun i => [Files.root] ++ [pick "state.tmp" "state.json" i])
      (fun _ => [Files.root, "state.tmp"]) Files.empty := by
    constructor
    · rintro (_ | _)
      · exact .of_goal "<dir>/state.tmp" rfl nofun
      · exact .of_goal "<dir>/state.json" rfl nofun
    · rintro (_ | _)
      · exact .of_goal (StateFile.temporaryPath "<dir>/state.tmp") rfl nofun
      · exact .of_goal (StateFile.temporaryPath "<dir>/state.json") rfl nofun
  have apart : Files.key ([Files.root] ++ ["state.tmp"]) ≠
      Files.key ([Files.root] ++ ["state.json"]) := mt Files.key_concat (by decide)
  exact stolen (d := start Files.empty fun _ => .empty) (i := false) (j := true) places
    (fun _ => rfl) (by decide) apart rfl state state

end Stores

end SealedSync
