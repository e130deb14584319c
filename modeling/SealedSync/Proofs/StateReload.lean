import SealedSync.Proofs.Disk
import SealedSync.Proofs.Gaps

/-!
# Loading what was saved

Whether a save succeeds depends on the path and on what stands where it leads, never on the state. After
one that succeeds the same state is loaded. A load that has bytes in hand does not fail: bytes that are
no state are loaded as the empty one.
-/
namespace SealedSync

open Simulation

namespace StateFile

variable {path : String} {f : Files} {state : LocalState}

/-- A save on a disk that does not fail. -/
def saved (f : Files) (path : String) (state : LocalState) : Course Files Unit Unit :=
  (save (some path) state ()).course disk.alone f

/-- What a load comes to right after a save, on a disk that does not fail. -/
def reloaded (f : Files) (path : String) (state : LocalState) : Except SyncError LocalState :=
  (((save (some path) state : Program Unit Unit) >>= fun _ => load (some path)) ()).course disk.alone f
    |>.ending.result

/-- The state can be written to the temporary path, and be moved from there to the path. -/
def Savable (f : Files) (path : String) (state : LocalState) : Prop :=
  ∃ g h, f.write (temporaryPath path) (contents state) = .ok g ∧
    g.rename (temporaryPath path) path = .ok h

/-- What is written decides neither where paths lead nor what stands in the way. -/
theorem Savable.other (savable : Savable f path state) (other : LocalState) :
    Savable f path other := by
  obtain ⟨g, h, written, moved⟩ := savable
  have kept := Files.sameDirectories_write written
  obtain ⟨names, led, free, rfl⟩ := Files.write_eq_ok.mp written
  obtain ⟨old, asDirectory, new, bytes, left, aimed, file, apart, rfl⟩ := Files.rename_eq_ok.mp moved
  have alike : (f.put names (.file (contents state))).SameDirectories
      (f.put names (.file (contents other))) := fun place =>
    (kept place).symm.trans (Files.sameDirectories_put free (contents other) place)
  obtain ⟨rfl, rfl⟩ : names = old ∧ false = asDirectory := by
    simpa using (kept.goal.mp led).symm.trans left
  refine ⟨_, _, Files.write_eq_ok.mpr ⟨names, led, free, rfl⟩, Files.rename_eq_ok.mpr
    ⟨names, false, new, contents other, alike.goal.mp left, alike.goal.mp aimed, ?_, ?_, rfl⟩⟩
  · rw [Files.node?_put _ _ _ (Files.ne_nil_of_goal led), if_pos rfl]
  · exact fun found => apart ((alike new).mpr found)

/-- A save succeeds where the state can be written and moved, and leaves what is loaded as the state. -/
theorem saved_of_savable (savable : Savable f path state) :
    (saved f path state).ending = .returned () () ∧
      (saved f path state).world.stateAt path = .ok state := by
  obtain ⟨g, h, written, moved⟩ := savable
  have course : saved f path state = ⟨.returned () (), h, (saved f path state).exchanges⟩ := by
    simp only [saved, save_eq, replacing, Run.course, Oracle.toOracle_alone, disk, written, moved,
      Except.map, Except.toOption, Option.getD_some]
  rw [course]
  exact ⟨rfl, stateAt_of_replaced written moved⟩

theorem saved_of_not_savable (unsavable : ¬Savable f path state) :
    ∃ e, (saved f path state).ending.result = .error e := by
  cases written : f.write (temporaryPath path) (contents state) with
  | error fault =>
      simp only [saved, save_eq, Run.course, Oracle.toOracle_alone, disk, written, Except.map]
      exact ⟨_, rfl⟩
  | ok g =>
      cases moved : g.rename (temporaryPath path) path with
      | error fault =>
          simp only [saved, save_eq, replacing, Run.course, Oracle.toOracle_alone, disk, written, moved,
            Except.map, Except.toOption, Option.getD_some]
          exact ⟨_, rfl⟩
      | ok h => exact absurd ⟨g, h, written, moved⟩ unsavable

theorem reloaded_of_savable (savable : Savable f path state) : reloaded f path state = .ok state := by
  obtain ⟨ended, found⟩ := saved_of_savable savable
  unfold saved at ended found
  show (((save (some path) state ()).bind fun _ => load (some path)).course disk.alone f).ending.result =
    .ok state
  rw [Run.course_bind]
  dsimp only
  rw [ended]
  exact found

/-- A load that is answered with bytes returns the state that they stand for. -/
theorem course_load {ω σ : Type} (env : Environment ω σ) {w : ω} {bytes : List UInt8}
    (found : env.reply (.readFile path) w = .ok bytes) (s : σ) :
    ((load (some path) s).course env w).ending =
      .returned (.ofBytes bytes) (env.touch (.readFile path) w s) := by
  simp only [load, bind, Program.request, Run.bind, Run.course, found, LocalState.ofBytes]
  cases Json.decodeBytes LocalState.decode bytes with
  | ok state => rfl
  | error e => rfl

/-- On any disk either no state can be saved at a path, or each is loaded again once it is saved. Also
where a disk fails, a state is loaded again after a save that succeeded. And whatever bytes a load is
answered with, it returns: the state that they are decoded as, or else the empty one, unless they are
no text and an object in them overlooks that. -/
theorem saved_is_loaded {ω σ : Type} (env : Environment ω σ) (path : String) :
    (∀ f, (∀ state, ∃ e, (saved f path state).ending.result = .error e) ∨
      ∀ state, reloaded f path state = .ok state) ∧
    (∀ f g state, ((save (some path) state : Program Unit Unit) ()).Leaves f g (some (.ok ())) →
      g.stateAt path = .ok state) ∧
    ∀ w bytes, env.reply (.readFile path) w = .ok bytes → ∀ s : σ, ∃ loaded,
      ((load (some path) s).course env w).ending.result = .ok loaded ∧
      (∀ state, Json.decodeBytes LocalState.decode bytes = .ok state → loaded = state) ∧
      ((∀ state, Json.decodeBytes LocalState.decode bytes ≠ .ok state) → loaded = .empty) ∧
      (Utf8.decode? bytes = none → loaded = .empty ∨ LocalState.Overlooks bytes) := by
  refine ⟨fun f => ?_, fun f g state left => ?_, fun w bytes found s => ?_⟩
  · rcases Classical.em (∃ state, Savable f path state) with ⟨state, savable⟩ | unsavable
    · exact .inr fun other => reloaded_of_savable (savable.other other)
    · exact .inl fun state => saved_of_not_savable fun savable => unsavable ⟨state, savable⟩
  · rcases leaves_save left with ⟨-, unended⟩ | ⟨_, -, -, unended⟩ | ⟨h, written, moved, -⟩
    · exact absurd rfl unended
    · exact absurd rfl unended
    · exact stateAt_of_replaced written moved
  · refine ⟨.ofBytes bytes, by rw [course_load env found]; rfl, ?_⟩
    cases decoded : Json.decodeBytes LocalState.decode bytes with
    | ok state =>
        have same : LocalState.ofBytes bytes = state := by rw [LocalState.ofBytes, decoded]
        refine ⟨fun other equal => ?_, fun none => absurd rfl (none state), fun gap => .inr ?_⟩
        · exact same.trans (Except.ok.inj equal)
        · exact LocalState.overlooks_of_decoded (Utf8.decode?_eq_none.mp gap) decoded
    | error e =>
        have same : LocalState.ofBytes bytes = .empty := by rw [LocalState.ofBytes, decoded]
        refine ⟨fun state impossible => ?_, fun _ => same, fun _ => .inl same⟩
        cases impossible

theorem leaves_save_moved {σ : Type} {g h : Files} (s : σ)
    (written : f.write (temporaryPath path) (contents state) = .ok g)
    (moved : g.rename (temporaryPath path) path = .ok h) :
    ((save (some path) state : Program σ Unit) s).Leaves f h (some (.ok ())) := by
  have confirmed : Served (.writeFile (temporaryPath path) (contents state)) f (.ok ()) g := by
    simpa [disk, written, Except.map, Except.toOption] using
      Served.faultless (.writeFile (temporaryPath path) (contents state)) f
  have arrived : Served (.renameFile (temporaryPath path) path) g (.ok ()) h := by
    simpa [disk, moved, Except.map, Except.toOption] using
      Served.faultless (.renameFile (temporaryPath path) path) g
  rw [save_eq]
  exact .resumed confirmed (.resumed arrived (.returned () s h))

/-- A state of a leap second before the year zero. -/
def distant : LocalState :=
  ⟨some "\x00\"é", none, some ⟨⟨-1, 12, 31, 23, 59, 60, 5⟩, by decide⟩⟩

theorem distant_saved_is_loaded :
    ∃ g, ((save (some "<dir>/state.json") distant : Program Unit Unit) ()).Leaves Files.empty g
        (some (.ok ())) ∧ g.stateAt "<dir>/state.json" = .ok distant := by
  have beside : temporaryPath "<dir>/state.json" = "<dir>/state.tmp" := by decide
  have written (bytes : List UInt8) : Files.empty.write (temporaryPath "<dir>/state.json") bytes =
      .ok (Files.empty.put [Files.root, "state.tmp"] (.file bytes)) := by
    rw [beside]
    rfl
  have moved (bytes : List UInt8) : ∃ g, (Files.empty.put [Files.root, "state.tmp"]
      (.file bytes)).rename (temporaryPath "<dir>/state.json") "<dir>/state.json" = .ok g := by
    rw [beside]
    exact ⟨_, rfl⟩
  obtain ⟨g, arrived⟩ := moved (contents distant)
  have left := leaves_save_moved () (written _) arrived
  exact ⟨g, left, (saved_is_loaded disk.alone (σ := Unit) "<dir>/state.json").2.1 _ _ _ left⟩

end StateFile

end SealedSync
