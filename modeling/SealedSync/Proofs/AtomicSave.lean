import SealedSync.Proofs.Disk
import SealedSync.Proofs.TemporaryPath

/-!
# When a save is atomic

What is loaded from a path depends on the directory that it leads to and on what stands there under its
name. A temporary file of another name changes neither, and takes the place of the file only as a whole.
-/
namespace SealedSync

open Simulation

namespace StateFile

variable {path : String} {front rest names place : List String} {name : String} {f g : Files}

theorem enter_dots (dots : ∀ n ∈ rest, n = ".") : f.enter place rest = .ok place := by
  induction rest with
  | nil => rfl
  | cons n rest ih =>
      rw [Files.enter, if_pos (dots n List.mem_cons_self)]
      exact ih fun m member => dots m (List.mem_cons_of_mem n member)

theorem EndsIn.follow_eq (ends : EndsIn path front name rest) (asDirectory : Bool) :
    f.follow (Files.names path) asDirectory = (f.enter [] front >>= fun place =>
      if rest = [] then Files.checkName name >>= fun _ => .ok (.entry (place ++ [name]) asDirectory)
      else f.enter place (name :: rest) >>= fun _ => .ok .place) := by
  have proper : ¬(name = "." ∨ name = "..") := by simpa using ends.proper
  rw [ends.names, Files.follow]
  rcases List.eq_nil_or_concat rest with rfl | ⟨init, last, cut⟩
  · simp only [List.getLast?_concat, if_neg proper, List.dropLast_concat, if_true]
    rfl
  · obtain rfl := cut.trans List.concat_eq_append
    have dot : last = "." := ends.dots last (by simp)
    have final : (front ++ name :: (init ++ [last])).getLast? = some "." := by
      simp [List.getLast?_append, List.getLast?_cons, dot]
    have more : ¬init ++ [last] = [] := by simp
    rw [final]
    simp only [if_neg more, true_or, if_true]
    rw [Files.enter_append]
    cases f.enter [] front with
    | error fault => rfl
    | ok place => rfl

/-- A path does not ask for a directory. -/
def isPlain (path : String) (rest : List String) : Bool :=
  rest.isEmpty && path.toList.getLast? != some '/'

/-- What is read where something stands or not. -/
def readNode (plain : Bool) : Option FileNode → Except FileFault (List UInt8)
  | none => .error .notFound
  | some .directory => .error .isDirectory
  | some (.file bytes) => if plain then .ok bytes else .error .notDirectory

/-- What stands under the name of a path in its directory decides what is read. -/
theorem EndsIn.read_eq (ends : EndsIn path front name rest)
    (entered : f.enter [] front = .ok place) :
    f.read path = (Files.checkPath path >>= fun _ => Files.checkName name >>= fun _ =>
      readNode (isPlain path rest) (f.node? (place ++ [name]))) := by
  have proper : ¬name = "." ∧ ¬name = ".." := by simpa using ends.proper
  rw [Files.read, Files.goal, ends.follow_eq, entered]
  cases Files.checkPath path with
  | error fault => rfl
  | ok _ =>
      simp only [bind, Except.bind, isPlain]
      by_cases bare : rest = []
      · subst bare
        cases Files.checkName name with
        | error fault => rfl
        | ok _ =>
            simp only [if_true, List.isEmpty_nil, Bool.true_and, bne]
            cases f.node? (place ++ [name]) with
            | none => rfl
            | some node =>
                cases node with
                | directory => rfl
                | file bytes =>
                    cases path.toList.getLast? == some '/' with
                    | true => rfl
                    | false => rfl
      · rw [if_neg bare, Files.enter, if_neg proper.1, if_neg proper.2]
        have open_ : rest.isEmpty = false := by simpa using bare
        simp only [open_, Bool.false_and]
        cases Files.checkName name with
        | error fault => rfl
        | ok _ =>
            cases f.node? (place ++ [name]) with
            | none => rfl
            | some node =>
                cases node with
                | file bytes => rfl
                | directory =>
                    simp only [bind, Except.bind, enter_dots ends.dots]
                    rfl

theorem EndsIn.leads_iff (ends : EndsIn path front name rest) :
    f.Leads path names ↔ isPlain path rest = true ∧ Files.checkPath path = .ok () ∧
      ∃ place, f.enter [] front = .ok place ∧ Files.checkName name = .ok () ∧
        names = place ++ [name] := by
  simp only [Files.Leads, Files.goal, Except.bind_eq_ok, ends.follow_eq, isPlain]
  constructor
  · rintro ⟨_, checked, place, entered, led⟩
    split at led
    · rename_i bare
      obtain ⟨_, named, led⟩ := Except.bind_eq_ok.mp led
      simp only [Except.ok.injEq, Files.Goal.entry.injEq] at led
      obtain ⟨rfl, slash⟩ := led
      exact ⟨by simp [bare, bne, slash], checked, place, entered, named, rfl⟩
    · obtain ⟨_, _, led⟩ := Except.bind_eq_ok.mp led
      cases led
  · rintro ⟨plain, checked, place, entered, named, rfl⟩
    obtain ⟨bare, slash⟩ := Bool.and_eq_true_iff.mp plain
    rw [List.isEmpty_iff] at bare
    have slash : (path.toList.getLast? == some '/') = false := by simpa [bne] using slash
    refine ⟨(), checked, place, entered, ?_⟩
    rw [if_pos bare, named, slash]
    rfl

theorem unwritable_of_nameless
    (nameless : ∀ last, (Files.names path).getLast? = some last → last ∈ [".", ".."])
    (bytes : List UInt8) : f.write path bytes ≠ .ok g := by
  intro written
  obtain ⟨names, led, -, -⟩ := Files.write_eq_ok.mp written
  simp only [Files.Leads, Files.goal, Except.bind_eq_ok, Files.follow] at led
  obtain ⟨_, _, led⟩ := led
  split at led
  · cases led
  · rename_i last final
    rw [if_pos (by simpa using nameless last final)] at led
    obtain ⟨_, _, led⟩ := Except.bind_eq_ok.mp led
    cases led

variable {other : String} {bytes : List UInt8}

/-- What is written under another name in the same directory is not seen at a path. -/
theorem read_of_written (ends : EndsIn path front name rest)
    (beside : EndsIn (temporaryPath path) front other []) (apart : other ≠ name)
    (written : f.write (temporaryPath path) bytes = .ok g) : g.read path = f.read path := by
  obtain ⟨names, led, free, rfl⟩ := Files.write_eq_ok.mp written
  obtain ⟨-, -, place, entered, -, rfl⟩ := beside.leads_iff.mp led
  have kept := (Files.sameDirectories_put free bytes).enter.mp entered
  rw [ends.read_eq entered, ends.read_eq kept,
    Files.node?_put _ _ _ (List.append_ne_nil_of_right_ne_nil _ (List.cons_ne_nil _ _)),
    if_neg fun same => apart (Files.key_concat same).symm]

theorem stateAt_congr (same : g.read path = f.read path) : g.stateAt path = f.stateAt path := by
  rw [stateAt_eq, stateAt_eq, same]

/-- What is read of a file that was written at a path itself, under the name that it ends in. -/
theorem read_of_overwritten (ends : EndsIn path front name rest)
    (same : EndsIn (temporaryPath path) front name [])
    (written : f.write (temporaryPath path) bytes = .ok g) :
    ∃ node, node ≠ some .directory ∧
      (f.read path = (Files.checkPath path >>= fun _ => readNode (isPlain path rest) node)) ∧
        g.read path = (Files.checkPath path >>= fun _ =>
          readNode (isPlain path rest) (some (.file bytes))) := by
  obtain ⟨names, led, free, rfl⟩ := Files.write_eq_ok.mp written
  obtain ⟨-, -, place, entered, named, rfl⟩ := same.leads_iff.mp led
  have kept := (Files.sameDirectories_put free bytes).enter.mp entered
  refine ⟨_, free, ?_, ?_⟩
  · rw [ends.read_eq entered, named]
    rfl
  · rw [ends.read_eq kept, named, Files.node?_put _ _ _ (Files.ne_nil_of_goal led), if_pos rfl]
    rfl

/-- Where nothing can be loaded before, nothing can be loaded of a part of a state either. -/
theorem stateAt_of_unloadable (ends : EndsIn path front name rest)
    (same : EndsIn (temporaryPath path) front name [])
    (written : f.write (temporaryPath path) bytes = .ok g)
    (unloadable : ∀ state, f.stateAt path ≠ .ok state) : g.stateAt path = f.stateAt path := by
  obtain ⟨node, free, before, after⟩ := read_of_overwritten ends same written
  refine stateAt_congr ?_
  rw [before, after]
  cases checked : Files.checkPath path with
  | error fault => rfl
  | ok _ =>
      rw [checked] at before
      cases node with
      | none => exact absurd (by rw [stateAt_eq, before]; rfl) (unloadable .empty)
      | some node =>
          cases node with
          | directory => exact absurd rfl free
          | file old =>
              cases plain : isPlain path rest with
              | false => rfl
              | true =>
                  rw [plain] at before
                  exact absurd (by rw [stateAt_eq, before]; rfl) (unloadable (.ofBytes old))

/-- A file that holds another state, or stands in the way of the path, is not loaded as the old state. -/
theorem stateAt_ne_of_overwritten (ends : EndsIn path front name rest)
    (same : EndsIn (temporaryPath path) front name []) {state old : LocalState}
    (written : f.write (temporaryPath path) (contents state) = .ok g)
    (loaded : f.stateAt path = .ok old) (different : state ≠ old) : g.stateAt path ≠ .ok old := by
  obtain ⟨node, free, before, after⟩ := read_of_overwritten ends same written
  cases checked : Files.checkPath path with
  | error fault =>
      have refused : f.stateAt path =
          .error (.localState s!"failed to read {path}: {fault.message}") := by
        rw [stateAt_eq, before, checked]
        unfold Files.checkPath at checked
        split at checked
        · cases checked
          rfl
        · split at checked
          · cases checked
            rfl
          · cases checked
      rw [refused] at loaded
      cases loaded
  | ok _ =>
      rw [checked] at after
      rw [stateAt_eq, after]
      cases plain : isPlain path rest with
      | false => exact nofun
      | true =>
          intro same
          have held : LocalState.ofBytes (contents state) = old := Except.ok.inj same
          exact different ((LocalState.ofBytes_contents state).symm.trans held)

/-- A save is atomic: wherever it stops, the state is loaded that was loaded before or the new one, and
the one before if the save has failed. -/
def SavedAtomically (f : Files) (path : String) : Prop :=
  ∀ (state : LocalState) (g : Files) (result : Option (Except SyncError Unit)),
    ((save (some path) state : Program Unit Unit) ()).Leaves f g result →
      (g.stateAt path = f.stateAt path ∨ g.stateAt path = .ok state) ∧
        ∀ e, result = some (.error e) → g.stateAt path = f.stateAt path

/-- A save is atomic unless the path is its own temporary path, up to what may follow its name, while it
can be written and a state can be loaded from it. -/
theorem savedAtomically_iff (f : Files) (path : String) :
    SavedAtomically f path ↔
      (temporaryPath path = trimmed path →
        (∀ g, f.write (temporaryPath path) [] ≠ .ok g) ∨ ∀ state, f.stateAt path ≠ .ok state) := by
  have writable {g : Files} {bytes : List UInt8} (others : List UInt8)
      (written : f.write (temporaryPath path) bytes = .ok g) :
      ∃ h, f.write (temporaryPath path) others = .ok h := by
    obtain ⟨names, led, free, -⟩ := Files.write_eq_ok.mp written
    exact ⟨_, Files.write_eq_ok.mpr ⟨names, led, free, rfl⟩⟩
  constructor
  · intro atomic own
    rcases Classical.em (∀ g, f.write (temporaryPath path) [] ≠ .ok g) with unwritable | writes
    · exact .inl unwritable
    · refine .inr fun old loaded => ?_
      obtain ⟨emptied, written⟩ := Classical.not_forall.mp writes
      obtain ⟨state, different⟩ := LocalState.exists_ne old
      obtain ⟨g, written⟩ := writable (contents state) (Classical.not_not.mp written)
      have kept := (atomic state g _ (leaves_save_unmoved () written .busy)).2 _ rfl
      rcases temporaryPath_cases path with
        nameless | ⟨front, name, rest, other, ends, beside, named⟩
      · exact unwritable_of_nameless nameless _ written
      · obtain rfl := named.mp own
        exact stateAt_ne_of_overwritten ends beside written loaded different (kept.trans loaded)
  · intro safe state g result left
    rcases leaves_save left with ⟨rfl, -⟩ | ⟨part, -, written, -⟩ | ⟨h, written, moved, unfailed⟩
    · exact ⟨.inl rfl, fun _ _ => rfl⟩
    · have unseen : g.stateAt path = f.stateAt path := by
        rcases temporaryPath_cases path with
          nameless | ⟨front, name, rest, other, ends, beside, own⟩
        · exact absurd written (unwritable_of_nameless nameless part)
        · by_cases same : other = name
          · subst same
            rcases safe (own.mpr rfl) with unwritable | unloadable
            · obtain ⟨h, emptied⟩ := writable [] written
              exact absurd emptied (unwritable h)
            · exact stateAt_of_unloadable ends beside written unloadable
          · exact stateAt_congr (read_of_written ends beside same written)
      exact ⟨.inl unseen, fun _ _ => unseen⟩
    · exact ⟨.inr (stateAt_of_replaced written moved), fun e failed => absurd failed (unfailed e)⟩

/-- A path that ends in a separator behind its own temporary path: nothing was there and the empty state
was loaded, but a save fails, and what it wrote stands in the way of every later load. -/
theorem own_temporaryPath_blocked :
    Files.empty.stateAt "<dir>/state.tmp/" = .ok .empty ∧
      ∃ g, ((save (some "<dir>/state.tmp/") .empty : Program Unit Unit) ()).Leaves Files.empty g
          (some (.error (.localState
            "failed to replace <dir>/state.tmp/: Not a directory (os error 20)"))) ∧
        g.stateAt "<dir>/state.tmp/" =
          .error (.localState "failed to read <dir>/state.tmp/: Not a directory (os error 20)") := by
  have beside : temporaryPath "<dir>/state.tmp/" = "<dir>/state.tmp" := by decide
  have absent : Files.empty.read "<dir>/state.tmp/" = .error .notFound := rfl
  have written (bytes : List UInt8) : Files.empty.write "<dir>/state.tmp" bytes =
      .ok (Files.empty.put [Files.root, "state.tmp"] (.file bytes)) := rfl
  have blocked (bytes : List UInt8) :
      (Files.empty.put [Files.root, "state.tmp"] (.file bytes)).read "<dir>/state.tmp/" =
        .error .notDirectory := rfl
  refine ⟨by rw [stateAt_eq, absent], _, leaves_save_unmoved () (g := ?_) ?_ .notDirectory, ?_⟩
  · exact Files.empty.put [Files.root, "state.tmp"] (.file (contents .empty))
  · rw [beside]
    exact written _
  · rw [stateAt_eq, blocked]
    rfl

end StateFile

end SealedSync
