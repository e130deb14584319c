import SealedSync.Proofs.FilePlaces
import SealedSync.Proofs.StateKeeping
import SealedSync.Simulation.World

/-!
# State files on a disk

A disk answers requests for files from the files it holds. It may also fail: then a file is not
written, or only a part of it, or it does not take the place of another; and the process that asked may
be gone before it has its answer. So a run leaves files behind also where it does not end.
-/
namespace SealedSync

open Simulation

/-- A disk that does not fail. It knows of nothing but files. -/
def disk : Oracle Files where
  reply
    | .readFile path, f => f.read path
    | .writeFile path bytes, f => (f.write path bytes).map fun _ => ()
    | .renameFile source target, f => (f.rename source target).map fun _ => ()
    | .remote .., _ => none
    | .resetClient _, _ => .ok ()
    | .synchronize .., _ => .ok ()
    | .random draw, _ => .fit draw.size []
    | .clock, _ => Labels.now
    | .deriveKey, _ => ()
  next
    | .writeFile path bytes, f => (f.write path bytes).toOption.getD f
    | .renameFile source target, f => (f.rename source target).toOption.getD f
    | _, f => f

/-- A disk makes and removes no directories. -/
theorem sameDirectories_disk (request : Request) (f : Files) :
    f.SameDirectories (disk.next request f) := by
  cases request with
  | writeFile path bytes =>
      cases written : f.write path bytes with
      | error fault => simp [disk, written, Except.toOption, Files.SameDirectories]
      | ok g => simpa [disk, written, Except.toOption] using Files.sameDirectories_write written
  | renameFile source target =>
      cases moved : f.rename source target with
      | error fault => simp [disk, moved, Except.toOption, Files.SameDirectories]
      | ok g => simpa [disk, moved, Except.toOption] using Files.sameDirectories_rename moved
  | _ => exact fun _ => Iff.rfl

/-- The request is about a file. -/
def Request.isFile : Request → Bool
  | .readFile _ => true
  | r => r.isFileWrite

namespace Simulation.World

theorem changeFiles_eq (w : World) (changed : Except FileFault Files) :
    w.changeFiles changed =
      (changed.map fun _ => (), { w with files := changed.toOption.getD w.files }) := by
  cases changed with
  | error fault => rfl
  | ok files => rfl

/-- In the world requests for files are answered by a disk. -/
theorem answer_eq_disk (perform : Step → World → Result × World) (w : World) {request : Request}
    (file : request.isFile = true) :
    answer perform request w =
      (disk.reply request w.files, { w with files := disk.next request w.files }) := by
  cases request with
  | readFile path => rfl
  | writeFile path bytes => exact w.changeFiles_eq _
  | renameFile source target => exact w.changeFiles_eq _
  | _ => cases file

end Simulation.World

/-- The state that is loaded from a path. -/
def Simulation.Files.stateAt (f : Files) (path : String) : Except SyncError LocalState :=
  (Session.loaded disk (some path) f).result

theorem stateAt_eq (f : Files) (path : String) :
    f.stateAt path = match f.read path with
      | .ok bytes => .ok (.ofBytes bytes)
      | .error .notFound => .ok .empty
      | .error fault => .error (.localState s!"failed to read {path}: {fault.message}") := by
  have reply : disk.reply (.readFile path) f = f.read path := rfl
  simp only [Files.stateAt, Session.loaded, StateFile.load, bind, Program.request, Run.bind,
    Run.course, Oracle.toOracle_alone, Oracle.touch_alone, reply]
  cases f.read path with
  | error fault => cases fault <;> rfl
  | ok bytes =>
      simp only [LocalState.ofBytes]
      cases Json.decodeBytes LocalState.decode bytes with
      | error e => rfl
      | ok state => rfl

/-- What a disk may reply to a request for a file, and the files that it leaves. -/
inductive Served : (request : Request) → Files → request.Reply → Files → Prop where
  | faultless (request : Request) (f : Files) :
      Served request f (disk.reply request f) (disk.next request f)
  | unwritten (path : String) (bytes : List UInt8) (f : Files) (fault : FileFault) :
      Served (.writeFile path bytes) f (.error fault) f
  | brokenOff (path : String) {part bytes : List UInt8} {f g : Files} (fault : FileFault)
      (begun : part <+: bytes) (written : f.write path part = .ok g) :
      Served (.writeFile path bytes) f (.error fault) g
  | unmoved (source target : String) (f : Files) (fault : FileFault) :
      Served (.renameFile source target) f (.error fault) f

/-- A run that begins with some files may leave others behind, with its result if it has come to an
end. -/
inductive Run.Leaves {σ α : Type} : Run σ α → Files → Files → Option (Except SyncError α) → Prop where
  | returned (value : α) (state : σ) (f : Files) : Leaves (.returned value state) f f (some (.ok value))
  | failed (error : SyncError) (state : σ) (f : Files) :
      Leaves (.failed error state) f f (some (.error error))
  | noted (event : Event) {rest : Run σ α} {f g : Files} {result : Option (Except SyncError α)}
      (left : Leaves rest f g result) : Leaves (.noted event rest) f g result
  /-- The process is gone before it has its answer. -/
  | died {request : Request} (state : σ) (resume : request.Reply → σ → Run σ α) {f g : Files}
      {reply : request.Reply} (served : Served request f reply g) :
      Leaves (.waiting request state resume) f g none
  | resumed {request : Request} {state : σ} {resume : request.Reply → σ → Run σ α} {f g h : Files}
      {reply : request.Reply} {result : Option (Except SyncError α)}
      (served : Served request f reply g) (left : Leaves (resume reply state) g h result) :
      Leaves (.waiting request state resume) f h result

namespace StateFile

variable {σ : Type} {path : String} {state : LocalState} {s : σ} {f g : Files}
  {result : Option (Except SyncError Unit)}

/-- Of a file that is written nothing, a part or all may arrive; only all of it is confirmed. -/
theorem served_writeFile {bytes : List UInt8} {reply : Except FileFault Unit}
    (served : Served (.writeFile path bytes) f reply g) :
    (g = f ∧ reply ≠ .ok ()) ∨
      (∃ part, part <+: bytes ∧ f.write path part = .ok g ∧ reply ≠ .ok ()) ∨
      f.write path bytes = .ok g ∧ reply = .ok () := by
  cases served with
  | faultless =>
      simp only [disk]
      cases written : f.write path bytes with
      | error fault => exact .inl ⟨rfl, nofun⟩
      | ok g => exact .inr (.inr ⟨rfl, rfl⟩)
  | unwritten _ _ _ fault => exact .inl ⟨rfl, nofun⟩
  | brokenOff _ fault begun written => exact .inr (.inl ⟨_, begun, written, nofun⟩)

/-- A file takes the place of another as a whole. -/
theorem served_renameFile {source target : String} {reply : Except FileFault Unit}
    (served : Served (.renameFile source target) f reply g) :
    (g = f ∧ reply ≠ .ok ()) ∨ (f.rename source target = .ok g ∧ reply = .ok ()) := by
  cases served with
  | faultless =>
      simp only [disk]
      cases moved : f.rename source target with
      | error fault => exact .inl ⟨rfl, nofun⟩
      | ok g => exact .inr ⟨rfl, rfl⟩
  | unmoved _ _ _ fault => exact .inl ⟨rfl, nofun⟩

/-- What is left of a save once the temporary file is written. -/
def replacing (path : String) (s : σ) : Run σ Unit :=
  .waiting (.renameFile (temporaryPath path) path) s fun reply s =>
    match reply with
    | .error fault => .failed (.localState s!"failed to replace {path}: {fault.message}") s
    | .ok () => .returned () s

/-- The state is written to the temporary path, and then moved to its own. -/
theorem save_eq (path : String) (state : LocalState) (s : σ) :
    (save (some path) state : Program σ Unit) s =
      .waiting (.writeFile (temporaryPath path) (contents state)) s fun reply s =>
        match reply with
        | .error fault =>
            .failed (.localState s!"failed to write {temporaryPath path}: {fault.message}") s
        | .ok () => replacing path s := by
  change Run.waiting _ _ _ = Run.waiting _ _ _
  congr 1
  funext reply s
  cases reply with
  | error fault => rfl
  | ok written =>
      change Run.waiting _ _ _ = Run.waiting _ _ _
      congr 1
      funext reply s
      cases reply with
      | error fault => rfl
      | ok moved => rfl

/-- Once the temporary file is written, the file is replaced as a whole or not at all. -/
theorem leaves_replacing (left : (replacing path s : Run σ Unit).Leaves f g result) :
    (g = f ∧ result ≠ some (.ok ())) ∨
      f.rename (temporaryPath path) path = .ok g ∧ ∀ e, result ≠ some (.error e) := by
  unfold replacing at left
  cases left with
  | died _ _ served =>
      rcases served_renameFile served with ⟨same, -⟩ | ⟨moved, -⟩
      · exact .inl ⟨same, nofun⟩
      · exact .inr ⟨moved, nofun⟩
  | @resumed _ _ _ _ h _ reply _ served left =>
      cases reply with
      | error fault =>
          obtain ⟨rfl, ended⟩ : g = h ∧ result ≠ some (.ok ()) := by
            cases left
            exact ⟨rfl, nofun⟩
          rcases served_renameFile served with ⟨same, -⟩ | ⟨-, confirmed⟩
          · exact .inl ⟨same, ended⟩
          · cases confirmed
      | ok done =>
          obtain ⟨rfl, ended⟩ : g = h ∧ ∀ e, result ≠ some (.error e) := by
            cases left
            exact ⟨rfl, nofun⟩
          rcases served_renameFile served with ⟨-, other⟩ | ⟨moved, -⟩
          · exact absurd rfl other
          · exact .inr ⟨moved, ended⟩

/-- Where a save stops, nothing is written, or a part of the state stands at the temporary path, or
the file with the whole state has taken the place of the other. -/
theorem leaves_save (left : ((save (some path) state : Program σ Unit) s).Leaves f g result) :
    (g = f ∧ result ≠ some (.ok ())) ∨
      (∃ part, part <+: contents state ∧ f.write (temporaryPath path) part = .ok g ∧
        result ≠ some (.ok ())) ∨
      ∃ h, f.write (temporaryPath path) (contents state) = .ok h ∧
        h.rename (temporaryPath path) path = .ok g ∧ ∀ e, result ≠ some (.error e) := by
  rw [save_eq] at left
  cases left with
  | died _ _ served =>
      rcases served_writeFile served with
        ⟨same, -⟩ | ⟨part, begun, written, -⟩ | ⟨written, -⟩
      · exact .inl ⟨same, nofun⟩
      · exact .inr (.inl ⟨part, begun, written, nofun⟩)
      · exact .inr (.inl ⟨_, List.prefix_rfl, written, nofun⟩)
  | @resumed _ _ _ _ h _ reply _ served left =>
      cases reply with
      | error fault =>
          obtain ⟨rfl, ended⟩ : g = h ∧ result ≠ some (.ok ()) := by
            cases left
            exact ⟨rfl, nofun⟩
          rcases served_writeFile served with
            ⟨same, -⟩ | ⟨part, begun, written, -⟩ | ⟨-, confirmed⟩
          · exact .inl ⟨same, ended⟩
          · exact .inr (.inl ⟨part, begun, written, ended⟩)
          · cases confirmed
      | ok done =>
          have written : f.write (temporaryPath path) (contents state) = .ok h := by
            rcases served_writeFile served with ⟨-, other⟩ | ⟨-, -, -, other⟩ | ⟨written, -⟩
            · exact absurd rfl other
            · exact absurd rfl other
            · exact written
          rcases leaves_replacing left with ⟨rfl, unended⟩ | ⟨moved, unfailed⟩
          · exact .inr (.inl ⟨_, List.prefix_rfl, written, unended⟩)
          · exact .inr (.inr ⟨h, written, moved, unfailed⟩)

/-- A save may fail with the whole state at the temporary path. -/
theorem leaves_save_unmoved (s : σ) (written : f.write (temporaryPath path) (contents state) = .ok g)
    (fault : FileFault) :
    ((save (some path) state : Program σ Unit) s).Leaves f g
      (some (.error (.localState s!"failed to replace {path}: {fault.message}"))) := by
  have confirmed : Served (.writeFile (temporaryPath path) (contents state)) f (.ok ()) g := by
    simpa [disk, written, Except.map, Except.toOption] using
      Served.faultless (.writeFile (temporaryPath path) (contents state)) f
  rw [save_eq]
  exact .resumed confirmed (.resumed (.unmoved (temporaryPath path) path g fault) (.failed _ s g))

/-- A state that has taken the place of another is loaded. -/
theorem stateAt_of_replaced (written : f.write (temporaryPath path) (contents state) = .ok g)
    {h : Files} (moved : g.rename (temporaryPath path) path = .ok h) : h.stateAt path = .ok state := by
  have kept := Files.sameDirectories_write written
  have arrived := Files.sameDirectories_rename moved
  obtain ⟨names, led, apart, rfl⟩ := Files.write_eq_ok.mp written
  obtain ⟨old, asDirectory, new, bytes, left, aimed, file, free, rfl⟩ := Files.rename_eq_ok.mp moved
  obtain ⟨rfl, rfl⟩ : names = old ∧ false = asDirectory := by
    simpa using (kept.goal.mp led).symm.trans left
  have whole : bytes = contents state := by
    rw [Files.node?_put _ _ _ (Files.ne_nil_of_goal led), if_pos rfl] at file
    simpa using file.symm
  have aimed : Files.Leads _ path new := arrived.goal.mp aimed
  rw [stateAt_eq, Files.read_of_leads aimed, Files.node?_put _ _ _ (Files.ne_nil_of_goal aimed),
    if_pos rfl, whole]
  exact congrArg Except.ok (LocalState.ofBytes_contents state)

end StateFile

end SealedSync
