import SealedSync.Program

/-!
# The file of the local state

The state is written as indented JSON to a temporary file beside its own, which then replaces it. A
missing file is an empty state, and so is one that does not decode; a file that cannot be read is an
error. Without a path nothing is kept.
-/
namespace SealedSync

/-- A place for the local state, if there is one. -/
abbrev StateFile := Option String

namespace StateFile

variable {σ : Type}

/-- Drops separators, and single dots between them, off the end of a reversed path. -/
def dropSeparators : List Char → List Char
  | '/' :: rest => dropSeparators rest
  | '.' :: '/' :: rest => dropSeparators ('/' :: rest)
  | path => path

/-- A reversed file name without its extension; a dot at the front begins none. -/
def stem (name : List Char) : List Char :=
  match name.dropWhile (· != '.') with
  | [] | ['.'] => name
  | _ :: before => before

/-- The path with the extension of its file name replaced; one that ends in no name is kept. Where the
name is a single dot with an extension, and nothing follows it, the dots that are left lead to the
directory above. -/
def temporaryPath (path : String) : String :=
  let whole := path.toList.reverse
  let reversed := dropSeparators whole
  let name := reversed.takeWhile (· != '/')
  let directory := reversed.dropWhile (· != '/')
  if name = [] ∨ name = ['.'] ∨ name = ['.', '.'] then path
  else if name.dropWhile (· != '.') = ['.', '.'] ∧ reversed = whole then
    String.ofList (directory.reverse ++ ['.', '.'])
  else String.ofList ((stem name ++ directory).reverse ++ ['.', 't', 'm', 'p'])

def contents (state : LocalState) : List UInt8 := Utf8.encode state.toJson.renderIndented

def load (file : StateFile) : Program σ LocalState := do
  match file with
  | none => return LocalState.empty
  | some path => do
      match ← Program.request (.readFile path) with
      | .error .notFound => do
          Program.note (.stateAbsent path)
          return LocalState.empty
      | .error fault => Program.fail (.localState s!"failed to read {path}: {fault.message}")
      | .ok bytes =>
          match Json.decodeBytes LocalState.decode bytes with
          | .ok state => return state
          | .error e => do
              Program.note (.stateDiscarded path e)
              return LocalState.empty

def save (file : StateFile) (state : LocalState) : Program σ Unit := do
  match file with
  | none => return ()
  | some path => do
      let temporary := temporaryPath path
      match ← Program.request (.writeFile temporary (contents state)) with
      | .error fault =>
          Program.fail (.localState s!"failed to write {temporary}: {fault.message}")
      | .ok () =>
          match ← Program.request (.renameFile temporary path) with
          | .error fault =>
              Program.fail (.localState s!"failed to replace {path}: {fault.message}")
          | .ok () => return ()

end StateFile

end SealedSync
