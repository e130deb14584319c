import SealedSync.Request
import SealedSync.Text.Split

/-!
# A file system in memory

Files and directories are kept by their path from the top. A path is followed name by name: whatever
stands before the last name has to be a directory, `.` and `..` lead to the directory itself and to
the one above it, and a separator at the end asks for a directory. Names and paths are limited in length,
and no path holds a NUL character.
-/
namespace SealedSync.Simulation

inductive FileNode where
  | file (bytes : List UInt8)
  | directory

structure Files where
  nodes : NameMap FileNode

namespace Files

/-- The directory in which programs keep their files. -/
def root : String := "<dir>"

def empty : Files := ⟨NameMap.empty.insert root .directory⟩

/-- The path of a file that is named from the root. -/
def path (file : String) : String :=
  if file.startsWith "/" then file else root ++ "/" ++ file

def key (names : List String) : String := String.intercalate "/" names

def node? (f : Files) (names : List String) : Option FileNode :=
  if names.isEmpty then some .directory else f.nodes.get? (key names)

def put (f : Files) (names : List String) (node : FileNode) : Files :=
  ⟨f.nodes.insert (key names) node⟩

/-- The most bytes of a name. -/
def maxName : Nat := 255

/-- The most bytes of a path. -/
def maxPath : Nat := 4095

def checkName (name : String) : Except FileFault Unit :=
  if maxName < name.utf8ByteSize then .error .nameTooLong else .ok ()

/-- Follows names from a directory to another. -/
def enter (f : Files) (place : List String) : List String → Except FileFault (List String)
  | [] => .ok place
  | name :: rest =>
      if name = "." then f.enter place rest
      else if name = ".." then f.enter place.dropLast rest
      else do
        checkName name
        match f.node? (place ++ [name]) with
        | some .directory => f.enter (place ++ [name]) rest
        | some (.file _) => throw .notDirectory
        | none => throw .notFound

/-- What a path leads to. -/
inductive Goal where
  /-- The path ends in `.` or `..`, or is the top. -/
  | place
  /-- The path ends in a name, which is to be a directory if a separator follows it. -/
  | entry (names : List String) (asDirectory : Bool)

def names (path : String) : List String :=
  (Split.words (· == '/') path.toList).map String.ofList

/-- A path may be asked for at all. -/
def checkPath (path : String) : Except FileFault Unit :=
  if '\x00' ∈ path.toList then .error .nulCharacter
  else if maxPath < path.utf8ByteSize then .error .nameTooLong
  else .ok ()

/-- Follows names up to the last one. -/
def follow (f : Files) (names : List String) (asDirectory : Bool) : Except FileFault Goal :=
  match names.getLast? with
  | none => return .place
  | some last =>
      if last = "." ∨ last = ".." then do
        let _ ← f.enter [] names
        return .place
      else do
        let place ← f.enter [] names.dropLast
        checkName last
        return .entry (place ++ [last]) asDirectory

def goal (f : Files) (path : String) : Except FileFault Goal := do
  checkPath path
  f.follow (names path) (path.toList.getLast? == some '/')

def read (f : Files) (path : String) : Except FileFault (List UInt8) := do
  match ← f.goal path with
  | .place => throw .isDirectory
  | .entry names asDirectory =>
      match f.node? names with
      | some (.file bytes) => if asDirectory then throw .notDirectory else return bytes
      | some .directory => throw .isDirectory
      | none => throw .notFound

/-- Writes a file, in the place of the one that is there. -/
def write (f : Files) (path : String) (bytes : List UInt8) : Except FileFault Files := do
  match ← f.goal path with
  | .place => throw .isDirectory
  | .entry names asDirectory =>
      match asDirectory, f.node? names with
      | false, some (.file _) | false, none => return f.put names (.file bytes)
      | _, _ => throw .isDirectory

/-- Moves a file, in the place of the one at the target. -/
def rename (f : Files) (source target : String) : Except FileFault Files := do
  match ← f.goal source, ← f.goal target with
  | .entry old _, .entry new asDirectory =>
      match f.node? old with
      | some (.file bytes) =>
          if asDirectory then throw .notDirectory
          match f.node? new with
          | some .directory => throw .isDirectory
          | _ => return Files.put ⟨f.nodes.erase (key old)⟩ new (.file bytes)
      | some .directory => throw .isDirectory
      | none => throw .notFound
  | _, _ => throw .busy

/-- Makes the directories of a path that are not there. -/
def makeAll (f : Files) (place : List String) : List String → Files
  | [] => f
  | name :: rest =>
      if name = "." then f.makeAll place rest
      else if name = ".." then f.makeAll place.dropLast rest
      else
        let next := place ++ [name]
        match checkName name, f.node? next with
        | .ok (), some .directory => f.makeAll next rest
        | .ok (), none => (f.put next .directory).makeAll next rest
        | _, _ => f

def makeDirectory (f : Files) (path : String) : Files :=
  if '\x00' ∈ path.toList then f else f.makeAll [] (names path)

/-- Removes a directory and everything below it. -/
def remove (f : Files) (path : String) : Files :=
  match f.goal path with
  | .ok (.entry names _) =>
      match f.node? names with
      | some .directory =>
          let top := key names
          ⟨⟨f.nodes.entries.filter fun e => e.1 != top && !(e.1.startsWith (top ++ "/")),
            f.nodes.ascending.filter _⟩⟩
      | _ => f
  | _ => f

/-- The names right below the root. -/
def list (f : Files) : List String :=
  f.nodes.names.filterMap fun name =>
    match name.splitOn "/" with
    | [directory, file] => if directory = root then some file else none
    | _ => none

end Files

end SealedSync.Simulation
