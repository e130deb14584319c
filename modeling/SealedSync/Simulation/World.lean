import SealedSync.Simulation.Entropy
import SealedSync.Simulation.Files
import SealedSync.Simulation.Labels
import SealedSync.Simulation.Roster
import SealedSync.Simulation.Server
import SealedSync.Simulation.Step

/-!
# A simulated world

The world answers the requests of programs from a server and files in memory. Calls can be made to
fail or to take time, and actions can be queued that happen while a call is under way: first the
call is noted, then the oldest action queued for it happens, then its time passes, then it fails if
it has been told to, and only then it takes effect.
-/
namespace SealedSync.Simulation

/-- A key manager of its own, which belongs to no session. -/
structure Manager where
  access : KeyAccess
  keys : KeyManager

/-- An error that a call returns, as often as told or until it is cleared. -/
structure Fault where
  error : SyncError
  times : Option Nat

structure World where
  server : Server
  files : Files
  entropy : Entropy
  labels : Labels
  sessions : Roster (Profile × Session)
  managers : Roster Manager
  faults : NameMap Fault
  delays : NameMap Duration
  /-- Queued actions, the oldest first. -/
  hooks : List (String × List Step)
  /-- The keys under which records may have been sealed. -/
  sealingKeys : List Key
  calls : List String
  during : List Result
  events : List Event

namespace World

def start : World :=
  ⟨.empty, .empty, .start, .empty, .empty, .empty, .empty, .empty, [], [], [], [], []⟩

/-- Forgets what has been observed. -/
def beginStep (w : World) : World := { w with calls := [], during := [], events := [] }

def note (w : World) (event : Event) : World := { w with events := w.events ++ [event] }

def log (w : World) (line : String) : World := { w with calls := w.calls ++ [line] }

/-- The name by which hooks, delays and faults know a call. -/
def callName : RemoteCall → String
  | .index => "info"
  | .fetch collection _ => s!"get {collection}"
  | .store collection _ => s!"put {collection}"
  | .wipe => "wipe"

def callLine : RemoteCall → String
  | .index => "info"
  | .fetch collection id => s!"get {collection}/{id}"
  | .store collection record =>
      s!"put {collection}/{record.id} modified=" ++ (Json.float record.modified).render
  | .wipe => "wipe"

/-- Numbers the engines of a metadata record that is about to be stored. -/
def labelEngines (w : World) : RemoteCall → World
  | .store collection record =>
      if collection = metaCollection then
        match RemoteState.decodeMetadata record.payload with
        | .ok m =>
            { w with labels := m.engines.entries.foldl (fun l e => l.addId e.2.syncId) w.labels }
        | .error _ => w
      else w
  | _ => w

/-- Takes the oldest actions queued for a call. -/
def takeHook (on : String) :
    List (String × List Step) → Option (List Step × List (String × List Step))
  | [] => none
  | (name, actions) :: rest =>
      if name = on then some (actions, rest)
      else (takeHook on rest).map fun found => (found.1, (name, actions) :: found.2)

/-- Carries out actions, in a way that is given, and keeps their results. -/
def act (perform : Step → World → Result × World) : List Step → World → World
  | [], w => w
  | s :: rest, w =>
      let (result, w) := perform s w
      act perform rest { w with during := w.during ++ [result] }

def runHook (perform : Step → World → Result × World) (on : String) (w : World) : World :=
  match takeHook on w.hooks with
  | some (actions, hooks) => act perform actions { w with hooks }
  | none => w

/-- The error that a call has been told to return. -/
def takeFault (w : World) (on : String) : Option SyncError × World :=
  match w.faults.get? on with
  | some ⟨error, none⟩ => (some error, w)
  | some ⟨error, some (times + 1)⟩ =>
      let faults := if times = 0 then w.faults.erase on else w.faults.insert on ⟨error, some times⟩
      (some error, { w with faults })
  | _ => (none, w)

def isLate (w : World) (on : String) (limit : Duration) : Bool :=
  match w.delays.get? on with
  | some delay => limit.totalNanoseconds < delay.totalNanoseconds
  | none => false

/-- Answers a remote call. -/
def answerRemote (perform : Step → World → Result × World) (limit : Duration) (call : RemoteCall)
    (w : World) : Option (Except SyncError call.Answer) × World :=
  let on := callName call
  let w := runHook perform on ((w.labelEngines call).log (callLine call))
  if w.isLate on limit then (none, w)
  else
    match w.takeFault on with
    | (some error, w) => (some (.error error), w)
    | (none, w) =>
        let (answer, server) := w.server.respond call
        (some (.ok answer), { w with server })

/-- Lets a synchronizer do what it is asked, which always succeeds unless told otherwise. -/
def answerSynchronizer (perform : Step → World → Result × World) (on line : String) (w : World) :
    Except SyncError Unit × World :=
  match (runHook perform on (w.log line)).takeFault on with
  | (some error, w) => (.error error, w)
  | (none, w) => (.ok (), w)

/-- Numbers what has been drawn, where it is numbered at once. -/
def labelDraw (w : World) : (draw : Draw) → FixedBytes draw.size → World
  | .epochId, bytes => { w with labels := w.labels.addId (Base64.encodeUrlSafe bytes.val) }
  | .collectionKey, bytes => { w with labels := w.labels.addKey ⟨bytes⟩ }
  | .engineId, _ => w
  | .nonce, _ => w

def draw (w : World) (draw : Draw) : FixedBytes draw.size × World :=
  let (bytes, entropy) := w.entropy.draw draw.size
  (bytes, { w with entropy }.labelDraw draw bytes)

/-- Puts changed files in place, if the change succeeded. -/
def changeFiles (w : World) : Except FileFault Files → Except FileFault Unit × World
  | .ok files => (.ok (), { w with files })
  | .error fault => (.error fault, w)

def answer (perform : Step → World → Result × World) :
    (request : Request) → World → request.Reply × World
  | .remote limit call, w => answerRemote perform limit call w
  | .resetClient s, w => answerSynchronizer perform s!"reset {s.name}" s!"reset {s.name}" w
  | .synchronize s key, w =>
      answerSynchronizer perform s!"sync {s.name}" s!"sync {s.name} {key.toHex}" w
  | .deriveKey, w => ((), w)
  | .readFile path, w => (w.files.read path, w)
  | .writeFile path bytes, w => w.changeFiles (w.files.write path bytes)
  | .renameFile source target, w => w.changeFiles (w.files.rename source target)
  | .random d, w => w.draw d
  | .clock, w => (Labels.now, w)

/-- Where in the world the state of a program is kept: a state is put there while the program waits
and taken from there when it goes on. -/
structure Place (σ : Type) where
  put : σ → World → World
  take : World → σ → σ

namespace Place

/-- A state that only the program itself can reach. -/
def own (σ : Type) : Place σ := ⟨fun _ w => w, fun _ state => state⟩

/-- The session of a number. -/
def session (number : Nat) (profile : Profile) : Place Session where
  put s w := { w with sessions := w.sessions.set number (profile, s) }
  take w s :=
    match w.sessions.get? number with
    | some (_, current) => current
    | none => s

/-- The keys of the session of a number. -/
def sessionKeys (number : Nat) : Place KeyManager where
  put m w :=
    match w.sessions.get? number with
    | some (profile, s) =>
        (session number profile).put
          { s with book := { s.book with keyring := m.keyring }, keyDerived := m.derived } w
    | none => w
  take w m :=
    match w.sessions.get? number with
    | some (_, s) => ⟨s.book.keyring, s.keyDerived⟩
    | none => m

/-- The keys of the manager of a number. -/
def managerKeys (number : Nat) : Place KeyManager where
  put keys w :=
    match w.managers.get? number with
    | some m => { w with managers := w.managers.set number { m with keys } }
    | none => w
  take w keys :=
    match w.managers.get? number with
    | some m => m.keys
    | none => keys

/-- Bookkeeping of which only the keyring is kept, with the keys in a place. -/
def bookkeeping (place : Place KeyManager) : Place Bookkeeping where
  put b w := place.put { place.take w .new with keyring := b.keyring } w
  take w b := { b with keyring := (place.take w ⟨b.keyring, false⟩).keyring }

end Place

/-- Runs a program to its end. -/
def run {σ α : Type} (perform : Step → World → Result × World) (place : Place σ) :
    Run σ α → World → Except SyncError α × σ × World
  | .returned value state, w => (.ok value, state, place.put state w)
  | .failed error state, w => (.error error, state, place.put state w)
  | .noted event rest, w => run perform place rest (w.note event)
  | .waiting request state resume, w =>
      let (reply, w) := answer perform request (place.put state w)
      run perform place (resume reply (place.take w state)) w

end World

end SealedSync.Simulation
