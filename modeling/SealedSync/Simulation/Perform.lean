import SealedSync.Simulation.World

/-!
# Performing steps

Each step is carried out in the world and has a result. The actions that a step queues are steps as
well, so performing is bounded by how deep they are nested.
-/
namespace SealedSync.Simulation

namespace World

/-- Remembers the key of a holder, under which records may be sealed from now on. -/
def remember (w : World) (access : KeyAccess) : World :=
  match access.sealingKey with
  | .ok key => if key ∈ w.sealingKeys then w else { w with sealingKeys := w.sealingKeys ++ [key] }
  | .error _ => w

/-- The text that a payload seals under one of the keys. -/
def openWith (payload : String) : List Key → Option String
  | [] => none
  | key :: rest =>
      match KeyBundle.openText payload key with
      | .ok bytes => some (Utf8.decodeLossy bytes)
      | .error _ => openWith payload rest

def display (w : World) (entry : String × RemoteRecord) : ShownRecord :=
  let (collection, r) := entry
  match openWith r.payload w.sealingKeys with
  | some text => ⟨collection, r.id, r.modified, text, true⟩
  | none => ⟨collection, r.id, r.modified, r.payload, false⟩

/-- Stores a record on the server from outside. -/
def putRecord (w : World) (collection id payload : String) : Result × World :=
  let (time, server) := w.server.store collection (.ofPayload id payload)
  (.time time, { w with server })

/-- Stores a text as the key bundle, sealed under a key. -/
def putSealed (w : World) (key : Key) (text : String) : Result × World :=
  let (nonce, w) := w.draw .nonce
  w.putRecord cryptoCollection keysRecordId (KeyBundle.sealText key nonce text)

/-- Stores a bundle, which is one with a new key if none is given. -/
def putBundle (w : World) (key : Key) : Option KeyBundle → Result × World
  | some b => w.putSealed key b.plaintext
  | none =>
      let (bytes, w) := w.draw .collectionKey
      w.putSealed key (KeyBundle.ofDefault ⟨bytes⟩).plaintext

/-- Works with the key of a holder, under which records may be sealed from now on. -/
def withKey (w : World) (access : KeyAccess) (f : Key → World → Result × World) :
    Result × World :=
  match access.sealingKey with
  | .ok key => f key (w.remember access)
  | .error e => (.refused e, w)

variable {σ α : Type}

/-- Runs a program whose state no one else sees. -/
def runAlone (perform : Step → World → Result × World) (program : Program Unit α) (w : World) :
    Except SyncError α × World :=
  let (result, _, w) := run perform (.own Unit) (program ()) w
  (result, w)

def runOnSession (perform : Step → World → Result × World) (name : String) (w : World)
    (program : Profile → Program Session α) (f : Except SyncError α → Session → Result) :
    Result × World :=
  match w.sessions.find? name with
  | some (number, profile, s) =>
      let (result, s, w) := run perform (.session number profile) (program profile s) w
      (f result s, w)
  | none => (.done, w)

/-- The keys of a name, which belong to the session of that name if there is one. -/
def keys? (w : World) (name : String) : Option (KeyAccess × Place KeyManager × KeyManager) :=
  match w.sessions.find? name, w.managers.find? name with
  | some (number, profile, s), _ =>
      some (profile.keyAccess, .sessionKeys number, ⟨s.book.keyring, s.keyDerived⟩)
  | none, some (number, m) => some (m.access, .managerKeys number, m.keys)
  | none, none => none

def runOnKeys (perform : Step → World → Result × World) (name : String) (w : World)
    (program : KeyAccess → Program KeyManager α) (f : α → Result) : Result × World :=
  match w.keys? name with
  | some (access, place, m) =>
      let (result, _, w) := run perform place (program access m) w
      (Result.ofExcept f result, w)
  | none => (.done, w)

/-- Looks at a session. -/
def onSession (w : World) (name : String) (f : Session → Result) : Result × World :=
  match w.sessions.find? name with
  | some (_, _, s) => (f s, w)
  | none => (.done, w)

def openSession (perform : Step → World → Result × World) (name : String) (holder : Holder)
    (config : SyncConfig) (w : World) : Result × World :=
  let credentials : Credentials := ⟨holder.account, "secret", holder.passphrase⟩
  match runAlone perform (Session.begin credentials config) w with
  | (.error e, w) => (.failed e, w.remember holder.access)
  | (.ok (profile, s), w) =>
      (.opened profile.account profile.config.collectionNames (.ofSession s),
        { w with sessions := w.sessions.add name (profile, s) }.remember profile.keyAccess)

/-- Makes a fresh start outside of any session, with the keyring of a name if one is given. -/
def recover (perform : Step → World → Result × World) (name : Option String) (plan : FreshStartPlan)
    (state : LocalState) (synchronizers : List String) (key : Key) (w : World) : Result × World :=
  let place := match name.bind w.keys? with
    | some (_, place, _) => .bookkeeping place
    | none => Place.own Bookkeeping
  let listed := (synchronizers.zip (List.range synchronizers.length)).map
    fun s => Synchronizer.mk s.1 s.2
  let book := place.take w ⟨.empty, state⟩
  let (result, book, w) := run perform place (FreshStart.perform plan key listed book) w
  (.recovered result book.localState book.keyring.isLoaded book.keyring.epoch, w)

def load (perform : Step → World → Result × World) (file : StateFile) (w : World) :
    Result × World :=
  let (result, w) := runAlone perform (StateFile.load file) w
  (Result.ofExcept (.loaded file.isSome) result, w)

/-- Carries out a step; `perform` carries out the actions that happen during calls. -/
def performWith (perform : Step → World → Result × World) : Step → World → Result × World
  | .openSession name holder config, w => openSession perform name holder config w
  | .register name synchronizer, w =>
      runOnSession perform name w (fun _ => Session.register synchronizer) fun _ _ => .done
  | .sync name, w =>
      runOnSession perform name w Session.sync fun result s => .synced result (.ofSession s)
  | .cancel name, w =>
      runOnSession perform name w (fun _ => Program.modify Session.cancel)
        fun _ s => .flag s.cancelRequested
  | .isCancelled name, w => w.onSession name fun s => .flag s.cancelRequested
  | .isSyncing name, w => w.onSession name fun s => .flag s.isSyncing
  | .freshStarts name, w => w.onSession name fun s => .count s.freshStarts
  | .state name, w => w.onSession name fun s => .view (.ofSession s)
  | .manager name holder, w =>
      let access := holder.access
      (.done, { w with managers := w.managers.add name ⟨access, .new⟩ }.remember access)
  | .bind name epoch modified, w =>
      runOnKeys perform name w
        (fun _ => KeyManager.onKeyring (Keyring.bind (w.labels.reveal epoch) modified)) .flag
  | .refresh name, w => runOnKeys perform name w KeyManager.refresh fun _ => .done
  | .key name collection, w =>
      runOnKeys perform name w (fun access => KeyManager.keyFor access collection) .key
  | .invalidate name, w =>
      runOnKeys perform name w (fun _ => KeyManager.onKeyring Keyring.invalidate) fun _ => .done
  | .keyState name, w =>
      runOnKeys perform name w (fun _ => Program.get)
        fun m => .keyState m.keyring.isLoaded m.keyring.epoch
  | .sealingKey name, w => runOnKeys perform name w KeyManager.sealingKey .key
  | .fetchIndex limit, w =>
      let (result, w) := runAlone perform (RemoteState.fetchIndex limit) w
      (Result.ofExcept .index result, w)
  | .fetchMetadata limit, w =>
      let (result, w) := runAlone perform (RemoteState.fetchMetadata limit) w
      (Result.ofExcept .metadata result, w)
  | .fetchBundle holder queries, w =>
      w.withKey holder.access fun key w =>
        let (result, w) := runAlone perform (RemoteState.fetchBundle holder.limit key) w
        (Result.ofExcept (.bundle · queries) result, w)
  | .recover name holder plan state synchronizers, w =>
      w.withKey holder.access (recover perform name plan state synchronizers)
  | .load file, w => load perform file w
  | .save file state, w =>
      let (result, w) := runAlone perform (StateFile.save file state) w
      (Result.ofExcept (fun _ => .done) result, w)
  | .writeFile file bytes, w => (.done, (w.changeFiles (w.files.write (Files.path file) bytes)).2)
  | .writeText file text, w =>
      let bytes := Utf8.encode (w.labels.reveal text)
      (.done, (w.changeFiles (w.files.write (Files.path file) bytes)).2)
  | .showFile file, w =>
      (.text (match w.files.read (Files.path file) with
        | .ok bytes => some (Utf8.decodeLossy bytes)
        | .error _ => none), w)
  | .listFiles, w => (.names w.files.list, w)
  | .makeDirectory file, w => (.done, { w with files := w.files.makeDirectory (Files.path file) })
  | .removeDirectory file, w => (.done, { w with files := w.files.remove (Files.path file) })
  | .putRaw collection id payload, w => w.putRecord collection id (w.labels.reveal payload)
  | .putBundle holder bundle, w => w.withKey holder.access fun key w => w.putBundle key bundle
  | .putSealed holder text, w => w.withKey holder.access fun key w => w.putSealed key text
  | .deleteRecord collection id, w =>
      (.flag (w.server.find? collection id).isSome,
        { w with server := w.server.erase collection id })
  | .removeIndex collection, w =>
      (.flag (w.server.index.contains collection),
        { w with server := { w.server with index := w.server.index.erase collection } })
  | .setIndex collection modified, w =>
      let index := w.server.index.insert collection modified
      (.done, { w with server := { w.server with index } })
  | .respondEmpty on, w => (.done, { w with server := { w.server with respondEmpty := on } })
  | .dropWrites on, w => (.done, { w with server := { w.server with dropWrites := on } })
  | .failCalls on error times, w => (.done, { w with faults := w.faults.insert on ⟨error, times⟩ })
  | .clearFaults, w => (.done, { w with faults := .empty })
  | .delay on limit, w => (.done, { w with delays := w.delays.insert on limit })
  | .clearDelays, w => (.done, { w with delays := .empty })
  | .during on actions, w => (.done, { w with hooks := w.hooks ++ [(on, actions)] })
  | .listServer, w => (.server w.server.index (w.server.listing.map w.display), w)

/-- Carries out a step in which actions are nested no deeper than given. -/
def perform : Nat → Step → World → Result × World
  | 0 => performWith fun _ w => (.done, w)
  | depth + 1 => performWith (perform depth)

end World

/-- What a step leaves behind. -/
structure Observation where
  result : Result
  calls : List String
  during : List Result
  events : List Event

/-- Carries out steps one after another. -/
def play (depth : Nat) : List Step → World → List Observation × World
  | [], w => ([], w)
  | s :: rest, w =>
      let (result, w) := w.beginStep.perform depth s
      let (observations, last) := play depth rest w
      (⟨result, w.calls, w.during, w.events⟩ :: observations, last)

/-- Carries out steps in a new world. -/
def simulate (steps : List Step) : List Observation × Labels :=
  let (observations, w) := play (Step.depths steps + 1) steps .start
  (observations, w.labels)

end SealedSync.Simulation
