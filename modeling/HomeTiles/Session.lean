import HomeTiles.FileStorage
import HomeTiles.MemoryStorage
import HomeTiles.PreferenceStore
import HomeTiles.SettingsStorage

/-!
# Sessions: several storages and stores side by side

A session has named storages on one world (the memories, the settings files and
a file tree), named stores over them, and named listeners. A name that is given
anew leaves what had it before in place: a store whose name is taken lives on for
the listeners that it is the home of. A `Step` sets something up, changes the
world from outside, or calls a storage or a store; `Session.run` takes one step
and gives its `Answer`.
-/

namespace HomeTiles

/-- The devices of a session: its memories and settings files in the order of their making, and one file tree. -/
structure World where
  memories : List Memory := []
  settingsFiles : List Settings := []
  tree : FileTree := .fresh

namespace World

/-- The settings file that stands for one that is not there. -/
def noSettings : Settings := { organization := "", application := "" }

def memory (number : Nat) (world : World) : Memory := world.memories[number]?.getD {}

def withMemory (number : Nat) (world : World) (memory : Memory) : World :=
  { world with memories := world.memories.set number memory }

def settings (number : Nat) (world : World) : Settings := world.settingsFiles[number]?.getD noSettings

def withSettings (number : Nat) (world : World) (settings : Settings) : World :=
  { world with settingsFiles := world.settingsFiles.set number settings }

def withTree (world : World) (tree : FileTree) : World := { world with tree }

end World

/-- Where a storage of a session keeps its record. -/
inductive Place where
  | memory (number : Nat)
  | file (path : Path)
  | settings (number : Nat)
  deriving DecidableEq, Repr

/-- A storage of a session: its place and the name of its record. -/
structure NamedStorage where
  place : Place
  name : String
  deriving DecidableEq, Repr

def NamedStorage.storage (named : NamedStorage) : Storage World :=
  match named.place with
  | .memory number => Memory.storage.within (World.memory number) (World.withMemory number)
  | .file path => (StorageFile.storage ⟨path, named.name⟩).within World.tree World.withTree
  | .settings number =>
    (Settings.storage named.name).within (World.settings number) (World.withSettings number)

/-- A store of a session: its number and the storage it was opened over. -/
structure NamedStore where
  number : Nat
  named : NamedStorage
  deriving DecidableEq, Repr

/-- What a session has: the world, the stores and listeners by number, and what the names stand for. -/
structure Session where
  world : World := {}
  stores : List (PreferenceStore World) := []
  listeners : List Listener := []
  storageNames : Entries NamedStorage := []
  storeNames : Entries NamedStore := []
  /-- The first subscription of each listener that has a name. -/
  listenerNames : Entries Subscription := []

inductive StorageCall where
  | load
  | save (record : Value)
  /-- Saves a record and loads it again. -/
  | saveThenLoad (record : Value)
  | clear

inductive StoreCall where
  | get
  | set (changes : Value)
  /-- Sets and gives the document afterwards. -/
  | setThenGet (changes : Value)
  | change (change : Change)
  | setWidgets (settings : Value)
  | toggle (package : String)
  | favorite (package : String)
  | resize (package : String) (size : Value)
  | widget (package : String)
  | isFavorite (package : String)
  | rehydrate
  | clearStorage

/-- A change of the world from outside. -/
inductive OutsideChange where
  | writeFile (path : Path) (content : ByteArray)
  | makeDirectory (path : Path)
  | removeFile (path : Path)
  | refuseWrites (storageId : String) (refuses : Bool)
  | putRecord (storageId : String) (record : Value)
  | putValue (storageId name : String) (v : Value)
  | setStatus (storageId : String) (status : SettingsStatus)

inductive Setup where
  | memory (record : Value)
  | file (path : Path)
  /-- A settings file of its own, with its first values. -/
  | settings (organization application : String) (values : Fields)
  /-- The settings file of another storage. -/
  | sharedSettings (other : String)

inductive Step where
  | addStorage (id name : String) (setup : Setup)
  | openStore (id storageId : String) (version : Value) (migration : Option Migration)
  | outside (change : OutsideChange)
  | onStorage (id : String) (call : StorageCall)
  | onStore (id : String) (call : StoreCall)
  /-- Subscribes the listener of a name; it is made with a behavior if there is none yet. -/
  | subscribe (id listener : String) (behavior : Behavior)
  /-- Ends the first subscription of the listener of a name, to whichever store it was. -/
  | unsubscribe (id listener : String)

inductive StepFault where
  | fault (fault : Fault)
  | file (fault : FileFault)
  | noStore
  | noStorage
  deriving DecidableEq, Repr

structure Answer where
  result : Except StepFault Value
  events : List Event := []
  notices : List Notice := []

namespace Session

/-! ## Storages -/

/-- The session with a storage under a name; stores over a storage that had the name keep that one. -/
def withStorage (session : Session) (id name : String) (place : Place) (world : World) : Session :=
  { session with world, storageNames := session.storageNames.put id ⟨place, name⟩ }

def addStorage (session : Session) (id name : String) (setup : Setup) : Session :=
  let world := session.world
  match setup with
  | .memory record =>
    session.withStorage id name (.memory world.memories.length)
      { world with memories := world.memories ++ [{ record := record.present? }] }
  | .file path => session.withStorage id name (.file path) world
  | .settings organization application values =>
    session.withStorage id name (.settings world.settingsFiles.length)
      { world with settingsFiles := world.settingsFiles ++ [{ values, organization, application }] }
  | .sharedSettings other => match session.storageNames.get? other with
    | some ⟨place, _⟩ => session.withStorage id name place world
    | none => session

def withWorld (session : Session) (world : World) : Session := { session with world }

/-- The value that a step gives for nothing, or its fault. -/
def ofResult (result : Except Fault Unit) : Except StepFault Value :=
  match result with
  | .ok () => .ok .null
  | .error fault => .error (.fault fault)

/-- The value that a step gives for a record that was looked for, or the fault. -/
def ofLoaded (result : Except Fault (Option Value)) : Except StepFault Value :=
  match result with
  | .ok record => .ok (Value.ofOption record)
  | .error fault => .error (.fault fault)

def callStorage (session : Session) (storage : Storage World) : StorageCall → Answer × Session
  | .load =>
    let (record, notices) := storage.load session.world
    ({ result := ofLoaded record, notices }, session)
  | .save record =>
    let outcome := storage.save record session.world
    ({ result := ofResult outcome.result, notices := outcome.notices }, session.withWorld outcome.device)
  | .saveThenLoad record =>
    let outcome := storage.save record session.world
    match outcome.result with
    | .error fault =>
      ({ result := .error (.fault fault), notices := outcome.notices }, session.withWorld outcome.device)
    | .ok () =>
      let (loaded, notices) := storage.load outcome.device
      ({ result := ofLoaded loaded, notices := outcome.notices ++ notices },
        session.withWorld outcome.device)
  | .clear =>
    let outcome := storage.clear session.world
    ({ result := ofResult outcome.result, notices := outcome.notices }, session.withWorld outcome.device)

/-! ## Stores -/

/-- The value that a call of a store gives, and the run after it. -/
def callStore (run : Run World) : StoreCall → Except Fault Value × Run World
  | .get => (.ok (.object run.store.document), run)
  | .set changes => done (run.set changes)
  | .setThenGet changes => match run.set changes with
    | (.ok (), after) => (.ok (.object after.store.document), after)
    | (.error fault, after) => (.error fault, after)
  | .change change => done (run.setBy change.run)
  | .setWidgets settings => done (run.setWidgets settings)
  | .toggle package => done (run.toggle package)
  | .favorite package => done (run.favorite package)
  | .resize package size => done (run.resize package size)
  | .widget package => ((Preferences.widgetSettings run.store.document package).map .object, run)
  | .isFavorite package => ((Preferences.isFavorite run.store.document package).map .bool, run)
  | .rehydrate => match run.rehydrate with
    | (result, after) => (result.map .object, after)
  | .clearStorage => done run.clearStorage
where
  /-- A call that gives nothing back gives null. -/
  done : Except Fault Unit × Run World → Except Fault Value × Run World
    | (result, after) => (result.map fun _ => .null, after)

def start? (session : Session) (id : String) : Option (Run World) := do
  let ⟨number, _⟩ ← session.storeNames.get? id
  let store ← session.stores[number]?
  return { device := session.world, store, number, shelf := session.stores, listeners := session.listeners }

def answerOf (result : Except Fault Value) (run : Run World) : Answer :=
  { result := result.mapError .fault, events := run.events, notices := run.notices }

def withRun (session : Session) (run : Run World) : Session :=
  { session with world := run.device, stores := run.stores, listeners := run.listeners }

/-- Opens a store over a storage; one that fails to open is not kept. -/
def openStore (session : Session) (id storageId : String) (version : Value) (migration : Option Migration) :
    Answer × Session :=
  match session.storageNames.get? storageId with
  | none => ({ result := .error .noStorage }, session)
  | some named =>
    match Run.opened named.storage version (migration.map Migration.run) session.world session.stores
        session.listeners with
    | (.ok document, run) =>
      (answerOf (.ok (.object document)) run,
        { session.withRun run with storeNames := session.storeNames.put id ⟨run.number, named⟩ })
    | (.error fault, run) => (answerOf (.error fault) run, session.withWorld run.device)

/-- Subscribes the listener of a name to a store at work; it is made if there is none yet. -/
def subscribe (session : Session) (run : Run World) (name : String) (behavior : Behavior) : Answer × Session :=
  match session.listenerNames.get? name with
  | some first => (answerOf (.ok .null) run, session.withRun (run.subscribe first.listener).2)
  | none =>
    let (first, after) := run.recruit { name, behavior, home := run.number }
    (answerOf (.ok .null) after,
      { session.withRun after with listenerNames := session.listenerNames.put name first })

/-- Ends the first subscription of the listener of a name; there may be no such listener. -/
def unsubscribe (session : Session) (run : Run World) (name : String) : Answer × Session :=
  match session.listenerNames.get? name with
  | some first => (answerOf (.ok .null) run, session.withRun (run.unsubscribe first))
  | none => (answerOf (.ok .null) run, session)

/-! ## The world outside -/

def withTree (session : Session) (tree : FileTree) : Session := session.withWorld (session.world.withTree tree)

def onTree (session : Session) : Except FileFault FileTree → Answer × Session
  | .ok tree => ({ result := .ok .null }, session.withTree tree)
  | .error fault => ({ result := .error (.file fault) }, session)

def onMemory (session : Session) (id : String) (change : Memory → Memory) : Answer × Session :=
  match session.storageNames.get? id with
  | some ⟨.memory number, _⟩ =>
    ({ result := .ok .null },
      session.withWorld (session.world.withMemory number (change (session.world.memory number))))
  | _ => ({ result := .error .noStorage }, session)

def onSettings (session : Session) (id : String) (change : Settings → Settings) : Answer × Session :=
  match session.storageNames.get? id with
  | some ⟨.settings number, _⟩ =>
    ({ result := .ok .null },
      session.withWorld (session.world.withSettings number (change (session.world.settings number))))
  | _ => ({ result := .error .noStorage }, session)

/-- Changes the world from outside. -/
def changeOutside (session : Session) : OutsideChange → Answer × Session
  | .writeFile path content => match session.world.tree.makeDirectories path.parent with
    | (.ok (), made) => (session.withTree made).onTree (made.writeFile path content)
    | (.error fault, made) => (session.withTree made).onTree (.error fault)
  | .makeDirectory path =>
    let (result, made) := session.world.tree.makeDirectories path
    (session.withTree made).onTree (result.map fun _ => made)
  | .removeFile path => session.onTree (session.world.tree.removeFile path)
  | .refuseWrites id refuses => session.onMemory id fun memory => { memory with refusesWrites := refuses }
  | .putRecord id record => session.onMemory id fun memory => { memory with record := record.present? }
  | .putValue id name v =>
    session.onSettings id fun settings => { settings with values := settings.values.put name v }
  | .setStatus id status => session.onSettings id fun settings => { settings with status }

/-! ## Steps -/

def run (session : Session) : Step → Answer × Session
  | .addStorage id name setup => ({ result := .ok (.text name) }, session.addStorage id name setup)
  | .openStore id storageId version migration => session.openStore id storageId version migration
  | .outside change => session.changeOutside change
  | .onStorage id call => match session.storageNames.get? id with
    | none => ({ result := .error .noStorage }, session)
    | some named => session.callStorage named.storage call
  | .onStore id call => match session.start? id with
    | none => ({ result := .error .noStore }, session)
    | some start =>
      let (result, after) := callStore start call
      (answerOf result after, session.withRun after)
  | .subscribe id listener behavior => match session.start? id with
    | none => ({ result := .error .noStore }, session)
    | some start => session.subscribe start listener behavior
  | .unsubscribe id listener => match session.start? id with
    | none => ({ result := .error .noStore }, session)
    | some start => session.unsubscribe start listener

end Session
end HomeTiles
