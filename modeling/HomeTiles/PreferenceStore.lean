import HomeTiles.Callbacks
import HomeTiles.Listeners
import HomeTiles.Storage

/-!
# The preference store: a document that is written through to its storage

A store holds the document and writes it to its storage at each change. Its
listeners hear of each change and may in turn change this store or another one,
so a store is run together with the device under the storages, the other stores,
the listeners and what has been heard and reported so far: a `Run`. A change is
committed first, written next and then announced. A write that does not reach
the storage leaves the change in place, marks the store as not persistent and is
reported to the caller.

The operations are those of the store at work; `Run.visit` does something at
another store and comes back. Each listener has so many favorites to make, and
`Run.announce` needs no more nested announcements than there are favorites to be
made by all of them. It recurs on that number.
-/

namespace HomeTiles

/-- The version that preferences are stored under. -/
def storeVersion : Int := 0

/-- A store over a storage on a device. -/
structure PreferenceStore (σ : Type) where
  storage : Storage σ
  version : Value := .int storeVersion
  /-- Makes a state of this version of a stored state and its version. -/
  migrate : Option (Value → Value → Except Fault Value) := none
  /-- Whether the last write reached the storage. -/
  persistent : Bool := true
  document : Fields := Preferences.defaults
  /-- The numbers of the listeners that are subscribed, one that is subscribed twice standing twice. -/
  subscribed : List Nat := []

def PreferenceStore.record {σ : Type} (store : PreferenceStore σ) : Value :=
  .object [("state", .object store.document), ("version", store.version)]

/-- A store at work with its surroundings. -/
structure Run (σ : Type) where
  device : σ
  store : PreferenceStore σ
  /-- The number of the store at work. -/
  number : Nat := 0
  /-- The stores by number; the one at work may have moved on from its place here. -/
  shelf : List (PreferenceStore σ) := []
  listeners : List Listener := []
  events : List Event := []
  notices : List Notice := []

namespace Run

variable {σ : Type}

def note (run : Run σ) (notice : Notice) : Run σ := { run with notices := run.notices ++ [notice] }

def after (run : Run σ) (outcome : Outcome σ) : Run σ :=
  { run with device := outcome.device, notices := run.notices ++ outcome.notices }

def withDocument (run : Run σ) (document : Fields) : Run σ :=
  { run with store := { run.store with document := document } }

def withPersistent (run : Run σ) (persistent : Bool) : Run σ :=
  { run with store := { run.store with persistent := persistent } }

/-- The stores by number, as they are now. -/
def stores (run : Run σ) : List (PreferenceStore σ) := run.shelf.set run.number run.store

/-- Does something at the store of a number and comes back; a number that no store has means the
store at work. -/
def visit {α : Type} (number : Nat) (act : Run σ → α × Run σ) (run : Run σ) : α × Run σ :=
  if number = run.number then act run
  else match run.shelf[number]? with
    | none => act run
    | some store =>
      let (result, after) := act { run with store, number, shelf := run.stores }
      (result,
        { after with
          store := (after.shelf[run.number]?).getD run.store
          number := run.number
          shelf := after.shelf.set number after.store })

/-! ## Subscriptions -/

/-- Makes a listener known: its number comes next. -/
def introduce (listener : Listener) (run : Run σ) : Nat × Run σ :=
  (run.listeners.length, { run with listeners := run.listeners ++ [listener] })

def subscribe (listener : Nat) (run : Run σ) : Subscription × Run σ :=
  (⟨listener, run.number⟩,
    { run with store := { run.store with subscribed := run.store.subscribed ++ [listener] } })

/-- Takes the first of the places at which the listener of a subscription stands in its store, if
there is one. -/
def unsubscribe (subscription : Subscription) (run : Run σ) : Run σ :=
  (run.visit subscription.store fun there =>
    ((), { there with
      store := { there.store with subscribed := there.store.subscribed.erase subscription.listener } })).2

/-- Subscribes a listener that is not known yet. -/
def recruit (listener : Listener) (run : Run σ) : Subscription × Run σ :=
  let (number, known) := run.introduce listener
  known.subscribe number

/-! ## Announcing a change -/

/-- A way of telling the listeners a new and an old document. -/
abbrev Announcer (σ : Type) := Fields → Fields → Run σ → Run σ

/-- What a listener does at one call: it goes through its behavior up to where the call is over, and makes packages
favorites by `favorite`. A call that fails, by itself or by what it does to the listener's home, is reported. -/
def perform (favorite : String → Run σ → Except Fault Unit × Run σ) (number : Nat) (listener : Listener) :
    Behavior → Run σ → Run σ
  | .hear, run => run
  | .scribble, run => run
  | .wait _, run => run
  | .fail, run => run.note (.listenerFailed listener.name)
  | .failOnce _, run => run.note (.listenerFailed listener.name)
  | .leave, run => run.unsubscribe ⟨number, listener.home⟩
  | .leaveThen rest, run => perform favorite number listener rest (run.unsubscribe ⟨number, listener.home⟩)
  | .recruit name behavior rest, run =>
    let recruited := run.visit listener.home (recruit { name, behavior, home := listener.home })
    perform favorite number listener rest recruited.2
  | .favorite package rest, run =>
    match run.visit listener.home (favorite package) with
    | (.ok (), changed) => perform favorite number listener rest changed
    | (.error _, changed) => changed.note (.listenerFailed listener.name)

/-- Tells the listener of a number, and lets it do what it does then. -/
def tell (favorite : String → Run σ → Except Fault Unit × Run σ) (new old : Fields) (run : Run σ)
    (number : Nat) : Run σ :=
  match run.listeners[number]? with
  | none => run
  | some listener =>
    let heard : Run σ :=
      { run with events := run.events ++ [⟨listener.name, new, old⟩], listeners := afterCall run.listeners number }
    perform favorite number listener listener.behavior heard

/-- Commits a document, writes it and announces it, whether or not the write reached the storage. -/
def commit (announce : Announcer σ) (document : Fields) (run : Run σ) : Except Fault Unit × Run σ :=
  let old := run.store.document
  let committed := run.withDocument document
  let outcome := committed.store.storage.save committed.store.record committed.device
  let written := committed.after outcome
  match outcome.result with
  | .ok () => (.ok (), announce document old (written.withPersistent true))
  | .error fault =>
    if fault.isUnavailable then
      (.error fault, announce document old ((written.withPersistent false).note .keptInMemory))
    else (.error fault, announce document old written)

/-- Puts what a function asks for over the document and commits that. A function that fails or
asks for anything but an object changes nothing. -/
def changeBy (announce : Announcer σ) (ask : Fields → Except Fault Value) (run : Run σ) :
    Except Fault Unit × Run σ :=
  match ask run.store.document with
  | .error fault => (.error fault, run)
  | .ok (.object changes) => commit announce (run.store.document.merge changes) run
  | .ok _ => (.error .wrongKind, run)

/-- Tells all listeners that are subscribed at the start, in order, with so many levels of
announcements below this one. -/
def announceWithin : Nat → Announcer σ
  | 0, new, old, run => run.store.subscribed.foldl (tell (fun _ nested => (.ok (), nested)) new old) run
  | depth + 1, new, old, run =>
    run.store.subscribed.foldl
      (tell (fun package => changeBy (announceWithin depth) (Preferences.flipped package)) new old) run

/-- The number of favorites that listeners will make. -/
def pending (run : Run σ) : Nat := favoritesOfAll run.listeners

/-- Tells all listeners that are subscribed at the start, in order. -/
def announce (new old : Fields) (run : Run σ) : Run σ := announceWithin run.pending new old run

/-! ## Changing the store -/

/-- Puts what a function of the document asks for over the document and writes it through. -/
def setBy (ask : Fields → Except Fault Value) (run : Run σ) : Except Fault Unit × Run σ :=
  changeBy announce ask run

/-- Puts the entries of a value over the document and writes it through. -/
def set (changes : Value) (run : Run σ) : Except Fault Unit × Run σ := run.setBy fun _ => .ok changes

def setWidgets (settings : Value) (run : Run σ) : Except Fault Unit × Run σ :=
  match Preferences.mapOf settings with
  | .error fault => (.error fault, run)
  | .ok widgets => run.set (.object [(Preferences.widgetsKey, .object widgets)])

def toggle (package : String) (run : Run σ) : Except Fault Unit × Run σ :=
  run.setBy (Preferences.toggled package)

/-- Gives a widget the size that a value names. -/
def resize (package : String) (size : Value) (run : Run σ) : Except Fault Unit × Run σ :=
  match WidgetSize.ofValue size with
  | .error fault => (.error fault, run)
  | .ok size => run.setBy (Preferences.resized package size)

/-- Makes a package a favorite or not, whichever it was not. -/
def favorite (package : String) (run : Run σ) : Except Fault Unit × Run σ :=
  run.setBy (Preferences.flipped package)

/-! ## The storage -/

/-- What a loaded record comes to for a store: the state to restore, whether it was migrated, and the notices. -/
def stateOf (store : PreferenceStore σ) : Option Value → Except Fault (Value × Bool × List Notice)
  | none => .ok (.null, false, [])
  | some (.object record) =>
    let state := Value.underName record "state"
    let stored := (Entries.get? record "version").getD (.int 0)
    if stored.equal store.version then .ok (state, false, [])
    else match store.migrate with
      | none => .ok (.null, false, [.otherVersion stored store.version])
      | some migrate => (migrate state stored).map fun migrated => (migrated, true, [])
  | some _ => .error .noEntries

/-- Writes a migrated document back; a write that does not reach the storage is only reported. -/
def writeBack (run : Run σ) : Except Fault Unit × Run σ :=
  let outcome := run.store.storage.save run.store.record run.device
  let written := run.after outcome
  match outcome.result with
  | .ok () => (.ok (), written.withPersistent true)
  | .error fault =>
    if fault.isUnavailable then (.ok (), (written.withPersistent false).note .migrationNotWritten)
    else (.error fault, written)

/-- Takes the document from the storage again; listeners hear of it if it is another one. -/
def rehydrate (run : Run σ) : Except Fault Fields × Run σ :=
  let (record, notices) := run.store.storage.load run.device
  let loaded : Run σ := { run with notices := run.notices ++ notices }
  match record.bind (stateOf loaded.store) with
  | .error fault => (.error fault, loaded)
  | .ok (state, migrated, versionNotices) =>
    let old := loaded.store.document
    let (document, restoreNotices) := Preferences.restore state
    let noted : Run σ := { loaded with notices := loaded.notices ++ versionNotices ++ restoreNotices }
    let restored := noted.withDocument document
    match if migrated then restored.writeBack else (.ok (), restored) with
    | (.error fault, written) => (.error fault, written)
    | (.ok (), written) =>
      let announced := if document.alikeAsCopies old then written else announce document old written
      (.ok announced.store.document, announced)

/-- Drops the stored record; the document stays. -/
def clearStorage (run : Run σ) : Except Fault Unit × Run σ :=
  let outcome := run.store.storage.clear run.device
  (outcome.result, run.after outcome)

/-- Opens a store over a storage, beside other stores: its number comes next, the document is what
the storage holds, and nobody is subscribed. -/
def opened (storage : Storage σ) (version : Value) (migrate : Option (Value → Value → Except Fault Value))
    (device : σ) (others : List (PreferenceStore σ)) (listeners : List Listener) :
    Except Fault Fields × Run σ :=
  let store : PreferenceStore σ := { storage, version, migrate }
  rehydrate { device, store, number := others.length, shelf := others ++ [store], listeners }

end Run
end HomeTiles
