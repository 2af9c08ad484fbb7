import HomeTiles.Proofs.RecordSlots
import HomeTiles.Proofs.WriteThrough

/-!
# Interchangeable storages: a program does the same over each of them

A program opens stores over one storage, asks them for changes, takes their
documents from the storage again and drops the record; what comes of each action
is its `Workspace.Reply`. Stores over two slots that hold the same record are
paired (`interchange`), and nothing they do takes them apart. So any two storages
that start out empty give the same replies, but for the words in which a write is
refused (`Workspace.replies_alike`).
-/

namespace HomeTiles

variable {σ τ : Type}

/-! ## Results and stores -/

/-- Results of one class: the same, or both say that a write did not reach the storage. -/
def SameClass {α : Type} (result result' : Except Fault α) : Prop :=
  result = result' ∨
    ∃ failure failure', result = .error (.unavailable failure) ∧ result' = .error (.unavailable failure')

theorem SameClass.map {α β : Type} {result result' : Except Fault α} (same : SameClass result result') (f : α → β) :
    SameClass (result.map f) (result'.map f) := by
  rcases same with rfl | ⟨failure, failure', rfl, rfl⟩
  · exact .inl rfl
  · exact .inr ⟨failure, failure', rfl, rfl⟩

/-- The same store over another storage. -/
def PreferenceStore.withStorage (storage : Storage τ) (store : PreferenceStore σ) : PreferenceStore τ :=
  { storage, version := store.version, migrate := store.migrate, persistent := store.persistent
    document := store.document, subscribed := store.subscribed }

/-- A store such as a program can have: its version is an integer, its migration and its document are proper. -/
structure PreferenceStore.Sound (store : PreferenceStore σ) : Prop where
  versioned : ∃ version, store.version = .int version
  migrates : MigratesProper store.migrate
  document : (Value.object store.document).Proper

theorem PreferenceStore.Sound.record {store : PreferenceStore σ} (sound : store.Sound) : store.record.Proper := by
  obtain ⟨version, versioned⟩ := sound.versioned
  exact proper_record versioned sound.document

/-! ## Stores over slots with the same record -/

section Slots

variable {storage : Storage σ} {storage' : Storage τ} (slot : Slot storage) (slot' : Slot storage')

/-- Runs that differ in their slots only, which hold the same record. -/
def interchange : Pairing σ τ where
  stores store store' := store.storage = storage ∧ store' = store.withStorage storage' ∧ store.Sound
  devices device device' := ∃ held, slot.holds device held ∧ slot'.holds device' held
  notices := Eq
  results := SameClass
  documents document := (Value.object document).Proper
  agreeing := True

/-- A proper record is taken by both slots or by neither. -/
theorem save_interchange {device : σ} {device' : τ} {held : Option Value} (holds : slot.holds device held)
    (holds' : slot'.holds device' held) {record : Value} (object : record.isObject = true) (proper : record.Proper) :
    (∃ after after', storage.save record device = ⟨.ok (), after, []⟩ ∧ storage'.save record device' = ⟨.ok (), after', []⟩ ∧
      (interchange slot slot').devices after after') ∨
    (∃ failure failure' after after', storage.save record device = ⟨.error (.unavailable failure), after, []⟩ ∧
      storage'.save record device' = ⟨.error (.unavailable failure'), after', []⟩ ∧
      (interchange slot slot').devices after after') := by
  by_cases writable : record.Writable
  · obtain ⟨after, saved, there⟩ := slot.save holds object proper writable
    obtain ⟨after', saved', there'⟩ := slot'.save holds' object proper writable
    exact .inl ⟨after, after', saved, saved', _, there, there'⟩
  · obtain ⟨failure, after, refused, there⟩ := slot.refuse holds object proper writable
    obtain ⟨failure', after', refused', there'⟩ := slot'.refuse holds' object proper writable
    exact .inr ⟨failure, failure', after, after', refused, refused', _, there, there'⟩

theorem commit_interchange {document : Fields} (proper : (Value.object document).Proper) :
    (interchange slot slot').Together SameClass (Run.commit Run.silent document) (Run.commit Run.silent document) := by
  intro run other pair
  obtain ⟨device, store, number, shelf, listeners, events, notices⟩ := run
  obtain ⟨device', store', number', shelf', listeners', events', notices'⟩ := other
  obtain ⟨⟨held, holds, holds'⟩, ⟨rfl, rfl, sound⟩, rfl, shelves, rfl, rfl, rfl, prompt⟩ := pair
  have after : ∀ persistent, ({ store with document, persistent } : PreferenceStore σ).Sound :=
    fun _ => ⟨sound.versioned, sound.migrates, proper⟩
  rcases save_interchange slot slot' holds holds' rfl (after store.persistent).record with
    ⟨next, next', saved, saved', kept⟩ | ⟨failure, failure', next, next', refused, refused', kept⟩
  · rw [Run.commit_silent_of_saved saved, Run.commit_silent_of_saved saved']
    exact ⟨.inl rfl, kept, ⟨rfl, rfl, after true⟩, rfl, shelves, rfl, rfl, rfl, prompt⟩
  · rw [Run.commit_silent_of_refused refused, Run.commit_silent_of_refused refused']
    exact ⟨.inr ⟨_, _, rfl, rfl⟩, kept, ⟨rfl, rfl, after false⟩, rfl, shelves, rfl, rfl, rfl, prompt⟩

theorem writeBack_interchange : (interchange slot slot').Together Eq Run.writeBack Run.writeBack := by
  intro run other pair
  obtain ⟨device, store, number, shelf, listeners, events, notices⟩ := run
  obtain ⟨device', store', number', shelf', listeners', events', notices'⟩ := other
  obtain ⟨⟨held, holds, holds'⟩, ⟨rfl, rfl, sound⟩, rfl, shelves, rfl, rfl, rfl, prompt⟩ := pair
  have after : ∀ persistent, ({ store with persistent } : PreferenceStore σ).Sound :=
    fun _ => ⟨sound.versioned, sound.migrates, sound.document⟩
  rcases save_interchange slot slot' holds holds' rfl sound.record with
    ⟨next, next', saved, saved', kept⟩ | ⟨failure, failure', next, next', refused, refused', kept⟩
  · rw [Run.writeBack_of_saved saved, Run.writeBack_of_saved saved']
    exact ⟨rfl, kept, ⟨rfl, rfl, after true⟩, rfl, shelves, rfl, rfl, rfl, prompt⟩
  · rw [Run.writeBack_of_refused refused, Run.writeBack_of_refused refused']
    exact ⟨rfl, kept, ⟨rfl, rfl, after false⟩, rfl, shelves, rfl, rfl, rfl, prompt⟩

/-- Stores over such slots find the same in them. -/
theorem interchange_loads {run : Run σ} {other : Run τ} (pair : (interchange slot slot').Runs run other) :
    ∃ held, run.store.storage.load run.device = (.ok held, []) ∧ other.store.storage.load other.device = (.ok held, []) ∧
      ∀ record ∈ held, record.Proper := by
  obtain ⟨held, holds, holds'⟩ := pair.device
  obtain ⟨kept, same, _⟩ := pair.store
  refine ⟨held, ?_, ?_, ?_⟩
  · rw [kept, slot.load holds]
  · rw [same]
    exact slot'.load holds'
  · rintro record rfl
    exact slot.proper holds

theorem interchange_reloads : (interchange slot slot').Reloads where
  document := by
    rintro store _ ⟨_, rfl, _⟩
    rfl
  documents stores := stores.2.2.document
  subscribed := by
    rintro store _ ⟨_, rfl, _⟩
    rfl
  resubscribe := by
    rintro store _ ⟨kept, rfl, sound⟩ subscribed
    exact ⟨kept, rfl, sound.versioned, sound.migrates, sound.document⟩
  same _ := .inl rfl
  told := by
    rintro result result' notices _ (rfl | ⟨_, _, rfl, rfl⟩) rfl name
    · rfl
    · rfl
  flipped proper asked := proper.merge (Preferences.proper_flipped proper asked)
  commit proper := commit_interchange slot slot' proper
  agree := by
    rintro _ result _ (rfl | ⟨_, _, rfl, rfl⟩)
    · rfl
    · rfl
  states pair := by
    obtain ⟨held, loaded, loaded', _⟩ := interchange_loads slot slot' pair
    rw [loaded, loaded', pair.store.2.1]
    rfl
  loaded := by
    rintro ⟨device, store, number, shelf, listeners, events, notices⟩ ⟨device', store', _, _, _, _, _⟩ pair
    obtain ⟨held, loaded, loaded', _⟩ := interchange_loads slot slot' pair
    obtain ⟨devices, stores, rfl, shelves, rfl, rfl, rfl, prompt⟩ := pair
    refine ⟨devices, stores, rfl, shelves, rfl, rfl, ?_, prompt⟩
    show notices ++ _ = notices ++ _
    rw [loaded, loaded']
  restored := by
    rintro ⟨device, store, number, shelf, listeners, events, notices⟩ ⟨device', store', _, _, _, _, _⟩ state migrated
      reported pair found
    obtain ⟨held, loaded, loaded', proper⟩ := interchange_loads slot slot' pair
    obtain ⟨devices, ⟨kept, rfl, sound⟩, rfl, shelves, rfl, rfl, rfl, prompt⟩ := pair
    rw [loaded] at found
    have restored : (Value.object (Preferences.restore state).1).Proper :=
      Preferences.proper_restore (proper_stateOf sound.migrates (fun record here => proper record here) found)
    refine ⟨devices, ⟨kept, rfl, sound.versioned, sound.migrates, restored⟩, rfl, shelves, rfl, rfl, ?_, prompt⟩
    show notices ++ _ ++ reported ++ _ = notices ++ _ ++ reported ++ _
    rw [loaded, loaded']
  writeBack := writeBack_interchange slot slot'

theorem clearStorage_interchange :
    (interchange slot slot').Together SameClass Run.clearStorage Run.clearStorage := by
  rintro ⟨device, store, number, shelf, listeners, events, notices⟩ ⟨device', store', _, _, _, _, _⟩ pair
  obtain ⟨⟨held, holds, holds'⟩, ⟨rfl, rfl, sound⟩, rfl, shelves, rfl, rfl, rfl, prompt⟩ := pair
  obtain ⟨after, cleared, empty⟩ := slot.clear holds
  obtain ⟨after', cleared', empty'⟩ := slot'.clear holds'
  rw [Run.clearStorage_of_cleared cleared, Run.clearStorage_of_cleared cleared']
  exact ⟨.inl rfl, ⟨none, empty, empty'⟩, ⟨rfl, rfl, sound⟩, rfl, shelves, rfl, rfl, rfl, prompt⟩

end Slots

/-! ## Programs -/

/-- What a program has that keeps stores over one storage. -/
structure Workspace (σ : Type) where
  device : σ
  stores : List (PreferenceStore σ) := []
  listeners : List Listener := []

namespace Workspace

/-- What a program does: it opens one more store, or calls the store of a number. -/
inductive Action where
  | openStore (version : Int) (migrate : Option (Value → Value → Except Fault Value))
  | ask (store : Nat) (request : Request)
  | rehydrate (store : Nat)
  | clearStorage (store : Nat)

/-- The values that an action brings in are such as a program can hold. -/
def Action.Proper : Action → Prop
  | .openStore _ migrate => MigratesProper migrate
  | .ask _ request => request.Proper
  | _ => True

/-- What a program sees of an action. -/
structure Reply where
  /-- The document, if the call gives one back, or its fault. -/
  result : Except Fault (Option Fields)
  document : Fields
  persistent : Bool
  events : List Event
  notices : List Notice
  /-- What the storage loads now. -/
  record : Except Fault (Option Value)

/-- The reply of a store that has done its work. -/
def Reply.of (result : Except Fault (Option Fields)) (run : Run σ) : Reply :=
  ⟨result, run.store.document, run.store.persistent, run.events, run.notices, (run.store.storage.load run.device).1⟩

/-- What is left of a store's work. -/
def ofRun (run : Run σ) : Workspace σ := ⟨run.device, run.stores, run.listeners⟩

/-- The store of a number, about to work. -/
def start? (workspace : Workspace σ) (number : Nat) : Option (Run σ) :=
  workspace.stores[number]?.map fun store =>
    { device := workspace.device, store, number, shelf := workspace.stores, listeners := workspace.listeners }

/-- Does something with the store of a number; without such a store there is no reply. -/
def atStore (workspace : Workspace σ) (number : Nat) (work : Run σ → Except Fault (Option Fields) × Run σ) :
    Option Reply × Workspace σ :=
  match workspace.start? number with
  | none => (none, workspace)
  | some start => (some (.of (work start).1 (work start).2), ofRun (work start).2)

/-- The reply to an action over a storage, and the workspace after it. A store that fails to open is not kept. -/
def act (storage : Storage σ) (workspace : Workspace σ) : Action → Option Reply × Workspace σ
  | .openStore version migrate =>
    match Run.opened storage (.int version) migrate workspace.device workspace.stores workspace.listeners with
    | (.ok document, run) => (some (.of (.ok (some document)) run), ofRun run)
    | (.error fault, run) => (some (.of (.error fault) run), { workspace with device := run.device })
  | .ask number request =>
    workspace.atStore number fun run => ((request.answer run).1.map fun _ => none, (request.answer run).2)
  | .rehydrate number => workspace.atStore number fun run => (run.rehydrate.1.map some, run.rehydrate.2)
  | .clearStorage number =>
    workspace.atStore number fun run => (run.clearStorage.1.map fun _ => none, run.clearStorage.2)

/-- The replies to actions, one after the other. -/
def replies (storage : Storage σ) : List Action → Workspace σ → List (Option Reply)
  | [], _ => []
  | action :: rest, workspace =>
    (workspace.act storage action).1 :: replies storage rest (workspace.act storage action).2

/-- The workspace after actions. -/
def actAll (storage : Storage σ) (actions : List Action) (workspace : Workspace σ) : Workspace σ :=
  actions.foldl (fun workspace action => (workspace.act storage action).2) workspace

/-! ## The same replies -/

/-- Replies that differ at most in the words in which a write is refused. -/
structure Reply.Alike (reply reply' : Reply) : Prop where
  result : SameClass reply.result reply'.result
  document : reply.document = reply'.document
  persistent : reply.persistent = reply'.persistent
  events : reply.events = reply'.events
  notices : reply.notices = reply'.notices
  record : reply.record = reply'.record

/-- Workspaces whose parts go with each other. -/
structure Paired (pairing : Pairing σ τ) (workspace : Workspace σ) (workspace' : Workspace τ) : Prop where
  device : pairing.devices workspace.device workspace'.device
  stores : List.Forall₂ pairing.stores workspace.stores workspace'.stores
  listeners : workspace.listeners = workspace'.listeners

theorem paired_ofRun {pairing : Pairing σ τ} {run : Run σ} {other : Run τ} (pair : pairing.Runs run other) :
    Paired pairing (ofRun run) (ofRun other) where
  device := pair.device
  stores := by
    show List.Forall₂ _ (run.shelf.set _ _) (other.shelf.set _ _)
    rw [← pair.number]
    exact Pairing.forall₂_set pair.shelf pair.store run.number
  listeners := pair.listeners

section Slots

variable {storage : Storage σ} {storage' : Storage τ} {slot : Slot storage} {slot' : Slot storage'}
  {workspace : Workspace σ} {workspace' : Workspace τ}

theorem Reply.Alike.of_runs {run : Run σ} {other : Run τ} (pair : (interchange slot slot').Runs run other)
    {result result' : Except Fault (Option Fields)} (same : SameClass result result') :
    (Reply.of result run).Alike (Reply.of result' other) where
  result := same
  document := (interchange_reloads slot slot').document pair.store
  persistent := by
    rw [Reply.of, Reply.of, pair.store.2.1]
    rfl
  events := pair.events
  notices := pair.notices
  record := by
    obtain ⟨held, loaded, loaded', _⟩ := interchange_loads slot slot' pair
    rw [Reply.of, Reply.of, loaded, loaded']

theorem Paired.atStore (paired : Paired (interchange slot slot') workspace workspace') (number : Nat)
    {work : Run σ → Except Fault (Option Fields) × Run σ} {work' : Run τ → Except Fault (Option Fields) × Run τ}
    (together : (interchange slot slot').Together SameClass work work') :
    Option.Rel Reply.Alike (workspace.atStore number work).1 (workspace'.atStore number work').1 ∧
      Paired (interchange slot slot') (workspace.atStore number work).2 (workspace'.atStore number work').2 := by
  unfold Workspace.atStore start?
  rcases Pairing.forall₂_getElem? paired.stores number with ⟨none, none'⟩ | ⟨store, store', found, found', stores⟩
  · rw [none, none']
    exact ⟨.none, paired⟩
  · rw [found, found']
    have pair : (interchange slot slot').Runs
        { device := workspace.device, store, number, shelf := workspace.stores, listeners := workspace.listeners }
        { device := workspace'.device, store := store', number, shelf := workspace'.stores, listeners := workspace'.listeners } :=
      ⟨paired.device, stores, rfl, paired.stores, paired.listeners, rfl, rfl, .inl trivial⟩
    obtain ⟨results, after⟩ := together _ _ pair
    exact ⟨.some (.of_runs after results), paired_ofRun after⟩

theorem Paired.openStore (paired : Paired (interchange slot slot') workspace workspace') (version : Int)
    {migrate : Option (Value → Value → Except Fault Value)} (migrates : MigratesProper migrate) :
    Option.Rel Reply.Alike (workspace.act storage (.openStore version migrate)).1
        (workspace'.act storage' (.openStore version migrate)).1 ∧
      Paired (interchange slot slot') (workspace.act storage (.openStore version migrate)).2
        (workspace'.act storage' (.openStore version migrate)).2 := by
  have new : (interchange slot slot').stores { storage, version := .int version, migrate }
      { storage := storage', version := .int version, migrate } :=
    ⟨rfl, rfl, ⟨version, rfl⟩, migrates, Preferences.proper_defaults⟩
  obtain ⟨results, opened⟩ :=
    (interchange_reloads slot slot').opened new paired.device paired.stores rfl (.inl trivial)
  unfold Workspace.act
  rw [← paired.listeners]
  dsimp only
  generalize Run.opened storage _ _ _ _ _ = done at opened results ⊢
  generalize Run.opened storage' _ _ _ _ _ = done' at opened results ⊢
  obtain ⟨result, run⟩ := done
  obtain ⟨_, run'⟩ := done'
  cases results
  cases result with
  | ok document => exact ⟨.some (.of_runs opened (.inl rfl)), paired_ofRun opened⟩
  | error fault => exact ⟨.some (.of_runs opened (.inl rfl)), opened.device, paired.stores, rfl⟩

/-- Whatever is done next, the replies are alike and the workspaces stay paired. -/
theorem Paired.act (paired : Paired (interchange slot slot') workspace workspace') {action : Action}
    (proper : action.Proper) :
    Option.Rel Reply.Alike (workspace.act storage action).1 (workspace'.act storage' action).1 ∧
      Paired (interchange slot slot') (workspace.act storage action).2 (workspace'.act storage' action).2 := by
  have reloads := interchange_reloads slot slot'
  cases action with
  | openStore version migrate => exact paired.openStore version proper
  | ask number request =>
    refine paired.atStore number fun run other pair => ?_
    obtain ⟨results, after⟩ := reloads.answer (.inl trivial) pair fun ask changes asks asked =>
      (reloads.documents pair.store).merge (Request.proper_of_ask proper asks (reloads.documents pair.store) asked)
    exact ⟨results.map _, after⟩
  | rehydrate number =>
    refine paired.atStore number fun run other pair => ?_
    obtain ⟨same, after⟩ := reloads.rehydrate run other pair
    exact ⟨.inl (congrArg (Except.map some) same), after⟩
  | clearStorage number =>
    refine paired.atStore number fun run other pair => ?_
    obtain ⟨results, after⟩ := clearStorage_interchange slot slot' run other pair
    exact ⟨results.map _, after⟩

theorem Paired.replies (paired : Paired (interchange slot slot') workspace workspace') {actions : List Action}
    (proper : ∀ action ∈ actions, action.Proper) :
    List.Forall₂ (Option.Rel Reply.Alike) (replies storage actions workspace) (replies storage' actions workspace') := by
  induction actions generalizing workspace workspace' with
  | nil => exact .nil
  | cons action rest ih =>
    obtain ⟨first, later⟩ := List.forall_mem_cons.mp proper
    obtain ⟨same, after⟩ := paired.act first
    exact .cons same (ih after later)

theorem Paired.actAll (paired : Paired (interchange slot slot') workspace workspace') {actions : List Action}
    (proper : ∀ action ∈ actions, action.Proper) :
    Paired (interchange slot slot') (workspace.actAll storage actions) (workspace'.actAll storage' actions) := by
  induction actions generalizing workspace workspace' with
  | nil => exact paired
  | cons action rest ih =>
    obtain ⟨first, later⟩ := List.forall_mem_cons.mp proper
    exact ih (paired.act first).2 later

/-- A change that leads to a document without a text is refused. The record stays, the change is announced, and
the caller is told after that. -/
theorem Paired.refused (paired : Paired (interchange slot slot') workspace workspace') {number : Nat} {start : Run σ}
    (found : workspace.start? number = some start) {request : Request} (proper : request.Proper)
    {ask : Fields → Except Fault Value} (asks : request.ask? = some ask) {changes : Fields}
    (asked : ask start.store.document = .ok (.object changes))
    (unwritable : ¬ (start.withDocument (start.store.document.merge changes)).store.record.Writable) :
    ∃ failure refused, request.answer start = (.error (.unavailable failure),
        Run.announce (start.store.document.merge changes) start.store.document refused) ∧
      refused.store = { start.store with document := start.store.document.merge changes, persistent := false } ∧
      storage.load refused.device = storage.load start.device := by
  unfold start? at found
  rcases Pairing.forall₂_getElem? paired.stores number with ⟨none, _⟩ | ⟨store, _, there, _, same, _, sound⟩
  · rw [none] at found
    cases found
  · rw [there] at found
    cases found
    obtain ⟨held, holds, _⟩ := paired.device
    have document : (Value.object (store.document.merge changes)).Proper :=
      sound.document.merge (Request.proper_of_ask proper asks sound.document asked)
    have after : ({ store with document := store.document.merge changes } : PreferenceStore σ).Sound :=
      ⟨sound.versioned, sound.migrates, document⟩
    obtain ⟨failure, next, outcome, kept⟩ := slot.refuse holds rfl after.record unwritable
    rw [← same] at outcome
    rw [Request.answer_of_ask asks, Run.setBy, Run.changeBy, asked]
    dsimp only
    rw [Run.commit_eq, Run.commit_silent_of_refused outcome]
    exact ⟨failure, _, rfl, rfl, (slot.load kept).trans (slot.load holds).symm⟩

end Slots

/-- Two storages that start out empty give a program the same replies, whatever it does: the same documents and faults
of the same class, the same flags, events and reports, and they load the same record. A change to a document without a
text is refused over either of them; the record stays, and the change is announced before the caller is told. -/
theorem replies_alike {storage : Storage σ} {storage' : Storage τ} {device : σ} {device' : τ}
    (empty : StartsEmpty storage device) (empty' : StartsEmpty storage' device') {actions : List Action}
    (proper : ∀ action ∈ actions, action.Proper) :
    List.Forall₂ (Option.Rel Reply.Alike) (replies storage actions { device }) (replies storage' actions { device := device' }) ∧
    ∀ (number : Nat) (start : Run σ) (request : Request) (ask : Fields → Except Fault Value) (changes : Fields),
      (actAll storage actions { device }).start? number = some start → request.Proper → request.ask? = some ask →
      ask start.store.document = .ok (.object changes) →
      ¬ (start.withDocument (start.store.document.merge changes)).store.record.Writable →
      ∃ failure refused, request.answer start = (.error (.unavailable failure),
          Run.announce (start.store.document.merge changes) start.store.document refused) ∧
        refused.store = { start.store with document := start.store.document.merge changes, persistent := false } ∧
        storage.load refused.device = storage.load start.device := by
  obtain ⟨slot, holds⟩ := empty.slot
  obtain ⟨slot', holds'⟩ := empty'.slot
  have paired : Paired (interchange slot slot') { device } { device := device' } :=
    ⟨⟨none, holds, holds'⟩, .nil, rfl⟩
  refine ⟨paired.replies proper, ?_⟩
  intro number start request ask changes found proper' asks asked unwritable
  exact (paired.actAll proper).refused found proper' asks asked unwritable

/-- The memory and a storage file whose directory is yet to be made: a favorite, a value without a text, a cleared
record and a second store of a later version. -/
theorem replies_alike_memory_and_file :
    let file : StorageFile := ⟨Path.ofText "home/prefs.json", storeName⟩
    let migrate (_ _ : Value) : Except Fault Value := .ok (.object [("theme", .text "dark")])
    let actions : List Action := [.openStore 0 none,
      .ask 0 (.recruit ⟨"once", .favorite "b" .hear, 0⟩), .ask 0 (.favorite "a"),
      .openStore 1 (some migrate), .ask 0 (.set (.object [("bad", .handle true)])), .clearStorage 1, .rehydrate 0]
    let start : Run Memory := { device := {}, store := { storage := Memory.storage }, shelf := [{ storage := Memory.storage }] }
    let request : Request := .set (.object [("bad", .handle true)])
    StartsEmpty Memory.storage ({} : Memory) ∧ StartsEmpty file.storage FileTree.fresh ∧
      List.Forall₂ (Option.Rel Reply.Alike) (replies Memory.storage actions { device := {} })
        (replies file.storage actions { device := FileTree.fresh }) ∧
      (actAll Memory.storage [.openStore 0 none] { device := {} }).start? 0 = some start ∧
      ∃ failure after, request.answer start = (.error (.unavailable failure), after) := by
  intro file migrate actions start request
  have empty : StartsEmpty Memory.storage ({} : Memory) := .memory {} rfl rfl
  have fresh : FileTree.fresh.Fresh file.path := by decide +kernel
  have distinct : FileTree.fresh.top.Distinct :=
    Node.distinct_empty.put "tmp" (Node.distinct_empty.put "work" Node.distinct_empty)
  have empty' : StartsEmpty file.storage FileTree.fresh := .file file _ fresh distinct
  have bad : request.Proper := ⟨List.nodup_singleton _, trivial, trivial⟩
  have migrates : MigratesProper (some migrate) := by
    rintro _ ⟨⟩ state version migrated _ _ made
    cases made
    exact ⟨List.nodup_singleton _, trivial, trivial⟩
  have proper : ∀ action ∈ actions, action.Proper := by
    simp only [actions, List.forall_mem_cons]
    exact ⟨nofun, trivial, trivial, migrates, bad, trivial, trivial, nofun⟩
  have opens : ∀ action ∈ [Action.openStore 0 none], action.Proper := by
    rw [List.forall_mem_singleton]
    exact nofun
  have found : (actAll Memory.storage [.openStore 0 none] { device := {} }).start? 0 = some start := rfl
  have unwritable : ¬ (start.withDocument (start.store.document.merge [("bad", .handle true)])).store.record.Writable := by
    rw [← Value.writeFault?_eq_none_iff]
    decide +kernel
  obtain ⟨failure, refused, same, _⟩ :=
    (replies_alike empty empty opens).2 0 start request _ _ found bad rfl rfl unwritable
  exact ⟨empty, empty', (replies_alike empty empty' proper).1, found, failure, _, same⟩

end Workspace

end HomeTiles
