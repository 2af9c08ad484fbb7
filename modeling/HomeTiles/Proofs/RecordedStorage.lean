import HomeTiles.Proofs.Requests

/-!
# Recorded storages: a run beside its own history

`Storage.recorded` is a storage on a device that also holds what has touched it,
the latest first. Loading, saving and clearing go on as before, so a store over a
recorded storage does what it would do without the record (`Operation.actAll_recorded`). What
is said of the record is therefore said of the run itself.
-/

namespace HomeTiles

/-- What touches a storage: a write that its store attempts, with its result, or anything else. -/
inductive Touch where
  | write (result : Except Fault Unit)
  | other
  deriving DecidableEq, Repr

namespace Touch

/-- The result of a write. -/
def write? : Touch → Option (Except Fault Unit)
  | .write result => some result
  | .other => none

/-- Whether a write reached the storage; one that failed otherwise does not settle it. -/
def reached? : Touch → Option Bool
  | .write (.ok ()) => some true
  | .write (.error fault) => if fault.isUnavailable then some false else none
  | .other => none

end Touch

/-- A storage that records what touches it. -/
def Storage.recorded {σ : Type} (storage : Storage σ) : Storage (σ × List Touch) where
  load device := storage.load device.1
  save record device :=
    let outcome := storage.save record device.1
    { outcome with device := (outcome.device, .write outcome.result :: device.2) }
  clear device :=
    let outcome := storage.clear device.1
    { outcome with device := (outcome.device, .other :: device.2) }

/-- The store over the recorded storage. -/
def PreferenceStore.recorded {σ : Type} (store : PreferenceStore σ) : PreferenceStore (σ × List Touch) :=
  { storage := store.storage.recorded, version := store.version, migrate := store.migrate
    persistent := store.persistent, document := store.document, subscribed := store.subscribed }

namespace Run

variable {σ : Type}

/-- The run over recorded storages. -/
def recorded (run : Run σ) (log : List Touch) : Run (σ × List Touch) :=
  { device := (run.device, log), store := run.store.recorded, number := run.number
    shelf := run.shelf.map PreferenceStore.recorded, listeners := run.listeners, events := run.events
    notices := run.notices }

end Run

/-! ## Operations -/

/-- What is done with a store, or to the device under its storage. -/
inductive Operation (σ : Type) where
  | set (changes : Value)
  | setBy (ask : Fields → Except Fault Value)
  | setWidgets (settings : Value)
  | toggle (package : String)
  | resize (package : String) (size : Value)
  | favorite (package : String)
  /-- Subscribes a listener that is not known yet. -/
  | recruit (listener : Listener)
  /-- Subscribes the listener of a number once more. -/
  | subscribe (listener : Nat)
  | unsubscribe (subscription : Subscription)
  | rehydrate
  | clearStorage
  | outside (effect : σ → σ)

namespace Operation

variable {σ : Type}

/-- The run after an operation; one that fails is gone on after. -/
def act (run : Run σ) : Operation σ → Run σ
  | .set changes => (run.set changes).2
  | .setBy ask => (run.setBy ask).2
  | .setWidgets settings => (run.setWidgets settings).2
  | .toggle package => (run.toggle package).2
  | .resize package size => (run.resize package size).2
  | .favorite package => (run.favorite package).2
  | .recruit listener => (run.recruit listener).2
  | .subscribe listener => (run.subscribe listener).2
  | .unsubscribe subscription => run.unsubscribe subscription
  | .rehydrate => run.rehydrate.2
  | .clearStorage => run.clearStorage.2
  | .outside effect => { run with device := effect run.device }

/-- The run after operations. -/
def actAll (operations : List (Operation σ)) (run : Run σ) : Run σ := operations.foldl act run

/-- The request that an operation makes of its store. -/
def request? : Operation σ → Option Request
  | .set changes => some (.set changes)
  | .setBy ask => some (.setBy ask)
  | .setWidgets settings => some (.setWidgets settings)
  | .toggle package => some (.toggle package)
  | .resize package size => some (.resize package size)
  | .favorite package => some (.favorite package)
  | .recruit listener => some (.recruit listener)
  | .subscribe listener => some (.subscribe listener)
  | .unsubscribe subscription => some (.unsubscribe subscription)
  | _ => none

theorem act_of_request {operation : Operation σ} {request : Request} (requests : operation.request? = some request)
    (run : Run σ) : act run operation = (request.answer run).2 := by
  cases operation <;> cases requests <;> rfl

/-- The operation on a recorded device. -/
def recorded : Operation σ → Operation (σ × List Touch)
  | .set changes => .set changes
  | .setBy ask => .setBy ask
  | .setWidgets settings => .setWidgets settings
  | .toggle package => .toggle package
  | .resize package size => .resize package size
  | .favorite package => .favorite package
  | .recruit listener => .recruit listener
  | .subscribe listener => .subscribe listener
  | .unsubscribe subscription => .unsubscribe subscription
  | .rehydrate => .rehydrate
  | .clearStorage => .clearStorage
  | .outside effect => .outside fun device => (effect device.1, .other :: device.2)

theorem request?_recorded (operation : Operation σ) : operation.recorded.request? = operation.request? := by
  cases operation <;> rfl

end Operation

/-! ## Doing the same with a record -/

namespace Run

variable {σ α : Type}

/-- Runs with and without a record. -/
def recording : Pairing σ (σ × List Touch) where
  stores store store' := store.recorded = store'
  devices device device' := device'.1 = device
  notices := Eq
  results := Eq
  documents _ := True
  agreeing := True

theorem recording_iff {run : Run σ} {other : Run (σ × List Touch)} :
    recording.Runs run other ↔ ∃ log, other = run.recorded log := by
  constructor
  · rintro ⟨device, store, number, shelf, listeners, events, notices, _⟩
    obtain ⟨⟨device', log⟩, store', number', shelf', listeners', events', notices'⟩ := other
    have shelves : run.shelf.map PreferenceStore.recorded = shelf' := by
      rw [← List.forall₂_eq_eq_eq, List.forall₂_map_left_iff]
      exact shelf
    refine ⟨log, ?_⟩
    cases device
    cases store
    cases number
    cases shelves
    cases listeners
    cases events
    cases notices
    rfl
  · rintro ⟨log, rfl⟩
    refine ⟨rfl, rfl, rfl, ?_, rfl, rfl, rfl, .inl trivial⟩
    show List.Forall₂ _ run.shelf (run.shelf.map _)
    rw [List.forall₂_map_right_iff]
    exact List.forall₂_same.mpr fun _ _ => rfl

/-- Beside a record the same is done and the same comes back. -/
def Mirrors (act : Run σ → α × Run σ) (act' : Run (σ × List Touch) → α × Run (σ × List Touch)) : Prop :=
  ∀ run log, ∃ log', act' (run.recorded log) = ((act run).1, (act run).2.recorded log')

theorem Mirrors.together {act : Run σ → α × Run σ} {act' : Run (σ × List Touch) → α × Run (σ × List Touch)}
    (mirrors : Mirrors act act') : recording.Together Eq act act' := by
  intro run other pair
  obtain ⟨log, rfl⟩ := recording_iff.mp pair
  obtain ⟨log', same⟩ := mirrors run log
  rw [same]
  exact ⟨rfl, recording_iff.mpr ⟨log', rfl⟩⟩

theorem mirrors_of_together {act : Run σ → α × Run σ} {act' : Run (σ × List Touch) → α × Run (σ × List Touch)}
    (together : recording.Together Eq act act') : Mirrors act act' := by
  intro run log
  obtain ⟨same, pair⟩ := together run _ (recording_iff.mpr ⟨log, rfl⟩)
  obtain ⟨log', after⟩ := recording_iff.mp pair
  exact ⟨log', Prod.ext same.symm after⟩

private theorem save_recorded (run : Run σ) (log : List Touch) (record : Value) :
    (run.recorded log).store.storage.save record (run.recorded log).device =
      ⟨(run.store.storage.save record run.device).result,
        ((run.store.storage.save record run.device).device,
          .write (run.store.storage.save record run.device).result :: log),
        (run.store.storage.save record run.device).notices⟩ := rfl

private theorem commit_silent_recorded (document : Fields) :
    Mirrors (commit silent document : Run σ → Except Fault Unit × Run σ) (commit silent document) := by
  intro run log
  have moved : (run.recorded log).withDocument document = (run.withDocument document).recorded log := rfl
  have written : ((run.withDocument document).recorded log).store.record = (run.withDocument document).store.record := rfl
  unfold commit silent
  simp only [moved, written, save_recorded]
  generalize (run.withDocument document).store.storage.save _ _ = outcome
  obtain ⟨result, device, notices⟩ := outcome
  cases result with
  | ok => exact ⟨_, rfl⟩
  | error fault =>
    dsimp only
    split_ifs
    · exact ⟨_, rfl⟩
    · exact ⟨_, rfl⟩

private theorem writeBack_recorded : Mirrors (writeBack : Run σ → Except Fault Unit × Run σ) writeBack := by
  intro run log
  have written : (run.recorded log).store.record = run.store.record := rfl
  unfold writeBack
  simp only [written, save_recorded]
  generalize run.store.storage.save _ _ = outcome
  obtain ⟨result, device, notices⟩ := outcome
  cases result with
  | ok => exact ⟨_, rfl⟩
  | error fault =>
    dsimp only
    split_ifs
    · exact ⟨_, rfl⟩
    · exact ⟨_, rfl⟩

theorem recording_reloads : (recording : Pairing σ (σ × List Touch)).Reloads where
  document := by
    rintro store _ rfl
    rfl
  documents _ := trivial
  subscribed := by
    rintro store _ rfl
    rfl
  resubscribe := by
    rintro store _ rfl subscribed
    rfl
  same _ := rfl
  told := by
    rintro result _ notices _ rfl rfl name
    rfl
  flipped _ _ := trivial
  commit _ := (commit_silent_recorded _).together
  agree := by
    rintro _ result _ rfl
    rfl
  states pair := by
    obtain ⟨log, rfl⟩ := recording_iff.mp pair
    rfl
  loaded pair := by
    obtain ⟨log, rfl⟩ := recording_iff.mp pair
    exact recording_iff.mpr ⟨log, rfl⟩
  restored pair _ := by
    obtain ⟨log, rfl⟩ := recording_iff.mp pair
    exact recording_iff.mpr ⟨log, rfl⟩
  writeBack := writeBack_recorded.together

theorem answer_recorded (request : Request) (run : Run σ) (log : List Touch) :
    ∃ log', request.answer (run.recorded log) = ((request.answer run).1, (request.answer run).2.recorded log') := by
  have mirrors : Mirrors (fun run : Run σ => request.answer run) fun run => request.answer run :=
    mirrors_of_together fun _ _ pair => recording_reloads.answer (.inl trivial) pair fun _ _ _ _ => trivial
  exact mirrors run log

/-- Requests are answered alike beside a record. -/
theorem answerAll_recorded (requests : List Request) (run : Run σ) (log : List Touch) :
    ∃ log', Request.answerAll requests (run.recorded log) = (Request.answerAll requests run).recorded log' := by
  induction requests generalizing run log with
  | nil => exact ⟨log, rfl⟩
  | cons request rest ih =>
    obtain ⟨log', same⟩ := answer_recorded request run log
    rw [Request.answerAll, List.foldl_cons, same]
    exact ih _ log'

theorem setBy_recorded (ask : Fields → Except Fault Value) :
    Mirrors (setBy ask : Run σ → Except Fault Unit × Run σ) (setBy ask) :=
  mirrors_of_together fun _ _ pair => recording_reloads.setBy ask pair fun _ _ => trivial

theorem rehydrate_recorded : Mirrors (rehydrate : Run σ → Except Fault Fields × Run σ) rehydrate :=
  mirrors_of_together recording_reloads.rehydrate

theorem opened_recorded (storage : Storage σ) (version : Value)
    (migrate : Option (Value → Value → Except Fault Value)) (device : σ) (listeners : List Listener) :
    ∃ log, (opened storage.recorded version migrate (device, []) [] listeners).2 =
      (opened storage version migrate device [] listeners).2.recorded log := by
  let store : PreferenceStore σ := { storage, version, migrate }
  obtain ⟨log, same⟩ := rehydrate_recorded { device, store, shelf := [store], listeners } []
  exact ⟨log, congrArg Prod.snd same⟩

end Run

namespace Operation

variable {σ : Type}

theorem act_recorded (operation : Operation σ) (run : Run σ) (log : List Touch) :
    ∃ log', act (run.recorded log) operation.recorded = (act run operation).recorded log' := by
  cases requests : operation.request? with
  | some request =>
    have requests' : operation.recorded.request? = some request := operation.request?_recorded.trans requests
    obtain ⟨log', same⟩ := Run.answer_recorded request run log
    rw [act_of_request requests, act_of_request requests']
    exact ⟨log', congrArg Prod.snd same⟩
  | none =>
    cases operation with
    | rehydrate =>
      obtain ⟨log', same⟩ := Run.rehydrate_recorded run log
      exact ⟨log', congrArg Prod.snd same⟩
    | clearStorage => exact ⟨.other :: log, rfl⟩
    | outside effect => exact ⟨.other :: log, rfl⟩
    | _ => cases requests

/-- Operations do the same beside a record. -/
theorem actAll_recorded (operations : List (Operation σ)) (run : Run σ) (log : List Touch) :
    ∃ log', actAll (operations.map recorded) (run.recorded log) = (actAll operations run).recorded log' := by
  induction operations generalizing run log with
  | nil => exact ⟨log, rfl⟩
  | cons operation rest ih =>
    obtain ⟨log', same⟩ := operation.act_recorded run log
    rw [List.map_cons, actAll, List.foldl_cons, same]
    exact ih _ log'

end Operation

end HomeTiles
