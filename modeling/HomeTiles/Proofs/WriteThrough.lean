import HomeTiles.Proofs.AlikeValues
import HomeTiles.Proofs.FaithfulStorage
import HomeTiles.Proofs.RecordedStorage

/-!
# Writing through: what a store's flag and its storage say

Whether a store counts as persistent depends on the writes that it attempted,
and as long as nothing but such a write was the last to touch the storage, the
storage holds the document, over any storage that is sound
(`exists_tracked_actAll`). Both are read off the record of a recorded storage. The
invariant is `Tracked`; what it says without the stored document is `Steady`, which
holds between committing a document and writing it. `write_through` says what
follows for the storages of the application, whatever their writes meet with: each
write by itself may work or not, those of listeners among them.
-/

namespace HomeTiles

variable {σ : Type}

/-! ## Proper operations -/

/-- A migration gives proper values for proper ones. -/
def MigratesProper (migrate : Option (Value → Value → Except Fault Value)) : Prop :=
  ∀ step, migrate = some step → ∀ state version migrated, state.Proper → version.Proper →
    step state version = .ok migrated → migrated.Proper

/-- The values that an operation brings in are such as a program can hold. -/
def Operation.Proper (fits : σ → Prop) : Operation σ → Prop
  | .set changes => changes.Proper
  | .setBy ask => ∀ document changes, (Value.object document).Proper → ask document = .ok changes → changes.Proper
  | .setWidgets settings => settings.Proper
  | .outside effect => ∀ device, fits device → fits (effect device)
  | _ => True

theorem Operation.proper_request {fits : σ → Prop} {operation : Operation σ} (proper : operation.Proper fits)
    {request : Request} (requests : operation.request? = some request) : request.Proper := by
  cases operation <;> cases requests <;> exact proper

/-! ## The invariant -/

/-- The storage holds a record of the version whose state means the document. -/
def Storage.Stores (storage : Storage σ) (version : Int) (document : Fields) (device : σ) : Prop :=
  ∃ state, storage.load device = (.ok (some (.object [("state", state), ("version", .int version)])), []) ∧
    (Preferences.restore state).1 = Value.settledFields (Preferences.restore (.object document)).1

/-- A store by itself over a recorded storage whose flag agrees with the record. -/
structure Steady (storage : Storage σ) (fits : σ → Prop) (version : Int) (run : Run (σ × List Touch)) : Prop where
  alone : run.Alone
  kept : run.store.storage = storage.recorded
  versioned : run.store.version = .int version
  migrates : MigratesProper run.store.migrate
  device : fits run.device.1
  document : (Value.object run.store.document).Proper
  persistent : run.store.persistent = (run.device.2.findSome? Touch.reached?).getD true
  faults : ∀ fault, .write (.error fault) ∈ run.device.2 →
    ∃ record device, (storage.save record device).result = .error fault

/-- A store whose document is stored if its last write worked and nothing has touched the storage since. -/
structure Tracked (storage : Storage σ) (fits : σ → Prop) (version : Int) (run : Run (σ × List Touch)) : Prop
    extends Steady storage fits version run where
  stored : run.device.2.head? = some (.write (.ok ())) → storage.Stores version run.store.document run.device.1

namespace Run

/-- The run after an attempt to write the document. -/
def written (storage : Storage σ) (run : Run (σ × List Touch)) : Run (σ × List Touch) :=
  let outcome := storage.save run.store.record run.device.1
  ({ run with device := (outcome.device, .write outcome.result :: run.device.2) } : Run _).withPersistent
    ((Touch.write outcome.result).reached?.getD run.store.persistent)

theorem sameWork_commit {storage : Storage σ} {run : Run (σ × List Touch)} (kept : run.store.storage = storage.recorded)
    (document : Fields) :
    SameWork ((run.withDocument document).written storage) (commit silent document run).2 := by
  obtain ⟨device, store, number, shelf, listeners, events, notices⟩ := run
  obtain ⟨_, version, migrate, persistent, old, subscribed⟩ := store
  cases kept
  unfold commit silent written
  simp only [withDocument, PreferenceStore.record]
  generalize storage.save _ _ = outcome
  obtain ⟨result, after, reported⟩ := outcome
  cases result with
  | ok => exact ⟨rfl, rfl, rfl, rfl⟩
  | error fault =>
    simp only [Touch.reached?]
    split_ifs <;> exact ⟨rfl, rfl, rfl, rfl⟩

theorem sameWork_writeBack {storage : Storage σ} {run : Run (σ × List Touch)}
    (kept : run.store.storage = storage.recorded) : SameWork (run.written storage) run.writeBack.2 := by
  obtain ⟨device, store, number, shelf, listeners, events, notices⟩ := run
  obtain ⟨_, version, migrate, persistent, document, subscribed⟩ := store
  cases kept
  unfold writeBack written
  simp only [PreferenceStore.record]
  generalize storage.save _ _ = outcome
  obtain ⟨result, after, reported⟩ := outcome
  cases result with
  | ok => exact ⟨rfl, rfl, rfl, rfl⟩
  | error fault =>
    simp only [Touch.reached?]
    split_ifs <;> exact ⟨rfl, rfl, rfl, rfl⟩

end Run

/-! ## What keeps the invariant -/

theorem proper_record {store : PreferenceStore σ} {version : Int} (versioned : store.version = .int version)
    (proper : (Value.object store.document).Proper) : store.record.Proper := by
  rw [PreferenceStore.record, versioned]
  exact ⟨(by decide : ["state", "version"].Nodup), proper, trivial, trivial⟩

namespace Steady

variable {storage : Storage σ} {fits : σ → Prop} {version : Int} {run other : Run (σ × List Touch)}

theorem same (steady : Steady storage fits version run) (same : Run.SameWork run other) :
    Steady storage fits version other where
  alone := same.alone steady.alone
  kept := by
    rw [same.store]
    exact steady.kept
  versioned := by
    rw [same.store]
    exact steady.versioned
  migrates := by
    rw [same.store]
    exact steady.migrates
  device := by
    rw [same.device]
    exact steady.device
  document := by
    rw [same.document]
    exact steady.document
  persistent := by
    rw [same.store, same.device]
    exact steady.persistent
  faults := by
    rw [same.device]
    exact steady.faults

theorem withDocument (steady : Steady storage fits version run) {document : Fields}
    (proper : (Value.object document).Proper) : Steady storage fits version (run.withDocument document) :=
  { steady with document := proper }

/-- An attempt to write brings flag and record together again; if it works the document is stored. -/
theorem written (sound : storage.Sound fits) (steady : Steady storage fits version run) :
    Tracked storage fits version (run.written storage) where
  alone := steady.alone
  kept := steady.kept
  versioned := steady.versioned
  migrates := steady.migrates
  device := sound.save steady.device _
  document := steady.document
  persistent := by
    show (Touch.write _).reached?.getD run.store.persistent = (List.findSome? _ (_ :: run.device.2)).getD true
    rw [List.findSome?_cons]
    cases (Touch.write (storage.save run.store.record run.device.1).result).reached? with
    | none => exact steady.persistent
    | some reached => rfl
  faults := by
    intro fault inside
    rcases List.mem_cons.mp inside with here | before
    · exact ⟨_, _, (Touch.write.inj here).symm⟩
    · exact steady.faults fault before
  stored := by
    intro last
    have saved : (storage.save run.store.record run.device.1).result = .ok () :=
      Touch.write.inj (Option.some.inj last)
    have loaded := sound.faithful _ _ rfl (proper_record steady.versioned steady.document) saved
    have kept : run.store.record.settled =
        .object [("state", (Value.object run.store.document).settled), ("version", .int version)] := by
      rw [PreferenceStore.record, steady.versioned]
      rfl
    rw [kept] at loaded
    exact ⟨_, loaded, Preferences.restore_settled _⟩

end Steady

namespace Tracked

variable {storage : Storage σ} {fits : σ → Prop} {version : Int} {run other : Run (σ × List Touch)}

theorem same (tracked : Tracked storage fits version run) (same : Run.SameWork run other) :
    Tracked storage fits version other where
  toSteady := tracked.toSteady.same same
  stored := by
    rw [same.device, same.document]
    exact tracked.stored

/-- A document that is committed, whatever becomes of its write. -/
theorem commit (sound : storage.Sound fits) (tracked : Tracked storage fits version run) {document : Fields}
    (proper : (Value.object document).Proper) : Tracked storage fits version (Run.commit Run.silent document run).2 :=
  ((tracked.withDocument proper).written sound).same (Run.sameWork_commit tracked.kept document)

theorem kept_tracked (sound : storage.Sound fits) :
    Run.Kept fun _ (run : Run (σ × List Touch)) => Tracked storage fits version run where
  alone tracked := tracked.alone
  fewer _ tracked := tracked
  same tracked same := tracked.same same
  nested tracked asked := tracked.commit sound (tracked.document.merge (Preferences.proper_flipped tracked.document asked))

/-- A change that asks for proper values. -/
theorem setBy (sound : storage.Sound fits) (tracked : Tracked storage fits version run) {ask : Fields → Except Fault Value}
    (proper : ∀ changes, ask run.store.document = .ok changes → changes.Proper) :
    Tracked storage fits version (run.setBy ask).2 := by
  rcases Run.changeBy_cases Run.announce ask run with ⟨changes, asked, committed⟩ | nothing
  · have after := tracked.commit sound (tracked.document.merge (proper _ asked))
    rw [Run.setBy, committed]
    exact (kept_tracked sound).announce _ _ 0 after
  · rw [Run.setBy, nothing]
    exact tracked

theorem announceOther (sound : storage.Sound fits) (tracked : Tracked storage fits version run) (new old : Fields) :
    Tracked storage fits version (Run.announceOther new old run) := by
  unfold Run.announceOther
  split_ifs
  · exact tracked
  · exact (kept_tracked sound).announce new old 0 tracked

theorem settle (sound : storage.Sound fits) (tracked : Tracked storage fits version run) (migrated : Bool) (old : Fields) :
    Tracked storage fits version (Run.settle migrated old run).2 := by
  have back : Tracked storage fits version (if migrated then run.writeBack else (.ok (), run)).2 := by
    split_ifs
    · exact (tracked.toSteady.written sound).same (Run.sameWork_writeBack tracked.kept)
    · exact tracked
  unfold Run.settle
  split
  · next written =>
    rw [written] at back
    exact back
  · next written =>
    rw [written] at back
    exact back.announceOther sound _ old

end Tracked

/-! ## Rehydrating -/

/-- What holds of the parts of a record, and of what is migrated from such, holds of the state that the record
comes to. -/
theorem stateOf_keeps {p : Value → Prop} (null : p .null) (zero : p (.int 0))
    (parts : ∀ fields : Fields, p (.object fields) → ∀ key v, fields.get? key = some v → p v)
    {store : PreferenceStore σ}
    (migrates : ∀ step, store.migrate = some step → ∀ state version migrated, p state → p version →
      step state version = .ok migrated → p migrated)
    {record : Option Value} (holds : ∀ held, record = some held → p held) {state : Value} {migrated : Bool}
    {notices : List Notice} (made : Run.stateOf store record = .ok (state, migrated, notices)) : p state := by
  unfold Run.stateOf at made
  split at made
  · cases made
    exact null
  · next fields =>
    have whole : p (.object fields) := holds _ rfl
    have own : p (Value.underName fields "state") := by
      rw [Value.underName]
      cases found : Entries.get? fields "state" with
      | none => exact null
      | some v => exact parts fields whole _ v found
    dsimp only at made
    split_ifs at made
    · cases made
      exact own
    · split at made
      · cases made
        exact null
      · next step given =>
        have stored : p ((Entries.get? fields "version").getD (.int 0)) := by
          cases found : Entries.get? fields "version" with
          | none => exact zero
          | some v => exact parts fields whole _ v found
        cases moved : step (Value.underName fields "state") ((Entries.get? fields "version").getD (.int 0)) with
        | error fault =>
          rw [moved] at made
          cases made
        | ok result =>
          rw [moved] at made
          cases made
          exact migrates step given _ _ _ own stored moved
  · cases made

/-- The state that a proper record comes to is proper, migrated or not. -/
theorem proper_stateOf {store : PreferenceStore σ} (migrates : MigratesProper store.migrate) {record : Option Value}
    (proper : ∀ found, record = some found → found.Proper) {state : Value} {migrated : Bool} {notices : List Notice}
    (made : Run.stateOf store record = .ok (state, migrated, notices)) : state.Proper :=
  stateOf_keeps trivial trivial (fun _ whole _ _ found => whole.of_get? found) migrates proper made

/-- A record of the store's own version is taken as it is. -/
theorem stateOf_own {store : PreferenceStore σ} {version : Int} (versioned : store.version = .int version)
    (state : Value) :
    Run.stateOf store (some (.object [("state", state), ("version", .int version)])) = .ok (state, false, []) := by
  have own : (Value.int version).equal store.version = true := by
    rw [versioned]
    simp [Value.equal, Value.isNaN, Value.alike, Value.integer?]
  have found : Value.underName [("state", state), ("version", .int version)] "state" = state := rfl
  have there : (Entries.get? [("state", state), ("version", Value.int version)] "version").getD (.int 0) =
    .int version := rfl
  simp only [Run.stateOf, found, there, own, if_true]

namespace Tracked

variable {storage : Storage σ} {fits : σ → Prop} {version : Int} {run other : Run (σ × List Touch)}

theorem rehydrate (sound : storage.Sound fits) (tracked : Tracked storage fits version run) :
    Tracked storage fits version run.rehydrate.2 := by
  have loads : run.store.storage.load run.device = storage.load run.device.1 := by
    rw [tracked.kept]
    rfl
  rw [Run.rehydrate_eq, loads]
  cases found : (storage.load run.device.1).1.bind (Run.stateOf run.store) with
  | error fault => exact tracked.same ⟨rfl, rfl, rfl, rfl⟩
  | ok answer =>
    obtain ⟨state, migrated, notices⟩ := answer
    obtain ⟨record, loaded, made⟩ := Run.record_of_found found
    have proper : state.Proper := by
      refine proper_stateOf tracked.migrates (fun whole there => ?_) made
      subst there
      exact sound.loads tracked.device whole _ (Prod.ext loaded rfl)
    have restored : Tracked storage fits version (run.restored state notices) := by
      have steady : Steady storage fits version (run.restored state notices) :=
        (tracked.toSteady.withDocument (Preferences.proper_restore proper)).same ⟨rfl, rfl, rfl, rfl⟩
      refine ⟨steady, fun last => ?_⟩
      -- the stored record is of this version, so its state is the one that was restored
      obtain ⟨own, there, meant⟩ := tracked.stored last
      rw [there] at loaded
      cases loaded
      rw [stateOf_own tracked.versioned] at made
      cases made
      refine ⟨state, there, ?_⟩
      show (Preferences.restore state).1 =
        Value.settledFields (Preferences.restore (.object (Preferences.restore state).1)).1
      rw [Preferences.restore_restore proper, meant]
      exact (Value.object.inj (Value.settled_settled (.object (Preferences.restore (.object run.store.document)).1))).symm
    exact restored.settle sound migrated run.store.document

/-- A store that was opened over a recorded storage that nothing has touched yet. -/
theorem opened (sound : storage.Sound fits) {migrate : Option (Value → Value → Except Fault Value)}
    (migrates : MigratesProper migrate) {device : σ} (fitting : fits device) (version : Int) :
    Tracked storage fits version (Run.opened storage.recorded (.int version) migrate (device, []) [] []).2 := by
  let store : PreferenceStore (σ × List Touch) := { storage := storage.recorded, version := .int version, migrate }
  have start : Tracked storage fits version ({ device := (device, []), store, shelf := [store] } : Run (σ × List Touch)) := {
    alone := ⟨rfl, Nat.le_refl 1⟩
    kept := rfl
    versioned := rfl
    migrates := migrates
    device := fitting
    document := Preferences.proper_defaults
    persistent := rfl
    faults := fun fault inside => by cases inside
    stored := fun last => by cases last }
  exact start.rehydrate sound

/-! ## Any operations -/

/-- Something else that touches the storage: nothing is said of what is stored then. -/
theorem touched (tracked : Tracked storage fits version run) {device : σ} (fitting : fits device) :
    Tracked storage fits version { run with device := (device, .other :: run.device.2) } where
  alone := tracked.alone
  kept := tracked.kept
  versioned := tracked.versioned
  migrates := tracked.migrates
  device := fitting
  document := tracked.document
  persistent := tracked.persistent
  faults := by
    intro fault inside
    rcases List.mem_cons.mp inside with here | before
    · cases here
    · exact tracked.faults fault before
  stored := by
    intro last
    cases last

theorem act (sound : storage.Sound fits) (tracked : Tracked storage fits version run) (operation : Operation σ)
    (proper : operation.Proper fits) : Tracked storage fits version (Operation.act run operation.recorded) := by
  cases requests : operation.request? with
  | some request =>
    rw [Operation.act_of_request (operation.request?_recorded.trans requests)]
    exact Request.keeps tracked.alone tracked.document tracked.same (fun _ asks => tracked.setBy sound asks)
      (Operation.proper_request proper requests)
  | none =>
    cases operation with
    | rehydrate => exact tracked.rehydrate sound
    | clearStorage =>
      refine (tracked.touched (sound.clear tracked.device)).same ?_
      rw [Operation.recorded, Operation.act, Run.clearStorage, tracked.kept]
      exact ⟨rfl, rfl, rfl, rfl⟩
    | outside effect => exact tracked.touched (proper _ tracked.device)
    | _ => cases requests

theorem actAll (sound : storage.Sound fits) (tracked : Tracked storage fits version run) (operations : List (Operation σ))
    (proper : ∀ operation ∈ operations, operation.Proper fits) :
    Tracked storage fits version (Operation.actAll (operations.map Operation.recorded) run) := by
  induction operations generalizing run with
  | nil => exact tracked
  | cons operation rest ih =>
    obtain ⟨first, later⟩ := List.forall_mem_cons.mp proper
    exact ih (tracked.act sound operation first) later

end Tracked

/-! ## The flag and the storage -/

/-- No write was attempted, or the last one worked. -/
def Touch.LastWorked (log : List Touch) : Prop := ∀ result ∈ log.findSome? write?, result = .ok ()

instance (log : List Touch) : Decidable (Touch.LastWorked log) :=
  inferInstanceAs (Decidable (∀ result ∈ log.findSome? Touch.write?, result = .ok ()))

/-- The last attempt to write found a path that is too long. -/
def Touch.LastTooLong (log : List Touch) : Prop := log.findSome? write? = some (.error (.file .tooLong))

/-- Where the record holds no faults but those of storages, the last write decides on the flag unless its
path was too long. -/
theorem Touch.lastWorked_iff {log : List Touch}
    (faults : ∀ fault, .write (.error fault) ∈ log → fault.isUnavailable = true ∨ fault = .file .tooLong) :
    ((log.findSome? reached?).getD true = true ↔ LastWorked log) ↔
      ¬(LastTooLong log ∧ (log.findSome? reached?).getD true = true) := by
  induction log with
  | nil => simp [LastWorked, LastTooLong]
  | cons touch rest ih =>
    cases touch with
    | other =>
      have later := ih fun fault inside => faults fault (List.mem_cons_of_mem _ inside)
      simpa only [LastWorked, LastTooLong, List.findSome?_cons, reached?, write?] using later
    | write result =>
      cases result with
      | ok => simp [LastWorked, LastTooLong, List.findSome?_cons, reached?, write?]
      | error fault =>
        rcases faults fault List.mem_cons_self with unavailable | rfl
        · have other : fault ≠ .file .tooLong := by
            rintro rfl
            cases unavailable
          simp [LastWorked, LastTooLong, List.findSome?_cons, reached?, write?, unavailable, other]
        · simp [LastWorked, LastTooLong, List.findSome?_cons, write?]

/-- A new store over a record of its version has the document that the state is restored to. -/
theorem Run.opened_of_load {storage : Storage σ} {version : Int} {state : Value} {device : σ}
    (loaded : storage.load device = (.ok (some (.object [("state", state), ("version", .int version)])), []))
    (migrate : Option (Value → Value → Except Fault Value)) :
    (Run.opened storage (.int version) migrate device [] []).1 = .ok (Preferences.restore state).1 := by
  let store : PreferenceStore σ := { storage, version := .int version, migrate }
  let run : Run σ := { device, store, shelf := [store] }
  have made : (run.store.storage.load run.device).1.bind (stateOf run.store) = .ok (state, false, []) := by
    rw [show run.store.storage.load run.device = _ from loaded]
    exact stateOf_own rfl state
  have told : (run.restored state []).pending = 0 := rfl
  show run.rehydrate.1 = _
  rw [rehydrate_eq, made]
  show Except.ok (announceOther _ _ (run.restored state [])).store.document = _
  unfold announceOther
  split_ifs
  · rfl
  · rw [(announce_quiet _ _ told).1]
    rfl

/-- Whatever is done with a store by itself over a sound storage, with and without the record the same comes of it, and
the flag and the storage agree with the record. -/
theorem exists_tracked_actAll {storage : Storage σ} {fits : σ → Prop} (sound : storage.Sound fits) (version : Int)
    {migrate : Option (Value → Value → Except Fault Value)} (migrates : MigratesProper migrate) {device : σ}
    (fitting : fits device) {operations : List (Operation σ)} (proper : ∀ operation ∈ operations, operation.Proper fits) :
    ∃ log,
      Operation.actAll (operations.map Operation.recorded)
          (Run.opened storage.recorded (.int version) migrate (device, []) [] []).2 =
        (Operation.actAll operations (Run.opened storage (.int version) migrate device [] []).2).recorded log ∧
      Tracked storage fits version
        ((Operation.actAll operations (Run.opened storage (.int version) migrate device [] []).2).recorded log) := by
  obtain ⟨log, opened⟩ := Run.opened_recorded storage (.int version) migrate device []
  obtain ⟨log', same⟩ := Operation.actAll_recorded operations (Run.opened storage (.int version) migrate device [] []).2 log
  rw [← opened] at same
  have tracked := (Tracked.opened sound migrates fitting version).actAll sound operations proper
  rw [same] at tracked
  exact ⟨log', same, tracked⟩

/-- For every run of a store by itself, whatever its writes meet with: the flag says how the last write went that either
worked or did not reach the storage, and every other write failed because a file's path was too long; so the flag is
wrong about the last write just when that one failed so and the flag was set before. If a write that worked was the
last to touch the storage, a record of the store's version is loaded, its state restored is the document
restored but for computed NaNs, and a new store has that document. -/
theorem write_through {storage : Storage σ} (adapter : Adapter storage) (version : Int)
    {migrate : Option (Value → Value → Except Fault Value)} (migrates : MigratesProper migrate)
    {device : σ × List (Trouble σ)} (fits : Trouble.Fits storage.LoadsProper device)
    {operations : List (Operation (σ × List (Trouble σ)))}
    (proper : ∀ operation ∈ operations, operation.Proper (Trouble.Fits storage.LoadsProper)) :
    let run := Operation.actAll operations (Run.opened storage.troubled (.int version) migrate device [] []).2
    let document := (Preferences.restore (.object run.store.document)).1
    ∃ log,
      Operation.actAll (operations.map Operation.recorded)
        (Run.opened storage.troubled.recorded (.int version) migrate (device, []) [] []).2 = run.recorded log ∧
      run.store.persistent = (log.findSome? Touch.reached?).getD true ∧
      (∀ fault, .write (.error fault) ∈ log → fault.isUnavailable = true ∨ fault = .file .tooLong) ∧
      ((run.store.persistent = true ↔ Touch.LastWorked log) ↔
        ¬(Touch.LastTooLong log ∧ run.store.persistent = true)) ∧
      (log.head? = some (.write (.ok ())) → ∃ state,
        storage.load run.device.1 = (.ok (some (.object [("state", state), ("version", .int version)])), []) ∧
        (Preferences.restore state).1 = Value.settledFields document ∧
        ((Preferences.restore state).1.alike document = true ↔
          ∀ part, (Value.object document).Part part → part ≠ .float (.nan true)) ∧
        ∀ migrate', (Run.opened storage (.int version) migrate' run.device.1 [] []).1 =
          .ok (Preferences.restore state).1) := by
  intro run document
  obtain ⟨log, same, tracked⟩ := exists_tracked_actAll adapter.sound.troubled version migrates fits proper
  have flag : run.store.persistent = (log.findSome? Touch.reached?).getD true := tracked.persistent
  have faults : ∀ fault, .write (.error fault) ∈ log → fault.isUnavailable = true ∨ fault = .file .tooLong := by
    intro fault inside
    obtain ⟨record, there, failed⟩ := tracked.faults fault inside
    rcases Storage.fault_of_troubled failed with unavailable | ⟨_, failed⟩
    · exact .inl unavailable
    · exact adapter.fault_of_save failed
  refine ⟨log, same, flag, faults, ?_, fun last => ?_⟩
  · rw [flag]
    exact Touch.lastWorked_iff faults
  · obtain ⟨state, stored, meant⟩ := tracked.stored last
    have found : storage.load run.device.1 =
        (.ok (some (.object [("state", state), ("version", .int version)])), []) := stored
    have restored : (Value.object document).Proper := Preferences.proper_restore tracked.document
    refine ⟨state, found, meant, ?_, fun migrate' => Run.opened_of_load found migrate'⟩
    rw [show (Preferences.restore state).1 = _ from meant, Fields.alike]
    exact (Value.alike_settled_iff restored).trans Value.settled_eq_self_iff

/-- The write of a change works, and the one of the favorite that a listener makes of it is refused. The write of the
next change fails and the one of a favorite made of that works: the storage holds all of it. -/
theorem write_through_after_refusal :
    let writes : List (Trouble Memory) :=
      [.changed id, .refused, .changed fun memory => { memory with refusesWrites := true },
        .changed fun memory => { memory with refusesWrites := false }]
    let operations : List (Operation (Memory × List (Trouble Memory))) :=
      [.recruit ⟨"first", .favorite "a" .hear, 0⟩, .set (.object [("theme", .text "dark")]),
        .recruit ⟨"second", .favorite "b" (.failOnce .hear), 0⟩, .toggle "c"]
    let opened := (Run.opened Memory.storage.troubled (.int 1) none ({}, writes) [] []).2
    let run := Operation.actAll operations opened
    MigratesProper none ∧ Trouble.Fits Memory.storage.LoadsProper ({}, writes) ∧
      (∀ operation ∈ operations, operation.Proper (Trouble.Fits Memory.storage.LoadsProper)) ∧
      (Operation.actAll (operations.take 2) opened).store.persistent = false ∧ run.store.persistent = true ∧
      ∃ state, Memory.storage.load run.device.1 = (.ok (some (.object [("state", state), ("version", .int 1)])), []) ∧
        (Preferences.restore state).1 = Value.settledFields (Preferences.restore (.object run.store.document)).1 := by
  intro writes operations opened run
  have migrates : MigratesProper none := fun step given => by cases given
  have empty : Memory.storage.LoadsProper {} := fun record notices loaded => by cases loaded
  have fits : Trouble.Fits Memory.storage.LoadsProper ({}, writes) := by
    refine ⟨empty, fun effect inside there before => ?_⟩
    simp only [writes, List.mem_cons, Trouble.changed.injEq, reduceCtorEq, List.not_mem_nil, or_false, false_or] at inside
    rcases inside with rfl | rfl | rfl
    · exact before
    · exact before
    · exact before
  have proper : ∀ operation ∈ operations, operation.Proper (Trouble.Fits Memory.storage.LoadsProper) := by
    simp only [operations, List.forall_mem_cons]
    exact ⟨trivial, ⟨(by decide : ["theme"].Nodup), trivial, trivial⟩, trivial, trivial, fun _ none => by cases none⟩
  obtain ⟨log, same, flag, _, _, stored⟩ := write_through .memory 1 migrates fits proper
  have last : (Operation.actAll (operations.map Operation.recorded)
      (Run.opened Memory.storage.troubled.recorded (.int 1) none (({}, writes), []) [] []).2).device.2.head? =
        some (.write (.ok ())) := by
    decide +kernel
  have refused : (Operation.actAll (operations.take 2) opened).store.persistent = false := by
    decide +kernel
  rw [same] at last
  obtain ⟨state, found, meant, _⟩ := stored last
  have runs : Operation.actAll operations (Run.opened Memory.storage.troubled (.int 1) none ({}, writes) [] []).2 = run :=
    rfl
  rw [runs] at flag found meant
  have settled : run.store.persistent = true := by
    obtain ⟨earlier, rfl⟩ := List.head?_eq_some_iff.mp last
    rw [flag]
    rfl
  exact ⟨migrates, fits, proper, refused, settled, state, found, meant⟩

/-- A name of 256 bytes is no trouble below a directory that is not there. Once it is there a write fails for
the name, and that leaves the flag as it was. -/
theorem flag_after_path_too_long :
    let file : StorageFile := ⟨⟨.working, ["a", String.ofList (List.replicate 64 '🏠'), "c.json"]⟩, storeName⟩
    let operations : List (Operation FileTree) :=
      [.outside fun tree => (tree.makeDirectories (Path.ofText "a")).2, .favorite "p"]
    let opened := Run.opened file.storage.recorded (.int 0) none (FileTree.fresh, []) [] []
    let run := Operation.actAll (operations.map Operation.recorded) opened.2
    opened.1 = .ok Preferences.defaults ∧ run.device.2 = [.write (.error (.file .tooLong)), .other] ∧
      run.store.persistent = true ∧ ¬Touch.LastWorked run.device.2 := by
  decide +kernel

end HomeTiles
