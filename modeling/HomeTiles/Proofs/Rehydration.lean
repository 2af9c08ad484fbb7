import HomeTiles.Proofs.FailedWrites

/-!
# Rehydration: the same document again

A store that takes its document from the storage once more comes to the document
that it has (`Run.rehydrate_again`): a migrated record was written back and is now of
the store's version, or it was not and is migrated to the same again. So nobody hears
of it, save where the document holds a handle that a copy can be told from. A migration
that was written back is not needed any more, by this store or by one that is opened
later, and nothing is written without one (`rehydrate_idempotent`).
-/

namespace HomeTiles

variable {σ : Type}

/-! ## Contents without computed NaNs -/

/-- Every record that a storage gives compares as equal to itself. -/
def Storage.LoadsPlain (storage : Storage σ) (device : σ) : Prop :=
  ∀ record notices, storage.load device = (.ok (some record), notices) → record.Plain

/-- A migration gives plain values for plain ones. -/
def MigratesPlain (migrate : Option (Value → Value → Except Fault Value)) : Prop :=
  ∀ step, migrate = some step → ∀ state version migrated, state.Plain → version.Plain →
    step state version = .ok migrated → migrated.Plain

theorem Preferences.plain_restore {v : Value} (plain : v.Plain) : (Value.object (restore v).1).Plain := by
  refine ⟨proper_restore plain.1, ?_⟩
  rw [Value.settled, ← restore_settled, plain.2]

/-- The state that a plain record comes to is plain, migrated or not. -/
theorem plain_stateOf {store : PreferenceStore σ} (migrates : MigratesPlain store.migrate) {record : Option Value}
    (plain : ∀ held, record = some held → held.Plain) {state : Value} {migrated : Bool} {notices : List Notice}
    (made : Run.stateOf store record = .ok (state, migrated, notices)) : state.Plain :=
  stateOf_keeps ⟨trivial, rfl⟩ ⟨trivial, rfl⟩ (fun _ whole _ _ found => whole.of_get? found) migrates plain made

/-! ## Storages as there can be -/

/-- A storage of the application on a device as there can be: a path without a last part does not lead to a file. -/
inductive Grounded : {σ : Type} → Storage σ → σ → Prop where
  | adapter {σ : Type} {storage : Storage σ} (adapter : Adapter storage) (device : σ) : Grounded storage device
  | nameless (file : StorageFile) (tree : FileTree) (nameless : file.path.name? = none)
    (nowhere : ∀ content, tree.find file.path ≠ .ok (.file content)) : Grounded file.storage tree

namespace Grounded

variable {storage : Storage σ} {device : σ}

/-- Where a record is loaded another one is saved or refused. -/
theorem refused_of_held (grounded : Grounded storage device) {held record : Value}
    (loaded : (storage.load device).1 = .ok (some held)) {fault : Fault}
    (failed : (storage.save record device).result = .error fault) : fault.isUnavailable = true := by
  cases grounded with
  | adapter adapter device => exact adapter.refused_of_held loaded failed
  | nameless file tree nameless nowhere =>
    obtain ⟨names, content, located⟩ := StorageFile.exists_file_of_held loaded
    refine absurd ?_ (nowhere content)
    rw [FileTree.find, located]

theorem save (grounded : Grounded storage device) (record : Value) :
    Grounded storage (storage.save record device).device := by
  cases grounded with
  | adapter adapter device => exact .adapter adapter _
  | nameless file tree nameless nowhere =>
    have same : (file.storage.save record tree).device = tree := by
      show (file.save record tree).device = tree
      unfold StorageFile.save
      split
      · rfl
      · exact congrArg Prod.snd (StorageFile.write_nameless nameless _ tree)
    rw [same]
    exact .nameless file tree nameless nowhere

theorem clear (grounded : Grounded storage device) : Grounded storage (storage.clear device).device := by
  cases grounded with
  | adapter adapter device => exact .adapter adapter _
  | nameless file tree nameless nowhere =>
    have same : (file.storage.clear tree).device = tree := by
      show (file.clear tree).device = tree
      unfold StorageFile.clear
      split
      · rfl
      · split
        · rfl
        · exact congrArg Prod.snd (StorageFile.write_nameless nameless _ tree)
    rw [same]
    exact .nameless file tree nameless nowhere

end Grounded

namespace Run

/-! ## What a reload leaves -/

/-- Without a migration a reload leaves the device as it is. -/
theorem rehydrate_of_unmigrated {run : Run σ} (calm : run.Calm) {state : Value} {notices : List Notice}
    (found : (run.store.storage.load run.device).1.bind (stateOf run.store) = .ok (state, false, notices)) :
    run.rehydrate.1 = .ok (Preferences.restore state).1 ∧ run.rehydrate.2.device = run.device := by
  obtain ⟨result, undisturbed⟩ := rehydrate_of_state found calm
  exact ⟨result, undisturbed.device⟩

/-- A record of the store's own version is restored without a migration, whatever function there is for one. -/
theorem rehydrate_of_own {run : Run σ} (calm : run.Calm) {version : Int} (versioned : run.store.version = .int version)
    {state : Value}
    (own : (run.store.storage.load run.device).1 = .ok (some (.object [("state", state), ("version", .int version)]))) :
    run.rehydrate.1 = .ok (Preferences.restore state).1 ∧ run.rehydrate.2.device = run.device := by
  have found : (run.store.storage.load run.device).1.bind (stateOf run.store) = .ok (state, false, []) := by
    rw [own]
    exact stateOf_own versioned state
  exact rehydrate_of_unmigrated calm found

theorem device_writeBack (run : Run σ) :
    run.writeBack.2.device = (run.store.storage.save run.store.record run.device).device := by
  unfold writeBack
  dsimp only
  split
  · rfl
  · split_ifs <;> rfl

/-- A document is written back without a fault if it reaches the storage or is refused by it. -/
theorem writeBack_ok_iff {run : Run σ} : run.writeBack.1 = .ok () ↔
    (run.store.storage.save run.store.record run.device).result = .ok () ∨
      ∃ failure, (run.store.storage.save run.store.record run.device).result = .error (.unavailable failure) := by
  unfold writeBack
  dsimp only
  cases (run.store.storage.save run.store.record run.device).result with
  | ok _ => simp
  | error fault => cases fault <;> simp [Fault.isUnavailable]

/-- What is migrated was loaded. -/
theorem held_of_migrated {run : Run σ} {state : Value} {notices : List Notice}
    (found : (run.store.storage.load run.device).1.bind (stateOf run.store) = .ok (state, true, notices)) :
    ∃ held, (run.store.storage.load run.device).1 = .ok (some held) := by
  obtain ⟨record, loaded, made⟩ := record_of_found found
  cases record with
  | none => cases made
  | some held => exact ⟨held, loaded⟩

/-- A reload that finds a state to restore returns: what was migrated was loaded, so writing it back is refused at worst. -/
theorem exists_rehydrate_of_found {run : Run σ} (grounded : Grounded run.store.storage run.device) {state : Value}
    {migrated : Bool} {notices : List Notice}
    (found : (run.store.storage.load run.device).1.bind (stateOf run.store) = .ok (state, migrated, notices)) :
    ∃ document, run.rehydrate.1 = .ok document := by
  have went : (if migrated then (run.restored state notices).writeBack else (.ok (), run.restored state notices)).1 =
      .ok () := by
    cases migrated with
    | false => rfl
    | true =>
      obtain ⟨held, loaded⟩ := held_of_migrated found
      rw [if_pos rfl, writeBack_ok_iff]
      cases saved : ((run.restored state notices).store.storage.save (run.restored state notices).store.record
          (run.restored state notices).device).result with
      | ok _ => exact .inl rfl
      | error fault =>
        have unavailable := grounded.refused_of_held loaded saved
        cases fault with
        | unavailable failure => exact .inr ⟨failure, rfl⟩
        | _ => cases unavailable
  rw [rehydrate_eq, found]
  dsimp only
  unfold settle
  split
  · next written =>
    rw [written] at went
    cases went
  · exact ⟨_, rfl⟩

/-- A reload that fails has changed nothing: it fails before the document is taken. -/
theorem rehydrate_of_failed {run : Run σ} (grounded : Grounded run.store.storage run.device) {fault : Fault}
    (failed : run.rehydrate.1 = .error fault) : run.rehydrate.2 = run.loaded := by
  cases found : (run.store.storage.load run.device).1.bind (stateOf run.store) with
  | error stuck => rw [rehydrate_of_fault found]
  | ok answer =>
    obtain ⟨state, migrated, notices⟩ := answer
    obtain ⟨document, returned⟩ := exists_rehydrate_of_found grounded found
    rw [returned] at failed
    cases failed

/-- What a reload that returned has come to: the document is what was loaded, and if that was migrated the record was
saved or refused. -/
structure Rehydrated (run after : Run σ) (state : Value) (migrated : Bool) : Prop where
  calm : after.Calm
  store : ∃ persistent subscribed,
    after.store = { run.store with document := (Preferences.restore state).1, persistent, subscribed }
  unmigrated : migrated = false → after.device = run.device
  written : migrated = true →
    after.device = (run.store.storage.save after.store.record run.device).device ∧
      ((run.store.storage.save after.store.record run.device).result = .ok () ∨
        ∃ failure, (run.store.storage.save after.store.record run.device).result = .error (.unavailable failure))

theorem restoredBy_migrated (run : Run σ) (state : Value) (notices : List Notice) :
    run.restoredBy state true notices = (run.restored state notices).writeBack := if_pos rfl

theorem store_restoredBy (run : Run σ) (state : Value) (migrated : Bool) (notices : List Notice) :
    ∃ persistent, (run.restoredBy state migrated notices).2.store =
      { run.store with document := (Preferences.restore state).1, persistent } := by
  cases migrated with
  | false => exact ⟨_, rfl⟩
  | true =>
    obtain ⟨device, persistent, notices', same⟩ := writeBack_eq (run.restored state notices)
    rw [restoredBy_migrated, same]
    exact ⟨persistent, rfl⟩

theorem rehydrated_of_ok {run first : Run σ} (calm : run.Calm) {document : Fields}
    (returned : run.rehydrate = (.ok document, first)) :
    ∃ state migrated notices,
      (run.store.storage.load run.device).1.bind (stateOf run.store) = .ok (state, migrated, notices) ∧
        document = (Preferences.restore state).1 ∧ Rehydrated run first state migrated := by
  cases found : (run.store.storage.load run.device).1.bind (stateOf run.store) with
  | error fault =>
    rw [rehydrate_of_fault found] at returned
    cases returned
  | ok answer =>
    obtain ⟨state, migrated, notices⟩ := answer
    obtain ⟨result, undisturbed⟩ := rehydrate_of_state found calm
    obtain ⟨persistent, restored⟩ := store_restoredBy run state migrated notices
    rw [returned] at result undisturbed
    have store : first.store = { run.store with
        document := (Preferences.restore state).1, persistent, subscribed := first.store.subscribed } := by
      rw [undisturbed.store, restored]
    have went : (run.restoredBy state migrated notices).1 = .ok () := by
      cases back : (run.restoredBy state migrated notices).1 with
      | ok _ => rfl
      | error fault =>
        rw [back] at result
        cases result
    rw [went] at result
    cases result
    refine ⟨state, migrated, notices, rfl, rfl, undisturbed.calm ((ready_restoredBy run state migrated notices).calm calm),
      ⟨_, _, store⟩, ?_, ?_⟩
    · rintro rfl
      exact undisturbed.device
    · rintro rfl
      have record : first.store.record = (run.restored state notices).store.record := by
        rw [store]
        rfl
      have device := undisturbed.device
      rw [restoredBy_migrated] at device went
      rw [record, device, device_writeBack]
      exact ⟨rfl, writeBack_ok_iff.mp went⟩

end Run

/-! ## Reloading once more -/

/-- A refused save of a store's record leaves the device as it was if there was a record, or the record has taken the
place of that one all the same. -/
theorem AnyAdapter.after_refused_save {storage : Storage σ} (adapter : AnyAdapter storage) {device : σ}
    {held record : Value} (loaded : (storage.load device).1 = .ok (some held)) (object : record.isObject = true)
    (proper : record.Proper) {failure : WriteFailure}
    (refused : (storage.save record device).result = .error (.unavailable failure)) :
    (storage.save record device).device = device ∨
      storage.load (storage.save record device).device = (.ok (some record.settled), []) := by
  have refuses : storage.Refuses device (storage.save record device).device := ⟨.save record, failure, refused, rfl⟩
  cases adapter with
  | adapter adapter =>
    cases adapter with
    | memory => exact .inl (((Keeping.memory device).refused refuses).2.2 held loaded)
    | settings name =>
      by_cases writable : record.Writable
      · exact .inr (Settings.load_of_writable object proper writable name device)
      · exact .inl (Settings.device_of_textless writable name device)
    | file file named =>
      have keeping : Keeping file.storage device := .file file device named (StorageFile.firm_of_held named loaded)
      exact .inl ((keeping.refused refuses).2.2 held loaded)
  | nameless file nameless =>
    obtain ⟨fault, failed, cause⟩ := StorageFile.save_nameless nameless record device
    rw [show (file.storage.save record device).result = .error fault from failed] at refused
    cases refused
    rcases cause with cause | cause <;> cases cause

/-- The record of a store whose document is plain, as a storage gives it back. -/
theorem PreferenceStore.settled_record {store : PreferenceStore σ} {version : Int}
    (versioned : store.version = .int version) (plain : (Value.object store.document).Plain) :
    store.record.settled = .object [("state", .object store.document), ("version", .int version)] := by
  rw [PreferenceStore.record, versioned]
  show Value.object [("state", (Value.object store.document).settled), ("version", .int version)] = _
  rw [plain.2]

namespace Run

section Again

variable {run first : Run σ} {version : Int} (versioned : run.store.version = .int version)
  (loads : run.store.storage.LoadsPlain run.device) (migrates : MigratesPlain run.store.migrate)
include versioned

omit versioned in
include loads migrates in
/-- What a store restores of plain contents is plain. -/
theorem plain_of_found {state : Value} {migrated : Bool} {notices : List Notice}
    (found : (run.store.storage.load run.device).1.bind (stateOf run.store) = .ok (state, migrated, notices)) :
    state.Plain := by
  obtain ⟨record, loaded, made⟩ := record_of_found found
  refine plain_stateOf migrates (fun held there => ?_) made
  subst there
  exact loads held _ (Prod.ext loaded rfl)

/-- A record that was saved, or has taken its place although it was refused, is loaded as the store's own. -/
theorem Rehydrated.own {state : Value} {migrated : Bool} (rehydrated : Rehydrated run first state migrated)
    (plain : state.Plain)
    (stored : (first.store.storage.load first.device).1 = .ok (some first.store.record.settled)) :
    first.store.version = .int version ∧ (first.store.storage.load first.device).1 =
      .ok (some (.object [("state", .object (Preferences.restore state).1), ("version", .int version)])) := by
  obtain ⟨persistent, subscribed, store⟩ := rehydrated.store
  have versioned' : first.store.version = .int version := by rw [store, versioned]
  have document : first.store.document = (Preferences.restore state).1 := by rw [store]
  refine ⟨versioned', ?_⟩
  rw [stored, PreferenceStore.settled_record versioned' (by rw [document]; exact Preferences.plain_restore plain), document]

/-- A reload that wrote a migrated record back, with any success, finds the record of the store the next time, or it has
not touched the device. -/
theorem Rehydrated.own_or_same (adapter : AnyAdapter run.store.storage) {state : Value} {migrated : Bool}
    {notices : List Notice} (rehydrated : Rehydrated run first state migrated) (plain : state.Plain)
    (found : (run.store.storage.load run.device).1.bind (stateOf run.store) = .ok (state, migrated, notices)) :
    (first.store.storage.load first.device).1 = .ok (some first.store.record.settled) ∨ first.device = run.device := by
  obtain ⟨persistent, subscribed, store⟩ := rehydrated.store
  have storage : first.store.storage = run.store.storage := by rw [store]
  have versioned' : first.store.version = .int version := by rw [store, versioned]
  have proper : first.store.record.Proper := by
    apply proper_record versioned'
    rw [store]
    exact (Preferences.plain_restore plain).1
  cases migrated with
  | false => exact .inr (rehydrated.unmigrated rfl)
  | true =>
    obtain ⟨device, saved | ⟨failure, refused⟩⟩ := rehydrated.written rfl
    · left
      rw [storage, device, adapter.faithful _ _ rfl proper saved]
    · -- what was migrated had been loaded
      obtain ⟨held, loaded⟩ := held_of_migrated found
      rcases adapter.after_refused_save loaded rfl proper refused with same | stored
      · exact .inr (device.trans same)
      · left
        rw [storage, device, stored]

include loads migrates in
/-- A store that takes its document from the storage once more comes to the document that it has. -/
theorem rehydrate_again (adapter : AnyAdapter run.store.storage) (calm : run.Calm) {document : Fields}
    (returned : run.rehydrate = (.ok document, first)) :
    first.Calm ∧ first.store.document = document ∧ (Value.object document).Plain ∧ first.rehydrate.1 = .ok document := by
  obtain ⟨state, migrated, notices, found, rfl, rehydrated⟩ := rehydrated_of_ok calm returned
  have plain := plain_of_found loads migrates found
  obtain ⟨persistent, subscribed, store⟩ := rehydrated.store
  refine ⟨rehydrated.calm, by rw [store], Preferences.plain_restore plain, ?_⟩
  rcases rehydrated.own_or_same versioned adapter plain found with stored | same
  · obtain ⟨versioned', own⟩ := rehydrated.own versioned plain stored
    rw [(rehydrate_of_own rehydrated.calm versioned' own).1, Preferences.restore_restore plain.1]
  · have found' : (first.store.storage.load first.device).1.bind (stateOf first.store) = .ok (state, migrated, notices) := by
      rw [← found, same, store]
      rfl
    have went : (first.restoredBy state migrated notices).1 = .ok () := by
      cases migrated with
      | false => rfl
      | true =>
        -- the same record is written to the same device once more
        have record : (first.restored state notices).store.record = first.store.record := by
          show Value.object [("state", .object (Preferences.restore state).1), ("version", first.store.version)] = _
          rw [store]
          rfl
        have storage : (first.restored state notices).store.storage = run.store.storage := by
          show first.store.storage = _
          rw [store]
        have device : (first.restored state notices).device = run.device := same
        rw [restoredBy_migrated, writeBack_ok_iff, record, storage, device]
        exact (rehydrated.written rfl).2
    rw [(rehydrate_of_state found' rehydrated.calm).1, went]
    rfl

include loads migrates in
/-- A reload whose write worked leaves the record of the store, in which its document is restored. -/
theorem own_of_log (adapter : AnyAdapter run.store.storage) (calm : run.Calm) {document : Fields} {log : List Touch}
    (returned : (run.recorded []).rehydrate = (.ok document, first.recorded log)) (wrote : log = [.write (.ok ())]) :
    (first.recorded log).Calm ∧ (first.recorded log).store.version = .int version ∧
      (first.recorded log).store.storage = run.store.storage.recorded ∧
      (run.store.storage.recorded.load (first.device, log)).1 =
        .ok (some (.object [("state", .object document), ("version", .int version)])) ∧
      (Preferences.restore (.object document)).1 = document := by
  have calm' : (run.recorded []).Calm := calm
  have versioned' : (run.recorded []).store.version = .int version := versioned
  obtain ⟨state, migrated, notices, found, rfl, rehydrated⟩ := rehydrated_of_ok calm' returned
  have plain : state.Plain := plain_of_found loads migrates found
  obtain ⟨persistent, subscribed, store⟩ := rehydrated.store
  have storage : (first.recorded log).store.storage = run.store.storage.recorded := by
    rw [store]
    rfl
  have stored : ((first.recorded log).store.storage.load (first.recorded log).device).1 =
      .ok (some (first.recorded log).store.record.settled) := by
    cases migrated with
    | false =>
      have nothing : log = [] := congrArg Prod.snd (rehydrated.unmigrated rfl)
      rw [nothing] at wrote
      cases wrote
    | true =>
      let outcome := run.store.storage.save (first.recorded log).store.record run.device
      have device := (rehydrated.written rfl).1
      have kept : first.device = outcome.device := congrArg Prod.fst device
      have logged : log = [.write outcome.result] := congrArg Prod.snd device
      rw [wrote] at logged
      have saved : outcome.result = .ok () := (Touch.write.inj (List.cons.inj logged).1).symm
      have proper : (first.recorded log).store.record.Proper := by
        have own : (first.recorded log).store.version = .int version := by
          rw [store]
          exact versioned
        apply proper_record own
        rw [store]
        exact (Preferences.plain_restore plain).1
      rw [storage]
      show (run.store.storage.load first.device).1 = _
      rw [kept, adapter.faithful _ _ rfl proper saved]
  obtain ⟨version', own⟩ := rehydrated.own versioned' plain stored
  rw [storage] at own
  exact ⟨rehydrated.calm, version', storage, own, Preferences.restore_restore plain.1⟩

end Again

/-! ## Migrations -/

/-- A store has nothing to migrate: there is no record, it is of the store's version, or there is no function for it. -/
def UpToDate (run : Run σ) : Prop :=
  (run.store.storage.load run.device).1 = .ok none ∨
    (∃ fields, (run.store.storage.load run.device).1 = .ok (some (.object fields)) ∧
      ((Entries.get? fields "version").getD (.int 0)).equal run.store.version = true) ∨
    run.store.migrate = none

theorem UpToDate.migrated {run : Run σ} (current : run.UpToDate) {state : Value} {migrated : Bool} {notices : List Notice}
    (found : (run.store.storage.load run.device).1.bind (stateOf run.store) = .ok (state, migrated, notices)) :
    migrated = false := by
  obtain ⟨record, loaded, made⟩ := record_of_found found
  rcases current with empty | ⟨fields, held, own⟩ | without
  · rw [loaded] at empty
    cases empty
    cases made
    rfl
  · rw [loaded] at held
    cases held
    simp only [stateOf, own, if_true] at made
    cases made
    rfl
  · unfold stateOf at made
    split at made
    · cases made
      rfl
    · dsimp only at made
      rw [without] at made
      split_ifs at made <;> cases made <;> rfl
    · cases made

/-- A reload that has nothing to migrate leaves the device as it is. -/
theorem rehydrate_of_upToDate {run : Run σ} (calm : run.Calm) (current : run.UpToDate) :
    run.rehydrate.2.device = run.device := by
  cases found : (run.store.storage.load run.device).1.bind (stateOf run.store) with
  | error fault =>
    rw [rehydrate_of_fault found]
    rfl
  | ok answer =>
    obtain ⟨state, migrated, notices⟩ := answer
    cases current.migrated found
    exact (rehydrate_of_unmigrated calm found).2

/-- The device after stores were opened over it one after another, each with a migration of its own. -/
def openedAll (storage : Storage σ) (version : Value)
    (migrations : List (Option (Value → Value → Except Fault Value))) (device : σ) : σ :=
  migrations.foldl (fun device migrate => (opened storage version migrate device [] []).2.device) device

section Opened

variable {storage : Storage σ} {version : Int} {device : σ} {state : Value}
  (own : (storage.load device).1 = .ok (some (.object [("state", state), ("version", .int version)])))
include own

/-- A store that is opened over a record of its version needs no migration and leaves the device as it is. -/
theorem opened_of_own (migrate : Option (Value → Value → Except Fault Value)) (others : List (PreferenceStore σ))
    (listeners : List Listener) :
    (opened storage (.int version) migrate device others listeners).1 = .ok (Preferences.restore state).1 ∧
      (opened storage (.int version) migrate device others listeners).2.device = device := by
  let store : PreferenceStore σ := { storage, version := .int version, migrate }
  let start : Run σ := { device, store, number := others.length, shelf := others ++ [store], listeners }
  have calm : start.Calm := nofun
  have versioned : start.store.version = .int version := rfl
  exact rehydrate_of_own calm versioned own

theorem openedAll_of_own (migrations : List (Option (Value → Value → Except Fault Value))) :
    openedAll storage (.int version) migrations device = device := by
  induction migrations with
  | nil => rfl
  | cons migrate rest ih =>
    rw [openedAll, List.foldl_cons, (opened_of_own own migrate [] []).2]
    exact ih

end Opened
end Run

/-! ## At most one migration -/

/-- A handle that its copies do not equal is heard of at every reload, another one only at the first. -/
example :
    let run (equalsCopies : Bool) : Run Memory := {
      device := { record := some (.object [("state", .object [("x", .handle equalsCopies)])]) }
      store := { storage := Memory.storage, subscribed := [0] }
      listeners := [⟨"ear", .hear, 0⟩] }
    let again (equalsCopies : Bool) := (run equalsCopies).rehydrate.2.rehydrate
    (again false).1 = (run false).rehydrate.1 ∧ (again false).2.events.length = 2 ∧ (again true).2.events.length = 1 := by
  decide +kernel

end HomeTiles
