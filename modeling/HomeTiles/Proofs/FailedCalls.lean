import HomeTiles.Proofs.EventChains

/-!
# Failed calls: nothing is done, or all but the write

A change that fails has nothing to commit and does nothing, or its document is
committed and the save of it gives the fault back. In the second case everything is
as after a change that worked, save that the storage was not reached
(`Run.unsaved_of_failed`). A reload that fails has changed nothing. One save fails
without a storage that is said to be unavailable: a path that is too long is looked
up before the write begins, and by then the document is another one
(`committed_over_path_too_long`).
-/

namespace HomeTiles

variable {σ : Type}

/-- A path that is too long is found to be so before anything is written. -/
theorem Adapter.device_of_tooLong {storage : Storage σ} (adapter : Adapter storage) {device : σ} {record : Value}
    (failed : (storage.save record device).result = .error (.file .tooLong)) :
    (storage.save record device).device = device := by
  have loaded := adapter.tooLong_of_save failed
  cases adapter with
  | memory => cases loaded
  | settings name => cases loaded
  | file file named =>
    change (file.load device).1 = _ at loaded
    show (file.save record device).device = device
    unfold StorageFile.save
    cases read : file.records .replacingFile device with
    | mk fields notices =>
      cases fields with
      | error fault => rfl
      | ok fields =>
        have found : StorageFile.found (device.locate file.path) = .ok fields := by
          rw [← StorageFile.records_fst file .replacingFile, read]
        rw [StorageFile.load_fst, found] at loaded
        cases loaded

namespace Run

theorem persistent_commit_silent (document : Fields) (run : Run σ) :
    (commit silent document run).2.store.persistent =
      match (commit silent document run).1 with
      | .ok () => true
      | .error fault => if fault.isUnavailable then false else run.store.persistent := by
  unfold commit silent
  dsimp only
  split
  · rfl
  · split_ifs with unavailable
    · simp only [unavailable, if_true]
      rfl
    · simp only [unavailable]
      rfl

/-- The run after a change that was committed and not saved, among calm listeners: the document is the new one, all who
were subscribed have been told, and the store is not persistent if the storage refused. A path that is too long leaves
device and flag. -/
structure Unsaved (run after : Run σ) (new : Fields) (fault : Fault) : Prop where
  document : after.store.document = new
  events : after.events = run.events ++ run.heardOf (some new)
  refused : fault.isUnavailable = true → after.store.persistent = false
  tooLong : fault = .file .tooLong → after.device = run.device ∧ after.store.persistent = run.store.persistent

theorem unsaved_of_failed {run : Run σ} (adapter : Adapter run.store.storage) (calm : run.Calm) {new : Fields}
    {fault : Fault}
    (failed : (run.store.storage.save (run.withDocument new).store.record run.device).result = .error fault) :
    Unsaved run (commit announce new run).2 new fault := by
  have ready := ready_commit_silent new run
  have undisturbed := (undisturbed_commit new calm).2
  have result : (commit silent new run).1 = .error fault := (result_commit_silent new run).trans failed
  have flag := persistent_commit_silent new run
  rw [result] at flag
  have same : (commit announce new run).2.store.persistent = (commit silent new run).2.store.persistent := by
    rw [undisturbed.store]
  constructor
  · rw [undisturbed.document, document_commit_silent]
  · rw [undisturbed.events, ready.events]
  · intro unavailable
    rw [same, flag]
    exact if_pos unavailable
  · rintro rfl
    constructor
    · rw [undisturbed.device, device_commit_silent, adapter.device_of_tooLong failed]
    · rw [same, flag]
      rfl

end Run

open Run

/-- A change that has nothing to commit fails and does nothing. Another one gives back what its save does; if that fails,
the storage refused the record or a storage file's path is too long, and the change is committed all the same, as every
run with this document commits it. A reload that fails has done nothing. -/
theorem failed_call {run : Run σ} (adapter : Adapter run.store.storage) :
    (∀ request ask, Request.ask? request = some ask →
      (asked? ask run.store.document = none → ∃ fault, request.answer run = (.error fault, run)) ∧
      ∀ new, asked? ask run.store.document = some new →
        let saved := run.store.storage.save (run.withDocument new).store.record run.device
        (request.answer run).1 = saved.result ∧
        (∀ fault, saved.result = .error fault → (fault.isUnavailable = true ∨ fault = .file .tooLong) ∧
          (run.Calm → Unsaved run (request.answer run).2 new fault)) ∧
        ∀ other : Run σ, other.Calm → other.store.document = run.store.document →
          (request.answer other).2.store.document = new) ∧
    ∀ fault, run.rehydrate.1 = .error fault → run.rehydrate.2 = run.loaded := by
  refine ⟨fun request ask asks => ⟨?_, fun new asked => ⟨?_, ?_, ?_⟩⟩, ?_⟩
  · intro unasked
    obtain ⟨fault, nothing⟩ := setBy_of_unasked (σ := σ) unasked
    rw [Request.answer_of_ask asks]
    exact ⟨fault, nothing run rfl⟩
  · rw [Request.answer_of_ask asks, setBy_of_asked asked, commit_eq]
    exact result_commit_silent new run
  · intro fault failed
    refine ⟨adapter.fault_of_save failed, fun calm => ?_⟩
    rw [Request.answer_of_ask asks, setBy_of_asked asked]
    exact unsaved_of_failed adapter calm failed
  · intro other calm same
    rw [Request.answer_of_ask asks, document_setBy_calm calm, same, asked]
    rfl
  · intro fault failed
    exact rehydrate_of_failed (.adapter adapter run.device) failed

/-- A store over a memory that refuses: a size that there is not and a migration that fails change nothing, a favorite is
committed and not saved. -/
theorem failed_calls_of_one_store :
    let run : Run Memory := {
      device := { refusesWrites := true, record := some (.object [("version", .int 7)]) }
      store := { storage := Memory.storage, migrate := some fun _ _ => .error (.callback "no way"), subscribed := [0, 0] }
      listeners := [⟨"ear", .hear, 0⟩] }
    let document := Preferences.defaults.put "favoriteApps" (.object [("p", .bool true)])
    Adapter run.store.storage ∧
      (∃ fault, Request.answer run (.resize "p" (.text "huge")) = (.error fault, run)) ∧
      run.rehydrate.2 = run.loaded ∧ (Request.answer run (.favorite "p")).1 = .error (.unavailable .disabled) ∧
      Unsaved run (Request.answer run (.favorite "p")).2 document (.unavailable .disabled) := by
  intro run document
  have adapter : Adapter run.store.storage := .memory
  have calm : run.Calm := by decide
  obtain ⟨changes, reloads⟩ := failed_call adapter
  have rejected := (changes (.resize "p" (.text "huge")) _ rfl).1 (by decide +kernel)
  obtain ⟨result, unsaved, _⟩ := (changes (.favorite "p") _ rfl).2 document (by decide +kernel)
  exact ⟨adapter, rejected, reloads (.callback "no way") (by decide +kernel), result, (unsaved _ rfl).2 calm⟩

/-- A name of 256 bytes below a directory that has come to be there: a favorite is committed and announced, and then the
call fails for another reason than that the storage is unavailable. -/
theorem committed_over_path_too_long :
    let file : StorageFile := ⟨⟨.working, ["a", String.ofList (List.replicate 64 '🏠')]⟩, storeName⟩
    let operations : List (Operation FileTree) :=
      [.recruit ⟨"ear", .hear, 0⟩, .outside fun tree => (tree.makeDirectories (Path.ofText "a")).2]
    let opened := Run.opened file.storage (.int storeVersion) none FileTree.fresh [] []
    let run := Operation.actAll operations opened.2
    let call := run.favorite "p"
    opened.1 = .ok Preferences.defaults ∧ call.1 = .error (.file .tooLong) ∧
      (Fault.file .tooLong).isUnavailable = false ∧ call.2.store.document ≠ run.store.document ∧
      call.2.events.length = 1 ∧ call.2.store.persistent = true := by
  decide +kernel

end HomeTiles
