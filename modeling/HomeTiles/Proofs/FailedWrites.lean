import HomeTiles.Proofs.CalmListeners
import HomeTiles.Proofs.CurrentRecord
import HomeTiles.Proofs.FailedFileWrites

/-!
# Failed writes: the record that a storage falls back to

A storage refuses a write if the write does not reach it. The memory, the settings
while they report no error, and a storage file on a firm path are `Keeping`: however
many writes are refused, what is loaded is what was loaded before, and a store over
them takes that record again (`load_after_refusals`). A storage file that holds a
record is always keeping. Settings that report an error are not: they have changed
the value before they find out (`Settings.load_of_write`).
-/

namespace HomeTiles

variable {σ : Type}

/-! ## Refused writes -/

/-- What is done to the record of a storage. -/
inductive Write where
  | save (record : Value)
  | clear

namespace Write

def on (storage : Storage σ) (device : σ) : Write → Outcome σ
  | .save record => storage.save record device
  | .clear => storage.clear device

/-- What is saved is an object such as a program can hold. -/
def Proper : Write → Prop
  | .save record => record.isObject = true ∧ record.Proper
  | .clear => True

/-- What is saved has a text. -/
def HasText : Write → Prop
  | .save record => record.Writable
  | .clear => True

/-- What a write puts in the place of the record. -/
def left : Write → Option Value
  | .save record => some record.settled
  | .clear => none

end Write

/-- A write that does not reach the storage leads from one device to another. -/
def Storage.Refuses (storage : Storage σ) (before after : σ) : Prop :=
  ∃ (write : Write) (failure : WriteFailure), (write.on storage before).result = .error (.unavailable failure) ∧
    (write.on storage before).device = after

/-- A memory that refuses a write has not touched its record. -/
theorem Memory.device_of_refused {write : Write} {memory : Memory} {failure : WriteFailure}
    (refused : (write.on storage memory).result = .error (.unavailable failure)) :
    (write.on storage memory).device = memory := by
  cases write with
  | save record =>
    change (save record memory).result = _ at refused
    show (save record memory).device = memory
    unfold save at refused ⊢
    split_ifs at refused ⊢
    · rfl
    · split at refused
      · rfl
      · cases refused
  | clear =>
    change (clear memory).result = _ at refused
    show (clear memory).device = memory
    unfold clear at refused ⊢
    split_ifs at refused ⊢
    rfl

/-! ## Settings -/

namespace Settings

theorem values_sync (settings : Settings) : (sync settings).device.values = settings.values := by
  unfold sync
  dsimp only
  split_ifs <;> rfl

/-- A record that has a text is in the settings after it was saved, whatever they report. -/
theorem load_of_writable {record : Value} (object : record.isObject = true) (proper : record.Proper)
    (writable : record.Writable) (name : String) (settings : Settings) :
    (storage name).load ((storage name).save record settings).device = (.ok (some record.settled), []) := by
  obtain ⟨text, written⟩ : ∃ text, record.write .compact = .ok text := Value.exists_write_iff.mpr writable
  have saved : (save name record settings).device.values.get? name = some (.text text) := by
    rw [save, written]
    dsimp only
    rw [values_sync, Entries.get?_put, if_pos rfl]
  show (Except.ok (load name (save name record settings).device).1, (load name (save name record settings).device).2) = _
  rw [load_of_text saved (Value.read_of_write written proper) (record.isObject_settled.trans object)]

/-- A record that has no text is refused before anything is changed. -/
theorem device_of_textless {record : Value} (textless : ¬record.Writable) (name : String) (settings : Settings) :
    ((storage name).save record settings).device = settings := by
  obtain ⟨fault, refuses⟩ := Value.exists_writeFault_of_not_writable textless
  show (save name record settings).device = settings
  simp [save, Value.write_error_iff.mpr refuses]

theorem load_of_clear {settings : Settings} (distinct : (Entries.names settings.values).Nodup) (name : String) :
    (storage name).load ((storage name).clear settings).device = (.ok none, []) := by
  have gone : (clear name settings).device.values.get? name = none := by
    rw [clear, values_sync, Entries.get?_erase distinct, if_pos rfl]
  show (Except.ok (load name (clear name settings).device).1, (load name (clear name settings).device).2) = _
  simp only [load, gone]

/-- After any write the settings hold what was written, if it has a text, whatever they report. -/
theorem load_of_write {settings : Settings} (distinct : (Entries.names settings.values).Nodup) {write : Write}
    (proper : write.Proper) (name : String) :
    (write.HasText → (storage name).load (write.on (storage name) settings).device = (.ok write.left, [])) ∧
    (¬write.HasText →
      (storage name).load (write.on (storage name) settings).device = (storage name).load settings) := by
  cases write with
  | save record =>
    obtain ⟨object, proper⟩ := proper
    refine ⟨fun writable => load_of_writable object proper writable name settings, fun textless => ?_⟩
    exact congrArg (storage name).load (device_of_textless textless name settings)
  | clear => exact ⟨fun _ => load_of_clear distinct name, fun textless => absurd trivial textless⟩

/-- Settings that report no error refuse what has no text only, and do not touch it. -/
theorem device_of_refused {write : Write} {name : String} {settings : Settings} {failure : WriteFailure}
    (status : settings.status = .noError)
    (refused : (write.on (storage name) settings).result = .error (.unavailable failure)) :
    (write.on (storage name) settings).device = settings := by
  cases write with
  | save record =>
    change (save name record settings).result = _ at refused
    show (save name record settings).device = settings
    unfold save at refused ⊢
    split at refused
    · rfl
    · simp [sync, status] at refused
  | clear =>
    change (clear name settings).result = _ at refused
    simp [clear, sync, status] at refused

end Settings

/-- The settings take a record that has a text in the place of the old one before they report an error. -/
theorem record_replaced_by_failed_sync :
    let storage := Settings.storage "n"
    let settings : Settings := {
      values := [("n", .text "\x7b\"a\": 1\x7d")], status := .accessError, organization := "o", application := "a" }
    let outcome := storage.save (.object [("b", .int 2)]) settings
    (storage.load settings).1 = .ok (some (.object [("a", .int 1)])) ∧
      outcome.result = .error (.unavailable (.settings .accessError)) ∧
      (storage.load outcome.device).1 = .ok (some (.object [("b", .int 2)])) := by
  decide +kernel

/-! ## Storage files -/

namespace StorageFile

variable {file : StorageFile} {tree : FileTree}

/-- Where a record is loaded the path leads to a file. -/
theorem exists_file_of_held {held : Value} (loaded : (file.load tree).1 = .ok (some held)) :
    ∃ names content, tree.locate file.path = .ok ⟨names, some (.file content)⟩ := by
  rw [load_fst] at loaded
  cases read : found (tree.locate file.path) with
  | error fault =>
    rw [read] at loaded
    cases loaded
  | ok fields =>
    refine exists_file_of_found read ?_
    rintro rfl
    rw [read] at loaded
    cases loaded

theorem firm_of_held {held : Value} (named : file.path.name? ≠ none) (loaded : (file.load tree).1 = .ok (some held)) :
    tree.Firm file.path := by
  obtain ⟨name, named⟩ := Option.ne_none_iff_exists'.mp named
  obtain ⟨names, content, located⟩ := exists_file_of_held loaded
  exact .inl (FileTree.hasDirectory_parent named located)

/-- A refused write of a storage file is a failed write of all its records. -/
theorem exists_write_of_refused {write : Write} {failure : WriteFailure}
    (refused : (write.on file.storage tree).result = .error (.unavailable failure)) :
    ∃ fields, file.write fields tree = (.error (.unavailable failure), (write.on file.storage tree).device) := by
  cases write with
  | save record =>
    have same : Write.on file.storage tree (.save record) = file.save record tree := rfl
    rw [same] at refused ⊢
    unfold save at refused ⊢
    split at refused
    · next fault notices read =>
      cases refused
      cases fault_of_records read
    · exact ⟨_, Prod.ext refused rfl⟩
  | clear =>
    have same : Write.on file.storage tree .clear = file.clear tree := rfl
    rw [same] at refused ⊢
    unfold clear at refused ⊢
    split at refused
    · next fault notices read =>
      cases refused
      cases fault_of_records read
    · dsimp only at refused ⊢
      split at refused
      · cases refused
      · exact ⟨_, Prod.ext refused rfl⟩

end StorageFile

/-! ## Writes over a record -/

/-- A path that is too long to save to is too long to load from. -/
theorem Adapter.tooLong_of_save {storage : Storage σ} (adapter : Adapter storage) {device : σ} {record : Value}
    (failed : (storage.save record device).result = .error (.file .tooLong)) :
    (storage.load device).1 = .error (.file .tooLong) := by
  cases adapter with
  | memory =>
    change (Memory.save record device).result = _ at failed
    unfold Memory.save at failed
    split_ifs at failed
    · cases failed
    · split at failed <;> cases failed
  | settings name =>
    change (Settings.save name record device).result = _ at failed
    unfold Settings.save at failed
    split at failed
    · cases failed
    · unfold Settings.sync at failed
      dsimp only at failed
      split_ifs at failed
      cases failed
  | file file named =>
    obtain ⟨name, named⟩ := Option.ne_none_iff_exists'.mp named
    change (file.save record device).result = _ at failed
    unfold StorageFile.save at failed
    split at failed
    · next stuck notices read =>
      cases failed
      show (file.load device).1 = _
      rw [StorageFile.load_fst, ← StorageFile.records_fst file .replacingFile, read]
      rfl
    · simp only [StorageFile.write, Path.sibling?_of_name? named] at failed
      split at failed <;> cases failed

/-- Where a record is loaded another one is saved or refused. -/
theorem Adapter.refused_of_held {storage : Storage σ} (adapter : Adapter storage) {device : σ} {held record : Value}
    (loaded : (storage.load device).1 = .ok (some held)) {fault : Fault}
    (failed : (storage.save record device).result = .error fault) : fault.isUnavailable = true := by
  rcases adapter.fault_of_save failed with unavailable | rfl
  · exact unavailable
  · rw [adapter.tooLong_of_save failed] at loaded
    cases loaded

/-! ## Storages that keep their record -/

/-- A refused write cannot be told from the record: the memory, settings that report no error, a storage file whose
path is firm. -/
inductive Keeping : {σ : Type} → Storage σ → σ → Prop where
  | memory (memory : Memory) : Keeping Memory.storage memory
  | settings (name : String) (settings : Settings) (status : settings.status = .noError) :
    Keeping (Settings.storage name) settings
  | file (file : StorageFile) (tree : FileTree) (named : file.path.name? ≠ none) (firm : tree.Firm file.path) :
    Keeping file.storage tree

namespace Keeping

variable {storage : Storage σ} {device after : σ}

/-- A refused write leaves what is loaded, and where there is a record it has done nothing at all. -/
theorem refused (keeping : Keeping storage device) (refused : storage.Refuses device after) :
    Keeping storage after ∧ (storage.load after).1 = (storage.load device).1 ∧
      ∀ held, (storage.load device).1 = .ok (some held) → after = device := by
  obtain ⟨write, failure, failed, rfl⟩ := refused
  cases keeping with
  | memory memory =>
    rw [Memory.device_of_refused failed]
    exact ⟨.memory memory, rfl, fun _ _ => rfl⟩
  | settings name settings status =>
    rw [Settings.device_of_refused status failed]
    exact ⟨.settings name settings status, rfl, fun _ _ => rfl⟩
  | file file tree named firm =>
    obtain ⟨name, found⟩ := Option.ne_none_iff_exists'.mp named
    obtain ⟨fields, wrote⟩ := StorageFile.exists_write_of_refused failed
    refine ⟨.file file _ named (StorageFile.firm_of_failed_write found firm wrote), ?_, fun held loaded => ?_⟩
    · show (file.load _).1 = (file.load tree).1
      rw [StorageFile.load_fst, StorageFile.load_fst, StorageFile.found_of_failed_write found firm wrote]
    · obtain ⟨names, content, located⟩ := StorageFile.exists_file_of_held loaded
      exact StorageFile.write_failed_at_file found located wrote

/-- However many writes are refused. -/
theorem refusals (keeping : Keeping storage device) (refused : Relation.ReflTransGen storage.Refuses device after) :
    Keeping storage after ∧ (storage.load after).1 = (storage.load device).1 ∧
      ∀ held, (storage.load device).1 = .ok (some held) → after = device := by
  induction refused with
  | refl => exact ⟨keeping, rfl, fun _ _ => rfl⟩
  | tail _ last ih =>
    obtain ⟨before, same, still⟩ := ih
    obtain ⟨now, same', still'⟩ := before.refused last
    refine ⟨now, same'.trans same, fun held loaded => ?_⟩
    exact (still' held (same.trans loaded)).trans (still held loaded)

end Keeping

/-! ## Stores over storages that refuse writes -/

/-- A store takes the same document again, whatever writes were refused in between. -/
theorem Run.rehydrate_after_refusals {run : Run σ} (calm : run.Calm) (keeping : Keeping run.store.storage run.device)
    {after : σ} (refused : Relation.ReflTransGen run.store.storage.Refuses run.device after) :
    ({ run with device := after } : Run σ).rehydrate.1 = run.rehydrate.1 := by
  obtain ⟨_, same, still⟩ := keeping.refusals refused
  let moved : Run σ := { run with device := after }
  have calm' : moved.Calm := calm
  have finds : (moved.store.storage.load moved.device).1.bind (Run.stateOf moved.store) =
      (run.store.storage.load run.device).1.bind (Run.stateOf run.store) := by rw [← same]
  cases loaded : (run.store.storage.load run.device).1 with
  | error fault =>
    have stuck : (run.store.storage.load run.device).1.bind (Run.stateOf run.store) = .error fault := by
      rw [loaded]
      rfl
    rw [Run.rehydrate_of_fault stuck, show { run with device := after } = moved from rfl,
      Run.rehydrate_of_fault (finds.trans stuck)]
  | ok record =>
    cases record with
    | none =>
      -- nothing is migrated where there is no record
      have nothing : (run.store.storage.load run.device).1.bind (Run.stateOf run.store) = .ok (.null, false, []) := by
        rw [loaded]
        rfl
      have first := (Run.rehydrate_of_state nothing calm).1
      have second := (Run.rehydrate_of_state (finds.trans nothing) calm').1
      exact second.trans first.symm
    | some held => rw [still held loaded]

theorem Keeping.adapter {storage : Storage σ} {device : σ} (keeping : Keeping storage device) : Adapter storage := by
  cases keeping with
  | memory memory => exact .memory
  | settings name settings status => exact .settings name
  | file file tree named firm => exact .file file named

/-- Refused writes leave what is loaded and what a store makes of it, above all the record that was saved before
them. A storage file that holds a record always keeps it so. Settings that report an error do not: with them every
write takes place, unless the record has no text. -/
theorem load_after_refusals {storage : Storage σ} {device after : σ} (keeping : Keeping storage device)
    (refused : Relation.ReflTransGen storage.Refuses device after) :
    (storage.load after).1 = (storage.load device).1 ∧
    (∀ before record, record.isObject = true → record.Proper → (storage.save record before).result = .ok () →
      (storage.save record before).device = device → (storage.load after).1 = .ok (some record.settled)) ∧
    (∀ run : Run σ, run.store.storage = storage → run.device = device → run.Calm →
      ({ run with device := after } : Run σ).rehydrate.1 = run.rehydrate.1) ∧
    (∀ (file : StorageFile) (tree : FileTree) (held : Value), file.path.name? ≠ none →
      (file.load tree).1 = .ok (some held) → Keeping file.storage tree) ∧
    ∀ (name : String) (settings : Settings) (write : Write), (Entries.names settings.values).Nodup → write.Proper →
      (write.HasText → (Settings.storage name).load (write.on (Settings.storage name) settings).device =
        (.ok write.left, [])) ∧
      (¬write.HasText → (Settings.storage name).load (write.on (Settings.storage name) settings).device =
        (Settings.storage name).load settings) := by
  obtain ⟨_, same, _⟩ := keeping.refusals refused
  refine ⟨same, ?_, ?_, ?_, ?_⟩
  · rintro before record object proper saved rfl
    rw [same, keeping.adapter.load_of_save object proper saved]
  · rintro run rfl rfl calm
    exact Run.rehydrate_after_refusals calm keeping refused
  · intro file tree held named loaded
    exact .file file tree named (StorageFile.firm_of_held named loaded)
  · intro name settings write distinct proper
    exact Settings.load_of_write distinct proper name

/-- A storage file below a directory that is yet to be made refuses a record that has no text, and then the same
again: the directory is there, and no record is. -/
theorem load_after_two_refusals :
    let file : StorageFile := ⟨Path.ofText "home/prefs.json", "prefs"⟩
    let write : Write := .save (.object [("bad", .handle true)])
    let once := (write.on file.storage FileTree.fresh).device
    let twice := (write.on file.storage once).device
    Keeping file.storage FileTree.fresh ∧ Relation.ReflTransGen file.storage.Refuses FileTree.fresh twice ∧
      (file.storage.load twice).1 = (file.storage.load FileTree.fresh).1 := by
  intro file write once twice
  have keeping : Keeping file.storage FileTree.fresh := .file file _ (by decide) (by decide +kernel)
  have first : file.storage.Refuses FileTree.fresh once :=
    ⟨write, .file file.path (.write .notData), by decide +kernel, rfl⟩
  have second : file.storage.Refuses once twice :=
    ⟨write, .file file.path (.write .notData), by decide +kernel, rfl⟩
  have refused := (Relation.ReflTransGen.single first).tail second
  exact ⟨keeping, refused, (load_after_refusals keeping refused).1⟩

end HomeTiles
