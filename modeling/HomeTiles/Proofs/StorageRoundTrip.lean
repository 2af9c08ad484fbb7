import HomeTiles.MemoryStorage
import HomeTiles.Proofs.StorageFiles
import HomeTiles.SettingsStorage

/-!
# What comes back from a storage

The memory, a settings file and a storage file all keep a record as text.
`Adapter` names the storages on them. A record that was saved on any of them is
loaded again (`Adapter.load_of_save`), and what one of them gives stays such as a
program can hold (`Adapter.loadsProper_save`). `InOrder` says when nothing but the
record itself can make saving fail; then `save_then_load` describes all that saving
does.
-/

namespace HomeTiles

/-! ## Memory -/

/-- The record that the memory keeps is the settled one. -/
theorem Memory.keep_of_writable {record : Value} (writable : record.writeFault? = none) (proper : record.Proper) :
    Memory.keep record = .ok record.settled := by
  obtain ⟨text, written⟩ : ∃ text, record.write .compact = .ok text :=
    Value.exists_write_iff.mpr ((Value.writeFault?_eq_none_iff _).mp writable)
  simp only [Memory.keep, written, Value.read_of_write written proper]

theorem Memory.keep_of_fault {record : Value} {fault : WriteFault} (refused : record.writeFault? = some fault) :
    Memory.keep record = .error (.write fault) := by
  simp only [Memory.keep, Value.write_error_iff.mpr refused]

theorem Memory.textual_of_keep {record kept : Value} (ok : Memory.keep record = .ok kept) : kept.Textual := by
  unfold Memory.keep at ok
  split at ok
  · cases ok
  · split at ok
    · cases ok
    · next read =>
      cases ok
      exact Value.textual_of_read read

theorem Value.present?_of_isObject {v : Value} (object : v.isObject = true) : v.present? = some v := by
  cases v with
  | object fields => rfl
  | _ => cases object

/-! ## Settings -/

namespace Settings

/-- A settings file with the text of an object under a name loads that object. -/
theorem load_of_text {name : String} {settings : Settings} {record : Value} {text : String}
    (there : settings.values.get? name = some (.text text)) (read : Value.read text = .ok record)
    (object : record.isObject = true) : load name settings = (some record, []) := by
  have some_text : (Value.text text).truthy = true := by
    have other : text ≠ "" := by
      rintro rfl
      have empty : Value.read "" = .error .malformed := by decide +kernel
      rw [empty] at read
      cases read
    simpa [Value.truthy] using other
  simp only [load, there, some_text, if_true, parse, read, object]

end Settings

/-! ## Adapters -/

/-- The storages of the application: in memory, under a name of a settings file, in a storage file
whose path ends with a name. -/
inductive Adapter : {σ : Type} → Storage σ → Prop where
  | memory : Adapter Memory.storage
  | settings (name : String) : Adapter (Settings.storage name)
  | file (file : StorageFile) (named : file.path.name? ≠ none) : Adapter file.storage

/-- A record that was saved is loaded. -/
theorem Adapter.load_of_save {σ : Type} {storage : Storage σ} (adapter : Adapter storage) {device : σ} {record : Value}
    (object : record.isObject = true) (proper : record.Proper)
    (saved : (storage.save record device).result = .ok ()) :
    storage.load (storage.save record device).device = (.ok (some record.settled), []) := by
  have kept : record.settled.isObject = true := by rw [Value.isObject_settled, object]
  cases adapter with
  | memory =>
    change (Memory.save record device).result = .ok () at saved
    show (Except.ok (Memory.save record device).device.record, []) = _
    unfold Memory.save at saved ⊢
    split_ifs at saved ⊢
    cases refused : record.writeFault? with
    | some fault => simp [Memory.keep_of_fault refused] at saved
    | none => simp only [Memory.keep_of_writable refused proper, Value.present?_of_isObject kept]
  | settings name =>
    change (Settings.save name record device).result = .ok () at saved
    show (Except.ok (Settings.load name (Settings.save name record device).device).1,
      (Settings.load name (Settings.save name record device).device).2) = _
    unfold Settings.save at saved ⊢
    cases written : record.write .compact with
    | error fault => simp [written] at saved
    | ok text =>
      simp only [written] at saved ⊢
      have found : (Settings.sync { device with values := device.values.put name (.text text) }).device.values.get? name =
          some (.text text) := by
        unfold Settings.sync
        dsimp only
        split_ifs <;> rw [Entries.get?_put, if_pos rfl]
      rw [Settings.load_of_text found (Value.read_of_write written proper) kept]
  | file file named => exact StorageFile.load_of_save object proper saved

/-- Saving fails because the record did not reach the storage, or because a file's path is too long. -/
theorem Adapter.fault_of_save {σ : Type} {storage : Storage σ} (adapter : Adapter storage) {device : σ} {record : Value}
    {fault : Fault} (failed : (storage.save record device).result = .error fault) :
    fault.isUnavailable = true ∨ fault = .file .tooLong := by
  cases adapter with
  | memory =>
    change (Memory.save record device).result = .error fault at failed
    unfold Memory.save at failed
    split_ifs at failed
    · cases failed
      exact .inl rfl
    · split at failed
      · cases failed
        exact .inl rfl
      · cases failed
  | settings name =>
    change (Settings.save name record device).result = .error fault at failed
    unfold Settings.save at failed
    split at failed
    · cases failed
      exact .inl rfl
    · unfold Settings.sync at failed
      dsimp only at failed
      split_ifs at failed
      · cases failed
        exact .inl rfl
  | file file named =>
    change (file.save record device).result = .error fault at failed
    obtain ⟨name, named⟩ := Option.ne_none_iff_exists'.mp named
    unfold StorageFile.save at failed
    split at failed
    · next stuck notices read =>
      cases failed
      exact .inr (StorageFile.fault_of_records read)
    · simp only [StorageFile.write, Path.sibling?_of_name? named] at failed
      split at failed
      · cases failed
        exact .inl rfl
      · cases failed

/-- Every record that a storage gives is such as a program can hold. -/
def Storage.LoadsProper {σ : Type} (storage : Storage σ) (device : σ) : Prop :=
  ∀ record notices, storage.load device = (.ok (some record), notices) → record.Proper

theorem Settings.proper_of_load {name : String} {settings : Settings} {record : Value}
    (loaded : (load name settings).1 = some record) : record.Proper := by
  unfold load at loaded
  split at loaded
  · cases loaded
  · split_ifs at loaded
    split at loaded
    · next parsed =>
      cases loaded
      unfold parse at parsed
      split at parsed
      · split at parsed
        · next read =>
          split_ifs at parsed
          · cases parsed
            exact (Value.textual_of_read read).proper
          · cases parsed
        · cases parsed
      · cases parsed
    · cases loaded

theorem StorageFile.proper_of_load {file : StorageFile} {tree : FileTree} {record : Value} {notices : List Notice}
    (loaded : file.load tree = (.ok (some record), notices)) : record.Proper := by
  unfold load at loaded
  cases read : file.records .ignoringFile tree with
  | mk found reported =>
    cases found with
    | error fault => simp [read, Except.map] at loaded
    | ok fields =>
      simp only [read, Except.map, Prod.mk.injEq, Except.ok.injEq, Option.filter_eq_some_iff] at loaded
      exact ((textual_of_records read).of_get? loaded.1.1).proper

/-- Saving keeps what is loaded proper: what is kept as text always is. -/
theorem Adapter.loadsProper_save {σ : Type} {storage : Storage σ} (adapter : Adapter storage) {device : σ}
    (before : storage.LoadsProper device) (record : Value) :
    storage.LoadsProper (storage.save record device).device := by
  cases adapter with
  | memory =>
    show Memory.storage.LoadsProper (Memory.save record device).device
    unfold Memory.save
    split_ifs
    · exact before
    · split
      · exact before
      · next kept ok =>
        intro found notices loaded
        change (Except.ok kept.present?, []) = (Except.ok (some found), notices) at loaded
        have textual := Memory.textual_of_keep ok
        cases kept with
        | null => cases loaded
        | _ =>
          cases loaded
          exact textual.proper
  | settings name =>
    intro found notices loaded
    exact Settings.proper_of_load (Except.ok.inj (congrArg Prod.fst loaded))
  | file file named => exact fun found notices loaded => StorageFile.proper_of_load loaded

theorem Adapter.loadsProper_clear {σ : Type} {storage : Storage σ} (adapter : Adapter storage) {device : σ}
    (before : storage.LoadsProper device) : storage.LoadsProper (storage.clear device).device := by
  cases adapter with
  | memory =>
    show Memory.storage.LoadsProper (Memory.clear device).device
    unfold Memory.clear
    split_ifs
    · exact before
    · exact fun found notices loaded => by cases loaded
  | settings name =>
    intro found notices loaded
    exact Settings.proper_of_load (Except.ok.inj (congrArg Prod.fst loaded))
  | file file named => exact fun found notices loaded => StorageFile.proper_of_load loaded

/-! ## Storages in working order -/

/-- Nothing but the record can make saving fail: the memory takes writes, the settings report no
error, the tree has room for the storage file. -/
inductive InOrder : {σ : Type} → Storage σ → σ → Prop where
  | memory (memory : Memory) (writes : memory.refusesWrites = false) : InOrder Memory.storage memory
  | settings (name : String) (settings : Settings) (status : settings.status = .noError) :
    InOrder (Settings.storage name) settings
  | file (file : StorageFile) (tree : FileTree) (admits : tree.Admits file.path) : InOrder file.storage tree

theorem InOrder.adapter {σ : Type} {storage : Storage σ} {device : σ} (order : InOrder storage device) :
    Adapter storage := by
  cases order with
  | memory _ _ => exact .memory
  | settings name _ _ => exact .settings name
  | file file tree admits => exact .file file admits.named

/-- In working order a record that has a text is saved. -/
theorem InOrder.save_writable {σ : Type} {storage : Storage σ} {device : σ} (order : InOrder storage device)
    {record : Value} (proper : record.Proper) (writable : record.writeFault? = none) :
    (storage.save record device).result = .ok () := by
  cases order with
  | memory memory writes =>
    show (Memory.save record memory).result = .ok ()
    simp [Memory.save, writes, Memory.keep_of_writable writable proper]
  | settings name settings status =>
    show (Settings.save name record settings).result = .ok ()
    obtain ⟨text, written⟩ : ∃ text, record.write .compact = .ok text :=
      Value.exists_write_iff.mpr ((Value.writeFault?_eq_none_iff _).mp writable)
    simp [Settings.save, written, Settings.sync, status]
  | file file tree admits =>
    obtain ⟨made, name, above, entries, place⟩ := admits.place
    obtain ⟨fields, notices, read⟩ := place.records .replacingFile
    obtain ⟨after, saved, _⟩ := place.save read writable proper
    exact congrArg Outcome.result saved

/-- In working order a record that has no text does not reach the storage, and the same is loaded as before. -/
theorem InOrder.save_refused {σ : Type} {storage : Storage σ} {device : σ} (order : InOrder storage device)
    {record : Value} {fault : WriteFault} (refused : record.writeFault? = some fault) :
    (∃ failure, (storage.save record device).result = .error (.unavailable failure)) ∧
      storage.load (storage.save record device).device = storage.load device := by
  cases order with
  | memory memory writes =>
    have same : Memory.save record memory = ⟨.error (.unavailable (.notSerializable (.write fault))), memory, []⟩ := by
      simp [Memory.save, writes, Memory.keep_of_fault refused]
    exact ⟨⟨_, congrArg Outcome.result same⟩, congrArg (fun outcome => Memory.storage.load outcome.device) same⟩
  | settings name settings status =>
    have same : Settings.save name record settings =
        ⟨.error (.unavailable (.notSerializable (.write fault))), settings, []⟩ := by
      simp [Settings.save, Value.write_error_iff.mpr refused]
    exact ⟨⟨_, congrArg Outcome.result same⟩,
      congrArg (fun outcome => (Settings.storage name).load outcome.device) same⟩
  | file file tree admits =>
    obtain ⟨made, name, above, entries, place⟩ := admits.place
    obtain ⟨fields, notices, read⟩ := place.records .replacingFile
    have unwritable : record.writeFault? ≠ none := by simp [refused]
    obtain ⟨failure, same⟩ := place.save_refused read unwritable
    refine ⟨⟨failure, congrArg Outcome.result same⟩, ?_⟩
    show file.load (file.save record tree).device = file.load tree
    rw [same]
    simp only [StorageFile.load, place.steady file rfl]

/-- In working order saving works exactly for the records that have a text, and what was saved is
loaded, alike but for the NaNs that were computed. A record that has none does not reach the storage,
and loading gives what it gave before. -/
theorem save_then_load {σ : Type} {storage : Storage σ} {device : σ} (order : InOrder storage device) {record : Value}
    (object : record.isObject = true) (proper : record.Proper) :
    ((storage.save record device).result = .ok () ↔ record.Writable) ∧
    ((storage.save record device).result = .ok () →
      storage.load (storage.save record device).device = (.ok (some record.settled), []) ∧
      ((∀ part, record.Part part → part ≠ .float (.nan true)) → record.settled = record)) ∧
    (∀ fault, (storage.save record device).result = .error fault →
      fault.isUnavailable = true ∧ storage.load (storage.save record device).device = storage.load device) := by
  have writable := record.writeFault?_eq_none_iff
  cases refused : record.writeFault? with
  | none =>
    have saved := order.save_writable proper refused
    refine ⟨⟨fun _ => writable.mp refused, fun _ => saved⟩, fun _ => ⟨?_, Value.settled_eq_self_iff.mpr⟩, ?_⟩
    · exact order.adapter.load_of_save object proper saved
    · intro fault failed
      rw [saved] at failed
      cases failed
  | some fault =>
    obtain ⟨⟨failure, failed⟩, same⟩ := order.save_refused refused
    refine ⟨⟨fun saved => ?_, fun ok => ?_⟩, fun saved => ?_, fun fault' failed' => ?_⟩
    · rw [failed] at saved
      cases saved
    · rw [writable.mpr ok] at refused
      cases refused
    · rw [failed] at saved
      cases saved
    · rw [failed] at failed'
      cases failed'
      exact ⟨rfl, same⟩

/-- A record with a NaN and a character beyond the first 2 ^ 16, in a storage file whose directory is yet to be made. -/
theorem save_then_load_in_new_directory :
    let file : StorageFile := ⟨Path.ofText "home/prefs.json", "prefs"⟩
    let record : Value := .object [("name", .text "🏠"), ("sizes", .array [.int 1, .float (.nan false)])]
    FileTree.fresh.Admits file.path ∧ record.isObject = true ∧ record.Proper ∧
      file.storage.load (file.storage.save record FileTree.fresh).device = (.ok (some record), []) := by
  intro file record
  have admits : FileTree.fresh.Admits file.path := by decide +kernel
  have proper : record.Proper := ⟨by decide, trivial, ⟨trivial, trivial, trivial⟩, trivial⟩
  have object : record.isObject = true := rfl
  have law := save_then_load (.file file _ admits) object proper
  have writable : record.Writable := by decide +kernel
  exact ⟨admits, object, proper, (law.2.1 (law.1.mpr writable)).1⟩

/-- A failed save can uncover a record: it makes a directory that a path leads up from, to a file
that could not be reached before. -/
theorem failed_save_uncovers_record :
    let tree : FileTree := ⟨.directory [("f.json", .file "\x7b\"n\": \x7b\"a\": 1\x7d\x7d".toUTF8)], []⟩
    let file : StorageFile := ⟨Path.ofText "x/../f.json", "n"⟩
    let outcome := file.save (.object [("bad", .handle true)]) tree
    file.path.name? = some "f.json" ∧ (tree.makeDirectories file.path.parent).1 = .ok () ∧
      tree.hasPath file.path = .ok false ∧ tree.hasPath (Path.ofText "x/../f.json.tmp") = .ok false ∧
      outcome.result = .error (.unavailable (.file file.path (.write .notData))) ∧
      (file.load tree).1 = .ok none ∧ (file.load outcome.device).1 = .ok (some (.object [("a", .int 1)])) := by
  decide +kernel

end HomeTiles
