import HomeTiles.Proofs.StorageRoundTrip

/-!
# Faithful storages: what was taken is given back, whatever comes in between

A storage is `Faithful` if a record that it took is loaded as JSON has it; those
of the application are (`AnyAdapter.faithful`). It is `Sound` on devices that fit
if these also stay such as give proper records. A storage is as sound with
`Storage.troubled`, where a list says what comes before each write: the write is
refused, or the device has been changed by then (`Sound.troubled`).
-/

namespace HomeTiles

variable {σ : Type}

/-! ## Faithful storages -/

/-- An object that was saved is loaded as JSON has it. -/
def Storage.Faithful (storage : Storage σ) : Prop :=
  ∀ record device, record.isObject = true → record.Proper → (storage.save record device).result = .ok () →
    storage.load (storage.save record device).device = (.ok (some record.settled), [])

/-- The storages of the application, whatever the path of a storage file. -/
inductive AnyAdapter : {σ : Type} → Storage σ → Prop where
  | adapter {σ : Type} {storage : Storage σ} (adapter : Adapter storage) : AnyAdapter storage
  | nameless (file : StorageFile) (nameless : file.path.name? = none) : AnyAdapter file.storage

theorem StorageFile.write_nameless {file : StorageFile} (nameless : file.path.name? = none) (fields : Fields)
    (tree : FileTree) : file.write fields tree = (.error (.namelessFile file.path), tree) := by
  have beside : file.path.sibling? ".tmp" = none := by
    rw [Path.sibling?, Path.withSuffix?, nameless]
  unfold StorageFile.write
  rw [beside]

/-- A storage file whose path has no last part takes no record. -/
theorem StorageFile.save_nameless {file : StorageFile} (nameless : file.path.name? = none) (record : Value)
    (tree : FileTree) :
    ∃ fault, (file.save record tree).result = .error fault ∧ (fault = .file .tooLong ∨ fault = .namelessFile file.path) := by
  unfold StorageFile.save
  split
  · next fault notices read => exact ⟨fault, rfl, .inl (StorageFile.fault_of_records read)⟩
  · exact ⟨.namelessFile file.path, congrArg Prod.fst (StorageFile.write_nameless nameless _ tree), .inr rfl⟩

/-- A fault that comes of writing a record: it did not reach the storage, or the path of a storage file is too long
to be looked up or has no last part. -/
def Fault.OfWrite (fault : Fault) : Prop :=
  fault.isUnavailable = true ∨ fault = .file .tooLong ∨ ∃ path, fault = .namelessFile path

namespace AnyAdapter

variable {storage : Storage σ}

theorem faithful (adapter : AnyAdapter storage) : storage.Faithful := by
  intro record device object proper saved
  cases adapter with
  | adapter adapter => exact adapter.load_of_save object proper saved
  | nameless file nameless =>
    obtain ⟨fault, failed, _⟩ := StorageFile.save_nameless nameless record device
    rw [show (file.storage.save record device).result = _ from failed] at saved
    cases saved

theorem fault_of_save (adapter : AnyAdapter storage) {device : σ} {record : Value} {fault : Fault}
    (failed : (storage.save record device).result = .error fault) : fault.OfWrite := by
  cases adapter with
  | adapter adapter => exact (adapter.fault_of_save failed).imp_right .inl
  | nameless file nameless =>
    obtain ⟨fault', failed', cause⟩ := StorageFile.save_nameless nameless record device
    rw [show (file.storage.save record device).result = _ from failed'] at failed
    cases failed
    rcases cause with tooLong | nameless
    · exact .inr (.inl tooLong)
    · exact .inr (.inr ⟨_, nameless⟩)

end AnyAdapter

/-! ## Troubles -/

/-- What comes before a write. -/
inductive Trouble (σ : Type) where
  /-- The write is refused. -/
  | refused
  /-- The device is changed from outside; the write goes to what it is then. -/
  | changed (effect : σ → σ)

/-- A storage whose writes meet with the troubles of a list, the first one first, and with none after them. -/
def Storage.troubled (storage : Storage σ) : Storage (σ × List (Trouble σ)) where
  load device := storage.load device.1
  save record device :=
    match device.2 with
    | [] =>
      let outcome := storage.save record device.1
      { outcome with device := (outcome.device, []) }
    | .refused :: rest => ⟨.error (.unavailable .disabled), (device.1, rest), []⟩
    | .changed effect :: rest =>
      let outcome := storage.save record (effect device.1)
      { outcome with device := (outcome.device, rest) }
  clear device :=
    let outcome := storage.clear device.1
    { outcome with device := (outcome.device, device.2) }

/-- A write is refused and changes nothing, or it goes to a device as it is or as it was changed to be. -/
theorem Storage.save_troubled (storage : Storage σ) (record : Value) (device : σ × List (Trouble σ)) :
    storage.troubled.save record device = ⟨.error (.unavailable .disabled), (device.1, device.2.tail), []⟩ ∨
      ∃ there, (there = device.1 ∨ ∃ effect, .changed effect ∈ device.2 ∧ there = effect device.1) ∧
        storage.troubled.save record device = ⟨(storage.save record there).result,
          ((storage.save record there).device, device.2.tail), (storage.save record there).notices⟩ := by
  obtain ⟨before, troubles⟩ := device
  cases troubles with
  | nil => exact .inr ⟨before, .inl rfl, rfl⟩
  | cons trouble rest =>
    cases trouble with
    | refused => exact .inl rfl
    | changed effect => exact .inr ⟨effect before, .inr ⟨effect, List.mem_cons_self, rfl⟩, rfl⟩

theorem Storage.Faithful.troubled {storage : Storage σ} (faithful : storage.Faithful) : storage.troubled.Faithful := by
  intro record device object proper saved
  rcases storage.save_troubled record device with refused | ⟨there, _, goes⟩
  · rw [refused] at saved
    cases saved
  · rw [goes] at saved ⊢
    exact faithful record there object proper saved

/-- A write fails for a trouble, or as it may fail without any. -/
theorem Storage.fault_of_troubled {storage : Storage σ} {record : Value} {device : σ × List (Trouble σ)} {fault : Fault}
    (failed : (storage.troubled.save record device).result = .error fault) :
    fault.isUnavailable = true ∨ ∃ there, (storage.save record there).result = .error fault := by
  rcases storage.save_troubled record device with refused | ⟨there, _, goes⟩
  · rw [refused] at failed
    cases failed
    exact .inl rfl
  · rw [goes] at failed
    exact .inr ⟨there, failed⟩

/-! ## Devices that fit -/

/-- A storage that is faithful, and devices on which it loads nothing but proper values, whatever is done with it. -/
structure Storage.Sound (storage : Storage σ) (fits : σ → Prop) : Prop where
  faithful : storage.Faithful
  loads : ∀ {device}, fits device → storage.LoadsProper device
  save : ∀ {device}, fits device → ∀ record, fits (storage.save record device).device
  clear : ∀ {device}, fits device → fits (storage.clear device).device

/-- The device fits, and so it does after each change that a trouble makes. -/
def Trouble.Fits (fits : σ → Prop) (device : σ × List (Trouble σ)) : Prop :=
  fits device.1 ∧ ∀ effect, .changed effect ∈ device.2 → ∀ there, fits there → fits (effect there)

theorem Adapter.sound {storage : Storage σ} (adapter : Adapter storage) : storage.Sound storage.LoadsProper where
  faithful := (AnyAdapter.adapter adapter).faithful
  loads fits := fits
  save fits record := adapter.loadsProper_save fits record
  clear fits := adapter.loadsProper_clear fits

theorem Storage.Sound.troubled {storage : Storage σ} {fits : σ → Prop} (sound : storage.Sound fits) :
    storage.troubled.Sound (Trouble.Fits fits) where
  faithful := sound.faithful.troubled
  loads fitting := sound.loads fitting.1
  save := by
    rintro device ⟨fitting, harmless⟩ record
    have later : ∀ effect, .changed effect ∈ device.2.tail → ∀ there, fits there → fits (effect there) :=
      fun effect inside => harmless effect (List.mem_of_mem_tail inside)
    rcases storage.save_troubled record device with refused | ⟨there, comes, goes⟩
    · rw [refused]
      exact ⟨fitting, later⟩
    · rw [goes]
      refine ⟨sound.save ?_ record, later⟩
      rcases comes with rfl | ⟨effect, inside, rfl⟩
      · exact fitting
      · exact harmless effect inside _ fitting
  clear fitting := ⟨sound.clear fitting.1, fitting.2⟩

end HomeTiles
