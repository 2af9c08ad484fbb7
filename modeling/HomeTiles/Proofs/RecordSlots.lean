import HomeTiles.Proofs.StorageNamespaces
import HomeTiles.Proofs.StorageRoundTrip

/-!
# Slots: what the storages have in common

A storage is a `Slot` if it loads the record that is in it, takes every record that
has a text in its place, refuses any other with the old record kept, and can be
emptied. The three storages of the application keep a record in forms of their
own, but each of them is a slot as long as nobody else touches it:
`Memory.slot`, `Settings.slot` and `StorageFile.slot` say when one holds which
record. `StartsEmpty` names the ones that nothing has been put into.
-/

namespace HomeTiles

variable {σ : Type}

/-- How a storage is a slot for one record, in which every record has settled. -/
structure Slot (storage : Storage σ) where
  holds : σ → Option Value → Prop
  proper : ∀ {device record}, holds device (some record) → record.Proper
  load : ∀ {device held}, holds device held → storage.load device = (.ok held, [])
  save : ∀ {device held record}, holds device held → record.isObject = true → record.Proper → record.Writable →
    ∃ after, storage.save record device = ⟨.ok (), after, []⟩ ∧ holds after (some record.settled)
  refuse : ∀ {device held record}, holds device held → record.isObject = true → record.Proper → ¬ record.Writable →
    ∃ failure after, storage.save record device = ⟨.error (.unavailable failure), after, []⟩ ∧ holds after held
  clear : ∀ {device held}, holds device held →
    ∃ after, storage.clear device = ⟨.ok (), after, []⟩ ∧ holds after none

theorem Outcome.eq_of_parts {outcome : Outcome σ} {result : Except Fault Unit} (went : outcome.result = result)
    (quiet : outcome.notices = []) : outcome = ⟨result, outcome.device, []⟩ := by
  obtain ⟨_, device, _⟩ := outcome
  cases went
  cases quiet
  rfl

/-! ## Memory -/

/-- The memory while it takes writes. -/
def Memory.slot : Slot Memory.storage where
  holds memory held := memory.refusesWrites = false ∧ memory.record = held ∧ ∀ record ∈ held, record.Proper
  proper := fun ⟨_, _, proper⟩ => proper _ rfl
  load := by
    rintro memory _ ⟨_, rfl, _⟩
    rfl
  save := by
    rintro memory _ record ⟨writes, rfl, _⟩ object proper writable
    have kept := Memory.keep_of_writable (record.writeFault?_eq_none_iff.mpr writable) proper
    have present := Value.present?_of_isObject (record.isObject_settled.trans object)
    refine ⟨{ memory with record := some record.settled, writes := memory.writes + 1 }, ?_, writes, rfl, ?_⟩
    · show Memory.save record memory = _
      simp [Memory.save, writes, kept, present]
    · rintro _ ⟨⟩
      exact (Memory.textual_of_keep kept).proper
  refuse := by
    rintro memory held record ⟨writes, same, before⟩ _ _ refused
    obtain ⟨fault, found⟩ := Value.exists_writeFault_of_not_writable refused
    refine ⟨.notSerializable (.write fault), memory, ?_, writes, same, before⟩
    show Memory.save record memory = _
    simp [Memory.save, writes, Memory.keep_of_fault found]
  clear := by
    rintro memory held ⟨writes, _, _⟩
    refine ⟨{ memory with record := none }, ?_, writes, rfl, nofun⟩
    show Memory.clear memory = _
    simp [Memory.clear, writes]

/-! ## Settings -/

/-- A name of a settings file that reports no error. -/
def Settings.slot (name : String) : Slot (Settings.storage name) where
  holds settings held := settings.status = .noError ∧ (Entries.names settings.values).Nodup ∧
    Settings.load name settings = (held, [])
  proper := fun ⟨_, _, loaded⟩ => Settings.proper_of_load (congrArg Prod.fst loaded)
  load := by
    rintro settings held ⟨_, _, loaded⟩
    show (Except.ok (Settings.load name settings).1, (Settings.load name settings).2) = _
    rw [loaded]
  save := by
    rintro settings held record ⟨status, distinct, _⟩ object proper writable
    obtain ⟨text, written⟩ : ∃ text, record.write .compact = .ok text := Value.exists_write_iff.mpr writable
    have saved : Settings.save name record settings = ⟨.ok (),
        { settings with values := settings.values.put name (.text text), syncs := settings.syncs + 1 }, []⟩ := by
      simp [Settings.save, written, Settings.sync, status]
    refine ⟨_, saved, status, Entries.nodup_put distinct name _, ?_⟩
    have found : (settings.values.put name (.text text)).get? name = some (.text text) := by
      rw [Entries.get?_put, if_pos rfl]
    exact Settings.load_of_text found (Value.read_of_write written proper) (record.isObject_settled.trans object)
  refuse := by
    rintro settings held record ⟨status, distinct, loaded⟩ _ _ refused
    obtain ⟨fault, found⟩ := Value.exists_writeFault_of_not_writable refused
    refine ⟨.notSerializable (.write fault), settings, ?_, status, distinct, loaded⟩
    show Settings.save name record settings = _
    simp [Settings.save, Value.write_error_iff.mpr found]
  clear := by
    rintro settings held ⟨status, distinct, _⟩
    refine ⟨{ settings with values := settings.values.erase name, syncs := settings.syncs + 1 }, ?_, status,
      Entries.nodup_erase distinct name, ?_⟩
    · show Settings.clear name settings = _
      simp [Settings.clear, Settings.sync, status]
    · have gone : (settings.values.erase name).get? name = none := by
        rw [Entries.get?_erase distinct, if_pos rfl]
      simp only [Settings.load, gone]

/-! ## Storage files -/

/-- A name of a storage file that all storages on it can work with. -/
def StorageFile.slot (file : StorageFile) : Slot file.storage where
  holds tree held := ∃ fields, Shared file.path tree fields ∧ (fields.get? file.name).filter Value.isObject = held
  proper := by
    rintro tree record ⟨fields, shared, found⟩
    rw [Option.filter_eq_some_iff] at found
    exact (shared.textual.of_get? found.1).proper
  load := by
    rintro tree held ⟨fields, shared, rfl⟩
    exact shared.load file.name
  save := by
    rintro tree held record ⟨fields, shared, _⟩ object proper writable
    obtain ⟨kept, shared', ⟨quiet, works, _⟩, _, own⟩ := shared.save file.name object proper
    have saved : (file.save record tree).result = .ok () := works.mpr writable
    refine ⟨_, Outcome.eq_of_parts saved quiet, kept, shared', own.trans ?_⟩
    change ((Call.word _ (.done (file.save record tree).result _)).map _).getD _ = _
    rw [saved]
    rfl
  refuse := by
    rintro tree held record ⟨fields, shared, same⟩ object proper refused
    obtain ⟨kept, shared', ⟨quiet, works, faults⟩, _, own⟩ := shared.save file.name object proper
    cases failed : (file.save record tree).result with
    | ok => exact absurd (works.mp failed) refused
    | error fault =>
      have reached := faults fault failed
      cases fault with
      | unavailable failure =>
        refine ⟨failure, _, Outcome.eq_of_parts failed quiet, kept, shared', own.trans (Eq.trans ?_ same)⟩
        change ((Call.word _ (.done (file.save record tree).result _)).map _).getD _ = _
        rw [failed]
        rfl
      | _ => cases reached
  clear := by
    rintro tree held ⟨fields, shared, _⟩
    obtain ⟨kept, shared', ⟨saved, quiet⟩, _, own⟩ := shared.clear file.name
    exact ⟨_, Outcome.eq_of_parts saved quiet, kept, shared', own⟩

/-! ## Fresh paths -/

/-- A path is free for a storage file: it ends with a name, the directories above it are there or can
be made, with them there is nothing at it, and no directory is beside it. -/
structure FileTree.Fresh (tree : FileTree) (path : Path) : Prop where
  named : path.name? ≠ none
  makes : (tree.makeDirectories path.parent).1 = .ok ()
  target : (tree.makeDirectories path.parent).2.TakesFile path
  unused : (tree.makeDirectories path.parent).2.hasPath path = .ok false
  beside : ∀ beside ∈ path.sibling? ".tmp", (tree.makeDirectories path.parent).2.TakesFile beside

instance (tree : FileTree) (path : Path) : Decidable (tree.Fresh path) :=
  decidable_of_iff (path.name? ≠ none ∧ (tree.makeDirectories path.parent).1 = .ok () ∧
      (tree.makeDirectories path.parent).2.TakesFile path ∧
      (tree.makeDirectories path.parent).2.hasPath path = .ok false ∧
      ∀ beside ∈ path.sibling? ".tmp", (tree.makeDirectories path.parent).2.TakesFile beside)
    ⟨fun ⟨named, makes, target, unused, beside⟩ => ⟨named, makes, target, unused, beside⟩,
      fun ⟨named, makes, target, unused, beside⟩ => ⟨named, makes, target, unused, beside⟩⟩

/-- Where making directories uncovers nothing there was nothing before. -/
theorem StorageFile.records_of_grows_absent {file : StorageFile} {tree made : FileTree} (grows : tree.Grows made)
    {names : List String} (located : made.locate file.path = .ok ⟨names, none⟩) (report : Path → Option Cause → Notice) :
    file.records report tree = (.ok [], []) := by
  obtain ⟨fits, trail, follows, same⟩ := FileTree.locate_ok_iff.mp located
  have parts := FileTree.partsFromTop_congr grows.working file.path
  rw [parts] at follows
  have keeps := FileTree.follow_keeps grows.directories (.nil _) (.nil _) rfl (tree.partsFromTop file.path)
  cases before : FileTree.follow tree.top [] (tree.partsFromTop file.path) with
  | error fault =>
    have there : tree.locate file.path = .error fault := FileTree.locate_of_follow fits before
    refine StorageFile.records_of_unfound there ?_ report
    rintro rfl
    have stuck := keeps.2 before
    rw [follows] at stuck
    cases stuck
  | ok found =>
    obtain ⟨found', again, names_eq⟩ := keeps.1 found before
    rw [follows] at again
    cases again
    simp only [Spot.mk.injEq] at same
    have gone : tree.top.at? found.names = none := by
      rw [← names_eq, grows.at?_of_plain (by rw [← same.2]; exact nofun), ← same.2]
    have there : tree.locate file.path = .ok ⟨found.names, none⟩ :=
      FileTree.locate_ok_iff.mpr ⟨fits, found, before, by rw [gone]⟩
    exact StorageFile.records_of_absent there report

/-- A free path takes a storage file, which holds nothing yet. -/
theorem FileTree.Fresh.shared {tree : FileTree} {path : Path} (fresh : tree.Fresh path) (distinct : tree.top.Distinct) :
    Shared path tree [] := by
  obtain ⟨name, named⟩ := Option.ne_none_iff_exists'.mp fresh.named
  obtain ⟨above, entries, site⟩ := Path.Site.of_takesFile named fresh.target
    (fresh.beside _ (Path.sibling?_of_name? named))
  have grows := FileTree.grows_makeDirectories tree path.parent
  have unused : Entries.get? entries name = none := by
    have found := fresh.unused
    rw [FileTree.hasPath, FileTree.find, site.target] at found
    cases there : Entries.get? entries name with
    | none => rfl
    | some node => simp [there] at found
  have target := site.target
  rw [unused] at target
  have before : ∀ file : StorageFile, file.path = path → ∀ report, file.records report tree = (.ok [], []) := by
    rintro file rfl report
    exact StorageFile.records_of_grows_absent grows target report
  refine ⟨⟨_, name, above, entries, ⟨Prod.ext fresh.makes rfl, site, ?_⟩, ?_⟩, before⟩
  · rintro file rfl report
    rw [before file rfl, StorageFile.records_of_absent target]
  · exact grows.distinct distinct _ _ site.opens.there

/-! ## Empty storages -/

/-- The storages that nothing has been put into and that take writes: a memory, a name of a settings file
without an error, a storage file on a free path. -/
inductive StartsEmpty : {σ : Type} → Storage σ → σ → Prop where
  | memory (memory : Memory) (writes : memory.refusesWrites = false) (empty : memory.record = none) :
    StartsEmpty Memory.storage memory
  | settings (name : String) (settings : Settings) (status : settings.status = .noError)
    (distinct : (Entries.names settings.values).Nodup) (unset : settings.values.get? name = none) :
    StartsEmpty (Settings.storage name) settings
  | file (file : StorageFile) (tree : FileTree) (fresh : tree.Fresh file.path) (distinct : tree.top.Distinct) :
    StartsEmpty file.storage tree

theorem StartsEmpty.slot {storage : Storage σ} {device : σ} (empty : StartsEmpty storage device) :
    ∃ slot : Slot storage, slot.holds device none := by
  cases empty with
  | memory memory writes empty => exact ⟨Memory.slot, writes, empty, nofun⟩
  | settings name settings status distinct unset =>
    refine ⟨Settings.slot name, status, distinct, ?_⟩
    simp only [Settings.load, unset]
  | file file tree fresh distinct => exact ⟨file.slot, [], fresh.shared distinct, rfl⟩

end HomeTiles
