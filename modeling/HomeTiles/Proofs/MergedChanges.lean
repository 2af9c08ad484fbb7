import HomeTiles.Proofs.EventChains
import HomeTiles.Proofs.SavedAgain

/-!
# Merged changes: two changes that come to one

A change that is set puts its entries over the document, so one change after another
comes to both merged, in the same order (`Entries.merge_merge`), and each name has what
the last of many changes gave it (`document_setAll`). The record of the second change
takes the place of the first one's in the storage, byte by byte (`Memory.save_save`,
`Settings.save_save`, `StorageFile.save_save`), but for a save that fails: it may make
directories, and a path that leads up may then lead through them to other records. All
this together is `changes_merge`.
-/

namespace HomeTiles

variable {σ : Type}

/-! ## A save after a save -/

section Saves

variable {first second : Value} (easier : first.Writable → second.Writable)
include easier

/-- The memory keeps the record that was saved last. -/
theorem Memory.save_save (proper : second.Proper) (memory : Memory) :
    (Memory.save second (Memory.save first memory).device).device.record = (Memory.save second memory).device.record := by
  by_cases writable : second.Writable
  · have kept := Memory.keep_of_writable (second.writeFault?_eq_none_iff.mpr writable) proper
    cases refuses : memory.refusesWrites with
    | true => simp [Memory.save, refuses]
    | false => cases keeps : Memory.keep first <;> simp [Memory.save, refuses, kept, keeps]
  · obtain ⟨fault, found⟩ := Value.exists_writeFault_of_not_writable fun fine => writable (easier fine)
    cases refuses : memory.refusesWrites with
    | true => simp [Memory.save, refuses]
    | false => simp [Memory.save, refuses, Memory.keep_of_fault found]

/-- The settings have the value that was saved last. -/
theorem Settings.save_save (name : String) (settings : Settings) :
    (Settings.save name second (Settings.save name first settings).device).device.values =
      (Settings.save name second settings).device.values := by
  by_cases writable : first.Writable
  · obtain ⟨text, written⟩ : ∃ text, first.write .compact = .ok text := Value.exists_write_iff.mpr writable
    obtain ⟨text', written'⟩ : ∃ text, second.write .compact = .ok text := Value.exists_write_iff.mpr (easier writable)
    simp [Settings.save, written, written', Settings.values_sync, Entries.put_put]
  · exact congrArg (fun between => (Settings.save name second between).device.values)
      (Settings.device_of_textless writable name settings)

/-- A storage file has the record that was saved last, among the records that were there if the first save worked or found
the same ones as the second. -/
theorem StorageFile.save_save {file : StorageFile} {tree : FileTree} (room : tree.HasRoom file.path)
    (distinct : tree.top.Distinct) (object : second.isObject = true) (proper₁ : first.Proper) (proper₂ : second.Proper) :
    let twice := (file.save second (file.save first tree).device).device
    let once := (file.save second tree).device
    file.load twice = file.load once ∧
      (tree.hasDirectory file.path.parent = true ∨ ".." ∉ tree.partsFromTop file.path ∨
          (file.save first tree).result = .ok () ∨ (file.save second tree).result ≠ .ok () →
        twice.readFile file.path = once.readFile file.path) := by
  intro twice once
  by_cases writable₁ : first.Writable
  · have writable₂ := easier writable₁
    obtain ⟨saved₁, again⟩ := room.save writable₁
    have saved := (room.save writable₂).1
    have saved₂ := ((again distinct).1.save writable₂).1
    refine ⟨?_, fun _ => ?_⟩
    · rw [StorageFile.load_of_save object proper₂ saved, StorageFile.load_of_save object proper₂ saved₂]
    · -- the second save puts its record where the first one put another
      obtain ⟨fields, notices, read⟩ := room.records .replacingFile
      have between := StorageFile.records_of_save read saved₁ proper₁ .replacingFile
      obtain ⟨text, _, written, located⟩ := StorageFile.located_of_save read saved
      obtain ⟨text', _, written', located'⟩ := StorageFile.located_of_save between saved₂
      rw [Entries.put_put] at written'
      cases written.symm.trans written'
      rw [FileTree.readFile_of_file located, FileTree.readFile_of_file located']
  · obtain ⟨failed, made⟩ := room.save_refused writable₁
    by_cases writable₂ : second.Writable
    · have saved := (room.save writable₂).1
      have saved₂ := (room.made.save writable₂).1
      rw [← made] at saved₂
      refine ⟨?_, fun why => ?_⟩
      · rw [StorageFile.load_of_save object proper₂ saved, StorageFile.load_of_save object proper₂ saved₂]
      · have steady : tree.hasDirectory file.path.parent = true ∨ ".." ∉ tree.partsFromTop file.path := by
          rcases why with there | down | worked | failed'
          · exact .inl there
          · exact .inr down
          · exact absurd worked failed
          · exact absurd saved failed'
        obtain ⟨fields, notices, read⟩ := room.records .replacingFile
        have admits : tree.Admits file.path := ⟨room.named, room.makes, room.target, room.beside, steady⟩
        obtain ⟨_, _, _, _, place⟩ := admits.place
        have same := place.steady file rfl .replacingFile
        have makes := congrArg Prod.snd place.makes
        dsimp only at makes
        rw [← makes, ← made, read] at same
        exact StorageFile.readFile_save_alike read same saved saved₂
    · have same : twice = once := by
        show (file.save second (file.save first tree).device).device = (file.save second tree).device
        rw [made, (room.made.save_refused writable₂).2, (room.save_refused writable₂).2,
          FileTree.makeDirectories_again (Prod.ext room.makes rfl)]
      exact ⟨by rw [same], fun _ => by rw [same]⟩

end Saves

/-! ## What a storage keeps its record in -/

/-- What the storages of the application keep a record in. -/
inductive Medium : Type → Type where
  | memory : Medium Memory
  | settings (name : String) : Medium Settings
  | inFile (file : StorageFile) : Medium FileTree

namespace Medium

def storage : {σ : Type} → Medium σ → Storage σ
  | _, .memory => Memory.storage
  | _, .settings name => Settings.storage name
  | _, .inFile file => file.storage

/-- Nothing is in the way of a save: where it goes to a file there is room for it. -/
def Unobstructed : {σ : Type} → Medium σ → σ → Prop
  | _, .memory, _ => True
  | _, .settings _, _ => True
  | _, .inFile file, tree => tree.HasRoom file.path ∧ tree.top.Distinct

/-- No save leads to other records: the directory of a file is there, or its path never leads up. -/
def Anchored : {σ : Type} → Medium σ → σ → Prop
  | _, .memory, _ => True
  | _, .settings _, _ => True
  | _, .inFile file, tree => tree.hasDirectory file.path.parent = true ∨ ".." ∉ tree.partsFromTop file.path

/-- Two devices hold the same: the record in memory, the texts of all settings, or the bytes of the file. -/
def HoldsSame : {σ : Type} → Medium σ → σ → σ → Prop
  | _, .memory, one, other => one.record = other.record
  | _, .settings _, one, other => one.values = other.values
  | _, .inFile file, one, other => one.readFile file.path = other.readFile file.path

/-- One save after another leaves what the second one alone would leave. -/
theorem save_save {medium : Medium σ} {device : σ} (free : medium.Unobstructed device) {first second : Value}
    (easier : first.Writable → second.Writable) (object : second.isObject = true) (proper₁ : first.Proper)
    (proper₂ : second.Proper) :
    let twice := (medium.storage.save second (medium.storage.save first device).device).device
    let once := (medium.storage.save second device).device
    medium.storage.load twice = medium.storage.load once ∧
      (medium.Anchored device ∨ (medium.storage.save first device).result = .ok () ∨
          (medium.storage.save second device).result ≠ .ok () → medium.HoldsSame twice once) := by
  cases medium with
  | memory =>
    have same := Memory.save_save easier proper₂ device
    exact ⟨congrArg (fun record => (Except.ok record, [])) same, fun _ => same⟩
  | settings name =>
    intro twice once
    have same : twice.values = once.values := Settings.save_save easier name device
    refine ⟨?_, fun _ => same⟩
    show (Except.ok (Settings.load name twice).1, (Settings.load name twice).2) =
      (Except.ok (Settings.load name once).1, (Settings.load name once).2)
    rw [Settings.load, Settings.load, same]
  | inFile file =>
    obtain ⟨loads, bytes⟩ := StorageFile.save_save easier free.1 free.2 object proper₁ proper₂
    exact ⟨loads, fun why => bytes (or_assoc.mp why)⟩

end Medium

/-! ## Changes -/

namespace Run

/-- The record of the store at work with another document. -/
def recordWith (run : Run σ) (document : Fields) : Value := (run.withDocument document).store.record

/-- What a change comes to that puts entries over the document: the new document is written and announced. -/
structure Puts (run : Run σ) (changes : Fields) (outcome : Except Fault Unit × Run σ) : Prop where
  document : outcome.2.store.document = run.store.document.merge changes
  result : outcome.1 = (run.store.storage.save (run.recordWith (run.store.document.merge changes)) run.device).result
  device : outcome.2.device =
    (run.store.storage.save (run.recordWith (run.store.document.merge changes)) run.device).device
  events : outcome.2.events =
    run.events ++ told run.listeners run.store.subscribed (run.store.document.merge changes) run.store.document
  storage : outcome.2.store.storage = run.store.storage
  version : outcome.2.store.version = run.store.version
  calm : outcome.2.Calm

theorem puts_set {run : Run σ} (calm : run.Calm) (changes : Fields) : run.Puts changes (run.set (.object changes)) := by
  have committed : run.set (.object changes) = commit announce (run.store.document.merge changes) run :=
    setBy_of_asked rfl
  obtain ⟨result, undisturbed⟩ := undisturbed_commit (run.store.document.merge changes) calm
  have ready := ready_commit_silent (run.store.document.merge changes) run
  obtain ⟨device, persistent, notices, same⟩ := commit_silent_eq (run.store.document.merge changes) run
  rw [committed]
  constructor
  · rw [undisturbed.document, document_commit_silent]
  · exact result.trans (result_commit_silent _ run)
  · exact undisturbed.device.trans (device_commit_silent _ run)
  · rw [undisturbed.events, ready.events]
    rfl
  · rw [undisturbed.store, same]
  · rw [undisturbed.store, same]
  · exact undisturbed.calm (ready.calm calm)

/-- After another change the first one's record was saved and then that of both. -/
theorem Puts.device_again {run : Run σ} {p q : Fields} {one two : Except Fault Unit × Run σ} (first : run.Puts p one)
    (second : one.2.Puts q two) :
    two.2.device = (run.store.storage.save (run.recordWith ((run.store.document.merge p).merge q))
      (run.store.storage.save (run.recordWith (run.store.document.merge p)) run.device).device).device := by
  have record : one.2.recordWith ((run.store.document.merge p).merge q) =
      run.recordWith ((run.store.document.merge p).merge q) := by
    rw [recordWith, recordWith, PreferenceStore.record, PreferenceStore.record]
    simp only [withDocument, first.version]
  rw [second.device, first.document, first.storage, record, first.device]

theorem proper_recordWith {run : Run σ} (version : run.store.version.Proper) {document : Fields}
    (proper : (Value.object document).Proper) : (run.recordWith document).Proper :=
  ⟨(by decide : ["state", "version"].Nodup), proper, version, trivial⟩

/-- Changes that have a text take no text from a record. -/
theorem writable_recordWith {run : Run σ} {document changes : Fields} (writable : (run.recordWith document).Writable)
    (ok : (Value.object changes).Writable) : (run.recordWith (document.merge changes)).Writable := by
  rw [recordWith, PreferenceStore.record, Value.writable_object_iff, List.forall_mem_cons] at writable ⊢
  refine ⟨Value.writable_object_iff.mpr fun entry inside => ?_, writable.2⟩
  rcases Entries.mem_merge inside with before | new
  · exact Value.writable_object_iff.mp writable.1 entry before
  · exact Value.writable_object_iff.mp ok entry new

/-- Makes changes one after the other, whether or not they work. -/
def setAll (asks : List (Fields → Except Fault Value)) (run : Run σ) : Run σ :=
  asks.foldl (fun run ask => (run.setBy ask).2) run

/-- A change that asks for entries whatever the document is. -/
def putting (changes : Fields) (_ : Fields) : Except Fault Value := .ok (.object changes)

theorem document_setAll {run : Run σ} (calm : run.Calm) (changes : List Fields) :
    (setAll (changes.map putting) run).store.document = changes.foldl Entries.merge run.store.document := by
  induction changes generalizing run with
  | nil => rfl
  | cons first rest ih =>
    have puts := puts_set calm first
    show (setAll (rest.map putting) (run.set (.object first)).2).store.document = _
    rw [ih puts.calm, puts.document, List.foldl_cons]

/-- A change is told nothing but the document that the changes before it left. -/
theorem setAll_told (before after : List (Fields → Except Fault Value)) (ask : Fields → Except Fault Value) (run : Run σ) :
    setAll (before ++ ask :: after) run =
      setAll (before ++ (fun _ => ask (setAll before run).store.document) :: after) run := by
  simp only [setAll, List.foldl_append, List.foldl_cons]
  rfl

end Run

open Run (setAll putting)

/-- Changes over a document among calm listeners, where nothing is in the way of a save. Two changes one after the other
leave the document, in its order, and the record that both merged would leave, and all else that is stored is the same
unless the first save failed and led to other records. A change that asks for nothing writes the document as it is and
announces it. A function is told the document and has no other way to the store: what it does to the document it is
given is of no account, only what it asks for. After changes one after the other each name has what the last one gave
it, and each change is told the document that the ones before it left. -/
theorem changes_merge {medium : Medium σ} {run : Run σ} (kept : run.store.storage = medium.storage)
    (free : medium.Unobstructed run.device) (calm : run.Calm) (document : (Value.object run.store.document).Proper)
    (version : run.store.version.Proper) :
    (∀ p q : Fields, (Value.object p).Proper → (Value.object q).Proper → (Value.object q).Writable →
      let twice := ((run.set (.object p)).2.set (.object q)).2
      let once := (run.set (.object (p.merge q))).2
      twice.store.document = once.store.document ∧
      medium.storage.load twice.device = medium.storage.load once.device ∧
      (medium.Anchored run.device ∨ (run.set (.object p)).1 = .ok () ∨ (run.set (.object (p.merge q))).1 ≠ .ok () →
        medium.HoldsSame twice.device once.device)) ∧
    (let written := medium.storage.save run.store.record run.device
      let after := (run.set (.object [])).2
      after.store.document = run.store.document ∧ after.device = written.device ∧
      (run.set (.object [])).1 = written.result ∧
      after.events = run.events ++ told run.listeners run.store.subscribed run.store.document run.store.document) ∧
    (∀ (f : Fields → Except Fault Value × Fields) (asked : Value), (f run.store.document).1 = .ok asked →
      run.setBy (fun given => (f given).1) = run.set asked) ∧
    (∀ changes : List Fields, (∀ one ∈ changes, (Value.object one).Proper) → ∀ key,
      (setAll (changes.map putting) run).store.document.get? key =
        (changes.reverse.findSome? (·.get? key)).or (run.store.document.get? key)) ∧
    ∀ before ask after, setAll (before ++ ask :: after) run =
      setAll (before ++ (fun _ => ask (setAll before run).store.document) :: after) run := by
  have distinct := (Value.proper_object_iff.mp document).1
  refine ⟨fun p q proper_p proper_q writable => ?_, ?_, fun f asked given => ?_, fun changes proper key => ?_,
    fun before ask after => Run.setAll_told before after ask run⟩
  · intro twice once
    have distinct_p := (Value.proper_object_iff.mp proper_p).1
    have distinct_q := (Value.proper_object_iff.mp proper_q).1
    have puts := Run.puts_set calm p
    have puts₂ := Run.puts_set puts.calm q
    have puts' := Run.puts_set calm (p.merge q)
    have merged := Entries.merge_merge distinct distinct_p distinct_q
    have twice_device := puts.device_again puts₂
    rw [kept] at twice_device
    have once_device := puts'.device
    have once_result := puts'.result
    rw [← merged, kept] at once_device once_result
    have result := puts.result
    rw [kept] at result
    have easier : (run.recordWith (run.store.document.merge p)).Writable →
        (run.recordWith ((run.store.document.merge p).merge q)).Writable :=
      fun first => Run.writable_recordWith first writable
    obtain ⟨loads, holds⟩ := Medium.save_save free easier rfl (Run.proper_recordWith version (document.merge proper_p))
      (Run.proper_recordWith version ((document.merge proper_p).merge proper_q))
    refine ⟨?_, ?_, ?_⟩
    · rw [puts₂.document, puts'.document, puts.document, merged]
    · rw [twice_device, once_device]
      exact loads
    · rw [result, once_result, twice_device, once_device]
      exact holds
  · have puts := Run.puts_set calm []
    rw [← kept]
    exact ⟨puts.document, puts.device, puts.result, puts.events⟩
  · simp only [Run.set, Run.setBy, Run.changeBy, given]
  · rw [Run.document_setAll calm,
      Entries.get?_foldl_merge _ fun one inside => (Value.proper_object_iff.mp (proper one inside)).1]

/-- Two changes of one name, in a storage file whose directory is yet to be made. -/
theorem changes_merge_in_new_directory :
    let file : StorageFile := ⟨Path.ofText "home/prefs.json", "n"⟩
    let run : Run FileTree := ⟨FileTree.fresh, { storage := file.storage, subscribed := [0] }, 0, [],
      [{ name := "a", behavior := .hear }], [], []⟩
    let p : Fields := [("theme", .text "dark"), ("size", .int 1)]
    let q : Fields := [("theme", .text "light")]
    FileTree.fresh.HasRoom file.path ∧ FileTree.fresh.top.Distinct ∧ run.Calm ∧
      (Value.object run.store.document).Proper ∧ run.store.version.Proper ∧ (Value.object p).Proper ∧
      (Value.object q).Proper ∧ (Value.object q).Writable ∧
      ((run.set (.object p)).2.set (.object q)).2.store.document = (run.set (.object (p.merge q))).2.store.document ∧
      (run.set (.object (p.merge q))).2.store.document.get? "theme" = some (.text "light") ∧
      ((run.set (.object p)).2.set (.object q)).2.device.readFile file.path =
        (run.set (.object (p.merge q))).2.device.readFile file.path := by
  intro file run p q
  have room : FileTree.fresh.HasRoom file.path := by decide +kernel
  have distinct : FileTree.fresh.top.Distinct :=
    Node.distinct_empty.put "tmp" (Node.distinct_empty.put "work" Node.distinct_empty)
  have calm : run.Calm := by decide
  have document : (Value.object run.store.document).Proper := Preferences.proper_defaults
  have version : run.store.version.Proper := trivial
  have proper_p : (Value.object p).Proper := ⟨by decide, trivial, trivial, trivial⟩
  have proper_q : (Value.object q).Proper := ⟨by decide, trivial, trivial⟩
  have writable : (Value.object q).Writable := by decide +kernel
  have kept : run.store.storage = (Medium.inFile file).storage := rfl
  obtain ⟨two, _⟩ := changes_merge kept ⟨room, distinct⟩ calm document version
  obtain ⟨documents, _, bytes⟩ := two p q proper_p proper_q writable
  have down : ".." ∉ FileTree.fresh.partsFromTop file.path := by decide +kernel
  have last : (run.set (.object (p.merge q))).2.store.document.get? "theme" = some (.text "light") := by decide +kernel
  exact ⟨room, distinct, calm, document, version, proper_p, proper_q, writable, documents, last,
    bytes (.inl (.inr down))⟩

/-- The document holds what no text stands for, and the second of two changes takes it away. The first save fails and
makes a directory that the path leads up from, to a file that could not be reached before: its other record is kept by
the second save. The two changes merged put the record into a file of its own in that place. -/
theorem merged_change_drops_uncovered_record :
    let tree : FileTree := ⟨.directory [("f.json", .file "\x7b\"m\": \x7b\"k\": 1\x7d\x7d".toUTF8)], []⟩
    let file : StorageFile := ⟨Path.ofText "x/../f.json", "n"⟩
    let other : StorageFile := { file with name := "m" }
    let run : Run FileTree :=
      ⟨tree, { storage := file.storage, document := Preferences.defaults.put "bad" (.handle true) }, 0, [], [], [], []⟩
    let p : Fields := [("a", .int 1)]
    let q : Fields := [("bad", .int 1)]
    let twice := ((run.set (.object p)).2.set (.object q)).2
    let once := (run.set (.object (p.merge q))).2
    tree.HasRoom file.path ∧ run.Calm ∧ (Value.object p).Writable ∧ (Value.object q).Writable ∧
      (other.load twice.device).1 = .ok (some (.object [("k", .int 1)])) ∧ (other.load once.device).1 = .ok none ∧
      twice.device.readFile file.path ≠ once.device.readFile file.path := by
  decide +kernel

end HomeTiles
