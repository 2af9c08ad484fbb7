import HomeTiles.Proofs.StorageFiles

/-!
# Records side by side in one storage file

Storages with different names share a file, and every write puts all records
anew. `Call.run` lets them save, clear and load in any order. What the calls
leave under a name is their `lastWord` on it: `records_apart` says that every
name keeps to its own calls and that names which no call uses keep what they
had. The invariant is `Shared`: the file stands in its place and reads without
trouble.
-/

namespace HomeTiles

/-! ## Calls -/

/-- What a storage is asked for. -/
inductive Call.Request where
  | save (record : Value)
  | clear
  | load

/-- A request to the storage under a name. -/
structure Call where
  name : String
  request : Call.Request

/-- What a storage gives back: how a change went, or the record that was found. -/
inductive Call.Answer where
  | done (result : Except Fault Unit) (notices : List Notice)
  | found (record : Except Fault (Option Value)) (notices : List Notice)

namespace Call

/-- The answer to a call and the tree afterwards. -/
def answer (path : Path) (call : Call) (tree : FileTree) : Answer × FileTree :=
  let file : StorageFile := ⟨path, call.name⟩
  match call.request with
  | .save record =>
    let outcome := file.save record tree
    (.done outcome.result outcome.notices, outcome.device)
  | .clear =>
    let outcome := file.clear tree
    (.done outcome.result outcome.notices, outcome.device)
  | .load =>
    let (record, notices) := file.load tree
    (.found record notices, tree)

/-- Calls one after another with their answers, and the tree at the end. -/
def run (path : Path) : List Call → FileTree → List (Call × Answer) × FileTree
  | [], tree => ([], tree)
  | call :: rest, tree =>
    let (answer, after) := call.answer path tree
    let (log, final) := run path rest after
    ((call, answer) :: log, final)

/-- A record to be saved is an object without a name twice. -/
def Saves (call : Call) : Prop :=
  ∀ record, call.request = .save record → record.isObject = true ∧ record.Proper

/-- What a call leaves under its name: the record of a save that worked, none after clearing. -/
def word : Call → Answer → Option (Option Value)
  | ⟨_, .save record⟩, .done (.ok ()) _ => some (some record)
  | ⟨_, .clear⟩, _ => some none
  | _, _ => none

/-- The last that calls leave under a name. -/
def lastWord (name : String) : List (Call × Answer) → Option (Option Value)
  | [] => none
  | (call, answer) :: later =>
    (lastWord name later).or (if call.name = name then call.word answer else none)

/-- A call is answered without trouble: a save works if the record has a text and does not reach the
storage otherwise, clearing works. -/
def Smooth : Call → Answer → Prop
  | ⟨_, .save record⟩, .done result notices =>
    notices = [] ∧ (result = .ok () ↔ record.Writable) ∧ ∀ fault, result = .error fault → fault.isUnavailable = true
  | ⟨_, .clear⟩, .done result notices => result = .ok () ∧ notices = []
  | ⟨_, .load⟩, .found _ notices => notices = []
  | _, _ => False

end Call

/-- What a file holds: no records if there is no file, those of the object in it otherwise. -/
def FileTree.Holds (tree : FileTree) (path : Path) (fields : Fields) : Prop :=
  (tree.hasPath path = .ok false ∧ fields = []) ∨
    ∃ content, tree.readFile path = .ok content ∧ StorageFile.parse content = .ok fields

/-! ## Reading what a file holds -/

namespace StorageFile

variable {file : StorageFile} {tree : FileTree}

/-- A file that was read is the one that records are read from. -/
theorem records_of_readFile {content : ByteArray} (read : tree.readFile file.path = .ok content)
    (report : Path → Option Cause → Notice) :
    file.records report tree = match parse content with
      | .error cause => (.ok [], [report file.path cause])
      | .ok fields => (.ok fields, []) := by
  unfold FileTree.readFile at read
  split at read
  · next found =>
    cases read
    unfold FileTree.find at found
    split at found
    · cases found
    · next located =>
      cases found
      exact records_of_file located report
    · cases found
  · cases read
  · cases read

theorem records_of_holds {fields : Fields} (holds : tree.Holds file.path fields) (report : Path → Option Cause → Notice) :
    file.records report tree = (.ok fields, []) := by
  rcases holds with ⟨missing, rfl⟩ | ⟨content, read, parsed⟩
  · simp only [records, missing]
  · rw [records_of_readFile read, parsed]

theorem holds_of_records {fields : Fields} {report : Path → Option Cause → Notice}
    (read : file.records report tree = (.ok fields, [])) : tree.Holds file.path fields := by
  unfold records at read
  split at read
  · cases read
  · next missing =>
    cases read
    exact .inl ⟨missing, rfl⟩
  · split at read
    · cases read
    · next content found =>
      split at read
      · cases read
      · next parsed =>
        cases read
        exact .inr ⟨content, found, parsed⟩

end StorageFile

/-! ## What every call keeps -/

/-- A storage file that all calls can work with: it stands in its place and holds an object. -/
structure Shared (path : Path) (tree : FileTree) (fields : Fields) : Prop where
  place : ∃ made name above entries, path.Place tree made name above entries ∧ (Entries.names entries).Nodup
  read : ∀ file : StorageFile, file.path = path → ∀ report, file.records report tree = (.ok fields, [])

namespace Shared

variable {path : Path} {tree : FileTree} {fields : Fields}

theorem textual (shared : Shared path tree fields) : (Value.object fields).Textual :=
  StorageFile.textual_of_records (shared.read ⟨path, ""⟩ rfl .ignoringFile)

theorem load (shared : Shared path tree fields) (name : String) :
    StorageFile.load ⟨path, name⟩ tree = (.ok ((fields.get? name).filter Value.isObject), []) := by
  simp only [StorageFile.load, shared.read ⟨path, name⟩ rfl, Except.map]

theorem of_write {file : StorageFile} (same : file.path = path) {after : FileTree}
    (read : ∀ report, file.records report after = (.ok fields, [])) {name : String} {above : List String}
    {entries : List (String × Node)} (place : file.path.Place after after name above entries)
    (distinct : (Entries.names entries).Nodup) : Shared path after fields := by
  subst same
  refine ⟨⟨after, name, above, entries, place, distinct⟩, fun other same report => ?_⟩
  rw [← read report]
  simp only [StorageFile.records, same]

/-- What a call comes to: the file stays shared, nothing but what stands under the call's name changes,
and there the call leaves its word. -/
def Answered (path : Path) (tree : FileTree) (fields : Fields) (call : Call) : Prop :=
  ∃ kept, Shared path (call.answer path tree).2 kept ∧ call.Smooth (call.answer path tree).1 ∧
    (∀ key, key ≠ call.name → kept.get? key = fields.get? key) ∧
    (kept.get? call.name).filter Value.isObject =
      ((call.word (call.answer path tree).1).map (·.map Value.settled)).getD
        ((fields.get? call.name).filter Value.isObject)

theorem save (shared : Shared path tree fields) (name : String) {record : Value} (object : record.isObject = true)
    (proper : record.Proper) : Answered path tree fields ⟨name, .save record⟩ := by
  obtain ⟨made, last, above, entries, place, distinct⟩ := shared.place
  let file : StorageFile := ⟨path, name⟩
  have read := shared.read file rfl
  have writable := record.writeFault?_eq_none_iff
  unfold Answered
  by_cases ok : record.writeFault? = none
  · obtain ⟨after, saved, found, again⟩ := place.save (read _) ok proper
    obtain ⟨changed, place', distinct'⟩ := again distinct
    have answered : Call.answer path ⟨name, .save record⟩ tree = (.done (.ok ()) [], after) := by
      simp only [Call.answer, file, saved]
    have kept : record.settled.isObject = true := by rw [Value.isObject_settled, object]
    rw [answered]
    refine ⟨fields.put name record.settled, of_write rfl found place' distinct',
      ⟨rfl, ⟨fun _ => writable.mp ok, fun _ => rfl⟩, nofun⟩, fun key other => ?_, ?_⟩
    · rw [Entries.get?_put, if_neg (Ne.symm other)]
    · rw [Entries.get?_put, if_pos rfl, Option.filter_some, if_pos kept]
      rfl
  · obtain ⟨failure, refused⟩ := place.save_refused (read _) ok
    have answered : Call.answer path ⟨name, .save record⟩ tree = (.done (.error (.unavailable failure)) [], made) := by
      simp only [Call.answer, file, refused]
    rw [answered]
    refine ⟨fields, ⟨⟨made, last, above, entries, place.settled place.site, distinct⟩, fun other same report => ?_⟩,
      ⟨rfl, ⟨nofun, fun fine => absurd (writable.mpr fine) ok⟩, ?_⟩, fun _ _ => rfl, rfl⟩
    · rw [place.steady other same, shared.read other same]
    · rintro fault ⟨⟩
      rfl

theorem clear (shared : Shared path tree fields) (name : String) :
    Answered path tree fields ⟨name, .clear⟩ := by
  obtain ⟨made, last, above, entries, place, distinct⟩ := shared.place
  let file : StorageFile := ⟨path, name⟩
  have read := shared.read file rfl
  unfold Answered
  by_cases absent : (fields.get? name).bind Value.present? = none
  · have cleared := StorageFile.clear_absent (read _) absent
    have answered : Call.answer path ⟨name, .clear⟩ tree = (.done (.ok ()) [], tree) := by
      simp only [Call.answer, file, cleared]
    rw [answered]
    refine ⟨fields, shared, ⟨rfl, rfl⟩, fun _ _ => rfl, ?_⟩
    show (fields.get? name).filter Value.isObject = none
    cases there : fields.get? name with
    | none => rfl
    | some v =>
      rw [there] at absent
      cases v <;> first | rfl | cases absent
  · obtain ⟨after, cleared, found, again⟩ := place.clear (read _) absent
    obtain ⟨changed, place', distinct'⟩ := again distinct
    have answered : Call.answer path ⟨name, .clear⟩ tree = (.done (.ok ()) [], after) := by
      simp only [Call.answer, file, cleared]
    have names := (Value.textual_object_iff.mp shared.textual).1
    rw [answered]
    refine ⟨fields.erase name, of_write rfl found place' distinct', ⟨rfl, rfl⟩, fun key other => ?_, ?_⟩
    · rw [Entries.get?_erase_of_ne fields (Ne.symm other)]
    · rw [Entries.get?_erase names, if_pos rfl]
      rfl

private theorem answer (shared : Shared path tree fields) {call : Call} (saves : call.Saves) :
    Answered path tree fields call := by
  obtain ⟨name, request⟩ := call
  cases request with
  | save record =>
    obtain ⟨object, proper⟩ := saves record rfl
    exact shared.save name object proper
  | clear => exact shared.clear name
  | load =>
    have answered : Call.answer path ⟨name, .load⟩ tree =
        (.found (.ok ((fields.get? name).filter Value.isObject)) [], tree) := by
      simp only [Call.answer, shared.load]
    unfold Answered
    rw [answered]
    exact ⟨fields, shared, rfl, fun _ _ => rfl, rfl⟩

/-- Any calls leave their last word under every name and keep what is under the names they do not use. -/
theorem run (shared : Shared path tree fields) {calls : List Call} (saves : ∀ call ∈ calls, call.Saves) :
    ∃ kept, Shared path (Call.run path calls tree).2 kept ∧
      (∀ entry ∈ (Call.run path calls tree).1, entry.1.Smooth entry.2) ∧
      (∀ key, (∀ call ∈ calls, call.name ≠ key) → kept.get? key = fields.get? key) ∧
      ∀ name, (kept.get? name).filter Value.isObject =
        ((Call.lastWord name (Call.run path calls tree).1).map (·.map Value.settled)).getD
          ((fields.get? name).filter Value.isObject) := by
  induction calls generalizing tree fields with
  | nil => exact ⟨fields, shared, nofun, fun _ _ => rfl, fun _ => rfl⟩
  | cons call rest ih =>
    obtain ⟨between, shared', smooth, apart, own⟩ := shared.answer (saves call List.mem_cons_self)
    obtain ⟨kept, final, all, others, words⟩ := ih shared' fun c later => saves c (List.mem_cons_of_mem _ later)
    refine ⟨kept, final, List.forall_mem_cons.mpr ⟨smooth, all⟩, fun key unused => ?_, fun name => ?_⟩
    · rw [others key fun c later => unused c (List.mem_cons_of_mem _ later),
        apart key (Ne.symm (unused call List.mem_cons_self))]
    · rw [words name, Call.run, Call.lastWord]
      cases Call.lastWord name (Call.run path rest (call.answer path tree).2).1 with
      | some word => rfl
      | none =>
        rw [Option.none_or]
        by_cases mine : call.name = name
        · subst mine
          rw [if_pos rfl]
          exact own
        · rw [if_neg mine, apart name (Ne.symm mine)]

/-- A tree with room for a storage file whose directories have distinct names, and an object or nothing in the file. -/
theorem of_holds (admits : tree.Admits path) (distinct : tree.top.Distinct) (holds : tree.Holds path fields) :
    Shared path tree fields := by
  obtain ⟨made, name, above, entries, place⟩ := admits.place
  have grows := FileTree.grows_makeDirectories tree path.parent
  rw [place.makes] at grows
  refine ⟨⟨made, name, above, entries, place, grows.distinct distinct _ _ place.site.opens.there⟩, ?_⟩
  rintro file rfl report
  exact StorageFile.records_of_holds holds report

end Shared

/-! ## Any order of calls -/

/-- In whatever order storages of one file save, clear and load, each name gives the record of its
last save that worked unless it was cleared after that, at first the object that the file had there,
and names that no call uses keep their values. Where the file held something else than an object, the
first save that works replaces it, with one notice, by that record alone; loading finds nothing
and clearing changes nothing, each with one notice. -/
theorem records_apart {path : Path} {tree : FileTree} (admits : tree.Admits path) (distinct : tree.top.Distinct) :
    (∀ fields, tree.Holds path fields → ∀ calls : List Call, (∀ call ∈ calls, call.Saves) →
      let log := (Call.run path calls tree).1
      let final := (Call.run path calls tree).2
      (∀ name, StorageFile.load ⟨path, name⟩ final =
        (.ok (match Call.lastWord name log with
          | some word => word.map Value.settled
          | none => (fields.get? name).filter Value.isObject), [])) ∧
      (∃ kept, final.Holds path kept ∧ ∀ key, (∀ call ∈ calls, call.name ≠ key) → kept.get? key = fields.get? key) ∧
      ∀ entry ∈ log, entry.1.Smooth entry.2) ∧
    ∀ content cause, tree.readFile path = .ok content → StorageFile.parse content = .error cause → ∀ name,
      let file : StorageFile := ⟨path, name⟩
      (∀ record : Value, record.isObject = true → record.Proper → record.Writable →
        ∃ after, file.save record tree = ⟨.ok (), after, [.replacingFile path cause]⟩ ∧
          after.Holds path [(name, record.settled)]) ∧
      file.load tree = (.ok none, [.ignoringFile path cause]) ∧
      file.clear tree = ⟨.ok (), tree, [.ignoringFile path cause]⟩ := by
  constructor
  · intro fields holds calls saves log final
    obtain ⟨kept, shared, smooth, others, words⟩ := (Shared.of_holds admits distinct holds).run saves
    refine ⟨fun name => ?_, ⟨kept, ?_, others⟩, smooth⟩
    · rw [shared.load, words]
      dsimp only [log]
      cases Call.lastWord name (Call.run path calls tree).1 <;> rfl
    · exact StorageFile.holds_of_records (shared.read ⟨path, ""⟩ rfl .ignoringFile)
  · intro content cause read parsed name file
    have records : ∀ report, file.records report tree = (.ok [], [report path cause]) := by
      intro report
      rw [StorageFile.records_of_readFile read, parsed]
    obtain ⟨made, last, above, entries, place⟩ := admits.place
    refine ⟨fun record _ proper writable => ?_, ?_, ?_⟩
    · obtain ⟨after, saved, found, _⟩ :=
        place.save (records .replacingFile) (record.writeFault?_eq_none_iff.mpr writable) proper
      exact ⟨after, saved, StorageFile.holds_of_records (found .ignoringFile)⟩
    · simp only [StorageFile.load, records]
      rfl
    · exact StorageFile.clear_absent (records .ignoringFile) rfl

/-- Two names in a file whose directory is yet to be made: one is saved, the other fails to be saved and is cleared. -/
theorem records_apart_in_new_directory :
    let path := Path.ofText "home/prefs.json"
    let record : Value := .object [("size", .int 2)]
    let calls : List Call := [⟨"a", .save record⟩, ⟨"b", .save (.object [("bad", .handle true)])⟩, ⟨"b", .clear⟩]
    FileTree.fresh.Admits path ∧ FileTree.fresh.top.Distinct ∧ FileTree.fresh.Holds path [] ∧
      (∀ call ∈ calls, call.Saves) ∧
      StorageFile.load ⟨path, "a"⟩ (Call.run path calls FileTree.fresh).2 = (.ok (some record), []) ∧
      StorageFile.load ⟨path, "b"⟩ (Call.run path calls FileTree.fresh).2 = (.ok none, []) := by
  intro path record calls
  have admits : FileTree.fresh.Admits path := by decide +kernel
  have distinct : FileTree.fresh.top.Distinct :=
    Node.distinct_empty.put "tmp" (Node.distinct_empty.put "work" Node.distinct_empty)
  have holds : FileTree.fresh.Holds path [] := .inl (by decide +kernel)
  have saves : ∀ call ∈ calls, call.Saves := by
    intro call member record' same
    rcases List.mem_cons.mp member with rfl | later
    · cases same
      exact ⟨rfl, by decide, trivial, trivial⟩
    rcases List.mem_cons.mp later with rfl | last
    · cases same
      exact ⟨rfl, by decide, trivial, trivial⟩
    · rw [List.mem_singleton.mp last] at same
      cases same
  have law := ((records_apart admits distinct).1 [] holds calls saves).1
  have words : Call.lastWord "a" (Call.run path calls FileTree.fresh).1 = some (some record) ∧
      Call.lastWord "b" (Call.run path calls FileTree.fresh).1 = some none := by decide +kernel
  refine ⟨admits, distinct, holds, saves, ?_, ?_⟩
  · rw [law, words.1]
    rfl
  · rw [law, words.2]
    rfl

/-- A storage can find a record that was out of reach before: a save that failed made a directory
that the path leads up from. -/
theorem record_found_after_failed_save :
    let tree : FileTree := ⟨.directory [("f.json", .file "\x7b\"n\": \x7b\"a\": 1\x7d\x7d".toUTF8)], []⟩
    let path := Path.ofText "x/../f.json"
    let calls : List Call := [⟨"n", .save (.object [("bad", .handle true)])⟩]
    path.name? = some "f.json" ∧ (tree.makeDirectories path.parent).1 = .ok () ∧ tree.hasPath path = .ok false ∧
      tree.hasPath (Path.ofText "x/../f.json.tmp") = .ok false ∧
      Call.lastWord "n" (Call.run path calls tree).1 = none ∧
      (StorageFile.load ⟨path, "n"⟩ (Call.run path calls tree).2).1 = .ok (some (.object [("a", .int 1)])) := by
  decide +kernel

end HomeTiles
