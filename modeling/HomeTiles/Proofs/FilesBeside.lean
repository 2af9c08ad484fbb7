import HomeTiles.Proofs.SavedAgain

/-!
# Files beside: what a save leaves next to its file

Every write goes by a file beside the storage file, which is moved to its place. By a
path that never leads up, what is found is what stands where the parts lead
(`FileTree.find_of_down`), and making the directories above a file puts nothing at its
own place or beside it (`FileTree.find_of_made`). So a write that works leaves nothing
beside, and one that fails leaves something new there only where a directory is in the
place of the file: the text is written then and cannot be moved (`beside_left_iff`).
-/

namespace HomeTiles

namespace FileTree

/-! ## What is found by a path that never leads up -/

theorem find_of_down {tree : FileTree} {path : Path} (down : ".." ∉ tree.partsFromTop path) {node : Node} :
    tree.find path = .ok node ↔ path.Fits ∧ follow tree.top [] (tree.partsFromTop path) ≠ .error .tooLong ∧
      tree.top.at? (tree.partsFromTop path) = some node := by
  constructor
  · intro found
    cases located : tree.locate path with
    | error fault => simp [find, located] at found
    | ok spot =>
      obtain ⟨fits, trail, follows, rfl⟩ := locate_ok_iff.mp located
      rcases follow_downwards (.nil tree.top) down with ⟨trail', follows', names⟩ | long | ⟨⟨fault, failed, _⟩, _⟩
      · rw [follows] at follows'
        cases follows'
        have same : trail.names = tree.partsFromTop path := names
        refine ⟨fits, by simp [follows], ?_⟩
        rw [find, located, same] at found
        cases there : tree.top.at? (tree.partsFromTop path) with
        | none => simp [there] at found
        | some other => simpa [there] using found
      · rw [follows] at long
        cases long
      · rw [follows] at failed
        cases failed
  · rintro ⟨fits, short, there⟩
    rcases follow_downwards (.nil tree.top) down with ⟨trail, follows, names⟩ | long | ⟨_, missing⟩
    · have same : trail.names = tree.partsFromTop path := names
      have located := locate_ok_iff.mpr ⟨fits, trail, follows, rfl⟩
      rw [same, there] at located
      rw [find, located]
    · exact absurd long short
    · rw [show tree.top.at? (tree.partsFromTop path) = none from missing] at there
      cases there

theorem hasPath_iff {tree : FileTree} {path : Path} : tree.hasPath path = .ok true ↔ ∃ node, tree.find path = .ok node := by
  unfold hasPath
  cases tree.find path with
  | ok node => simp
  | error fault => cases fault <;> simp

/-- What is found in a directory that was made was there before, a file with the same bytes or a directory. -/
theorem find_of_made {tree : FileTree} {path : Path} {last : String}
    (down : ".." ∉ tree.partsFromTop (path.child last)) {node : Node}
    (found : (tree.makeDirectories path).2.find (path.child last) = .ok node) :
    ∃ before, tree.find (path.child last) = .ok before ∧ before.content? = node.content? := by
  have grows := grows_makeDirectories tree path
  have parts := partsFromTop_congr grows.working (path.child last)
  rw [find_of_down (parts ▸ down), parts] at found
  obtain ⟨fits, short, there⟩ := found
  have shown := shows_of_at? there
  rw [partsFromTop_child] at down
  have paved := paved_makeDirectories fun inside => down (List.mem_append_left _ inside)
  rw [← partsFromTop_child] at down
  rcases paved (tree.partsFromTop (path.child last)) with same | ⟨_, _, along⟩
  · rw [same, shows, Option.map_eq_some_iff] at shown
    obtain ⟨before, here, content⟩ := shown
    refine ⟨before, (find_of_down down).mpr ⟨fits, fun long => short ?_, here⟩, content⟩
    exact (follow_keeps grows.directories (.nil _) (.nil _) rfl _).2 long
  · rw [partsFromTop_child] at along
    have lengths := along.length_le
    rw [List.length_append, List.length_singleton] at lengths
    omega

end FileTree

namespace StorageFile

section Writes

variable {file : StorageFile} {name : String} (named : file.path.name? = some name) {fields : Fields}
  {tree after : FileTree} (down : ".." ∉ tree.partsFromTop file.path)
include named

private theorem down_beside (down : ".." ∉ tree.partsFromTop file.path) :
    ".." ∉ tree.partsFromTop (file.path.parent.child (name ++ ".tmp")) := by
  rw [partsFromTop_of_name? named] at down
  rw [FileTree.partsFromTop_child]
  intro inside
  rcases List.mem_append.mp inside with above | last
  · exact down (List.mem_append_left _ above)
  · exact beside_down name (List.mem_singleton.mp last).symm

include down in
/-- A write that works leaves nothing beside. -/
theorem hasPath_beside_of_write (distinct : tree.top.Distinct) (ok : file.write fields tree = (.ok (), after)) :
    after.hasPath (file.path.parent.child (name ++ ".tmp")) ≠ .ok true := by
  intro left
  have parts := FileTree.partsFromTop_congr (working_of_write named ok) (file.path.parent.child (name ++ ".tmp"))
  obtain ⟨node, found⟩ := FileTree.hasPath_iff.mp left
  rw [FileTree.find_of_down (parts ▸ down_beside named down), parts, FileTree.partsFromTop_child] at found
  obtain ⟨text, _, _, nothing, _⟩ := shows_of_write named down distinct ok
  rw [FileTree.shows_of_at? found.2.2] at nothing
  cases nothing

include down in
/-- A write that fails leaves nothing new beside, unless the path leads to a directory. -/
theorem hasPath_beside_of_failed_write {fault : Fault} (failed : file.write fields tree = (.error fault, after))
    (plain : tree.hasDirectory file.path = false)
    (left : after.hasPath (file.path.parent.child (name ++ ".tmp")) = .ok true) :
    tree.hasPath (file.path.parent.child (name ++ ".tmp")) = .ok true := by
  rcases after_failed_write named failed with rfl | ⟨⟨content, written⟩, untaken⟩
  · obtain ⟨node, found⟩ := FileTree.hasPath_iff.mp left
    obtain ⟨before, there, _⟩ := FileTree.find_of_made (down_beside named down) found
    exact FileTree.hasPath_iff.mpr ⟨before, there⟩
  · -- a file is left only where a directory is, and no directory was made there
    obtain ⟨names, sub, _, located, _⟩ := directory_of_untaken named written untaken
    have found : (tree.makeDirectories file.path.parent).2.find (file.path.parent.child name) = .ok (.directory sub) := by
      rw [Path.child_of_name? named, FileTree.find, located]
    obtain ⟨before, there, same⟩ := FileTree.find_of_made (by rwa [Path.child_of_name? named]) found
    rw [Path.child_of_name? named] at there
    cases before with
    | file content => cases same
    | directory entries =>
      rw [FileTree.hasDirectory, there] at plain
      cases plain

include down in
/-- Where the path leads to no directory no write leaves anything new beside, whether or not it works. -/
theorem hasPath_beside_of_plain (distinct : tree.top.Distinct) (plain : tree.hasDirectory file.path = false)
    (left : (file.write fields tree).2.hasPath (file.path.parent.child (name ++ ".tmp")) = .ok true) :
    tree.hasPath (file.path.parent.child (name ++ ".tmp")) = .ok true := by
  cases wrote : file.write fields tree with
  | mk result after =>
    rw [wrote] at left
    cases result with
    | ok _ => exact absurd left (hasPath_beside_of_write named down distinct wrote)
    | error fault => exact hasPath_beside_of_failed_write named down wrote plain left

/-- A text that is to be written in a directory's place is left beside it if it can be put there. -/
theorem hasPath_beside_of_directory (taken : tree.hasDirectory file.path = true) :
    (file.write fields tree).2.hasPath (file.path.parent.child (name ++ ".tmp")) = .ok true ↔
      tree.hasPath (file.path.parent.child (name ++ ".tmp")) = .ok true ∨
        ((∃ text, (Value.object fields).write layout = .ok text) ∧
          tree.TakesFile (file.path.parent.child (name ++ ".tmp"))) := by
  obtain ⟨names, entries, located⟩ := FileTree.hasDirectory_iff.mp taken
  have stays := FileTree.makeDirectories_of_hasDirectory (FileTree.hasDirectory_parent named located)
  simp only [StorageFile.write, Path.sibling?_of_name? named, replace, stays]
  cases text_ok : (Value.object fields).write layout with
  | error refused => simp
  | ok text =>
    dsimp only
    cases write_ok : tree.writeFile (file.path.parent.child (name ++ ".tmp")) text.toUTF8 with
    | error stuck =>
      have untaken : ¬tree.TakesFile (file.path.parent.child (name ++ ".tmp")) := by
        rintro ⟨⟨above, node?⟩, there, plain⟩
        rw [FileTree.writeFile_of_plain there plain] at write_ok
        cases write_ok
      simp [untaken]
    | ok written =>
      obtain ⟨takes, keeps⟩ := FileTree.keeps_writeFile (beside_down name) write_ok
      obtain ⟨above, there⟩ := FileTree.located_of_writeFile (beside_down name) write_ok
      have left : written.hasPath (file.path.parent.child (name ++ ".tmp")) = .ok true :=
        FileTree.hasPath_iff.mpr ⟨_, by rw [FileTree.find, there]⟩
      dsimp only
      cases move_ok : written.moveFile (file.path.parent.child (name ++ ".tmp")) file.path with
      | error stuck => simp [left, takes]
      | ok moved =>
        obtain ⟨spot, target, plain⟩ := FileTree.takesFile_of_moveFile move_ok
        obtain ⟨others, located'⟩ := keeps.directory located
        rw [located'] at target
        cases target
        exact absurd rfl (plain others)

end Writes

/-- A storage file with a record in it is no directory. -/
theorem not_hasDirectory_of_records {file : StorageFile} {report : Path → Option Cause → Notice} {tree : FileTree}
    {fields : Fields} {notices : List Notice} (read : file.records report tree = (.ok fields, notices))
    (nonempty : fields ≠ []) : tree.hasDirectory file.path = false := by
  have same : found (tree.locate file.path) = .ok fields := by
    rw [← records_fst file report, read]
  obtain ⟨names, content, located⟩ := exists_file_of_found same nonempty
  rw [FileTree.hasDirectory, FileTree.find, located]

end StorageFile

/-- By a path that never leads up. After a save that works there is nothing beside the file, and clearing leaves nothing
new there in any case. A save leaves something new beside its file just where the path leads to a directory, the record
has a text, and this can be written beside, where nothing was. -/
theorem beside_left_iff {file : StorageFile} {name : String} (named : file.path.name? = some name) (record : Value)
    {tree : FileTree} (distinct : tree.top.Distinct) (down : ".." ∉ tree.partsFromTop file.path) :
    let beside := file.path.parent.child (name ++ ".tmp")
    let saved := file.save record tree
    (saved.result = .ok () → saved.device.hasPath beside ≠ .ok true) ∧
    ((file.clear tree).device.hasPath beside = .ok true → tree.hasPath beside = .ok true) ∧
    (saved.device.hasPath beside = .ok true ∧ tree.hasPath beside ≠ .ok true ↔
      tree.hasDirectory file.path = true ∧ record.Writable ∧ tree.TakesFile beside ∧ tree.hasPath beside ≠ .ok true) := by
  intro beside saved
  refine ⟨fun worked => ?_, fun left => ?_, ?_⟩
  · cases read : file.records .replacingFile tree with
    | mk found notices =>
      cases found with
      | error fault => simp [saved, StorageFile.save, read] at worked
      | ok fields =>
        simp only [saved, StorageFile.save_of_records read] at worked ⊢
        exact StorageFile.hasPath_beside_of_write named down distinct (Prod.ext worked rfl)
  · cases read : file.records .ignoringFile tree with
    | mk found notices =>
      cases found with
      | error fault => simpa [StorageFile.clear, read] using left
      | ok fields =>
        cases present : (fields.get? file.name).bind Value.present? with
        | none => simpa [StorageFile.clear_absent read present] using left
        | some stored =>
          have nonempty : fields ≠ [] := by
            rintro rfl
            cases present
          have plain := StorageFile.not_hasDirectory_of_records read nonempty
          simp only [StorageFile.clear, read, present] at left
          exact StorageFile.hasPath_beside_of_plain named down distinct plain left
  · cases read : file.records .replacingFile tree with
    | mk found notices =>
      cases found with
      | error fault =>
        obtain ⟨_, long⟩ := StorageFile.locate_of_records_fault read
        have plain : tree.hasDirectory file.path = false := by rw [FileTree.hasDirectory, FileTree.find, long]
        simp [saved, StorageFile.save, read, plain]
      | ok fields =>
        simp only [saved, StorageFile.save_of_records read]
        cases plain : tree.hasDirectory file.path with
        | true =>
          rw [StorageFile.hasPath_beside_of_directory named plain,
            StorageFile.exists_write_put_iff (StorageFile.textual_of_records read)]
          tauto
        | false =>
          simp only [Bool.false_eq_true, false_and, iff_false, not_and, not_not]
          exact StorageFile.hasPath_beside_of_plain named down distinct plain

/-- What an earlier save left beside a file is gone after the next one. -/
theorem beside_gone_after_save :
    let file : StorageFile := ⟨Path.ofText "p.json", "n"⟩
    let tree : FileTree := ⟨.directory [("p.json", .file "".toUTF8), ("p.json.tmp", .file "".toUTF8)], []⟩
    let beside := Path.ofText "p.json.tmp"
    let saved := file.save (.object [("a", .int 1)]) tree
    file.path.name? = some "p.json" ∧ tree.top.Distinct ∧ ".." ∉ tree.partsFromTop file.path ∧
      tree.hasPath beside = .ok true ∧ saved.result = .ok () ∧ saved.device.hasPath beside ≠ .ok true := by
  intro file tree beside saved
  have named : file.path.name? = some "p.json" := by decide +kernel
  have distinct : tree.top.Distinct :=
    (Node.distinct_empty.put "p.json" (Node.distinct_file _)).put "p.json.tmp" (Node.distinct_file _)
  have down : ".." ∉ tree.partsFromTop file.path := by decide +kernel
  have worked : saved.result = .ok () := by decide +kernel
  exact ⟨named, distinct, down, by decide +kernel, worked, (beside_left_iff named _ distinct down).1 worked⟩

/-- A directory is in the place of a storage file: a save fails, and its text stays beside. -/
theorem text_left_beside_directory :
    let file : StorageFile := ⟨Path.ofText "d", "n"⟩
    let tree : FileTree := ⟨.directory [("d", .empty)], []⟩
    let saved := file.save (.object [("a", .int 1)]) tree
    saved.result = .error (.unavailable (.file file.path (.file .isADirectory))) ∧
      tree.hasPath (Path.ofText "d.tmp") = .ok false ∧ saved.device.hasPath (Path.ofText "d.tmp") = .ok true := by
  decide +kernel

end HomeTiles
