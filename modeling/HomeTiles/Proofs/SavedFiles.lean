import HomeTiles.Proofs.TreeViews

/-!
# Saved files: what saving changes in a tree

Saving goes by a file beside the storage file, in the directory that is made for both.
If it works, the storage file has the new text, nothing is beside it and the
directories above are there; if it fails there may be new directories and a file
beside (`StorageFile.shows_of_write`, `StorageFile.shows_of_failed_write`). In either
case nothing else in the tree is touched (`save_frame`).
-/

namespace HomeTiles

namespace StorageFile

/-- What leads to an entry of a directory is none of what leads to the directory. -/
private theorem ne_entry_above {above names : List String} (along : names <+: above) (last : String) :
    names ≠ above ++ [last] := by
  rintro rfl
  have lengths := along.length_le
  rw [List.length_append, List.length_singleton] at lengths
  omega

private theorem entry_ne_beside (above : List String) (name : String) : above ++ [name] ≠ above ++ [name ++ ".tmp"] :=
  fun same => beside_ne name (List.singleton_inj.mp (List.append_cancel_left same)).symm

section Named

variable {file : StorageFile} {name : String} (named : file.path.name? = some name)
include named

theorem partsFromTop_of_name? (tree : FileTree) :
    tree.partsFromTop file.path = tree.partsFromTop file.path.parent ++ [name] := by
  rw [← FileTree.partsFromTop_child, Path.child_of_name? named]

variable {fields : Fields} {tree after : FileTree} (down : ".." ∉ tree.partsFromTop file.path)
include down

private theorem down_parent : ".." ∉ tree.partsFromTop file.path.parent := by
  rw [partsFromTop_of_name? named] at down
  exact fun inside => down (List.mem_append_left _ inside)

/-- A write that worked leaves the text in the file and nothing beside it; the directories above are there, and all else
is as before. -/
theorem shows_of_write (distinct : tree.top.Distinct) (ok : file.write fields tree = (.ok (), after)) :
    let above := tree.partsFromTop file.path.parent
    ∃ text, (Value.object fields).write layout = .ok text ∧
      after.shows (above ++ [name]) = some (some text.toUTF8) ∧ after.shows (above ++ [name ++ ".tmp"]) = none ∧
      (∀ names, names <+: above → after.shows names = some none) ∧
      ∀ names, names ≠ above ++ [name] → names ≠ above ++ [name ++ ".tmp"] → tree.PavedAt after above names := by
  obtain ⟨text, made, above, entries, written, makes, site⟩ := site_of_write named ok
  rw [write_eq_of_text makes site written] at ok
  cases ok
  have paved := FileTree.paved_makeDirectories (down_parent named down)
  have grows := FileTree.grows_makeDirectories tree file.path.parent
  rw [makes] at paved grows
  have parts := FileTree.partsFromTop_congr grows.working file.path.parent
  obtain rfl : above = tree.partsFromTop file.path.parent := by
    rw [← parts]
    exact site.opens.names_of_down (parts ▸ down_parent named down)
  intro above
  -- the file beside comes, moves away and arrives at its place, each time by a change of one entry
  have beside := site.putBeside text.toUTF8
  have gone := beside.opens.erase beside.plainBeside
  have plain : ∀ sub, Entries.get? (Entries.erase (Entries.put entries (name ++ ".tmp") (.file text.toUTF8))
      (name ++ ".tmp")) name ≠ some (.directory sub) := by
    rw [Entries.get?_erase_of_ne _ (beside_ne name)]
    exact beside.plain
  have nodup := Entries.nodup_put (grows.distinct distinct _ _ site.opens.there) (name ++ ".tmp") (.file text.toUTF8)
  have shown (names : List String) : (((made.put (above ++ [name ++ ".tmp"]) (.file text.toUTF8)).erase
      (above ++ [name ++ ".tmp"])).put (above ++ [name]) (.file text.toUTF8)).shows names =
        if names = above ++ [name] then some (some text.toUTF8)
        else if names = above ++ [name ++ ".tmp"] then none
        else made.shows names := by
    rw [FileTree.shows_put gone.there plain (Node.isLeaf_file _),
      FileTree.shows_erase beside.opens.there nodup beside.plainBeside,
      FileTree.shows_put site.opens.there site.plainBeside (Node.isLeaf_file _)]
    split_ifs <;> rfl
  refine ⟨text, written, (shown _).trans (if_pos rfl), ?_, fun names along => ?_, fun names target other => ?_⟩
  · rw [shown, if_neg (entry_ne_beside above name).symm, if_pos rfl]
  · rw [shown, if_neg (ne_entry_above along _), if_neg (ne_entry_above along _)]
    by_cases whole : names = above
    · rw [whole, FileTree.shows_of_at? site.opens.there]
      rfl
    · obtain ⟨others, there⟩ := Node.directory_above site.opens.there along whole
      rw [FileTree.shows_of_at? there]
      rfl
  · rw [FileTree.PavedAt, shown, if_neg target, if_neg other]
    exact paved names

/-- A write that failed did not reach its file. There may be new directories above it, and there may be a file beside. -/
theorem shows_of_failed_write {fault : Fault} (failed : file.write fields tree = (.error fault, after)) {names : List String}
    (apart : names ≠ tree.partsFromTop file.path.parent ++ [name ++ ".tmp"]) :
    tree.PavedAt after (tree.partsFromTop file.path.parent) names := by
  have paved := FileTree.paved_makeDirectories (down_parent named down)
  rcases after_failed_write named failed with rfl | ⟨⟨content, written⟩, _⟩
  · exact paved names
  · obtain ⟨above, entries, opens, _, plain, rfl⟩ := FileTree.put_of_writeFile (beside_down name) written
    have parts := FileTree.partsFromTop_congr (FileTree.grows_makeDirectories tree file.path.parent).working file.path.parent
    obtain rfl : above = tree.partsFromTop file.path.parent := by
      rw [← parts]
      exact opens.names_of_down (parts ▸ down_parent named down)
    rw [FileTree.PavedAt, FileTree.shows_put opens.there plain (Node.isLeaf_file _), if_neg apart]
    exact paved names

omit down in
/-- Writing only fails because the storage is not available. -/
theorem unavailable_of_write {fault : Fault} (failed : file.write fields tree = (.error fault, after)) :
    ∃ failure, fault = .unavailable failure := by
  simp only [StorageFile.write, Path.sibling?_of_name? named] at failed
  split at failed
  · cases failed
    exact ⟨_, rfl⟩
  · cases failed

omit down in
/-- A write moves no working directory. -/
theorem working_of_write {result : Except Fault Unit} (wrote : file.write fields tree = (result, after)) :
    after.working = tree.working := by
  cases result with
  | error fault => exact (keeps_failed_write named wrote).working
  | ok _ =>
    obtain ⟨text, made, above, entries, written, makes, site⟩ := site_of_write named wrote
    rw [write_eq_of_text makes site written] at wrote
    cases wrote
    have grows := FileTree.grows_makeDirectories tree file.path.parent
    rw [makes] at grows
    exact grows.working

omit down in
/-- A write leaves no directory with a name twice. -/
theorem distinct_of_write {result : Except Fault Unit} (distinct : tree.top.Distinct)
    (wrote : file.write fields tree = (result, after)) : after.top.Distinct := by
  have made := (FileTree.grows_makeDirectories tree file.path.parent).distinct distinct
  cases result with
  | error fault =>
    rcases after_failed_write named wrote with rfl | ⟨⟨content, written⟩, _⟩
    · exact made
    · obtain ⟨above, entries, opens, _, _, rfl⟩ := FileTree.put_of_writeFile (beside_down name) written
      exact FileTree.distinct_put opens.there made _ (Node.distinct_file content)
  | ok _ =>
    obtain ⟨text, there, above, entries, written, makes, site⟩ := site_of_write named wrote
    rw [write_eq_of_text makes site written] at wrote
    cases wrote
    rw [makes] at made
    have beside := site.putBeside text.toUTF8
    have gone := beside.opens.erase beside.plainBeside
    have first := FileTree.distinct_put site.opens.there made (name ++ ".tmp") (Node.distinct_file text.toUTF8)
    have second := FileTree.distinct_erase beside.opens.there first (name ++ ".tmp")
    exact FileTree.distinct_put gone.there second name (Node.distinct_file text.toUTF8)

omit down in
theorem fits_of_write (ok : file.write fields tree = (.ok (), after)) : file.path.Fits := by
  obtain ⟨_, _, _, _, _, _, site⟩ := site_of_write named ok
  exact (FileTree.locate_ok_iff.mp site.target).1

end Named

/-- The records of a file whose path never leads up are those in the file where its parts lead, once it is known that
none of them is too long. -/
theorem held_of_records {file : StorageFile} {report : Path → Option Cause → Notice} {tree : FileTree} {fields : Fields}
    {notices : List Notice} (fits : file.path.Fits) (down : ".." ∉ tree.partsFromTop file.path)
    (read : file.records report tree = (.ok fields, notices)) :
    fields = held (tree.top.at? (tree.partsFromTop file.path)) := by
  have found : found (tree.locate file.path) = .ok fields := by
    rw [← records_fst file report, read]
  rcases found_of_down fits down with long | same
  · rw [FileTree.locate_of_follow fits long] at found
    cases found
  · rw [same] at found
    exact (Except.ok.inj found).symm

/-- Only where a path is too long do its records have no answer. -/
theorem locate_of_records_fault {file : StorageFile} {report : Path → Option Cause → Notice} {tree : FileTree}
    {fault : Fault} {notices : List Notice} (read : file.records report tree = (.error fault, notices)) :
    fault = .file .tooLong ∧ tree.locate file.path = .error .tooLong := by
  have found : found (tree.locate file.path) = .error fault := by
    rw [← records_fst file report, read]
  cases located : tree.locate file.path with
  | ok spot =>
    rw [located] at found
    cases found
  | error stuck =>
    rw [located] at found
    cases stuck <;> cases found
    exact ⟨rfl, rfl⟩

end StorageFile

open StorageFile (held layout)

/-- Saving by a path that never leads up. If it works, the file has the text of the records that were there with the new
one under its name, nothing is beside the file, the directories above are there, and all else is as before. If it fails,
the storage is unavailable, or the path is too long and nothing is done; what was there is there, the file itself as it
was, and nothing is new but directories above it and what is beside it. -/
theorem save_frame {file : StorageFile} {name : String} (named : file.path.name? = some name) (record : Value)
    {tree : FileTree} (distinct : tree.top.Distinct) (down : ".." ∉ tree.partsFromTop file.path) :
    let saved := file.save record tree
    let above := tree.partsFromTop file.path.parent
    let target := above ++ [name]
    let beside := above ++ [name ++ ".tmp"]
    saved.device.working = tree.working ∧ saved.device.top.Distinct ∧
    (saved.result = .ok () → ∃ text,
      (Value.object ((held (tree.top.at? target)).put file.name record)).write layout = .ok text ∧
      saved.device.shows target = some (some text.toUTF8) ∧ saved.device.shows beside = none ∧
      (∀ names, names <+: above → saved.device.shows names = some none) ∧
      ∀ names, names ≠ target → names ≠ beside → tree.PavedAt saved.device above names) ∧
    ∀ fault, saved.result = .error fault →
      ((∃ failure, fault = .unavailable failure) ∨
        (fault = .file .tooLong ∧ tree.locate file.path = .error .tooLong ∧ saved.device = tree)) ∧
      saved.device.shows target = tree.shows target ∧
      ∀ names, names ≠ beside → tree.PavedAt saved.device above names := by
  intro saved above target beside
  have parts : tree.partsFromTop file.path = target := StorageFile.partsFromTop_of_name? named tree
  cases read : file.records .replacingFile tree with
  | mk found notices =>
    cases found with
    | error fault =>
      obtain ⟨rfl, located⟩ := StorageFile.locate_of_records_fault read
      have same : saved = ⟨.error (.file .tooLong), tree, notices⟩ := by
        simp only [saved, StorageFile.save, read]
      rw [same]
      refine ⟨rfl, distinct, fun worked => ?_, fun fault failed => ⟨.inr ⟨?_, located, rfl⟩, rfl, fun _ _ => .inl rfl⟩⟩
      · cases worked
      · exact (Except.error.inj failed).symm
    | ok fields =>
      have same : saved = ⟨(file.write (fields.put file.name record) tree).1,
        (file.write (fields.put file.name record) tree).2, notices⟩ := StorageFile.save_of_records read record
      rw [same]
      cases wrote : file.write (fields.put file.name record) tree with
      | mk result after =>
        refine ⟨StorageFile.working_of_write named wrote, StorageFile.distinct_of_write named distinct wrote, ?_, ?_⟩
        · rintro rfl
          have fits := StorageFile.fits_of_write named wrote
          have there := StorageFile.held_of_records fits down read
          rw [parts] at there
          rw [← there]
          exact StorageFile.shows_of_write named down distinct wrote
        · rintro fault rfl
          refine ⟨.inl (StorageFile.unavailable_of_write named wrote), ?_,
            fun names other => StorageFile.shows_of_failed_write named down wrote other⟩
          rcases StorageFile.shows_of_failed_write named down wrote (StorageFile.entry_ne_beside above name) with same |
            ⟨_, _, along⟩
          · exact same
          · exact absurd rfl (StorageFile.ne_entry_above along name)

/-- A record is put beside another one in a file whose directory is not there yet. -/
theorem save_frame_in_new_directory :
    let file : StorageFile := ⟨Path.ofText "home/prefs.json", "n"⟩
    let after := (file.save (.object [("a", .int 1)]) FileTree.fresh).device
    file.path.name? = some "prefs.json" ∧ FileTree.fresh.top.Distinct ∧ ".." ∉ FileTree.fresh.partsFromTop file.path ∧
      after.shows ["tmp", "work", "home", "prefs.json"] =
        some (some "\x7b\n  \"n\": \x7b\n    \"a\": 1\n  \x7d\n\x7d".toUTF8) ∧
      after.shows ["tmp", "work", "home", "prefs.json.tmp"] = none ∧
      after.shows ["tmp", "work", "home"] = some none := by
  intro file after
  have named : file.path.name? = some "prefs.json" := by decide +kernel
  have distinct : FileTree.fresh.top.Distinct :=
    Node.distinct_empty.put "tmp" (Node.distinct_empty.put "work" Node.distinct_empty)
  have down : ".." ∉ FileTree.fresh.partsFromTop file.path := by decide +kernel
  have text_ok : (Value.object [("n", .object [("a", .int 1)])]).write layout =
      .ok "\x7b\n  \"n\": \x7b\n    \"a\": 1\n  \x7d\n\x7d" := by decide +kernel
  obtain ⟨_, _, saved, _⟩ := save_frame named (.object [("a", .int 1)]) distinct down
  obtain ⟨text, written, target, beside, above, _⟩ := saved (by decide +kernel)
  obtain rfl := Except.ok.inj (text_ok.symm.trans written)
  exact ⟨named, distinct, down, target, beside, above _ List.prefix_rfl⟩

/-- A name of 256 bytes in an empty directory: saving fails for another reason than that the storage is unavailable. -/
theorem save_over_path_too_long :
    let file : StorageFile := ⟨⟨.working, [String.ofList (List.replicate 64 '🏠')]⟩, storeName⟩
    (file.save (.object [("a", .int 1)]) FileTree.fresh).result = .error (.file .tooLong) ∧
      (Fault.file .tooLong).isUnavailable = false := by
  decide +kernel

end HomeTiles
