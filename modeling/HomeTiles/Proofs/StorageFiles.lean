import HomeTiles.FileStorage
import HomeTiles.Proofs.FileTreePaths
import HomeTiles.Proofs.JsonReadBack

/-!
# Storage files: what is read after a write

A storage file can be written where its directory stands open and neither its own
name nor the one beside it is a directory there (`Site`). `Site.replace` says
what a write leaves in such a place, `load_of_save` that a record which was saved
is loaded, whatever the tree was. A tree `Admits` a storage file if it can be
written once the directories above it are made and reads the same before and
after that; `Admits.place` gives the place, `Place.save` and `Place.clear` say
what the two operations come to.
-/

namespace HomeTiles

/-! ## The text of a storage file -/

theorem Value.writeFault?_put {fields : Fields} (textual : (Value.object fields).Textual) (name : String) (v : Value) :
    (Value.object (fields.put name v)).writeFault? = none ↔ v.writeFault? = none := by
  rw [Value.writeFault?, Value.fieldsFault?_eq_none_iff]
  constructor
  · intro all
    have found : (fields.put name v).get? name = some v := by rw [Entries.get?_put, if_pos rfl]
    exact all _ (Entries.mem_of_get? found)
  · intro ok entry inside
    rcases Entries.mem_put inside with old | same
    · exact ((Value.textual_object_iff.mp textual).2 entry old).fault
    · rw [same]
      exact ok

theorem Value.settledFields_put {fields : Fields} (textual : (Value.object fields).Textual) (name : String) (v : Value) :
    Value.settledFields (fields.put name v) = fields.put name v.settled := by
  have same : Value.settledFields fields = fields := by simpa [Value.settled] using textual.settled
  rw [Value.settledFields_eq, ← Entries.put_mapValues, ← Value.settledFields_eq, same]

namespace StorageFile

/-- The bytes of written fields are parsed as the settled fields. -/
theorem parse_toUTF8 {fields : Fields} {text : String} (written : (Value.object fields).write layout = .ok text)
    (proper : (Value.object fields).Proper) : parse text.toUTF8 = .ok (Value.settledFields fields) := by
  have decoded : String.fromUTF8? text.toUTF8 = some text := by
    unfold String.fromUTF8?
    rw [dif_pos (show text.toUTF8.IsValidUTF8 from text.isValidUTF8)]
    rfl
  simp only [parse, decoded, Value.read_of_write written proper, Value.settled]

theorem textual_of_parse {content : ByteArray} {fields : Fields} (parsed : parse content = .ok fields) :
    (Value.object fields).Textual := by
  unfold parse at parsed
  split at parsed
  · cases parsed
  · split at parsed
    · cases parsed
    · next read =>
      cases parsed
      exact Value.textual_of_read read
    · cases parsed

/-- The records of a file are such as texts hold. -/
theorem textual_of_records {file : StorageFile} {report : Path → Option Cause → Notice} {tree : FileTree}
    {fields : Fields} {notices : List Notice} (read : file.records report tree = (.ok fields, notices)) :
    (Value.object fields).Textual := by
  have none : (Value.object []).Textual :=
    Value.textual_object_iff.mpr ⟨List.nodup_nil, fun x inside => absurd inside List.not_mem_nil⟩
  unfold records at read
  split at read
  · cases read
  · cases read
    exact none
  · split at read
    · cases read
      exact none
    · split at read
      · cases read
        exact none
      · next parsed =>
        cases read
        exact textual_of_parse parsed

/-- Only a path that is too long keeps a file from being read at all. -/
theorem fault_of_records {file : StorageFile} {report : Path → Option Cause → Notice} {tree : FileTree} {fault : Fault}
    {notices : List Notice} (read : file.records report tree = (.error fault, notices)) : fault = .file .tooLong := by
  unfold records at read
  split at read
  · next stuck =>
    cases read
    unfold FileTree.hasPath at stuck
    split at stuck
    · cases stuck
    · cases stuck
      rfl
    · cases stuck
  · cases read
  · split at read
    · cases read
    · split at read <;> cases read

/-- What is read of a file that was found. -/
theorem records_of_file {file : StorageFile} {tree : FileTree} {names : List String} {content : ByteArray}
    (located : tree.locate file.path = .ok ⟨names, some (.file content)⟩) (report : Path → Option Cause → Notice) :
    file.records report tree = match parse content with
      | .error cause => (.ok [], [report file.path cause])
      | .ok fields => (.ok fields, []) := by
  cases parsed : parse content with
  | error cause => simp only [records, FileTree.hasPath, FileTree.readFile, FileTree.find, located, parsed]
  | ok fields => simp only [records, FileTree.hasPath, FileTree.readFile, FileTree.find, located, parsed]

/-- What is read where a path leads nowhere, unless it is too long to tell. -/
theorem records_of_unfound {file : StorageFile} {tree : FileTree} {fault : FileFault}
    (located : tree.locate file.path = .error fault) (other : fault ≠ .tooLong)
    (report : Path → Option Cause → Notice) : file.records report tree = (.ok [], []) := by
  simp only [records, FileTree.hasPath, FileTree.find, located]

/-- What is read where there is nothing. -/
theorem records_of_absent {file : StorageFile} {tree : FileTree} {names : List String}
    (located : tree.locate file.path = .ok ⟨names, none⟩) (report : Path → Option Cause → Notice) :
    file.records report tree = (.ok [], []) := by
  simp only [records, FileTree.hasPath, FileTree.find, located]

end StorageFile

/-! ## The name beside -/

theorem Path.child_of_name? {path : Path} {name : String} (named : path.name? = some name) :
    path.parent.child name = path := by
  obtain ⟨start, parts⟩ := path
  simp only [Path.parent, Path.child, Path.mk.injEq, true_and]
  exact List.dropLast_append_getLast? name named

/-- A suffix is nothing or begins with the last point of the name. -/
private theorem Path.suffixOf_cases (name : String) :
    Path.suffixOf name = "" ∨ ∃ place ≤ name.length, Path.suffixOf name = String.ofList (name.toList.drop place) ∧
      name.toList[place]? = some '.' := by
  unfold Path.suffixOf
  split
  · exact .inl rfl
  · next behind found =>
    obtain ⟨inside, point, _⟩ := List.idxOf?_eq_some_iff.mp found
    rw [List.length_reverse, String.length_toList] at inside
    dsimp only
    split_ifs with inner
    · refine .inr ⟨name.length - 1 - behind, by omega, rfl, ?_⟩
      rw [← String.length_toList, ← List.getElem?_reverse (by rwa [String.length_toList])]
      exact List.getElem?_eq_some_iff.mpr ⟨_, point⟩
    · exact .inl rfl

/-- The part of a name before its suffix, with the suffix behind it, is the name. -/
theorem Path.stem_append_suffixOf (name : String) :
    String.ofList (name.toList.take (name.length - (Path.suffixOf name).length)) ++ Path.suffixOf name = name := by
  rcases Path.suffixOf_cases name with none | ⟨place, inside, cut, _⟩
  · rw [none, String.length_empty, Nat.sub_zero, ← String.length_toList, List.take_length, String.ofList_toList,
      String.append_empty]
  · have length : name.length - (String.ofList (name.toList.drop place)).length = place := by
      rw [String.length_ofList, List.length_drop, String.length_toList]
      omega
    rw [cut, length, ← String.ofList_append, List.take_append_drop, String.ofList_toList]

/-- Whatever points a name has, a suffix with `.tmp` behind it is a suffix. -/
theorem Path.isSuffix_suffixOf_append (name : String) :
    (Path.suffixOf name ++ ".tmp").toList.head? = some '.' ∧ Path.suffixOf name ++ ".tmp" ≠ "." := by
  constructor
  · rw [String.toList_append]
    rcases Path.suffixOf_cases name with none | ⟨place, _, cut, point⟩
    · rw [none]
      rfl
    · rw [cut, String.toList_ofList, List.head?_append, List.head?_drop, point]
      rfl
  · intro same
    have length := congrArg String.length same
    rw [String.length_append, show ".tmp".length = 4 from rfl, show ".".length = 1 from rfl] at length
    omega

/-- Whatever points a name has, what stands beside it is the whole name with something more behind it. -/
theorem Path.sibling?_of_name? {path : Path} {name : String} (named : path.name? = some name) :
    path.sibling? ".tmp" = some (path.parent.child (name ++ ".tmp")) := by
  have suffix : path.suffix = Path.suffixOf name := by rw [Path.suffix, named, Option.map_some, Option.getD_some]
  rw [Path.sibling?, suffix, Path.withSuffix?, named]
  dsimp only
  rw [if_pos (.inr (Path.isSuffix_suffixOf_append name)), ← String.append_assoc, Path.stem_append_suffixOf]
private theorem length_beside (name : String) : (name ++ ".tmp").length = name.length + 4 := by
  rw [String.length_append]
  rfl

theorem beside_ne (name : String) : name ++ ".tmp" ≠ name := by
  intro same
  have lengths := length_beside name
  rw [same] at lengths
  omega

theorem beside_down (name : String) : name ++ ".tmp" ≠ ".." := by
  intro same
  have lengths := length_beside name
  rw [same] at lengths
  have two : "..".length = 2 := rfl
  omega

namespace FileTree

/-- A path leads somewhere, and to no directory: there a file may be put. -/
def TakesFile (tree : FileTree) (path : Path) : Prop :=
  ∃ spot, tree.locate path = .ok spot ∧ ∀ sub, spot.node? ≠ some (.directory sub)

instance (tree : FileTree) (path : Path) : Decidable (tree.TakesFile path) :=
  match located : tree.locate path with
  | .error _ => isFalse fun ⟨_, found, _⟩ => by rw [located] at found; cases found
  | .ok ⟨_, none⟩ => isTrue ⟨_, located, nofun⟩
  | .ok ⟨_, some (.file _)⟩ => isTrue ⟨_, located, nofun⟩
  | .ok ⟨_, some (.directory sub)⟩ => isFalse fun ⟨_, found, plain⟩ => by
    rw [located] at found
    cases found
    exact plain sub rfl

theorem writeFile_of_plain {tree : FileTree} {path : Path} {names : List String} {node? : Option Node}
    (located : tree.locate path = .ok ⟨names, node?⟩) (plain : ∀ sub, node? ≠ some (.directory sub))
    (content : ByteArray) : tree.writeFile path content = .ok (tree.put names (.file content)) := by
  unfold writeFile
  rw [located]
  split
  · next same => cases same
  · next same =>
    cases same
    exact absurd rfl (plain _)
  · next same =>
    cases same
    rfl

/-- A file is written under a name as an entry of the directory above, where there is no directory. -/
theorem put_of_writeFile {tree written : FileTree} {path : Path} {last : String} (down : last ≠ "..")
    {content : ByteArray} (ok : tree.writeFile (path.child last) content = .ok written) :
    ∃ above entries, tree.Opens path above entries ∧
      tree.locate (path.child last) = .ok ⟨above ++ [last], Entries.get? entries last⟩ ∧
      (∀ sub, Entries.get? entries last ≠ some (.directory sub)) ∧
      written = tree.put (above ++ [last]) (.file content) := by
  cases located : tree.locate (path.child last) with
  | error fault => simp [writeFile, located] at ok
  | ok spot =>
    obtain ⟨_, _, above, entries, opens, rfl⟩ := (locate_child_iff down).mp located
    have plain : ∀ sub, Entries.get? entries last ≠ some (.directory sub) := by
      intro sub there
      simp [writeFile, located, there] at ok
    rw [writeFile_of_plain located plain] at ok
    exact ⟨above, entries, opens, rfl, plain, (Except.ok.inj ok).symm⟩

/-- After a file was written under a name, its path leads to it. -/
theorem located_of_writeFile {tree written : FileTree} {path : Path} {last : String} (down : last ≠ "..")
    {content : ByteArray} (ok : tree.writeFile (path.child last) content = .ok written) :
    ∃ names, written.locate (path.child last) = .ok ⟨names, some (.file content)⟩ := by
  obtain ⟨above, entries, opens, located, plain, rfl⟩ := put_of_writeFile down ok
  obtain ⟨fits, short, _⟩ := (locate_child_iff down).mp located
  have located' := (locate_child_iff down).mpr ⟨fits, short, above, _, opens.put plain (.file content), rfl⟩
  rw [Entries.get?_put, if_pos rfl] at located'
  exact ⟨_, located'⟩

/-- Nothing is moved over a directory. -/
theorem takesFile_of_moveFile {tree moved : FileTree} {source target : Path}
    (ok : tree.moveFile source target = .ok moved) : tree.TakesFile target := by
  unfold moveFile at ok
  split at ok
  · cases ok
  · cases ok
  · next names node? targetNames there? _ located =>
    refine ⟨_, located, ?_⟩
    rintro sub rfl
    split_ifs at ok
    cases node? <;> cases ok

end FileTree

/-! ## The place of a storage file -/

/-- A storage file can be put where it is: its directory stands open, and neither its own name
nor the one beside it is a directory there. -/
structure Path.Site (path : Path) (tree : FileTree) (name : String) (above : List String)
    (entries : List (String × Node)) : Prop where
  named : path.name? = some name
  opens : tree.Opens path.parent above entries
  target : tree.locate path = .ok ⟨above ++ [name], Entries.get? entries name⟩
  beside : tree.locate (path.parent.child (name ++ ".tmp")) =
    .ok ⟨above ++ [name ++ ".tmp"], Entries.get? entries (name ++ ".tmp")⟩
  plain : ∀ sub, Entries.get? entries name ≠ some (.directory sub)
  plainBeside : ∀ sub, Entries.get? entries (name ++ ".tmp") ≠ some (.directory sub)

namespace Path.Site

private theorem down_of_located {path : Path} {tree : FileTree} {name : String} (named : path.name? = some name)
    {spot : Spot} (located : tree.locate path = .ok spot) (plain : ∀ sub, spot.node? ≠ some (.directory sub)) :
    name ≠ ".." := by
  rintro rfl
  rw [← child_of_name? named] at located
  obtain ⟨sub, there⟩ := FileTree.directory_of_locate_up located
  exact plain sub there

/-- Where both paths take a file, they are side by side in one open directory. -/
theorem of_takesFile {path : Path} {tree : FileTree} {name : String} (named : path.name? = some name)
    (target : tree.TakesFile path) (beside : tree.TakesFile (path.parent.child (name ++ ".tmp"))) :
    ∃ above entries, path.Site tree name above entries := by
  obtain ⟨spot, located, plain⟩ := target
  obtain ⟨spot', located', plain'⟩ := beside
  have down := down_of_located named located plain
  have where_ := located
  rw [← child_of_name? named, FileTree.locate_child_iff down] at where_
  obtain ⟨_, _, above, entries, opens, rfl⟩ := where_
  have where' := located'
  rw [FileTree.locate_child_iff (beside_down name)] at where'
  obtain ⟨_, _, above', entries', opens', rfl⟩ := where'
  obtain ⟨rfl, rfl⟩ := opens.unique opens'
  exact ⟨_, _, named, opens, located, located', plain, plain'⟩

section Moving

variable {path : Path} {tree : FileTree} {name : String} {above : List String} {entries : List (String × Node)}
  (site : path.Site tree name above entries)
include site

theorem down : name ≠ ".." := down_of_located site.named site.target site.plain

/-- Where the two paths lead after the entries of their directory changed. -/
theorem located {after : FileTree} {changed : List (String × Node)} (opens : after.Opens path.parent above changed) :
    after.locate path = .ok ⟨above ++ [name], Entries.get? changed name⟩ ∧
    after.locate (path.parent.child (name ++ ".tmp")) =
      .ok ⟨above ++ [name ++ ".tmp"], Entries.get? changed (name ++ ".tmp")⟩ := by
  have target := site.target
  rw [← child_of_name? site.named, FileTree.locate_child_iff site.down] at target
  have beside := site.beside
  rw [FileTree.locate_child_iff (beside_down name)] at beside
  constructor
  · rw [← child_of_name? site.named, FileTree.locate_child_iff site.down]
    exact ⟨target.1, target.2.1, above, changed, opens, rfl⟩
  · rw [FileTree.locate_child_iff (beside_down name)]
    exact ⟨beside.1, beside.2.1, above, changed, opens, rfl⟩

/-- After a file was written beside, both places are still there. -/
theorem putBeside (content : ByteArray) : path.Site (tree.put (above ++ [name ++ ".tmp"]) (.file content)) name above
    (Entries.put entries (name ++ ".tmp") (.file content)) := by
  have opens := site.opens.put site.plainBeside (.file content)
  have located := site.located opens
  refine ⟨site.named, opens, located.1, located.2, ?_, ?_⟩
  · rw [Entries.get?_put, if_neg (beside_ne name)]
    exact site.plain
  · rw [Entries.get?_put, if_pos rfl]
    exact nofun

/-- A file that was written beside is moved to its place. -/
theorem moveFile_eq {content : ByteArray} (there : Entries.get? entries (name ++ ".tmp") = some (.file content)) :
    tree.moveFile (path.parent.child (name ++ ".tmp")) path =
      .ok ((tree.erase (above ++ [name ++ ".tmp"])).put (above ++ [name]) (.file content)) := by
  have named : path.name? ≠ some ".." := by
    rw [site.named]
    exact fun same => site.down (Option.some.inj same)
  unfold FileTree.moveFile
  rw [site.beside, site.target, there]
  dsimp only
  rw [if_neg named]
  cases old : Entries.get? entries name with
  | none => rfl
  | some node =>
    cases node with
    | file before => rfl
    | directory sub => exact absurd old (site.plain sub)

/-- After the move the path leads to the file, and both places are still there. -/
theorem moved (content : ByteArray) :
    let after := (tree.erase (above ++ [name ++ ".tmp"])).put (above ++ [name]) (.file content)
    after.locate path = .ok ⟨above ++ [name], some (.file content)⟩ ∧
      ((Entries.names entries).Nodup →
        ∃ changed, path.Site after name above changed ∧ (Entries.names changed).Nodup) := by
  intro after
  have plain : ∀ sub, Entries.get? (Entries.erase entries (name ++ ".tmp")) name ≠ some (.directory sub) := by
    rw [Entries.get?_erase_of_ne entries (beside_ne name)]
    exact site.plain
  have opens := (site.opens.erase site.plainBeside).put plain (.file content)
  have located := site.located opens
  have found : Entries.get? (Entries.put (Entries.erase entries (name ++ ".tmp")) name (.file content)) name =
      some (.file content) := by rw [Entries.get?_put, if_pos rfl]
  refine ⟨by rw [located.1, found], fun distinct => ⟨_, ⟨site.named, opens, located.1, located.2, ?_, ?_⟩, ?_⟩⟩
  · rw [found]
    exact nofun
  · rw [Entries.get?_put, if_neg (Ne.symm (beside_ne name)), Entries.get?_erase distinct, if_pos rfl]
    exact nofun
  · exact Entries.nodup_put (Entries.nodup_erase distinct _) _ _

end Moving

end Path.Site

/-! ## Writing -/

namespace StorageFile

section Writing

variable {file : StorageFile} {tree made : FileTree} {name : String} {above : List String}
  {entries : List (String × Node)} (makes : tree.makeDirectories file.path.parent = (.ok (), made))
  (site : file.path.Site made name above entries)
include makes site

/-- In its place a file is written if there is a text, and nothing but directories is made if there is none. -/
theorem write_of_no_text {fields : Fields} {fault : WriteFault}
    (refused : (Value.object fields).write layout = .error fault) :
    file.write fields tree = (.error (.unavailable (.file file.path (.write fault))), made) := by
  simp only [StorageFile.write, Path.sibling?_of_name? site.named, replace, makes, refused]

/-- A text is written beside and moved to the place of the file. -/
theorem write_eq_of_text {fields : Fields} {text : String} (written : (Value.object fields).write layout = .ok text) :
    file.write fields tree = (.ok (), ((made.put (above ++ [name ++ ".tmp"]) (.file text.toUTF8)).erase
      (above ++ [name ++ ".tmp"])).put (above ++ [name]) (.file text.toUTF8)) := by
  have there : Entries.get? (Entries.put entries (name ++ ".tmp") (.file text.toUTF8)) (name ++ ".tmp") =
      some (.file text.toUTF8) := by rw [Entries.get?_put, if_pos rfl]
  simp only [StorageFile.write, Path.sibling?_of_name? site.named, replace, makes, written,
    FileTree.writeFile_of_plain site.beside site.plainBeside, (site.putBeside text.toUTF8).moveFile_eq there]

theorem write_of_text {fields : Fields} {text : String} (written : (Value.object fields).write layout = .ok text) :
    ∃ after, file.write fields tree = (.ok (), after) ∧
      after.locate file.path = .ok ⟨above ++ [name], some (.file text.toUTF8)⟩ ∧
      ((Entries.names entries).Nodup →
        ∃ changed, file.path.Site after name above changed ∧ (Entries.names changed).Nodup) := by
  obtain ⟨found, again⟩ := (site.putBeside text.toUTF8).moved text.toUTF8
  exact ⟨_, write_eq_of_text makes site written, found, fun distinct => again (Entries.nodup_put distinct _ _)⟩

end Writing

/-- A write that worked had a text, and a place for it once the directories were made. -/
theorem site_of_write {file : StorageFile} {name : String} (named : file.path.name? = some name) {fields : Fields}
    {tree after : FileTree} (ok : file.write fields tree = (.ok (), after)) :
    ∃ text made above entries, (Value.object fields).write layout = .ok text ∧
      tree.makeDirectories file.path.parent = (.ok (), made) ∧ file.path.Site made name above entries := by
  simp only [StorageFile.write, Path.sibling?_of_name? named] at ok
  split at ok
  · cases ok
  · next moved replaced =>
    unfold replace at replaced
    split at replaced
    · cases replaced
    · next made makes =>
      split at replaced
      · cases replaced
      · next text text_ok =>
        split at replaced
        · cases replaced
        · next written write_ok =>
          split at replaced
          · cases replaced
          · next moved' move_ok =>
            obtain ⟨above, entries, opens, _, plainBeside, rfl⟩ := FileTree.put_of_writeFile (beside_down name) write_ok
            obtain ⟨names, beside⟩ := FileTree.located_of_writeFile (beside_down name) write_ok
            obtain ⟨above', entries', site⟩ := Path.Site.of_takesFile named (FileTree.takesFile_of_moveFile move_ok)
              ⟨_, beside, nofun⟩
            -- the file beside is in the same directory, and all else there was there before it
            obtain ⟨rfl, rfl⟩ := (opens.put plainBeside (.file text.toUTF8)).unique site.opens
            have plain := site.plain
            rw [Entries.get?_put, if_neg (beside_ne name)] at plain
            have located := site.located opens
            exact ⟨text, made, _, entries, text_ok, makes, named, opens, located.1, located.2, plain, plainBeside⟩

/-- A write that worked left the text of the fields in the file. -/
theorem located_of_write {file : StorageFile} {fields : Fields} {tree after : FileTree}
    (ok : file.write fields tree = (.ok (), after)) :
    ∃ text names, (Value.object fields).write layout = .ok text ∧
      after.locate file.path = .ok ⟨names, some (.file text.toUTF8)⟩ := by
  cases named : file.path.name? with
  | none => simp [StorageFile.write, Path.sibling?, Path.withSuffix?, named] at ok
  | some name =>
    obtain ⟨text, made, above, entries, written, makes, site⟩ := site_of_write named ok
    obtain ⟨after', worked, found, _⟩ := write_of_text makes site written
    rw [ok] at worked
    cases worked
    exact ⟨text, _, written, found⟩

/-- What is read after a write that worked. -/
theorem records_of_write {file : StorageFile} {fields : Fields} {tree after : FileTree}
    (ok : file.write fields tree = (.ok (), after)) (proper : (Value.object fields).Proper)
    (report : Path → Option Cause → Notice) : file.records report after = (.ok (Value.settledFields fields), []) := by
  obtain ⟨text, names, written, located⟩ := located_of_write ok
  rw [records_of_file located, parse_toUTF8 written proper]

theorem save_of_records {file : StorageFile} {tree : FileTree} {fields : Fields} {notices : List Notice}
    (read : file.records .replacingFile tree = (.ok fields, notices)) (record : Value) :
    file.save record tree =
      ⟨(file.write (fields.put file.name record) tree).1, (file.write (fields.put file.name record) tree).2, notices⟩ := by
  simp only [save, read]

/-- Where there is no record, clearing leaves the tree as it is. -/
theorem clear_absent {file : StorageFile} {tree : FileTree} {fields : Fields} {notices : List Notice}
    (read : file.records .ignoringFile tree = (.ok fields, notices))
    (absent : (fields.get? file.name).bind Value.present? = none) : file.clear tree = ⟨.ok (), tree, notices⟩ := by
  simp only [clear, read, absent]

section Saved

variable {file : StorageFile} {tree : FileTree} {fields : Fields} {notices : List Notice}
  (read : file.records .replacingFile tree = (.ok fields, notices)) {record : Value}
  (saved : (file.save record tree).result = .ok ())
include read saved

/-- A save that worked left the text of the records that were read with the new one among them. -/
theorem located_of_save : ∃ text names, (Value.object (fields.put file.name record)).write layout = .ok text ∧
    (file.save record tree).device.locate file.path = .ok ⟨names, some (.file text.toUTF8)⟩ := by
  rw [save_of_records read] at saved ⊢
  exact located_of_write (Prod.ext saved rfl)

theorem records_of_save (proper : record.Proper) (report : Path → Option Cause → Notice) :
    file.records report (file.save record tree).device = (.ok (fields.put file.name record.settled), []) := by
  have textual := textual_of_records read
  rw [save_of_records read] at saved ⊢
  dsimp only at saved ⊢
  have wrote : file.write (fields.put file.name record) tree = (.ok (), _) := Prod.ext saved rfl
  rw [records_of_write wrote (textual.proper.put file.name proper), Value.settledFields_put textual]

end Saved

/-- What a save that worked needs has been read before. -/
theorem exists_records_of_save {file : StorageFile} {tree : FileTree} {record : Value}
    (saved : (file.save record tree).result = .ok ()) :
    ∃ fields notices, file.records .replacingFile tree = (.ok fields, notices) := by
  cases read : file.records .replacingFile tree with
  | mk found notices =>
    cases found with
    | error fault => simp [save, read] at saved
    | ok fields => exact ⟨fields, notices, rfl⟩

/-- A record that was saved is loaded, whatever else the tree holds. -/
theorem load_of_save {file : StorageFile} {tree : FileTree} {record : Value} (object : record.isObject = true)
    (proper : record.Proper) (saved : (file.save record tree).result = .ok ()) :
    file.load (file.save record tree).device = (.ok (some record.settled), []) := by
  obtain ⟨fields, notices, read⟩ := exists_records_of_save saved
  have after := records_of_save read saved proper .ignoringFile
  have kept : record.settled.isObject = true := by rw [Value.isObject_settled, object]
  simp only [load, after, Except.map, Entries.get?_put, if_true, Option.filter_some, kept]

end StorageFile

/-! ## Storage files in working order -/

/-- A tree has room for a storage file: its path ends with a name, the directories above it are there
or can be made, and with them neither its path nor the one beside it leads to a directory. The
directory above it is there already unless the path never leads up. -/
structure FileTree.Admits (tree : FileTree) (path : Path) : Prop where
  named : path.name? ≠ none
  makes : (tree.makeDirectories path.parent).1 = .ok ()
  target : (tree.makeDirectories path.parent).2.TakesFile path
  beside : ∀ beside ∈ path.sibling? ".tmp", (tree.makeDirectories path.parent).2.TakesFile beside
  steady : tree.hasDirectory path.parent = true ∨ ".." ∉ tree.partsFromTop path

instance (tree : FileTree) (path : Path) : Decidable (tree.Admits path) :=
  decidable_of_iff (path.name? ≠ none ∧ (tree.makeDirectories path.parent).1 = .ok () ∧
      (tree.makeDirectories path.parent).2.TakesFile path ∧
      (∀ beside ∈ path.sibling? ".tmp", (tree.makeDirectories path.parent).2.TakesFile beside) ∧
      (tree.hasDirectory path.parent = true ∨ ".." ∉ tree.partsFromTop path))
    ⟨fun ⟨named, makes, target, beside, steady⟩ => ⟨named, makes, target, beside, steady⟩,
      fun ⟨named, makes, target, beside, steady⟩ => ⟨named, makes, target, beside, steady⟩⟩

/-- Where a storage file is once the directories above it are made. It reads the same before and after. -/
structure Path.Place (path : Path) (tree made : FileTree) (name : String) (above : List String)
    (entries : List (String × Node)) : Prop where
  makes : tree.makeDirectories path.parent = (.ok (), made)
  site : path.Site made name above entries
  steady : ∀ file : StorageFile, file.path = path → ∀ report, file.records report made = file.records report tree

/-- Making the directories above a path that never leads up does not change what is read there. -/
private theorem records_of_grows {file : StorageFile} {tree made : FileTree} (grows : tree.Grows made)
    (down : ".." ∉ tree.partsFromTop file.path) {name : String} {above : List String} {entries : List (String × Node)}
    (site : file.path.Site made name above entries) (report : Path → Option Cause → Notice) :
    file.records report made = file.records report tree := by
  obtain ⟨fits, trail, follows, same⟩ := FileTree.locate_ok_iff.mp site.target
  have parts := FileTree.partsFromTop_congr grows.working file.path
  rw [parts] at follows
  have names : trail.names = tree.partsFromTop file.path := by
    rcases FileTree.follow_downwards (.nil made.top) down with ⟨found, ok, names⟩ | long | ⟨⟨fault, failed, _⟩, _⟩
    · rw [follows] at ok
      cases ok
      exact names
    · rw [follows] at long
      cases long
    · rw [follows] at failed
      cases failed
  simp only [Spot.mk.injEq] at same
  -- what the tree itself has there is what it has with the directories made
  have before : tree.top.at? trail.names = made.top.at? trail.names :=
    grows.at?_of_plain fun sub there => site.plain sub (same.2.trans there)
  have located := site.target
  rw [same.1, same.2] at located
  rcases FileTree.follow_downwards (.nil tree.top) down with ⟨found, ok, found_names⟩ | long | ⟨⟨fault, failed, other⟩, missing⟩
  · have same_names : found.names = trail.names := found_names.trans names.symm
    have located' : tree.locate file.path = .ok ⟨trail.names, made.top.at? trail.names⟩ :=
      FileTree.locate_ok_iff.mpr ⟨fits, found, ok, by rw [same_names, before]⟩
    simp only [StorageFile.records, FileTree.hasPath, FileTree.readFile, FileTree.find, located, located']
  · have stuck := (FileTree.follow_keeps grows.directories (.nil _) (.nil _) rfl _).2 long
    rw [follows] at stuck
    cases stuck
  · have nowhere : made.top.at? trail.names = none := by
      rw [← before, names]
      exact missing
    rw [nowhere] at located
    have located' : tree.locate file.path = .error fault := FileTree.locate_of_follow fits failed
    rw [StorageFile.records_of_absent located, StorageFile.records_of_unfound located' other]

theorem FileTree.Admits.place {tree : FileTree} {path : Path} (admits : tree.Admits path) :
    ∃ made name above entries, path.Place tree made name above entries := by
  obtain ⟨name, named⟩ := Option.ne_none_iff_exists'.mp admits.named
  obtain ⟨above, entries, site⟩ := Path.Site.of_takesFile named admits.target
    (admits.beside _ (Path.sibling?_of_name? named))
  refine ⟨_, name, above, entries, Prod.ext admits.makes rfl, site, ?_⟩
  rintro file rfl report
  rcases admits.steady with there | down
  · rw [FileTree.makeDirectories_of_hasDirectory there]
  · exact records_of_grows (FileTree.grows_makeDirectories tree file.path.parent) down site report

namespace Path.Place

/-- Where nothing has to be made any more. -/
theorem settled {path : Path} {tree made other : FileTree} {name : String} {above : List String}
    {entries changed : List (String × Node)} (place : path.Place tree made name above entries)
    (site : path.Site other name above changed) : path.Place other other name above changed :=
  ⟨FileTree.makeDirectories_of_opens place.makes site.opens, site, fun _ _ _ => rfl⟩

section Operations

variable {file : StorageFile} {tree made : FileTree} {name : String} {above : List String}
  {entries : List (String × Node)} (place : file.path.Place tree made name above entries)
include place

/-- A storage file in its place always reads, with a notice for what has to be passed over. -/
theorem records (report : Path → Option Cause → Notice) :
    ∃ fields notices, file.records report tree = (.ok fields, notices) := by
  rw [← place.steady file rfl]
  cases there : Entries.get? entries name with
  | none => exact ⟨_, _, StorageFile.records_of_absent (there ▸ place.site.target) report⟩
  | some node =>
    cases node with
    | directory sub => exact absurd there (place.site.plain sub)
    | file content =>
      rw [StorageFile.records_of_file (there ▸ place.site.target)]
      cases StorageFile.parse content with
      | error cause => exact ⟨_, _, rfl⟩
      | ok fields => exact ⟨_, _, rfl⟩

/-- Writing what texts can hold works and leaves the file in its place. -/
theorem write {fields : Fields} (writable : (Value.object fields).writeFault? = none)
    (proper : (Value.object fields).Proper) :
    ∃ after, file.write fields tree = (.ok (), after) ∧
      (∀ report, file.records report after = (.ok (Value.settledFields fields), [])) ∧
      ((Entries.names entries).Nodup →
        ∃ changed, file.path.Place after after name above changed ∧ (Entries.names changed).Nodup) := by
  obtain ⟨text, written⟩ : ∃ text, (Value.object fields).write StorageFile.layout = .ok text :=
    Value.exists_write_iff.mpr ((Value.writeFault?_eq_none_iff _).mp writable)
  obtain ⟨after, ok, _, again⟩ := StorageFile.write_of_text place.makes place.site written
  refine ⟨after, ok, StorageFile.records_of_write ok proper, fun distinct => ?_⟩
  obtain ⟨changed, site, nodup⟩ := again distinct
  exact ⟨changed, place.settled site, nodup⟩

/-- Saving a record that has a text puts it among the other records. -/
theorem save {fields : Fields} {notices : List Notice}
    (read : file.records .replacingFile tree = (.ok fields, notices)) {record : Value}
    (writable : record.writeFault? = none) (proper : record.Proper) :
    ∃ after, file.save record tree = ⟨.ok (), after, notices⟩ ∧
      (∀ report, file.records report after = (.ok (fields.put file.name record.settled), [])) ∧
      ((Entries.names entries).Nodup →
        ∃ changed, file.path.Place after after name above changed ∧ (Entries.names changed).Nodup) := by
  have textual := StorageFile.textual_of_records read
  obtain ⟨after, ok, found, again⟩ := place.write ((Value.writeFault?_put textual file.name record).mpr writable)
    (textual.proper.put file.name proper)
  rw [Value.settledFields_put textual] at found
  exact ⟨after, by rw [StorageFile.save_of_records read, ok], found, again⟩

/-- Saving a record that has no text fails, and all that is left of it are the directories above the file. -/
theorem save_refused {fields : Fields} {notices : List Notice}
    (read : file.records .replacingFile tree = (.ok fields, notices)) {record : Value}
    (refused : record.writeFault? ≠ none) :
    ∃ failure, file.save record tree = ⟨.error (.unavailable failure), made, notices⟩ := by
  have textual := StorageFile.textual_of_records read
  cases fault : (Value.object (fields.put file.name record)).writeFault? with
  | none => exact absurd ((Value.writeFault?_put textual file.name record).mp fault) refused
  | some fault' =>
    have failed := StorageFile.write_of_no_text place.makes place.site (Value.write_error_iff.mpr fault)
    exact ⟨_, by rw [StorageFile.save_of_records read, failed]⟩

/-- Clearing a record takes it out from among the others. -/
theorem clear {fields : Fields} {notices : List Notice}
    (read : file.records .ignoringFile tree = (.ok fields, notices))
    (present : (fields.get? file.name).bind Value.present? ≠ none) :
    ∃ after, file.clear tree = ⟨.ok (), after, notices⟩ ∧
      (∀ report, file.records report after = (.ok (fields.erase file.name), [])) ∧
      ((Entries.names entries).Nodup →
        ∃ changed, file.path.Place after after name above changed ∧ (Entries.names changed).Nodup) := by
  have textual := (StorageFile.textual_of_records read).erase file.name
  obtain ⟨after, ok, found, again⟩ := place.write textual.fault textual.proper
  have same : Value.settledFields (fields.erase file.name) = fields.erase file.name := by
    simpa [Value.settled] using textual.settled
  rw [same] at found
  obtain ⟨record, there⟩ := Option.ne_none_iff_exists'.mp present
  refine ⟨after, ?_, found, again⟩
  simp only [StorageFile.clear, read, there, ok]

end Operations

end Path.Place

end HomeTiles
