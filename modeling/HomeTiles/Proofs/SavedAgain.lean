import HomeTiles.Proofs.SavedFiles

/-!
# Saving again: a storage file that does not change any more

A value and what its text gives back have the same text (`Value.write_settled`), and
putting a record under its name a second time moves nothing. So once a record was
saved, saving it again or saving what is loaded leaves the bytes of the file as they
are, and where the first save failed a second one does not reach the file either
(`save_again`). A tree has room for a storage file where both its path and the one
beside it take a file once the directories above are made (`FileTree.HasRoom`); there
a record that has a text is saved. Which records two files hold is compared only where
neither spells half of a surrogate pair alone, since the texts of a value have no such
halves.
-/

namespace HomeTiles

/-! ## The text of a settled value -/

namespace Value

private theorem renderItems_settled {layout : Layout} {items : List Value}
    (same : ∀ x ∈ items, ∀ level, x.settled.render layout level = x.render layout level) (level : Nat) :
    renderItems layout level (settledItems items) = renderItems layout level items := by
  induction items with
  | nil => rfl
  | cons x rest ih =>
    obtain ⟨first, others⟩ := List.forall_mem_cons.mp same
    rw [settledItems, renderItems, renderItems, first, ih others]
    cases rest <;> rfl

private theorem renderFields_settled {layout : Layout} {fields : Fields}
    (same : ∀ entry ∈ fields, ∀ level, entry.2.settled.render layout level = entry.2.render layout level)
    (level : Nat) : renderFields layout level (settledFields fields) = renderFields layout level fields := by
  induction fields with
  | nil => rfl
  | cons entry rest ih =>
    obtain ⟨k, x⟩ := entry
    obtain ⟨first, others⟩ := List.forall_mem_cons.mp same
    rw [settledFields, renderFields, renderFields, first, ih others]
    cases rest <;> rfl

/-- All NaNs have the same text. -/
theorem render_settled (layout : Layout) (v : Value) (level : Nat) :
    v.settled.render layout level = v.render layout level := by
  induction v using byParts generalizing level with
  | float x => cases x <;> rfl
  | array items ih =>
    cases items with
    | nil => rfl
    | cons x rest =>
      have inner : renderItems layout _ (settledItems (x :: rest)) = _ := renderItems_settled ih (level + 1)
      rw [settled]
      rw [settledItems] at inner ⊢
      rw [render, render, inner] <;> simp
  | object fields ih =>
    cases fields with
    | nil => rfl
    | cons entry rest =>
      obtain ⟨k, x⟩ := entry
      have inner : renderFields layout _ (settledFields ((k, x) :: rest)) = _ := renderFields_settled ih (level + 1)
      rw [settled]
      rw [settledFields] at inner ⊢
      rw [render, render, inner] <;> simp
  | _ => rfl

theorem writeFault?_settled (v : Value) : v.settled.writeFault? = v.writeFault? := by
  induction v using byParts with
  | array items ih =>
    rw [settled, writeFault?, writeFault?]
    induction items with
    | nil => rfl
    | cons x rest further =>
      obtain ⟨first, others⟩ := List.forall_mem_cons.mp ih
      rw [settledItems, itemsFault?, itemsFault?, first, further others]
  | object fields ih =>
    rw [settled, writeFault?, writeFault?]
    induction fields with
    | nil => rfl
    | cons entry rest further =>
      obtain ⟨k, x⟩ := entry
      obtain ⟨first, others⟩ := List.forall_mem_cons.mp ih
      rw [settledFields, fieldsFault?, fieldsFault?, first, further others]
  | _ => rfl

theorem write_settled (layout : Layout) (v : Value) : v.settled.write layout = v.write layout := by
  rw [write, write, writeFault?_settled, render_settled]

end Value

/-! ## What a file holds after a write -/

namespace FileTree

theorem readFile_of_file {tree : FileTree} {path : Path} {names : List String} {content : ByteArray}
    (located : tree.locate path = .ok ⟨names, some (.file content)⟩) : tree.readFile path = .ok content := by
  rw [readFile, find, located]

theorem readFile_of_directory {tree : FileTree} {path : Path} {names : List String} {entries : List (String × Node)}
    (located : tree.locate path = .ok ⟨names, some (.directory entries)⟩) : tree.readFile path = .error .isADirectory := by
  rw [readFile, find, located]

end FileTree

namespace StorageFile

section Writes

variable {file : StorageFile} {name : String} (named : file.path.name? = some name) {tree : FileTree}
include named

/-- A file with a text still has it after the fields of that text were written, whether or not the write worked. -/
theorem readFile_write_same {names : List String} {fields : Fields} {text : String}
    (located : tree.locate file.path = .ok ⟨names, some (.file text.toUTF8)⟩)
    (written : (Value.object fields).write layout = .ok text) :
    (file.write fields tree).2.readFile file.path = tree.readFile file.path := by
  cases wrote : file.write fields tree with
  | mk result after =>
    cases result with
    | error fault => rw [write_failed_at_file named located wrote]
    | ok _ =>
      obtain ⟨text', names', written', located'⟩ := located_of_write wrote
      rw [written] at written'
      cases written'
      rw [FileTree.readFile_of_file located, FileTree.readFile_of_file located']

/-- Where the path leads to a directory nothing is written there, and it stays a directory. -/
theorem directory_of_write {names : List String} {entries : List (String × Node)}
    (located : tree.locate file.path = .ok ⟨names, some (.directory entries)⟩) (fields : Fields) :
    ∃ fault after others, file.write fields tree = (.error fault, after) ∧
      after.locate file.path = .ok ⟨names, some (.directory others)⟩ := by
  cases wrote : file.write fields tree with
  | mk result after =>
    cases result with
    | error fault =>
      obtain ⟨others, located'⟩ := (keeps_failed_write named wrote).directory located
      exact ⟨fault, after, others, rfl, located'⟩
    | ok _ =>
      obtain ⟨_, made, above, entries', _, makes, site⟩ := site_of_write named wrote
      rw [FileTree.makeDirectories_of_hasDirectory (FileTree.hasDirectory_parent named located)] at makes
      cases makes
      have target := located.symm.trans site.target
      simp only [Except.ok.injEq, Spot.mk.injEq] at target
      exact absurd target.2.symm (site.plain entries)

/-- A write that failed although there was a text and the directories could be made will fail again, and the file is
then as the first one left it. -/
theorem readFile_failed_again {fields : Fields} {after : FileTree} {fault : Fault}
    (makes : (tree.makeDirectories file.path.parent).1 = .ok ()) {text : String}
    (written : (Value.object fields).write layout = .ok text) (failed : file.write fields tree = (.error fault, after))
    (others : Fields) : (file.write others after).2.readFile file.path = after.readFile file.path := by
  rcases after_failed_write named failed with rfl | ⟨⟨content, beside⟩, untaken⟩
  · cases wrote : file.write others (tree.makeDirectories file.path.parent).2 with
    | mk result again =>
      have stays := FileTree.makeDirectories_again (Prod.ext makes rfl)
      cases result with
      | ok _ =>
        -- the place that was good for the second write was there for the first one
        obtain ⟨_, made, above, entries, _, makes', site⟩ := site_of_write named wrote
        rw [stays] at makes'
        cases makes'
        obtain ⟨_, worked, _⟩ := write_of_text (Prod.ext makes rfl) site written
        rw [failed] at worked
        cases worked
      | error fault' =>
        have left := after_failed_write named wrote
        rw [stays] at left
        rcases left with rfl | ⟨⟨content, beside⟩, untaken⟩
        · rfl
        · obtain ⟨names, sub, others, before, later⟩ := directory_of_untaken named beside untaken
          rw [FileTree.readFile_of_directory before, FileTree.readFile_of_directory later]
  · obtain ⟨names, sub, entries, _, located⟩ := directory_of_untaken named beside untaken
    obtain ⟨_, again, _, wrote, located'⟩ := directory_of_write named located others
    rw [wrote, FileTree.readFile_of_directory located, FileTree.readFile_of_directory located']

end Writes

/-! ## Saving once more -/

/-- Among records out of a file a record can be written just when it has a text itself. -/
theorem exists_write_put_iff {fields : Fields} (textual : (Value.object fields).Textual) (name : String) {record : Value} :
    (∃ text, (Value.object (fields.put name record)).write layout = .ok text) ↔ record.Writable := by
  rw [Value.exists_write_iff, ← Value.writeFault?_eq_none_iff, Value.writeFault?_put textual,
    Value.writeFault?_eq_none_iff]

/-- The text of a record that was read back is the one that was written. -/
theorem write_put_settled {fields : Fields} (textual : (Value.object fields).Textual) (name : String) (record : Value) :
    (Value.object (fields.put name record.settled)).write layout = (Value.object (fields.put name record)).write layout := by
  rw [← Value.settledFields_put textual, ← Value.settled, Value.write_settled]

section Saves

variable {file : StorageFile} (named : file.path.name? ≠ none) {tree : FileTree} {record : Value}
include named

/-- Once a record was saved, saving what gives back the same leaves the file as it is. -/
theorem readFile_save_same (proper : record.Proper) (saved : (file.save record tree).result = .ok ()) {same : Value}
    (settles : same.settled = record.settled) :
    (file.save same (file.save record tree).device).device.readFile file.path =
      (file.save record tree).device.readFile file.path := by
  obtain ⟨name, named⟩ := Option.ne_none_iff_exists'.mp named
  obtain ⟨fields, notices, read⟩ := exists_records_of_save saved
  obtain ⟨text, names, written, located⟩ := located_of_save read saved
  have textual := textual_of_records read
  rw [save_of_records (records_of_save read saved proper .replacingFile), Entries.put_put]
  refine readFile_write_same named located ?_
  rw [← write_put_settled textual, settles, write_put_settled textual, written]

/-- A save that failed although the record has a text and the directories could be made did not reach the file, and no
other one will. -/
theorem readFile_save_failed (makes : (tree.makeDirectories file.path.parent).1 = .ok ()) (writable : record.Writable)
    {fault : Fault} (failed : (file.save record tree).result = .error fault) (other : Value) :
    (file.save other (file.save record tree).device).device.readFile file.path =
      (file.save record tree).device.readFile file.path := by
  obtain ⟨name, named⟩ := Option.ne_none_iff_exists'.mp named
  cases read : file.records .replacingFile tree with
  | mk found notices =>
    cases found with
    | error stuck => simp only [save, read]
    | ok fields =>
      have textual := textual_of_records read
      rw [save_of_records read] at failed ⊢
      dsimp only at failed ⊢
      obtain ⟨text, written⟩ := (exists_write_put_iff textual file.name).mpr writable
      cases read' : file.records .replacingFile (file.write (fields.put file.name record) tree).2 with
      | mk found' notices' =>
        cases found' with
        | error stuck => simp only [save, read']
        | ok fields' =>
          rw [save_of_records read']
          exact readFile_failed_again named makes written (Prod.ext failed rfl) _

/-- What follows a save leaves the file as it is, if it gives back the same whenever that save worked. -/
theorem readFile_save_again (makes : (tree.makeDirectories file.path.parent).1 = .ok ()) (proper : record.Proper)
    (writable : record.Writable) {other : Value}
    (settles : (file.save record tree).result = .ok () → other.settled = record.settled) :
    (file.save other (file.save record tree).device).device.readFile file.path =
      (file.save record tree).device.readFile file.path := by
  cases worked : (file.save record tree).result with
  | ok _ => exact readFile_save_same named proper worked (settles worked)
  | error fault => exact readFile_save_failed named makes writable worked other

end Saves

/-- A write that works in a tree works in every other one where there is a file and nothing in the way beside it. -/
theorem exists_write_of_write {file : StorageFile} {name : String} (named : file.path.name? = some name)
    {tree after other : FileTree} {fields : Fields} (ok : file.write fields tree = (.ok (), after)) {names : List String}
    {content : ByteArray} (located : other.locate file.path = .ok ⟨names, some (.file content)⟩)
    (free : other.hasDirectory (file.path.parent.child (name ++ ".tmp")) = false) :
    ∃ after', file.write fields other = (.ok (), after') := by
  obtain ⟨text, made, above, entries, written, makes, site⟩ := site_of_write named ok
  obtain ⟨fits, short, _⟩ := (FileTree.locate_child_iff (beside_down name)).mp site.beside
  have there := located
  rw [← Path.child_of_name? named] at there
  obtain ⟨above', entries', opens⟩ := FileTree.opens_of_locate_child there
  have beside := (FileTree.locate_child_iff (beside_down name)).mpr ⟨fits, short, above', entries', opens, rfl⟩
  have takes : other.TakesFile file.path := ⟨_, located, by simp⟩
  have takesBeside : other.TakesFile (file.path.parent.child (name ++ ".tmp")) := by
    refine ⟨_, beside, fun sub taken => ?_⟩
    rw [FileTree.hasDirectory, FileTree.find, beside] at free
    dsimp only at taken free
    rw [taken] at free
    cases free
  obtain ⟨_, _, site'⟩ := Path.Site.of_takesFile named takes takesBeside
  have stays := FileTree.makeDirectories_of_hasDirectory (FileTree.hasDirectory_parent named located)
  obtain ⟨after', worked, _⟩ := write_of_text stays site' written
  exact ⟨after', worked⟩

/-- The same records with one more give the same bytes. -/
theorem readFile_save_alike {file : StorageFile} {tree other : FileTree} {fields : Fields} {notices notices' : List Notice}
    (read : file.records .replacingFile tree = (.ok fields, notices))
    (read' : file.records .replacingFile other = (.ok fields, notices')) {record : Value}
    (saved : (file.save record tree).result = .ok ()) (saved' : (file.save record other).result = .ok ()) :
    (file.save record other).device.readFile file.path = (file.save record tree).device.readFile file.path := by
  obtain ⟨text, _, written, there⟩ := located_of_save read saved
  obtain ⟨text', _, written', there'⟩ := located_of_save read' saved'
  cases written.symm.trans written'
  rw [FileTree.readFile_of_file there, FileTree.readFile_of_file there']

end StorageFile

/-! ## Halves of surrogate pairs -/

open JsonReader in
/-- Whether an escape in a text spells half of a surrogate pair without the other half beside it. -/
def JsonReader.spellsHalf : List Char → Bool
  | '\\' :: 'u' :: a :: b :: c :: d :: rest =>
    if (unit? a b c d).any opensPair then
      match rest with
      | '\\' :: 'u' :: e :: f :: g :: h :: more => !(unit? e f g h).any closesPair || spellsHalf more
      | _ => true
    else (unit? a b c d).any closesPair || spellsHalf rest
  | '\\' :: _ :: rest => spellsHalf rest
  | _ :: rest => spellsHalf rest
  | [] => false

/-- Whether the bytes are those of a text that spells such a half. -/
def StorageFile.spellsHalf (content : ByteArray) : Bool :=
  (String.fromUTF8? content).any fun text => JsonReader.spellsHalf text.toList

/-! ## Room for a storage file -/

/-- A tree has room for a storage file: its path ends with a name, the directories above it are there or can be made,
and with them neither its path nor the one beside it leads to a directory. -/
structure FileTree.HasRoom (tree : FileTree) (path : Path) : Prop where
  named : path.name? ≠ none
  makes : (tree.makeDirectories path.parent).1 = .ok ()
  target : (tree.makeDirectories path.parent).2.TakesFile path
  beside : ∀ beside ∈ path.sibling? ".tmp", (tree.makeDirectories path.parent).2.TakesFile beside

instance (tree : FileTree) (path : Path) : Decidable (tree.HasRoom path) :=
  decidable_of_iff (path.name? ≠ none ∧ (tree.makeDirectories path.parent).1 = .ok () ∧
      (tree.makeDirectories path.parent).2.TakesFile path ∧
      (∀ beside ∈ path.sibling? ".tmp", (tree.makeDirectories path.parent).2.TakesFile beside))
    ⟨fun ⟨named, makes, target, beside⟩ => ⟨named, makes, target, beside⟩,
      fun ⟨named, makes, target, beside⟩ => ⟨named, makes, target, beside⟩⟩

namespace FileTree.HasRoom

theorem site {tree : FileTree} {path : Path} (room : tree.HasRoom path) :
    ∃ name above entries, path.Site (tree.makeDirectories path.parent).2 name above entries := by
  obtain ⟨name, named⟩ := Option.ne_none_iff_exists'.mp room.named
  obtain ⟨above, entries, site⟩ := Path.Site.of_takesFile named room.target
    (room.beside _ (Path.sibling?_of_name? named))
  exact ⟨name, above, entries, site⟩

theorem of_site {tree made : FileTree} {path : Path} (makes : tree.makeDirectories path.parent = (.ok (), made))
    {name : String} {above : List String} {entries : List (String × Node)} (site : path.Site made name above entries) :
    tree.HasRoom path := by
  refine ⟨by simp [site.named], by rw [makes], ?_, ?_⟩
  · rw [makes]
    exact ⟨_, site.target, site.plain⟩
  · rw [makes, Path.sibling?_of_name? site.named]
    rintro _ ⟨⟩
    exact ⟨_, site.beside, site.plainBeside⟩

variable {file : StorageFile} {tree : FileTree}

/-- Where there is room the records can be read: the path is not too long. -/
theorem records (room : tree.HasRoom file.path) (report : Path → Option Cause → Notice) :
    ∃ fields notices, file.records report tree = (.ok fields, notices) := by
  cases read : file.records report tree with
  | mk found notices =>
    cases found with
    | ok fields => exact ⟨fields, notices, rfl⟩
    | error fault =>
      -- what is too long to be followed is so in the tree with the directories as well
      obtain ⟨_, long⟩ := StorageFile.locate_of_records_fault read
      obtain ⟨spot, located, _⟩ := room.target
      obtain ⟨fits, trail, follows, _⟩ := FileTree.locate_ok_iff.mp located
      have grows := FileTree.grows_makeDirectories tree file.path.parent
      rw [FileTree.partsFromTop_congr grows.working] at follows
      cases before : FileTree.follow tree.top [] (tree.partsFromTop file.path) with
      | ok found =>
        rw [FileTree.locate_ok_iff.mpr ⟨fits, found, before, rfl⟩] at long
        cases long
      | error fault =>
        have same := FileTree.locate_of_follow fits before
        rw [long] at same
        cases same
        rw [(FileTree.follow_keeps grows.directories (.nil _) (.nil _) rfl _).2 before] at follows
        cases follows

/-- Where there is room a record that has a text is saved, and then there is still room unless a name stood twice in a
directory. -/
theorem save (room : tree.HasRoom file.path) {record : Value} (writable : record.Writable) :
    (file.save record tree).result = .ok () ∧
      (tree.top.Distinct → (file.save record tree).device.HasRoom file.path ∧
        (file.save record tree).device.top.Distinct) := by
  obtain ⟨name, above, entries, site⟩ := room.site
  obtain ⟨fields, notices, read⟩ := room.records .replacingFile
  have textual := StorageFile.textual_of_records read
  obtain ⟨text, written⟩ := (StorageFile.exists_write_put_iff textual file.name).mpr writable
  have makes : tree.makeDirectories file.path.parent = (.ok (), _) := Prod.ext room.makes rfl
  obtain ⟨after, worked, _, again⟩ := StorageFile.write_of_text makes site written
  rw [StorageFile.save_of_records read, worked]
  refine ⟨rfl, fun distinct => ?_⟩
  have made := (FileTree.grows_makeDirectories tree file.path.parent).distinct distinct
  obtain ⟨changed, site', _⟩ := again (made _ _ site.opens.there)
  exact ⟨.of_site (FileTree.makeDirectories_of_opens makes site'.opens) site',
    StorageFile.distinct_of_write site.named distinct worked⟩

/-- With its directories made a tree still has room. -/
theorem made {path : Path} (room : tree.HasRoom path) : (tree.makeDirectories path.parent).2.HasRoom path := by
  obtain ⟨name, above, entries, site⟩ := room.site
  exact .of_site (FileTree.makeDirectories_again (Prod.ext room.makes rfl)) site

/-- Where there is room a record that has no text makes the directories and leaves nothing else. -/
theorem save_refused (room : tree.HasRoom file.path) {record : Value} (refused : ¬record.Writable) :
    (file.save record tree).result ≠ .ok () ∧
      (file.save record tree).device = (tree.makeDirectories file.path.parent).2 := by
  obtain ⟨name, above, entries, site⟩ := room.site
  obtain ⟨fields, notices, read⟩ := room.records .replacingFile
  cases written : (Value.object (fields.put file.name record)).write StorageFile.layout with
  | ok text =>
    exact absurd ((StorageFile.exists_write_put_iff (StorageFile.textual_of_records read) file.name).mp ⟨text, written⟩)
      refused
  | error fault =>
    have makes : tree.makeDirectories file.path.parent = (.ok (), _) := Prod.ext room.makes rfl
    rw [StorageFile.save_of_records read, StorageFile.write_of_no_text makes site written]
    exact ⟨by simp, rfl⟩

end FileTree.HasRoom

/-- Saving a record that has a text settles the bytes of a storage file whose directories can be made: saving the record
again leaves them, and so does saving what is loaded then. Where there is room each of these saves works. Files that
hold the same records, in whatever form that spells no half of a surrogate pair alone, get the same bytes: a save works
for the one if it works for the other. -/
theorem save_again {file : StorageFile} (named : file.path.name? ≠ none) {tree : FileTree}
    (makes : (tree.makeDirectories file.path.parent).1 = .ok ()) {record : Value} (object : record.isObject = true)
    (proper : record.Proper) (writable : record.Writable) :
    let saved := (file.save record tree).device
    (file.save record saved).device.readFile file.path = saved.readFile file.path ∧
    (∀ loaded, (file.load saved).1 = .ok loaded →
      (file.save (loaded.getD .null) saved).device.readFile file.path = saved.readFile file.path) ∧
    (tree.HasRoom file.path → (file.save record tree).result = .ok () ∧
      (file.load saved).1 = .ok (some record.settled) ∧
      (tree.top.Distinct →
        (file.save record saved).result = .ok () ∧ (file.save record.settled saved).result = .ok ())) ∧
    ∀ other names names' content content' fields,
      tree.locate file.path = .ok ⟨names, some (.file content)⟩ →
      other.locate file.path = .ok ⟨names', some (.file content')⟩ →
      StorageFile.parse content = .ok fields → StorageFile.parse content' = .ok fields →
      StorageFile.spellsHalf content = false → StorageFile.spellsHalf content' = false →
      (∀ beside ∈ file.path.sibling? ".tmp", tree.hasDirectory beside = false ∧ other.hasDirectory beside = false) →
      ((file.save record other).result = .ok () ↔ (file.save record tree).result = .ok ()) ∧
      ((file.save record tree).result = .ok () →
        (file.save record other).device.readFile file.path = saved.readFile file.path) := by
  intro saved
  have settled_writable : record.settled.Writable := by
    rw [← Value.writeFault?_eq_none_iff, Value.writeFault?_settled, Value.writeFault?_eq_none_iff]
    exact writable
  refine ⟨StorageFile.readFile_save_again named makes proper writable fun _ => rfl, fun loaded found => ?_,
    fun room => ?_, ?_⟩
  · refine StorageFile.readFile_save_again named makes proper writable fun worked => ?_
    rw [StorageFile.load_of_save object proper worked] at found
    cases found
    exact record.settled_settled
  · obtain ⟨worked, again⟩ := room.save writable
    refine ⟨worked, by rw [StorageFile.load_of_save object proper worked], fun distinct => ?_⟩
    exact ⟨((again distinct).1.save writable).1, ((again distinct).1.save settled_writable).1⟩
  · intro other names names' content content' fields located located' parsed parsed' _ _ free
    obtain ⟨name, named⟩ := Option.ne_none_iff_exists'.mp named
    obtain ⟨free, free'⟩ := free _ (Path.sibling?_of_name? named)
    have read := StorageFile.records_of_file located .replacingFile
    have read' := StorageFile.records_of_file located' .replacingFile
    rw [parsed] at read
    rw [parsed'] at read'
    have both : (file.save record other).result = .ok () ↔ (file.save record tree).result = .ok () := by
      rw [StorageFile.save_of_records read, StorageFile.save_of_records read']
      constructor
      · intro worked
        obtain ⟨after, ok⟩ := StorageFile.exists_write_of_write named (Prod.ext worked rfl) located free
        exact congrArg Prod.fst ok
      · intro worked
        obtain ⟨after, ok⟩ := StorageFile.exists_write_of_write named (Prod.ext worked rfl) located' free'
        exact congrArg Prod.fst ok
    exact ⟨both, fun worked => StorageFile.readFile_save_alike read read' worked (both.mpr worked)⟩

/-- Two files with the same records, one of them with blanks, a name twice and escapes, one for each half of a character;
a record with a NaN is put between other records. -/
theorem save_again_over_other_spelling :
    let file : StorageFile := ⟨Path.ofText "p.json", "n"⟩
    let holding (text : String) : FileTree := ⟨.directory [("p.json", .file text.toUTF8)], []⟩
    let plain := holding "\x7b\"m\": [1.5], \"n\": \x7b\x7d, \"o\": \"🏠\"\x7d"
    let other := holding "\x7b \"m\": 0, \"\\u006e\": \x7b\x7d,\n\"m\" : [15e-1],\"o\":\"\\ud83c\\udfe0\" \x7d"
    let record : Value := .object [("a", .float (.nan true))]
    let saved := (file.save record plain).device
    plain.HasRoom file.path ∧ record.isObject = true ∧ record.Proper ∧ record.Writable ∧
      (file.save record saved).device.readFile file.path = saved.readFile file.path ∧
      (file.save record other).device.readFile file.path = saved.readFile file.path := by
  intro file holding plain other record saved
  have room : plain.HasRoom file.path := by decide +kernel
  have object : record.isObject = true := rfl
  have proper : record.Proper := ⟨by decide, trivial, trivial⟩
  have writable : record.Writable := by decide +kernel
  obtain ⟨again, _, works, alike⟩ := save_again room.named room.makes object proper writable
  let fields : Fields := [("m", .array [.float (.ofDecimal false 15 (-1))]), ("n", .object []), ("o", .text "🏠")]
  have same := (alike other _ _ _ _ fields
    rfl rfl (by decide +kernel) (by decide +kernel) (by decide +kernel) (by decide +kernel) (by decide +kernel)).2
    (works room).1
  exact ⟨room, object, proper, writable, again, same⟩

end HomeTiles
