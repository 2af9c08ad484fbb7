import HomeTiles.Proofs.StorageFiles

/-!
# Failed file writes: what a storage file holds after one

What is found in a storage file depends on where its path leads and on nothing else
(`StorageFile.records_fst`). A write that fails may have made directories and left
a file beside (`StorageFile.after_failed_write`), but if the path leads to a file the
tree is as it was (`StorageFile.write_failed_at_file`). Where there is no file yet
the same is found as before, nothing, if the directory of the path is there or the
path goes straight down by names that are not too long (`FileTree.Straight`).
-/

namespace HomeTiles

/-! ## The directory above a path -/

namespace Path

/-- The text of a path below another one goes on from a text that is not shorter than that one's, unless that is
a point. -/
theorem exists_text_child (path : Path) : ∃ front : String, (∀ name, (path.child name).text = front ++ name) ∧
    path.text.utf8ByteSize ≤ max 1 front.utf8ByteSize := by
  obtain ⟨start, parts⟩ := path
  obtain ⟨front, ends, shorter⟩ : ∃ front : String, (∀ name, "/".intercalate (parts ++ [name]) = front ++ name) ∧
      ("/".intercalate parts).utf8ByteSize ≤ front.utf8ByteSize := by
    by_cases none : parts = []
    · subst none
      exact ⟨"", fun name => String.empty_append.symm, Nat.le_refl _⟩
    · refine ⟨"/".intercalate parts ++ "/", fun name => ?_, ?_⟩
      · rw [String.intercalate_append_of_ne_nil none (List.cons_ne_nil _ _), String.intercalate_singleton]
      · rw [String.utf8ByteSize_append]
        exact Nat.le_add_right _ _
  cases start with
  | working =>
    refine ⟨front, fun name => by simp [text, child, ends], ?_⟩
    have point : ".".utf8ByteSize = 1 := by decide
    simp only [text]
    split_ifs <;> omega
  | root =>
    refine ⟨"/" ++ front, fun name => by simp [text, child, ends, String.append_assoc], ?_⟩
    simp only [text, String.utf8ByteSize_append]
    omega
  | doubleRoot =>
    refine ⟨"//" ++ front, fun name => by simp [text, child, ends, String.append_assoc], ?_⟩
    simp only [text, String.utf8ByteSize_append]
    omega

namespace Fits

/-- A path below which another one fits, by whatever name, fits itself. -/
theorem above {path : Path} {name : String} (fits : (path.child name).Fits) : path.Fits := by
  obtain ⟨front, ends, shorter⟩ := path.exists_text_child
  have short := fits.short
  have nameable := fits.nameable
  rw [ends, String.utf8ByteSize_append] at short
  rw [child, List.any_append, Bool.or_eq_false_iff] at nameable
  have few : 1 ≤ FileTree.pathLimit := by decide
  exact ⟨nameable.1, by omega⟩

/-- What fits with something after its name fits without. -/
theorem of_append {path : Path} {name suffix : String} (fits : (path.child (name ++ suffix)).Fits) :
    (path.child name).Fits := by
  obtain ⟨front, ends, _⟩ := path.exists_text_child
  have short := fits.short
  have nameable := fits.nameable
  rw [ends, String.utf8ByteSize_append, String.utf8ByteSize_append] at short
  rw [child, List.any_append, Bool.or_eq_false_iff] at nameable
  have whole : (name ++ suffix).toList.contains '\x00' = false := by simpa using nameable.2
  rw [String.toList_append, List.contains_append, Bool.or_eq_false_iff] at whole
  refine ⟨?_, by rw [ends, String.utf8ByteSize_append]; omega⟩
  rw [child, List.any_append, nameable.1, List.any_cons, whole.1]
  rfl

end Fits
end Path

namespace FileTree

/-- Above a path that leads somewhere there is a directory. -/
theorem opens_of_locate_child {tree : FileTree} {path : Path} {last : String} {spot : Spot}
    (located : tree.locate (path.child last) = .ok spot) : ∃ above entries, tree.Opens path above entries := by
  rw [locate_ok_iff, partsFromTop_child, follow_append] at located
  obtain ⟨_, trail, follows, rfl⟩ := located
  cases first : follow tree.top [] (tree.partsFromTop path) with
  | error fault => simp [first] at follows
  | ok front =>
    have leads : front.Leads tree.top := leads_follow (.nil _) first
    simp only [first] at follows
    obtain ⟨entries, here⟩ := directory_of_follow follows
    exact ⟨front.names, entries, ⟨front, first, rfl⟩, leads.node? ▸ here⟩

/-- Where a path leads somewhere its directory does not have to be made. -/
theorem hasDirectory_parent {tree : FileTree} {path : Path} {name : String} (named : path.name? = some name)
    {spot : Spot} (located : tree.locate path = .ok spot) : tree.hasDirectory path.parent = true := by
  rw [← Path.child_of_name? named] at located
  obtain ⟨above, entries, opens⟩ := opens_of_locate_child located
  exact hasDirectory_of_opens (locate_ok_iff.mp located).1.above opens

/-! ## Trees that keep their directories -/

/-- A tree that another one has become: its directories are still there. -/
structure Keeps (before after : FileTree) : Prop where
  working : after.working = before.working
  directories : before.top.Keeps after.top

theorem Grows.keeps {before after : FileTree} (grows : before.Grows after) : before.Keeps after :=
  ⟨grows.working, grows.directories⟩

theorem Keeps.trans {first second third : FileTree} (one : first.Keeps second) (two : second.Keeps third) :
    first.Keeps third := by
  refine ⟨two.working.trans one.working, fun names entries there => ?_⟩
  obtain ⟨others, kept⟩ := one.directories names entries there
  exact two.directories names others kept

theorem Keeps.directory {before after : FileTree} (keeps : before.Keeps after) {path : Path} {names : List String}
    {entries : List (String × Node)} (located : before.locate path = .ok ⟨names, some (.directory entries)⟩) :
    ∃ others, after.locate path = .ok ⟨names, some (.directory others)⟩ := by
  obtain ⟨fits, trail, follows, same⟩ := locate_ok_iff.mp located
  simp only [Spot.mk.injEq] at same
  obtain ⟨rfl, there⟩ := same
  obtain ⟨trail', follows', names⟩ := (follow_keeps keeps.directories (.nil _) (.nil _) rfl _).1 trail follows
  obtain ⟨others, kept⟩ := keeps.directories _ _ there.symm
  refine ⟨others, locate_ok_iff.mpr ⟨fits, trail', ?_, by rw [names, kept]⟩⟩
  rw [partsFromTop_congr keeps.working, follows']

theorem Keeps.hasDirectory {before after : FileTree} (keeps : before.Keeps after) {path : Path}
    (there : before.hasDirectory path = true) : after.hasDirectory path = true := by
  obtain ⟨names, entries, located⟩ := hasDirectory_iff.mp there
  obtain ⟨others, located'⟩ := keeps.directory located
  exact hasDirectory_iff.mpr ⟨names, others, located'⟩

/-- A file that could be written has taken no directory's place. -/
theorem keeps_writeFile {tree written : FileTree} {path : Path} {last : String} (down : last ≠ "..")
    {content : ByteArray} (ok : tree.writeFile (path.child last) content = .ok written) :
    tree.TakesFile (path.child last) ∧ tree.Keeps written := by
  obtain ⟨above, entries, opens, located, plain, rfl⟩ := put_of_writeFile down ok
  refine ⟨⟨_, located, plain⟩, rfl, ?_⟩
  rw [put, Node.putAt_entry opens.there]
  exact .putAt opens.there (Node.keeps_put plain _)

end FileTree

/-! ## What is found in a storage file -/

namespace StorageFile

/-- The records in what a path leads to. -/
def held : Option Node → Fields
  | some (.file content) => match parse content with
    | .ok fields => fields
    | .error _ => []
  | _ => []

/-- The records that are found where a path leads, or why there is no telling. -/
def found : Except FileFault Spot → Except Fault Fields
  | .ok spot => .ok (held spot.node?)
  | .error .tooLong => .error (.file .tooLong)
  | .error _ => .ok []

/-- Whatever is reported, the records are those that are found where the path leads. -/
theorem records_fst (file : StorageFile) (report : Path → Option Cause → Notice) (tree : FileTree) :
    (file.records report tree).1 = found (tree.locate file.path) := by
  unfold records FileTree.hasPath FileTree.readFile FileTree.find
  cases tree.locate file.path with
  | error fault => cases fault <;> rfl
  | ok spot =>
    obtain ⟨names, node?⟩ := spot
    cases node? with
    | none => rfl
    | some node =>
      cases node with
      | directory entries => rfl
      | file content =>
        simp only [found, held]
        cases parse content <;> rfl

theorem load_fst (file : StorageFile) (tree : FileTree) :
    (file.load tree).1 = (found (tree.locate file.path)).map fun fields => (fields.get? file.name).filter Value.isObject := by
  rw [← records_fst file .ignoringFile]
  rfl

/-- Where records are found there is a file. -/
theorem exists_file_of_found {file : StorageFile} {tree : FileTree} {fields : Fields}
    (read : found (tree.locate file.path) = .ok fields) (nonempty : fields ≠ []) :
    ∃ names content, tree.locate file.path = .ok ⟨names, some (.file content)⟩ := by
  cases located : tree.locate file.path with
  | error fault =>
    rw [located] at read
    cases fault <;> cases read <;> exact absurd rfl nonempty
  | ok spot =>
    obtain ⟨names, node?⟩ := spot
    rw [located] at read
    cases read
    cases node? with
    | none => exact absurd rfl nonempty
    | some node =>
      cases node with
      | directory entries => exact absurd rfl nonempty
      | file content => exact ⟨names, content, rfl⟩

/-! ## What a failed write leaves -/

section Failed

variable {file : StorageFile} {name : String} (named : file.path.name? = some name) {fields : Fields}
  {tree after : FileTree} {fault : Fault}
include named

/-- A write that fails has made directories, or it has also put a file beside, where its own place is taken. -/
theorem after_failed_write (failed : file.write fields tree = (.error fault, after)) :
    after = (tree.makeDirectories file.path.parent).2 ∨
    (∃ content, (tree.makeDirectories file.path.parent).2.writeFile (file.path.parent.child (name ++ ".tmp")) content =
      .ok after) ∧ ¬(tree.makeDirectories file.path.parent).2.TakesFile file.path := by
  have whole := failed
  simp only [StorageFile.write, Path.sibling?_of_name? named] at failed
  cases makes : tree.makeDirectories file.path.parent with
  | mk result made =>
    dsimp only
    cases result with
    | error stuck =>
      simp only [replace, makes, Prod.mk.injEq] at failed
      exact .inl failed.2.symm
    | ok _ =>
      cases text_ok : (Value.object fields).write layout with
      | error refused =>
        simp only [replace, makes, text_ok, Prod.mk.injEq] at failed
        exact .inl failed.2.symm
      | ok text =>
        cases write_ok : made.writeFile (file.path.parent.child (name ++ ".tmp")) text.toUTF8 with
        | error stuck =>
          simp only [replace, makes, text_ok, write_ok, Prod.mk.injEq] at failed
          exact .inl failed.2.symm
        | ok written =>
          have down : name ++ ".tmp" ≠ ".." := beside_down name
          have untaken : ¬made.TakesFile file.path := by
            intro takes
            obtain ⟨above, entries, site⟩ := Path.Site.of_takesFile named takes (FileTree.keeps_writeFile down write_ok).1
            obtain ⟨_, worked, _⟩ := write_of_text makes site text_ok
            rw [whole] at worked
            cases worked
          cases move_ok : written.moveFile (file.path.parent.child (name ++ ".tmp")) file.path with
          | error stuck =>
            simp only [replace, makes, text_ok, write_ok, move_ok, Prod.mk.injEq] at failed
            exact .inr ⟨⟨_, by rw [write_ok, failed.2]⟩, untaken⟩
          | ok moved =>
            simp only [replace, makes, text_ok, write_ok, move_ok, Prod.mk.injEq] at failed
            cases failed.1

/-- No directory goes away in a failed write. -/
theorem keeps_failed_write (failed : file.write fields tree = (.error fault, after)) : tree.Keeps after := by
  have grows := FileTree.grows_makeDirectories tree file.path.parent
  rcases after_failed_write named failed with rfl | ⟨⟨content, written⟩, _⟩
  · exact grows.keeps
  · exact grows.keeps.trans (FileTree.keeps_writeFile (beside_down name) written).2

/-- Where the path leads to a file a write that fails has done nothing. -/
theorem write_failed_at_file {names : List String} {content : ByteArray}
    (located : tree.locate file.path = .ok ⟨names, some (.file content)⟩)
    (failed : file.write fields tree = (.error fault, after)) : after = tree := by
  have made := FileTree.makeDirectories_of_hasDirectory (FileTree.hasDirectory_parent named located)
  rcases after_failed_write named failed with rfl | ⟨_, untaken⟩
  · rw [made]
  · rw [made] at untaken
    refine absurd ⟨_, located, ?_⟩ untaken
    intro entries taken
    cases taken

/-- A file is left beside only where the path itself leads to a directory, and it still does. -/
theorem directory_of_untaken {content : ByteArray}
    (written : tree.writeFile (file.path.parent.child (name ++ ".tmp")) content = .ok after)
    (untaken : ¬tree.TakesFile file.path) :
    ∃ names sub others, tree.locate file.path = .ok ⟨names, some (.directory sub)⟩ ∧
      after.locate file.path = .ok ⟨names, some (.directory others)⟩ := by
  obtain ⟨⟨beside, located, _⟩, keeps⟩ := FileTree.keeps_writeFile (beside_down name) written
  obtain ⟨fits, short, above, entries, opens, _⟩ := (FileTree.locate_child_iff (beside_down name)).mp located
  -- the path leads to a directory, where nothing can be put
  obtain ⟨spot, there⟩ : ∃ spot, tree.locate file.path = .ok spot := by
    rw [← Path.child_of_name? named]
    by_cases up : name = ".."
    · obtain ⟨trail, follows, rfl⟩ := opens.follows
      have here : trail.node? tree.top = some (.directory entries) := by
        rw [(FileTree.leads_follow (.nil _) follows).node?, opens.there]
      refine ⟨_, FileTree.locate_ok_iff.mpr ⟨fits.of_append, trail.tail, ?_, rfl⟩⟩
      rw [FileTree.partsFromTop_child, FileTree.follow_append, follows]
      dsimp only
      rw [FileTree.follow_cons here, if_pos up]
      rfl
    · rw [String.utf8ByteSize_append] at short
      exact ⟨_, (FileTree.locate_child_iff up).mpr ⟨fits.of_append, by omega, above, entries, opens, rfl⟩⟩
  obtain ⟨names, node?⟩ := spot
  obtain ⟨sub, rfl⟩ : ∃ sub, node? = some (.directory sub) := by
    by_contra plain
    exact untaken ⟨_, there, fun sub same => plain ⟨sub, same⟩⟩
  obtain ⟨others, there'⟩ := keeps.directory there
  exact ⟨names, sub, others, there, there'⟩

/-- A file that was left beside a place that is taken by a directory does not change what is found there. -/
private theorem found_beside {content : ByteArray}
    (written : tree.writeFile (file.path.parent.child (name ++ ".tmp")) content = .ok after)
    (untaken : ¬tree.TakesFile file.path) : found (after.locate file.path) = found (tree.locate file.path) := by
  obtain ⟨names, sub, others, there, there'⟩ := directory_of_untaken named written untaken
  rw [there, there']
  rfl

end Failed

end StorageFile

/-! ## Paths whose directories may be made -/

namespace FileTree

/-- A path goes straight down from the top, by names that are not too long. -/
structure Straight (tree : FileTree) (path : Path) : Prop where
  down : ".." ∉ tree.partsFromTop path
  short : ∀ part ∈ tree.partsFromTop path, part.utf8ByteSize ≤ nameLimit

/-- The directory of a path is there, or the path goes straight: making directories for it uncovers nothing. -/
def Firm (tree : FileTree) (path : Path) : Prop := tree.hasDirectory path.parent = true ∨ tree.Straight path

instance (tree : FileTree) (path : Path) : Decidable (tree.Firm path) :=
  decidable_of_iff (tree.hasDirectory path.parent = true ∨ (".." ∉ tree.partsFromTop path ∧
      ∀ part ∈ tree.partsFromTop path, part.utf8ByteSize ≤ nameLimit))
    (or_congr_right ⟨fun ⟨down, short⟩ => ⟨down, short⟩, fun ⟨down, short⟩ => ⟨down, short⟩⟩)

theorem follow_ne_tooLong (top : Node) (trail : Trail) {parts : List String}
    (short : ∀ part ∈ parts, part.utf8ByteSize ≤ nameLimit) : follow top trail parts ≠ .error .tooLong := by
  induction parts generalizing trail with
  | nil => exact nofun
  | cons part rest ih =>
    obtain ⟨here, later⟩ := List.forall_mem_cons.mp short
    cases there : trail.node? top with
    | none => simp [follow, there]
    | some node =>
      cases node with
      | file content => simp [follow, there]
      | directory entries =>
        rw [follow_cons there]
        split_ifs with up long
        · exact ih _ later
        · omega
        · exact ih _ later

/-- Where a path that does not fit leads does not depend on the tree. -/
theorem locate_of_not_fits {path : Path} (unfit : ¬path.Fits) (tree other : FileTree) :
    tree.locate path = other.locate path := by
  unfold locate
  split_ifs with unnameable long
  · rfl
  · rfl
  · exact absurd ⟨by simpa using unnameable, by omega⟩ unfit

end FileTree

namespace StorageFile

/-- Making directories changes no file. -/
theorem held_of_grows {before after : FileTree} (grows : before.Grows after) (names : List String) :
    held (after.top.at? names) = held (before.top.at? names) := by
  have files := grows.files names
  cases new : after.top.at? names with
  | some node =>
    cases node with
    | file content => rw [(files content).mp new]
    | directory entries =>
      cases old : before.top.at? names with
      | none => rfl
      | some node =>
        cases node with
        | file content =>
          rw [(files content).mpr old] at new
          cases new
        | directory others => rfl
  | none =>
    cases old : before.top.at? names with
    | none => rfl
    | some node =>
      cases node with
      | file content =>
        rw [(files content).mpr old] at new
        cases new
      | directory others => rfl

/-- What is found by a path that never leads up is what its parts lead to, unless one of them is too long. -/
theorem found_of_down {tree : FileTree} {path : Path} (fits : path.Fits) (down : ".." ∉ tree.partsFromTop path) :
    FileTree.follow tree.top [] (tree.partsFromTop path) = .error .tooLong ∨
      found (tree.locate path) = .ok (held (tree.top.at? (tree.partsFromTop path))) := by
  rcases FileTree.follow_downwards (.nil tree.top) down with ⟨trail, follows, names⟩ | long |
    ⟨⟨fault, failed, other⟩, missing⟩
  · rw [FileTree.locate_ok_iff.mpr ⟨fits, trail, follows, rfl⟩, names]
    exact .inr rfl
  · exact .inl long
  · have located : tree.locate path = .error fault := FileTree.locate_of_follow fits failed
    rw [located, show tree.top.at? (tree.partsFromTop path) = none from missing]
    right
    cases fault <;> first | rfl | exact absurd rfl other

/-- What is found by a straight path is what its parts lead to. -/
theorem found_of_straight {tree : FileTree} {path : Path} (fits : path.Fits) (straight : tree.Straight path) :
    found (tree.locate path) = .ok (held (tree.top.at? (tree.partsFromTop path))) :=
  (found_of_down fits straight.down).resolve_left (FileTree.follow_ne_tooLong _ _ straight.short)

theorem found_of_grows {tree made : FileTree} {path : Path} (grows : tree.Grows made) (straight : tree.Straight path) :
    found (made.locate path) = found (tree.locate path) := by
  have parts := FileTree.partsFromTop_congr grows.working path
  by_cases fits : path.Fits
  · have straight' : made.Straight path := ⟨parts ▸ straight.down, parts ▸ straight.short⟩
    rw [found_of_straight fits straight, found_of_straight fits straight', parts, held_of_grows grows]
  · rw [FileTree.locate_of_not_fits fits made tree]

section Failed

variable {file : StorageFile} {name : String} (named : file.path.name? = some name) {fields : Fields}
  {tree after : FileTree} {fault : Fault}
include named

/-- After a write that failed the same is found as before. -/
theorem found_of_failed_write (firm : tree.Firm file.path) (failed : file.write fields tree = (.error fault, after)) :
    found (after.locate file.path) = found (tree.locate file.path) := by
  have made : found ((tree.makeDirectories file.path.parent).2.locate file.path) = found (tree.locate file.path) := by
    rcases firm with there | straight
    · rw [FileTree.makeDirectories_of_hasDirectory there]
    · exact found_of_grows (FileTree.grows_makeDirectories tree file.path.parent) straight
  rcases after_failed_write named failed with rfl | ⟨⟨content, written⟩, untaken⟩
  · exact made
  · rw [found_beside named written untaken, made]

theorem firm_of_failed_write (firm : tree.Firm file.path) (failed : file.write fields tree = (.error fault, after)) :
    after.Firm file.path := by
  have keeps := keeps_failed_write named failed
  have parts := FileTree.partsFromTop_congr keeps.working file.path
  exact firm.imp keeps.hasDirectory fun straight => ⟨parts ▸ straight.down, parts ▸ straight.short⟩

end Failed

end StorageFile
end HomeTiles
