import HomeTiles.Proofs.FailedFileWrites

/-!
# Tree views: what stands where in a file tree

A tree shows, at every list of names from its top, nothing, a directory, or a file
with its bytes. Putting something without anything below it into a directory and
taking a file out of one change what is shown at one place (`shows_put`,
`shows_erase`). Making the directories of a path that never leads up puts new ones
along its parts and does nothing else (`paved_makeDirectories`).
-/

namespace HomeTiles

/-! ## Nodes -/

namespace Node

/-- The bytes of a file; a directory has none. -/
def content? : Node → Option ByteArray
  | .file content => some content
  | .directory _ => none

/-- Nothing is below a node: it is a file or an empty directory. -/
def IsLeaf (node : Node) : Prop := ∀ name rest, node.at? (name :: rest) = none

theorem isLeaf_file (content : ByteArray) : (file content).IsLeaf := fun _ _ => rfl

theorem isLeaf_empty : empty.IsLeaf := fun _ _ => rfl

/-- Above what a node leads to there are directories. -/
theorem directory_above {node found : Node} {place names : List String} (there : node.at? names = some found)
    (before : place <+: names) (apart : place ≠ names) : ∃ entries, node.at? place = some (.directory entries) := by
  obtain ⟨below, rfl⟩ := before
  cases below with
  | nil => exact absurd (List.append_nil place).symm apart
  | cons name rest =>
    rw [at?_append] at there
    cases here : node.at? place with
    | none =>
      rw [here] at there
      cases there
    | some node =>
      cases node with
      | directory entries => exact ⟨entries, rfl⟩
      | file content =>
        rw [here] at there
        cases there

/-- Replacing a node where some names lead changes what is there and below, and no kind of node elsewhere. -/
theorem content_putAt {node old : Node} {above : List String} (there : node.at? above = some old) (new : Node)
    {names : List String} (apart : ¬above <+: names) :
    ((putAt new node above).at? names).map content? = (node.at? names).map content? := by
  induction above generalizing node names with
  | nil => exact absurd List.nil_prefix apart
  | cons name rest ih =>
    cases node with
    | file content => cases there
    | directory entries =>
      rw [at?_directory_cons] at there
      obtain ⟨sub, found, below⟩ := Option.bind_eq_some_iff.mp there
      rw [putAt, found]
      dsimp only
      cases names with
      | nil => rw [at?_nil, at?_nil, Option.map_some, Option.map_some, content?, content?]
      | cons first others =>
        rw [at?_directory_cons, at?_directory_cons, Entries.get?_put]
        split_ifs with same
        · subst same
          rw [found, Option.bind_some, Option.bind_some]
          exact ih below fun before => apart (List.cons_prefix_cons.mpr ⟨rfl, before⟩)
        · rfl

end Node

/-! ## Trees -/

namespace FileTree

/-- What a tree shows where names lead from its top: nothing, or a file with its bytes, or a directory, which has none. -/
def shows (tree : FileTree) (names : List String) : Option (Option ByteArray) := (tree.top.at? names).map Node.content?

theorem shows_of_at? {tree : FileTree} {names : List String} {node : Node} (there : tree.top.at? names = some node) :
    tree.shows names = some node.content? := by
  rw [shows, there, Option.map_some]

section Entry

variable {tree : FileTree} {above : List String} {entries : List (String × Node)}
  (there : tree.top.at? above = some (.directory entries))
include there

/-- A directory in which one entry is another one shows the same everywhere else. -/
private theorem shows_replaced {changed : List (String × Node)} {last : String} {shown : Option (Option ByteArray)}
    (same : ∀ name rest, ((Node.directory changed).at? (name :: rest)).map Node.content? =
      if name = last ∧ rest = [] then shown else ((Node.directory entries).at? (name :: rest)).map Node.content?)
    (names : List String) : ((Node.putAt (.directory changed) tree.top above).at? names).map Node.content? =
      if names = above ++ [last] then shown else tree.shows names := by
  by_cases inside : above <+: names
  · obtain ⟨below, rfl⟩ := inside
    rw [Node.at?_append, Node.at?_putAt_self there, Option.bind_some, shows, Node.at?_append, there, Option.bind_some]
    cases below with
    | nil =>
      rw [if_neg (by simp), Node.at?_nil, Node.at?_nil]
      rfl
    | cons name rest =>
      rw [same]
      simp only [List.append_cancel_left_eq, List.cons.injEq]
  · have elsewhere : names ≠ above ++ [last] := fun here => inside (here ▸ List.prefix_append above [last])
    rw [if_neg elsewhere, Node.content_putAt there _ inside, shows]

/-- Where there was nothing or a file, and now is something with nothing below it, this is all that has changed. -/
theorem shows_put {last : String} (plain : ∀ sub, Entries.get? entries last ≠ some (.directory sub)) {node : Node}
    (leaf : node.IsLeaf) (names : List String) : (tree.put (above ++ [last]) node).shows names =
      if names = above ++ [last] then some node.content? else tree.shows names := by
  rw [shows, put, Node.putAt_entry there]
  refine shows_replaced there (fun name rest => ?_) names
  rw [Node.at?_directory_cons, Node.at?_directory_cons, Entries.get?_put]
  by_cases here : last = name
  · subst here
    rw [if_pos rfl, Option.bind_some]
    cases rest with
    | nil => rw [Node.at?_nil, if_pos ⟨rfl, rfl⟩, Option.map_some]
    | cons first others =>
      rw [leaf, if_neg (by simp)]
      cases old : Entries.get? entries last with
      | none => rfl
      | some before =>
        cases before with
        | file content => rfl
        | directory sub => exact absurd old (plain sub)
  · rw [if_neg here, if_neg fun same => here same.1.symm]

/-- Where an entry was that was no directory there is nothing any more, and this is all that has changed. -/
theorem shows_erase (distinct : (Entries.names entries).Nodup) {last : String}
    (plain : ∀ sub, Entries.get? entries last ≠ some (.directory sub)) (names : List String) :
    (tree.erase (above ++ [last])).shows names = if names = above ++ [last] then none else tree.shows names := by
  rw [shows, erase, Node.eraseAt_entry there]
  refine shows_replaced there (fun name rest => ?_) names
  rw [Node.at?_directory_cons, Node.at?_directory_cons, Entries.get?_erase distinct]
  by_cases here : last = name
  · subst here
    rw [if_pos rfl]
    cases rest with
    | nil => rw [if_pos ⟨rfl, rfl⟩]; rfl
    | cons first others =>
      rw [if_neg (by simp)]
      cases old : Entries.get? entries last with
      | none => rfl
      | some before =>
        cases before with
        | file content => rfl
        | directory sub => exact absurd old (plain sub)
  · rw [if_neg here, if_neg fun same => here same.1.symm]

theorem distinct_put (distinct : tree.top.Distinct) (last : String) {node : Node} (ok : node.Distinct) :
    (tree.put (above ++ [last]) node).top.Distinct := by
  rw [put, Node.putAt_entry there]
  exact distinct.putAt there ((distinct.of_at? there).put last ok)

theorem distinct_erase (distinct : tree.top.Distinct) (last : String) : (tree.erase (above ++ [last])).top.Distinct := by
  rw [erase, Node.eraseAt_entry there]
  exact distinct.putAt there ((distinct.of_at? there).erase last)

end Entry

/-! ## New directories along a way -/

/-- Where names lead the same is there as before, or a new directory along a way where nothing was. -/
def PavedAt (tree made : FileTree) (way names : List String) : Prop :=
  made.shows names = tree.shows names ∨ (tree.shows names = none ∧ made.shows names = some none ∧ names <+: way)

/-- There are new directories along a way, and nothing else is new or gone. -/
def Paved (tree made : FileTree) (way : List String) : Prop := ∀ names, tree.PavedAt made way names

theorem Paved.refl (tree : FileTree) (way : List String) : tree.Paved tree way := fun _ => .inl rfl

theorem Paved.trans {first second third : FileTree} {way : List String} (one : first.Paved second way)
    (two : second.Paved third way) : first.Paved third way := by
  intro names
  rcases two names with same | ⟨nothing, directory, along⟩
  · rw [PavedAt, same]
    exact one names
  · rcases one names with same | ⟨_, directory', _⟩
    · exact .inr ⟨same ▸ nothing, directory, along⟩
    · rw [nothing] at directory'
      cases directory'

theorem Paved.further {tree made : FileTree} {way : List String} (paved : tree.Paved made way) {more : List String}
    (along : way <+: more) : tree.Paved made more :=
  fun names => (paved names).imp_right fun ⟨nothing, directory, before⟩ => ⟨nothing, directory, before.trans along⟩

/-- A path that never leads up opens the directory where its parts lead. -/
theorem Opens.names_of_down {tree : FileTree} {path : Path} {above : List String} {entries : List (String × Node)}
    (opens : tree.Opens path above entries) (down : ".." ∉ tree.partsFromTop path) : above = tree.partsFromTop path := by
  obtain ⟨trail, follows, rfl⟩ := opens.follows
  rcases follow_downwards (.nil tree.top) down with ⟨found, ok, names⟩ | long | ⟨⟨fault, failed, _⟩, _⟩
  · rw [follows] at ok
    cases ok
    exact names
  · rw [follows] at long
    cases long
  · rw [follows] at failed
    cases failed

private theorem paved_makeDirectory {tree made : FileTree} {path : Path} {last : String}
    (down : ".." ∉ tree.partsFromTop (path.child last)) (ok : tree.makeDirectory (path.child last) = .ok made) :
    tree.Paved made (tree.partsFromTop (path.child last)) := by
  obtain ⟨above, entries, opens, absent, rfl, _⟩ := makeDirectory_ok ok
  rw [partsFromTop_child] at down ⊢
  obtain rfl := opens.names_of_down fun inside => down (List.mem_append_left _ inside)
  have plain : ∀ sub, Entries.get? entries last ≠ some (.directory sub) := fun sub => by rw [absent]; exact nofun
  intro names
  rw [PavedAt, shows_put opens.there plain Node.isLeaf_empty]
  split_ifs with here
  · subst here
    refine .inr ⟨?_, rfl, List.prefix_rfl⟩
    rw [shows, Node.at?_entry opens.there, absent, Option.map_none]
  · exact .inl rfl

/-- By induction on the parts from the last one up: the directories above come first. -/
private theorem paved_makeDirectoriesUp (start : PathStart) (parts : List String) (tree : FileTree)
    (down : ".." ∉ tree.partsFromTop ⟨start, parts.reverse⟩) :
    tree.Paved (makeDirectoriesUp start parts tree).2 (tree.partsFromTop ⟨start, parts.reverse⟩) := by
  induction parts with
  | nil => exact .refl tree _
  | cons last above ih =>
    have whole : (⟨start, (last :: above).reverse⟩ : Path) = Path.child ⟨start, above.reverse⟩ last := by simp [Path.child]
    rw [whole] at down ⊢
    have shorter : tree.partsFromTop ⟨start, above.reverse⟩ <+: tree.partsFromTop (Path.child ⟨start, above.reverse⟩ last) := by
      rw [partsFromTop_child]
      exact List.prefix_append _ _
    have higher := (ih fun inside => down (shorter.subset inside)).further shorter
    have grows := grows_makeDirectories tree ⟨start, above.reverse⟩
    rw [makeDirectories, List.reverse_reverse] at grows
    rw [makeDirectoriesUp.eq_def]
    dsimp only
    rw [whole]
    split
    · next made ok => exact paved_makeDirectory down ok
    · split
      · next fault made failed =>
        rw [failed] at higher
        exact higher
      · next made done =>
        rw [done] at higher grows
        have same := partsFromTop_congr grows.working (Path.child ⟨start, above.reverse⟩ last)
        split
        · next made' ok =>
          rw [← same] at higher down ⊢
          exact higher.trans (paved_makeDirectory down ok)
        · split_ifs
          · exact higher
          · exact higher
    · split_ifs
      · exact .refl tree _
      · exact .refl tree _

theorem paved_makeDirectories {tree : FileTree} {path : Path} (down : ".." ∉ tree.partsFromTop path) :
    tree.Paved (tree.makeDirectories path).2 (tree.partsFromTop path) := by
  have paved := paved_makeDirectoriesUp path.start path.parts.reverse tree
  rw [List.reverse_reverse] at paved
  exact paved down

end FileTree
end HomeTiles
