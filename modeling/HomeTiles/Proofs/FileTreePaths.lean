import HomeTiles.FileTree
import HomeTiles.Proofs.NodeUpdates

/-!
# Where paths lead while a tree changes

Following a path passes through directories alone, so it leads to the same names
as long as no directory goes away (`follow_keeps`). A path `Opens` the directory
it leads to; `locate_child_iff` says where a path one part deeper leads, and
`Opens.put` and `Opens.erase` what the directory is after one of its entries
changed. `makeDirectories` only ever adds empty directories (`Grows`).
-/

namespace HomeTiles

/-! ## Trails -/

namespace Trail

/-- The names of a trail from the top. -/
def names (trail : Trail) : List String := (trail.map Prod.fst).reverse

@[simp] theorem names_nil : names [] = [] := rfl

@[simp] theorem names_cons (name : String) (node? : Option Node) (above : Trail) :
    names ((name, node?) :: above) = names above ++ [name] := by
  simp [names]

theorem names_tail (trail : Trail) : names trail.tail = (names trail).dropLast := by
  cases trail with
  | nil => rfl
  | cons last above => simp [names]

/-- Every node of a trail is what the names up to it lead to. -/
def Leads (top : Node) : Trail → Prop
  | [] => True
  | (name, node?) :: above => node? = top.at? (names above ++ [name]) ∧ Leads top above

theorem Leads.nil (top : Node) : Leads top [] := trivial

theorem Leads.node? {top : Node} {trail : Trail} (leads : trail.Leads top) :
    trail.node? top = top.at? trail.names := by
  cases trail with
  | nil => simp [Trail.node?]
  | cons last above =>
    obtain ⟨name, node?⟩ := last
    rw [names_cons, ← leads.1]
    rfl

theorem Leads.tail {top : Node} {trail : Trail} (leads : trail.Leads top) : Leads top trail.tail := by
  cases trail with
  | nil => exact leads
  | cons last above => exact leads.2

/-- A trail goes on with an entry of the directory it leads to. -/
theorem Leads.down {top : Node} {trail : Trail} (leads : trail.Leads top) {entries : List (String × Node)}
    (there : top.at? trail.names = some (.directory entries)) (part : String) :
    Leads top ((part, Entries.get? entries part) :: trail) :=
  ⟨(Node.at?_entry there part).symm, leads⟩

end Trail

/-- Every part of a path may be a name, and its text is not too long. -/
structure Path.Fits (path : Path) : Prop where
  nameable : path.parts.any (·.toList.contains '\x00') = false
  short : path.text.utf8ByteSize ≤ FileTree.pathLimit

namespace FileTree

/-! ## Following -/

theorem follow_cons {top : Node} {trail : Trail} {entries : List (String × Node)}
    (here : trail.node? top = some (.directory entries)) (part : String) (rest : List String) :
    follow top trail (part :: rest) =
      if part = ".." then follow top trail.tail rest
      else if nameLimit < part.utf8ByteSize then .error .tooLong
      else follow top ((part, Entries.get? entries part) :: trail) rest := by
  rw [follow, here]

/-- Only a directory is gone on from. -/
theorem directory_of_follow {top : Node} {trail found : Trail} {part : String} {rest : List String}
    (follows : follow top trail (part :: rest) = .ok found) :
    ∃ entries, trail.node? top = some (.directory entries) := by
  rw [follow] at follows
  cases here : trail.node? top with
  | none => simp [here] at follows
  | some node =>
    cases node with
    | file content => simp [here] at follows
    | directory entries => exact ⟨entries, rfl⟩

theorem leads_follow {top : Node} {trail found : Trail} (leads : trail.Leads top) {parts : List String}
    (follows : follow top trail parts = .ok found) : found.Leads top := by
  induction parts generalizing trail with
  | nil =>
    cases follows
    exact leads
  | cons part rest ih =>
    obtain ⟨entries, here⟩ := directory_of_follow follows
    rw [follow_cons here] at follows
    split_ifs at follows
    · exact ih leads.tail follows
    · exact ih (leads.down (leads.node? ▸ here) part) follows

theorem follow_append (top : Node) (trail : Trail) (front back : List String) :
    follow top trail (front ++ back) =
      match follow top trail front with
      | .ok found => follow top found back
      | .error fault => .error fault := by
  induction front generalizing trail with
  | nil => rfl
  | cons part rest ih =>
    cases here : trail.node? top with
    | none => simp [follow, here]
    | some node =>
      cases node with
      | file content => simp [follow, here]
      | directory entries =>
        rw [List.cons_append, follow_cons here, follow_cons here]
        split_ifs
        · exact ih trail.tail
        · rfl
        · exact ih _

/-- A path leads to the same names while no directory goes away, and a part too long stays too long. -/
theorem follow_keeps {before after : Node} (keeps : before.Keeps after) {trail other : Trail}
    (leads : trail.Leads before) (leads' : other.Leads after) (same : other.names = trail.names) (parts : List String) :
    (∀ found, follow before trail parts = .ok found →
      ∃ found', follow after other parts = .ok found' ∧ found'.names = found.names) ∧
    (follow before trail parts = .error .tooLong → follow after other parts = .error .tooLong) := by
  induction parts generalizing trail other with
  | nil =>
    refine ⟨fun found follows => ⟨other, rfl, ?_⟩, nofun⟩
    cases follows
    exact same
  | cons part rest ih =>
    cases here : trail.node? before with
    | none => simp [follow, here]
    | some node =>
      cases node with
      | file content => simp [follow, here]
      | directory entries =>
        have there : before.at? trail.names = some (.directory entries) := leads.node? ▸ here
        obtain ⟨others, kept⟩ := keeps _ _ there
        have here' : other.node? after = some (.directory others) := by rw [leads'.node?, same, kept]
        rw [follow_cons here, follow_cons here']
        split_ifs with up long
        · exact ih leads.tail leads'.tail (by rw [Trail.names_tail, Trail.names_tail, same])
        · exact ⟨nofun, fun _ => rfl⟩
        · exact ih (leads.down there part) (leads'.down (same ▸ kept) part) (by simp [same])

/-- Parts that never lead up lead to where they say, if they lead anywhere. -/
theorem follow_downwards {top : Node} {trail : Trail} (leads : trail.Leads top) {parts : List String}
    (down : ".." ∉ parts) :
    (∃ found, follow top trail parts = .ok found ∧ found.names = trail.names ++ parts) ∨
    follow top trail parts = .error .tooLong ∨
    ((∃ fault, follow top trail parts = .error fault ∧ fault ≠ .tooLong) ∧ top.at? (trail.names ++ parts) = none) := by
  induction parts generalizing trail with
  | nil => exact .inl ⟨trail, rfl, (List.append_nil _).symm⟩
  | cons part rest ih =>
    rw [List.mem_cons, not_or] at down
    cases here : trail.node? top with
    | none =>
      refine .inr (.inr ⟨⟨.notFound, by simp [follow, here], by decide⟩, ?_⟩)
      rw [Node.at?_append, ← leads.node?, here, Option.bind_none]
    | some node =>
      cases node with
      | file content =>
        refine .inr (.inr ⟨⟨.notADirectory, by simp [follow, here], by decide⟩, ?_⟩)
        rw [Node.at?_append, ← leads.node?, here, Option.bind_some, Node.at?]
      | directory entries =>
        rw [follow_cons here, if_neg (Ne.symm down.1)]
        split_ifs with long
        · exact .inr (.inl rfl)
        · have further := ih (leads.down (leads.node? ▸ here) part) down.2
          rwa [Trail.names_cons, List.append_assoc, List.singleton_append] at further

/-! ## Where a path leads -/

theorem locate_ok_iff {tree : FileTree} {path : Path} {spot : Spot} :
    tree.locate path = .ok spot ↔ path.Fits ∧ ∃ trail, follow tree.top [] (tree.partsFromTop path) = .ok trail ∧
      spot = ⟨trail.names, tree.top.at? trail.names⟩ := by
  unfold locate
  split_ifs with unnameable long
  · refine ⟨nofun, fun ⟨fits, _⟩ => ?_⟩
    exact absurd (fits.nameable.symm.trans unnameable) Bool.false_ne_true
  · refine ⟨nofun, fun ⟨fits, _⟩ => ?_⟩
    exact absurd fits.short (by omega)
  · have fits : path.Fits := ⟨by simpa using unnameable, by omega⟩
    cases follows : follow tree.top [] (tree.partsFromTop path) with
    | error fault => simp
    | ok trail =>
      have leads : trail.Leads tree.top := leads_follow (.nil _) follows
      simp only [Except.ok.injEq, fits, true_and, exists_eq_left', ← leads.node?]
      exact eq_comm

/-- A path that may be followed fails for the reason that following it does. -/
theorem locate_of_follow {tree : FileTree} {path : Path} (fits : path.Fits) {fault : FileFault}
    (failed : follow tree.top [] (tree.partsFromTop path) = .error fault) : tree.locate path = .error fault := by
  unfold locate
  rw [if_neg (by rw [fits.nameable]; exact Bool.false_ne_true), if_neg (Nat.not_lt.mpr fits.short), failed]

theorem partsFromTop_congr {tree other : FileTree} (same : other.working = tree.working) (path : Path) :
    other.partsFromTop path = tree.partsFromTop path := by
  unfold partsFromTop
  rw [same]

theorem partsFromTop_child (tree : FileTree) (path : Path) (last : String) :
    tree.partsFromTop (path.child last) = tree.partsFromTop path ++ [last] := by
  obtain ⟨start, parts⟩ := path
  cases start
  · exact (List.append_assoc _ _ _).symm
  · rfl
  · rfl

theorem hasDirectory_iff {tree : FileTree} {path : Path} :
    tree.hasDirectory path = true ↔ ∃ names entries, tree.locate path = .ok ⟨names, some (.directory entries)⟩ := by
  unfold hasDirectory find
  cases tree.locate path with
  | error fault => simp
  | ok spot =>
    obtain ⟨names, node?⟩ := spot
    cases node? with
    | none => simp
    | some node => cases node <;> simp

/-- A path leads to a directory: its names from the top, and its entries. -/
structure Opens (tree : FileTree) (path : Path) (above : List String) (entries : List (String × Node)) : Prop where
  follows : ∃ trail, follow tree.top [] (tree.partsFromTop path) = .ok trail ∧ trail.names = above
  there : tree.top.at? above = some (.directory entries)

theorem Opens.unique {tree : FileTree} {path : Path} {above above' : List String} {entries entries' : List (String × Node)}
    (opens : tree.Opens path above entries) (opens' : tree.Opens path above' entries') :
    above' = above ∧ entries' = entries := by
  obtain ⟨trail, follows, rfl⟩ := opens.follows
  obtain ⟨trail', follows', rfl⟩ := opens'.follows
  rw [follows] at follows'
  cases follows'
  have same := opens.there.symm.trans opens'.there
  simp only [Option.some.injEq, Node.directory.injEq] at same
  exact ⟨rfl, same.symm⟩

theorem hasDirectory_of_opens {tree : FileTree} {path : Path} (fits : path.Fits) {above : List String}
    {entries : List (String × Node)} (opens : tree.Opens path above entries) : tree.hasDirectory path = true := by
  obtain ⟨trail, follows, rfl⟩ := opens.follows
  have located := locate_ok_iff.mpr ⟨fits, trail, follows, rfl⟩
  rw [opens.there] at located
  exact hasDirectory_iff.mpr ⟨_, entries, located⟩

/-- A path that ends with a name leads to an entry of the directory above it. -/
theorem locate_child_iff {tree : FileTree} {path : Path} {last : String} (down : last ≠ "..") {spot : Spot} :
    tree.locate (path.child last) = .ok spot ↔ (path.child last).Fits ∧ last.utf8ByteSize ≤ nameLimit ∧
      ∃ above entries, tree.Opens path above entries ∧ spot = ⟨above ++ [last], Entries.get? entries last⟩ := by
  rw [locate_ok_iff, partsFromTop_child, follow_append]
  constructor
  · rintro ⟨fits, trail, follows, rfl⟩
    cases first : follow tree.top [] (tree.partsFromTop path) with
    | error fault => simp [first] at follows
    | ok front =>
      have leads : front.Leads tree.top := leads_follow (.nil _) first
      simp only [first] at follows
      obtain ⟨entries, here⟩ := directory_of_follow follows
      have there : tree.top.at? front.names = some (.directory entries) := leads.node? ▸ here
      rw [follow_cons here, if_neg down] at follows
      split_ifs at follows with long
      cases follows
      refine ⟨fits, by omega, front.names, entries, ⟨⟨front, first, rfl⟩, there⟩, ?_⟩
      rw [Trail.names_cons, Node.at?_entry there]
  · rintro ⟨fits, short, above, entries, ⟨⟨front, first, rfl⟩, there⟩, rfl⟩
    have leads : front.Leads tree.top := leads_follow (.nil _) first
    have here : front.node? tree.top = some (.directory entries) := by rw [leads.node?, there]
    refine ⟨fits, (last, Entries.get? entries last) :: front, ?_, ?_⟩
    · simp only [first]
      rw [follow_cons here, if_neg down, if_neg (by omega)]
      rfl
    · rw [Trail.names_cons, Node.at?_entry there]

/-- A path that ends by leading up leads to a directory. -/
theorem directory_of_locate_up {tree : FileTree} {path : Path} {spot : Spot}
    (located : tree.locate (path.child "..") = .ok spot) : ∃ entries, spot.node? = some (.directory entries) := by
  rw [locate_ok_iff, partsFromTop_child, follow_append] at located
  obtain ⟨_, trail, follows, rfl⟩ := located
  cases first : follow tree.top [] (tree.partsFromTop path) with
  | error fault => simp [first] at follows
  | ok front =>
    have leads : front.Leads tree.top := leads_follow (.nil _) first
    simp only [first] at follows
    obtain ⟨entries, here⟩ := directory_of_follow follows
    rw [follow_cons here, if_pos rfl] at follows
    cases follows
    have there : tree.top.at? front.names = some (.directory entries) := leads.node? ▸ here
    cases front with
    | nil => exact ⟨entries, there⟩
    | cons last above =>
      rw [Trail.names_cons] at there
      exact Node.directory_of_at? there

/-! ## Changing an entry of a directory -/

section Entry

variable {tree : FileTree} {path : Path} {above : List String} {entries : List (String × Node)}
  (opens : tree.Opens path above entries)
include opens

/-- A path still opens its directory after the directory was replaced by one that keeps what is in it. -/
private theorem Opens.replaced {changed : List (String × Node)} {after : FileTree}
    (same : after = { tree with top := Node.putAt (.directory changed) tree.top above })
    (keeps : (Node.directory entries).Keeps (.directory changed)) : after.Opens path above changed := by
  subst same
  obtain ⟨trail, follows, rfl⟩ := opens.follows
  have all := Node.Keeps.putAt opens.there keeps
  obtain ⟨trail', follows', names⟩ := (follow_keeps all (.nil _) (.nil _) rfl (tree.partsFromTop path)).1 trail follows
  exact ⟨⟨trail', follows', names⟩, Node.at?_putAt_self opens.there _⟩

/-- After an entry was put that is no directory yet, the path opens the directory with it. -/
theorem Opens.put {last : String} (plain : ∀ sub, Entries.get? entries last ≠ some (.directory sub)) (node : Node) :
    (tree.put (above ++ [last]) node).Opens path above (Entries.put entries last node) :=
  opens.replaced (by rw [FileTree.put, Node.putAt_entry opens.there]) (Node.keeps_put plain node)

/-- After an entry was taken out that is no directory, the path opens the directory without it. -/
theorem Opens.erase {last : String} (plain : ∀ sub, Entries.get? entries last ≠ some (.directory sub)) :
    (tree.erase (above ++ [last])).Opens path above (Entries.erase entries last) :=
  opens.replaced (by rw [FileTree.erase, Node.eraseAt_entry opens.there]) (Node.keeps_erase plain)

end Entry

/-! ## Making directories -/

/-- What a tree is after directories were made in it: all that was there is there, and no file is new. -/
structure Grows (before after : FileTree) : Prop where
  working : after.working = before.working
  directories : before.top.Keeps after.top
  files : ∀ names content, after.top.at? names = some (.file content) ↔ before.top.at? names = some (.file content)
  distinct : before.top.Distinct → after.top.Distinct

theorem Grows.refl (tree : FileTree) : tree.Grows tree :=
  ⟨rfl, fun _ => .refl _, fun _ _ => .rfl, id⟩

theorem Grows.trans {first second third : FileTree} (one : first.Grows second) (two : second.Grows third) :
    first.Grows third := by
  refine ⟨two.working.trans one.working, fun names entries there => ?_,
    fun names content => (two.files names content).trans (one.files names content), two.distinct ∘ one.distinct⟩
  obtain ⟨others, kept⟩ := one.directories names entries there
  exact two.directories names others kept

/-- Where no directory was made there is what was there before. -/
theorem Grows.at?_of_plain {before after : FileTree} (grows : before.Grows after) {names : List String}
    (plain : ∀ sub, after.top.at? names ≠ some (.directory sub)) : before.top.at? names = after.top.at? names := by
  cases there : before.top.at? names with
  | none =>
    cases new : after.top.at? names with
    | none => rfl
    | some node =>
      cases node with
      | file content =>
        rw [(grows.files names content).mp new] at there
        cases there
      | directory sub => exact absurd new (plain sub)
  | some node =>
    cases node with
    | file content => exact ((grows.files names content).mpr there).symm
    | directory sub =>
      obtain ⟨others, kept⟩ := grows.directories names sub there
      exact absurd kept (plain others)

/-- A directory is made as an entry of the directory above it, where there was none. -/
theorem makeDirectory_ok {tree made : FileTree} {path : Path} {last : String}
    (ok : tree.makeDirectory (path.child last) = .ok made) :
    ∃ above entries, tree.Opens path above entries ∧ Entries.get? entries last = none ∧
      made = tree.put (above ++ [last]) .empty ∧ made.hasDirectory (path.child last) = true := by
  unfold makeDirectory at ok
  split at ok
  · cases ok
  · cases ok
  · next names located =>
    cases ok
    by_cases down : last = ".."
    · subst down
      obtain ⟨entries, there⟩ := directory_of_locate_up located
      cases there
    · obtain ⟨fits, short, above, entries, opens, same⟩ := (locate_child_iff down).mp located
      simp only [Spot.mk.injEq] at same
      obtain ⟨rfl, absent⟩ := same
      have opens' := opens.put (fun sub there => by rw [← absent] at there; cases there) .empty
      have located' := (locate_child_iff down).mpr ⟨fits, short, above, _, opens', rfl⟩
      rw [Entries.get?_put, if_pos rfl] at located'
      exact ⟨above, entries, opens, absent.symm, rfl, hasDirectory_iff.mpr ⟨_, _, located'⟩⟩

theorem grows_makeDirectory {tree made : FileTree} {path : Path} {last : String}
    (ok : tree.makeDirectory (path.child last) = .ok made) : tree.Grows made := by
  obtain ⟨above, entries, opens, absent, rfl, _⟩ := makeDirectory_ok ok
  have whole : (tree.put (above ++ [last]) .empty).top =
      Node.putAt (.directory (Entries.put entries last .empty)) tree.top above := Node.putAt_entry opens.there _ _
  have plain : ∀ sub, Entries.get? entries last ≠ some (.directory sub) := fun sub => by rw [absent]; exact nofun
  refine ⟨rfl, ?_, fun names content => ?_, fun distinct => ?_⟩
  · rw [whole]
    exact .putAt opens.there (Node.keeps_put plain .empty)
  · rw [whole]
    refine Node.related_putAt (r := fun a b => b = some (.file content) ↔ a = some (.file content)) (fun x => .rfl)
      (fun a b => by simp) opens.there (fun below => ?_) names
    refine Node.related_put (r := fun a b => b = some (.file content) ↔ a = some (.file content)) (fun x => .rfl)
      (fun a b => by simp) (fun deeper => ?_) below
    rw [absent]
    cases deeper <;> simp [Node.empty, Node.at?, Entries.get?]
  · rw [whole]
    exact distinct.putAt opens.there ((distinct.of_at? opens.there).put last Node.distinct_empty)

private theorem path_of_parts (start : PathStart) (last : String) (above : List String) :
    (⟨start, (last :: above).reverse⟩ : Path) = Path.child ⟨start, above.reverse⟩ last := by
  simp [Path.child]

/-- Making directories only adds them, also when it fails on the way, and once it is done they are there. -/
private theorem makeDirectoriesUp_spec (start : PathStart) (parts : List String) (tree : FileTree) :
    tree.Grows (makeDirectoriesUp start parts tree).2 ∧
    ((makeDirectoriesUp start parts tree).1 = .ok () → parts = [] ∨
      (makeDirectoriesUp start parts tree).2.hasDirectory ⟨start, parts.reverse⟩ = true) := by
  induction parts generalizing tree with
  | nil => exact ⟨.refl tree, fun _ => .inl rfl⟩
  | cons last above ih =>
    have settled : ∀ (higher : FileTree) (fault : FileFault),
        let path : Path := ⟨start, (last :: above).reverse⟩
        let settle := if higher.hasDirectory path then (Except.ok (), higher) else (.error fault, higher)
        settle.2 = higher ∧ (settle.1 = .ok () → higher.hasDirectory path = true) := by
      intro higher fault
      dsimp only
      split_ifs with there
      · exact ⟨rfl, fun _ => there⟩
      · exact ⟨rfl, nofun⟩
    rw [makeDirectoriesUp.eq_def]
    dsimp only at settled ⊢
    split
    · next made ok =>
      rw [path_of_parts] at ok ⊢
      obtain ⟨_, _, _, _, _, there⟩ := makeDirectory_ok ok
      exact ⟨grows_makeDirectory ok, fun _ => .inr there⟩
    · obtain ⟨grows, _⟩ := ih tree
      split
      · next fault higher failed =>
        rw [failed] at grows
        exact ⟨grows, nofun⟩
      · next higher done =>
        rw [done] at grows
        split
        · next made ok =>
          rw [path_of_parts] at ok ⊢
          obtain ⟨_, _, _, _, _, there⟩ := makeDirectory_ok ok
          exact ⟨grows.trans (grows_makeDirectory ok), fun _ => .inr there⟩
        · next fault _ =>
          obtain ⟨same, there⟩ := settled higher fault
          exact ⟨by rw [same]; exact grows, fun ok => .inr (by rw [same]; exact there ok)⟩
    · next fault _ _ =>
      obtain ⟨same, there⟩ := settled tree fault
      exact ⟨by rw [same]; exact .refl tree, fun ok => .inr (by rw [same]; exact there ok)⟩

/-- Making directories adds empty directories and nothing else. -/
theorem grows_makeDirectories (tree : FileTree) (path : Path) : tree.Grows (tree.makeDirectories path).2 :=
  (makeDirectoriesUp_spec path.start path.parts.reverse tree).1

/-- Where the directory is there, making it changes nothing. -/
theorem makeDirectories_of_hasDirectory {tree : FileTree} {path : Path} (there : tree.hasDirectory path = true) :
    tree.makeDirectories path = (.ok (), tree) := by
  obtain ⟨start, parts⟩ := path
  unfold makeDirectories
  dsimp only
  cases above : parts.reverse with
  | nil => rfl
  | cons last rest =>
    have same : (last :: rest).reverse = parts := by rw [← above, List.reverse_reverse]
    obtain ⟨names, entries, located⟩ := hasDirectory_iff.mp there
    have exists_there : tree.makeDirectory ⟨start, parts⟩ = .error .alreadyExists := by
      rw [makeDirectory, located]
    rw [makeDirectoriesUp, same, exists_there]
    dsimp only
    rw [if_pos there]

/-- Where directories were made, making them again changes nothing. -/
theorem makeDirectories_again {tree made : FileTree} {path : Path} (ok : tree.makeDirectories path = (.ok (), made)) :
    made.makeDirectories path = (.ok (), made) := by
  have there := (makeDirectoriesUp_spec path.start path.parts.reverse tree).2
  unfold makeDirectories at ok
  rw [ok, List.reverse_reverse] at there
  rcases there rfl with none | there
  · rw [makeDirectories, none]
    rfl
  · exact makeDirectories_of_hasDirectory there

/-- A path whose directories were made once makes nothing in any tree in which it opens a directory. -/
theorem makeDirectories_of_opens {tree made other : FileTree} {path : Path} {above : List String}
    {entries : List (String × Node)} (ok : tree.makeDirectories path = (.ok (), made))
    (opens : other.Opens path above entries) : other.makeDirectories path = (.ok (), other) := by
  have there := (makeDirectoriesUp_spec path.start path.parts.reverse tree).2
  unfold makeDirectories at ok
  rw [ok, List.reverse_reverse] at there
  rcases there rfl with none | there
  · rw [makeDirectories, none]
    rfl
  · obtain ⟨names, others, located⟩ := hasDirectory_iff.mp there
    exact makeDirectories_of_hasDirectory (hasDirectory_of_opens (locate_ok_iff.mp located).1 opens)

end FileTree
end HomeTiles
