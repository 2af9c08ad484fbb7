import HomeTiles.Node
import HomeTiles.Proofs.DistinctNames

/-!
# Updates of nodes: what is where after a change

Putting a node where something is and taking an entry out are one operation: a
node on the way down is replaced by another one. `related_putAt` carries any
relation between the node replaced and the new one to everything below the
top, as long as the relation passes over directories. That every directory is
still one (`Keeps`) comes from it, and `Distinct` says that no directory has a
name twice.
-/

namespace HomeTiles.Node

/-! ## Looking down -/

@[simp] theorem at?_nil (node : Node) : node.at? [] = some node := by
  cases node <;> rfl

theorem at?_directory_cons (entries : List (String × Node)) (name : String) (rest : List String) :
    (directory entries).at? (name :: rest) = (Entries.get? entries name).bind (·.at? rest) := by
  rw [at?]
  cases Entries.get? entries name <;> rfl

theorem at?_append (node : Node) (above below : List String) :
    node.at? (above ++ below) = (node.at? above).bind (·.at? below) := by
  induction above generalizing node with
  | nil => simp
  | cons name rest ih =>
    cases node with
    | file content => simp [at?]
    | directory entries =>
      rw [List.cons_append, at?_directory_cons, at?_directory_cons]
      cases Entries.get? entries name with
      | none => rfl
      | some sub => exact ih sub

/-- What an entry of a directory leads to. -/
theorem at?_entry {node : Node} {above : List String} {entries : List (String × Node)}
    (there : node.at? above = some (.directory entries)) (name : String) :
    node.at? (above ++ [name]) = Entries.get? entries name := by
  rw [at?_append, there, Option.bind_some, at?_directory_cons]
  cases Entries.get? entries name <;> simp

/-- Above anything there is a directory. -/
theorem directory_of_at? {node found : Node} {above : List String} {name : String}
    (there : node.at? (above ++ [name]) = some found) : ∃ entries, node.at? above = some (.directory entries) := by
  rw [at?_append] at there
  cases parent : node.at? above with
  | none => simp [parent] at there
  | some sub =>
    cases sub with
    | file content => simp [parent, at?] at there
    | directory entries => exact ⟨entries, rfl⟩

/-! ## Replacing a node -/

theorem putAt_nil (node new : Node) : putAt new node [] = new := by
  cases node <;> rfl

private theorem putAt_cons {entries : List (String × Node)} {name : String} {sub : Node}
    (there : Entries.get? entries name = some sub) (new : Node) (rest : List String) :
    putAt new (.directory entries) (name :: rest) = .directory (Entries.put entries name (putAt new sub rest)) := by
  simp [putAt, there]

/-- Putting an entry into a directory replaces the directory. -/
theorem putAt_entry {node : Node} {above : List String} {entries : List (String × Node)}
    (there : node.at? above = some (.directory entries)) (name : String) (new : Node) :
    putAt new node (above ++ [name]) = putAt (.directory (Entries.put entries name new)) node above := by
  induction above generalizing node with
  | nil =>
    rw [at?_nil, Option.some.injEq] at there
    subst there
    rw [List.nil_append, putAt_nil, putAt]
    cases Entries.get? entries name <;> simp [putAt_nil]
  | cons first rest ih =>
    cases node with
    | file content => simp [at?] at there
    | directory others =>
      rw [at?_directory_cons] at there
      cases found : Entries.get? others first with
      | none => simp [found] at there
      | some sub =>
        rw [found, Option.bind_some] at there
        rw [List.cons_append, putAt_cons found, putAt_cons found, ih there]

/-- Taking an entry out of a directory replaces the directory. -/
theorem eraseAt_entry {node : Node} {above : List String} {entries : List (String × Node)}
    (there : node.at? above = some (.directory entries)) (name : String) :
    node.eraseAt (above ++ [name]) = putAt (.directory (Entries.erase entries name)) node above := by
  induction above generalizing node with
  | nil =>
    rw [at?_nil, Option.some.injEq] at there
    subst there
    simp [eraseAt, putAt_nil]
  | cons first rest ih =>
    cases node with
    | file content => simp [at?] at there
    | directory others =>
      rw [at?_directory_cons] at there
      cases found : Entries.get? others first with
      | none => simp [found] at there
      | some sub =>
        rw [found, Option.bind_some] at there
        rw [List.cons_append, putAt_cons found, ← ih there, eraseAt]
        simp [found]

theorem at?_putAt_self {node old : Node} {names : List String} (there : node.at? names = some old) (new : Node) :
    (putAt new node names).at? names = some new := by
  induction names generalizing node with
  | nil => rw [putAt_nil, at?_nil]
  | cons name rest ih =>
    cases node with
    | file content => simp [at?] at there
    | directory entries =>
      rw [at?_directory_cons] at there
      cases found : Entries.get? entries name with
      | none => simp [found] at there
      | some sub =>
        rw [found, Option.bind_some] at there
        rw [putAt_cons found, at?_directory_cons, Entries.get?_put, if_pos rfl, Option.bind_some, ih there]

section Related

variable {r : Option Node → Option Node → Prop} (refl : ∀ x, r x x)
  (directories : ∀ a b, r (some (.directory a)) (some (.directory b)))
include refl directories

/-- What holds between an entry and the new one holds between the directories. -/
theorem related_put {entries : List (String × Node)} {name : String} {new : Node}
    (changed : ∀ below, r ((Entries.get? entries name).bind (·.at? below)) (new.at? below)) (below : List String) :
    r ((directory entries).at? below) ((directory (Entries.put entries name new)).at? below) := by
  cases below with
  | nil =>
    rw [at?_nil, at?_nil]
    exact directories _ _
  | cons first rest =>
    rw [at?_directory_cons, at?_directory_cons, Entries.get?_put]
    by_cases same : name = first
    · subst same
      rw [if_pos rfl, Option.bind_some]
      exact changed rest
    · rw [if_neg same]
      exact refl _

/-- What holds between an entry and what is left in its place holds between the directories. -/
theorem related_erase {entries : List (String × Node)} {name : String}
    (changed : ∀ below, r ((Entries.get? entries name).bind (·.at? below))
      ((Entries.get? (Entries.erase entries name) name).bind (·.at? below))) (below : List String) :
    r ((directory entries).at? below) ((directory (Entries.erase entries name)).at? below) := by
  cases below with
  | nil =>
    rw [at?_nil, at?_nil]
    exact directories _ _
  | cons first rest =>
    rw [at?_directory_cons, at?_directory_cons]
    by_cases same : name = first
    · subst same
      exact changed rest
    · rw [Entries.get?_erase_of_ne entries same]
      exact refl _

/-- What holds between a node and the one that replaces it holds between the wholes. -/
theorem related_putAt {node old new : Node} {names : List String} (there : node.at? names = some old)
    (changed : ∀ below, r (old.at? below) (new.at? below)) (below : List String) :
    r (node.at? below) ((putAt new node names).at? below) := by
  induction names generalizing node below with
  | nil =>
    rw [at?_nil, Option.some.injEq] at there
    subst there
    rw [putAt_nil]
    exact changed below
  | cons name rest ih =>
    cases node with
    | file content => simp [at?] at there
    | directory entries =>
      rw [at?_directory_cons] at there
      cases found : Entries.get? entries name with
      | none => simp [found] at there
      | some sub =>
        rw [found, Option.bind_some] at there
        rw [putAt_cons found]
        refine related_put refl directories (fun deeper => ?_) below
        rw [found, Option.bind_some]
        exact ih there deeper

end Related

/-! ## Directories that stay -/

/-- Where there was a directory there still is one. -/
def StaysDirectory (before after : Option Node) : Prop :=
  ∀ entries, before = some (.directory entries) → ∃ others, after = some (.directory others)

theorem StaysDirectory.refl (node? : Option Node) : StaysDirectory node? node? := fun entries there => ⟨entries, there⟩

theorem StaysDirectory.directories (a b : List (String × Node)) :
    StaysDirectory (some (.directory a)) (some (.directory b)) := fun _ _ => ⟨b, rfl⟩

/-- Below what is no directory there is none. -/
theorem StaysDirectory.of_plain {entry : Option Node} (plain : ∀ sub, entry ≠ some (.directory sub))
    (below : List String) (after : Option Node) : StaysDirectory (entry.bind (·.at? below)) after := by
  intro entries found
  cases entry with
  | none => cases found
  | some node =>
    cases node with
    | file content => cases below <;> simp [at?] at found
    | directory inner => exact absurd rfl (plain inner)

/-- Every directory below the node is still one. -/
def Keeps (before after : Node) : Prop := ∀ names, StaysDirectory (before.at? names) (after.at? names)

theorem keeps_put {entries : List (String × Node)} {name : String}
    (plain : ∀ sub, Entries.get? entries name ≠ some (.directory sub)) (new : Node) :
    (directory entries).Keeps (directory (Entries.put entries name new)) :=
  related_put .refl .directories fun below => .of_plain plain below _

theorem keeps_erase {entries : List (String × Node)} {name : String}
    (plain : ∀ sub, Entries.get? entries name ≠ some (.directory sub)) :
    (directory entries).Keeps (directory (Entries.erase entries name)) :=
  related_erase .refl .directories fun below => .of_plain plain below _

theorem Keeps.putAt {node old new : Node} {names : List String} (there : node.at? names = some old)
    (keeps : old.Keeps new) : node.Keeps (putAt new node names) :=
  related_putAt .refl .directories there keeps

/-! ## Distinct names -/

/-- No directory has a name twice. -/
def Distinct (node : Node) : Prop :=
  ∀ names entries, node.at? names = some (.directory entries) → (Entries.names entries).Nodup

theorem distinct_empty : empty.Distinct := by
  intro names entries there
  cases names with
  | nil =>
    simp only [empty, at?_nil, Option.some.injEq, directory.injEq] at there
    rw [← there]
    exact List.nodup_nil
  | cons name rest => simp [empty, at?, Entries.get?] at there

theorem distinct_file (content : ByteArray) : (file content).Distinct := by
  intro names entries there
  cases names <;> cases there

theorem Distinct.put {entries : List (String × Node)} (distinct : (directory entries).Distinct) (name : String)
    {new : Node} (ok : new.Distinct) : (directory (Entries.put entries name new)).Distinct := by
  intro names others there
  cases names with
  | nil =>
    simp only [at?_nil, Option.some.injEq, directory.injEq] at there
    rw [← there]
    exact Entries.nodup_put (distinct [] entries rfl) name new
  | cons first rest =>
    rw [at?_directory_cons, Entries.get?_put] at there
    split_ifs at there
    · exact ok rest others there
    · exact distinct (first :: rest) others (by rw [at?_directory_cons, there])

theorem Distinct.erase {entries : List (String × Node)} (distinct : (directory entries).Distinct) (name : String) :
    (directory (Entries.erase entries name)).Distinct := by
  have nodup := distinct [] entries rfl
  intro names others there
  cases names with
  | nil =>
    simp only [at?_nil, Option.some.injEq, directory.injEq] at there
    rw [← there]
    exact Entries.nodup_erase nodup name
  | cons first rest =>
    rw [at?_directory_cons, Entries.get?_erase nodup] at there
    split_ifs at there
    · cases there
    · exact distinct (first :: rest) others (by rw [at?_directory_cons, there])

theorem Distinct.putAt {node old : Node} (distinct : node.Distinct) {names : List String}
    (there : node.at? names = some old) {new : Node} (ok : new.Distinct) : (putAt new node names).Distinct := by
  induction names generalizing node with
  | nil =>
    rw [putAt_nil]
    exact ok
  | cons name rest ih =>
    cases node with
    | file content => simp [at?] at there
    | directory entries =>
      rw [at?_directory_cons] at there
      cases found : Entries.get? entries name with
      | none => simp [found] at there
      | some sub =>
        rw [found, Option.bind_some] at there
        rw [putAt_cons found]
        have below : sub.Distinct := fun names others at_sub =>
          distinct (name :: names) others (by rw [at?_directory_cons, found, Option.bind_some, at_sub])
        exact distinct.put name (ih below there)

theorem Distinct.of_at? {node sub : Node} (distinct : node.Distinct) {names : List String}
    (there : node.at? names = some sub) : sub.Distinct := by
  intro below entries found
  exact distinct (names ++ below) entries (by rw [at?_append, there, Option.bind_some, found])

end HomeTiles.Node
