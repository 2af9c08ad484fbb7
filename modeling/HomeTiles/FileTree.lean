import HomeTiles.Node
import HomeTiles.Path

/-!
# File trees: where paths lead and what can go wrong

A `FileTree` is a directory at the top and a working directory somewhere in it,
where paths without a root start. `locate` follows the parts of a path one by
one: two points lead back up, the top being above itself, and names and whole
paths have a longest length. The file operations work where a path leads. One
that fails gives the reason, and only `makeDirectories` can have changed the
tree by then.
-/

namespace HomeTiles

/-- A tree and its working directory. -/
structure FileTree where
  top : Node
  /-- The names that lead to the working directory. -/
  working : List String

/-- Why a file operation fails. -/
inductive FileFault where
  | notFound
  | notADirectory
  | isADirectory
  | alreadyExists
  /-- The last part of a path leads back up, so nothing can be put there. -/
  | busy
  /-- A part holds the NUL character, which no name has. -/
  | unnameable
  /-- A part or the whole path is longer than any can be. -/
  | tooLong
  deriving DecidableEq, Repr

def FileFault.message? : FileFault → Option String
  | .unnameable => some "embedded null byte"
  | _ => none

/-- The names walked down from the top, deepest first, each with the node that it leads to. -/
abbrev Trail := List (String × Option Node)

/-- The node that a trail leads to. -/
def Trail.node? (top : Node) : Trail → Option Node
  | [] => some top
  | (_, node?) :: _ => node?

/-- Where a path leads: the names from the top, and the node that is there. -/
structure Spot where
  names : List String
  node? : Option Node

namespace FileTree

/-- The length of the longest name, in bytes. -/
def nameLimit : Nat := 255

/-- The length of the longest path, in bytes. -/
def pathLimit : Nat := 4095

/-- A tree with nothing in it but the working directory, two levels down. -/
def fresh : FileTree where
  top := .directory [("tmp", .directory [("work", .empty)])]
  working := ["tmp", "work"]

/-- Every path below the working directory: the bytes of a file, none for a directory. -/
def listing (tree : FileTree) : List (String × Option ByteArray) :=
  match tree.top.at? tree.working with
  | some node => node.listing
  | none => []

/-! ## Following a path -/

/-- Follows parts from the end of a trail; every part is looked for in a directory. -/
def follow (top : Node) : Trail → List String → Except FileFault Trail
  | trail, [] => .ok trail
  | trail, part :: rest => match trail.node? top with
    | none => .error .notFound
    | some (.file _) => .error .notADirectory
    | some (.directory entries) =>
      if part = ".." then follow top trail.tail rest
      else if nameLimit < part.utf8ByteSize then .error .tooLong
      else follow top ((part, Entries.get? entries part) :: trail) rest

def partsFromTop (tree : FileTree) (path : Path) : List String :=
  match path.start with
  | .working => tree.working ++ path.parts
  | .root => path.parts
  | .doubleRoot => path.parts

/-- Where a path leads; the last of its parts need not be there. -/
def locate (tree : FileTree) (path : Path) : Except FileFault Spot :=
  if path.parts.any (·.toList.contains '\x00') then .error .unnameable
  else if pathLimit < path.text.utf8ByteSize then .error .tooLong
  else match follow tree.top [] (tree.partsFromTop path) with
    | .ok trail => .ok ⟨(trail.map Prod.fst).reverse, trail.node? tree.top⟩
    | .error fault => .error fault

def find (tree : FileTree) (path : Path) : Except FileFault Node :=
  match tree.locate path with
  | .error fault => .error fault
  | .ok ⟨_, some node⟩ => .ok node
  | .ok ⟨_, none⟩ => .error .notFound

/-- Whether there is anything at a path; a path that is too long has no answer. -/
def hasPath (tree : FileTree) (path : Path) : Except FileFault Bool :=
  match tree.find path with
  | .ok _ => .ok true
  | .error .tooLong => .error .tooLong
  | .error _ => .ok false

def hasDirectory (tree : FileTree) (path : Path) : Bool :=
  match tree.find path with
  | .ok (.directory _) => true
  | _ => false

/-! ## File operations -/

/-- The tree with a node where the names lead. -/
def put (tree : FileTree) (names : List String) (node : Node) : FileTree :=
  { tree with top := Node.putAt node tree.top names }

def erase (tree : FileTree) (names : List String) : FileTree := { tree with top := tree.top.eraseAt names }

def readFile (tree : FileTree) (path : Path) : Except FileFault ByteArray :=
  match tree.find path with
  | .ok (.file content) => .ok content
  | .ok (.directory _) => .error .isADirectory
  | .error fault => .error fault

/-- Gives the file at a path new bytes, making it if it is not there. -/
def writeFile (tree : FileTree) (path : Path) (content : ByteArray) : Except FileFault FileTree :=
  match tree.locate path with
  | .error fault => .error fault
  | .ok ⟨_, some (.directory _)⟩ => .error .isADirectory
  | .ok ⟨names, _⟩ => .ok (tree.put names (.file content))

/-- Makes the directory at a path, whose parent has to be there. -/
def makeDirectory (tree : FileTree) (path : Path) : Except FileFault FileTree :=
  match tree.locate path with
  | .error fault => .error fault
  | .ok ⟨_, some _⟩ => .error .alreadyExists
  | .ok ⟨names, none⟩ => .ok (tree.put names .empty)

/-- Makes the directory that the parts lead to, last part first, and those above it that are
missing; one that is there already is as good. The tree comes back with the directories made
up to a failure. -/
def makeDirectoriesUp (start : PathStart) : List String → FileTree → Except FileFault Unit × FileTree
  | [], tree => (.ok (), tree)
  | last :: above, tree =>
    let path : Path := ⟨start, (last :: above).reverse⟩
    let settle (tree : FileTree) (fault : FileFault) : Except FileFault Unit × FileTree :=
      if tree.hasDirectory path then (.ok (), tree) else (.error fault, tree)
    match tree.makeDirectory path with
    | .ok made => (.ok (), made)
    | .error .notFound => match makeDirectoriesUp start above tree with
      | (.error fault, higher) => (.error fault, higher)
      | (.ok (), higher) => match higher.makeDirectory path with
        | .ok made => (.ok (), made)
        | .error fault => settle higher fault
    | .error fault => settle tree fault

/-- Makes the directory at a path and those above it that are missing. -/
def makeDirectories (tree : FileTree) (path : Path) : Except FileFault Unit × FileTree :=
  makeDirectoriesUp path.start path.parts.reverse tree

/-- Moves a file to another path, taking the place of a file that is there. -/
def moveFile (tree : FileTree) (source target : Path) : Except FileFault FileTree :=
  match tree.locate source, tree.locate target with
  | .error fault, _ => .error fault
  | _, .error fault => .error fault
  | .ok ⟨names, node?⟩, .ok ⟨targetNames, there?⟩ =>
    if target.name? = some ".." then .error .busy
    else match node?, there? with
      | none, _ => .error .notFound
      | _, some (.directory _) => .error .isADirectory
      | some node, _ => .ok ((tree.erase names).put targetNames node)

def removeFile (tree : FileTree) (path : Path) : Except FileFault FileTree :=
  match tree.locate path with
  | .error fault => .error fault
  | .ok ⟨_, none⟩ => .error .notFound
  | .ok ⟨_, some (.directory _)⟩ => .error .isADirectory
  | .ok ⟨names, some (.file _)⟩ => .ok (tree.erase names)

end FileTree
end HomeTiles
