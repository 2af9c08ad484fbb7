import HomeTiles.Entries

/-!
# Nodes: files and directories

A `Node` is a file or a directory with its entries. Names lead down from a node:
`at?` looks where they lead, `putAt` and `eraseAt` change what is there, and
`listing` gives everything below.
-/

namespace HomeTiles

/-- A file with its bytes, or a directory. -/
inductive Node where
  | file (content : ByteArray)
  | directory (entries : List (String × Node))
  deriving Inhabited

namespace Node

def empty : Node := .directory []

/-! ## By name, downwards -/

def at? : Node → List String → Option Node
  | node, [] => some node
  | .file _, _ :: _ => none
  | .directory entries, name :: rest => match Entries.get? entries name with
    | some node => node.at? rest
    | none => none

/-- Puts a node where the names lead; their directory has to be there. -/
def putAt (new : Node) : Node → List String → Node
  | _, [] => new
  | .file content, _ :: _ => .file content
  | .directory entries, name :: rest => match Entries.get? entries name with
    | some node => .directory (Entries.put entries name (putAt new node rest))
    | none => if rest.isEmpty then .directory (Entries.put entries name new) else .directory entries

/-- Takes away what the names lead to. -/
def eraseAt : Node → List String → Node
  | node, [] => node
  | .file content, _ :: _ => .file content
  | .directory entries, name :: rest =>
    if rest.isEmpty then .directory (Entries.erase entries name)
    else match Entries.get? entries name with
      | some node => .directory (Entries.put entries name (eraseAt node rest))
      | none => .directory entries

/-! ## Everything below -/

mutual
/-- The files below a node with their bytes, and the directories with none, each under its path. -/
def contents (above : String) : Node → List (String × Option ByteArray)
  | .file content => [(above, some content)]
  | .directory entries => (above, none) :: contentsBelow (above ++ "/") entries

def contentsBelow (above : String) : List (String × Node) → List (String × Option ByteArray)
  | [] => []
  | (name, node) :: rest => contents (above ++ name) node ++ contentsBelow above rest
end

/-- Every path below a directory: the bytes of a file, none for a directory. -/
def listing : Node → List (String × Option ByteArray)
  | .file _ => []
  | .directory entries => contentsBelow "" entries

end Node
end HomeTiles
