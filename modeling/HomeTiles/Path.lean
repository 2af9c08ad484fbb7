/-!
# Paths: where a file is, part by part

A path is kept in normal form: repeated slashes and parts that are a single
point are gone, parts that are two points stay. Exactly two leading slashes are
a start of their own; any other number above zero is the root. The last part may
have a suffix, which `withSuffix?` takes away for another one.
-/

namespace HomeTiles

inductive PathStart where
  | working
  | root
  | doubleRoot
  deriving DecidableEq, Repr

/-- A path in normal form. -/
structure Path where
  start : PathStart
  parts : List String
  deriving DecidableEq, Repr

namespace Path

/-- The pieces of a text between its slashes. -/
def pieces : List Char → List (List Char)
  | [] => [[]]
  | c :: rest =>
    if c = '/' then [] :: pieces rest
    else match pieces rest with
      | piece :: more => (c :: piece) :: more
      | [] => [[c]]

/-- Whether a piece is a part of its own. -/
def isPart (piece : List Char) : Bool := !piece.isEmpty && piece != ['.']

/-- The start that a text's leading slashes mean. -/
def startOf (cs : List Char) : PathStart :=
  match (cs.takeWhile (· = '/')).length with
  | 0 => .working
  | 2 => .doubleRoot
  | _ => .root

def ofText (s : String) : Path :=
  ⟨startOf s.toList, ((pieces s.toList).filter isPart).map String.ofList⟩

/-- The text of a path; one without parts is a single point or its start. -/
def text (path : Path) : String :=
  let joined := "/".intercalate path.parts
  match path.start with
  | .working => if path.parts.isEmpty then "." else joined
  | .root => "/" ++ joined
  | .doubleRoot => "//" ++ joined

def child (path : Path) (name : String) : Path := { path with parts := path.parts ++ [name] }

def parent (path : Path) : Path := { path with parts := path.parts.dropLast }

def name? (path : Path) : Option String := path.parts.getLast?

/-- The suffix of a last part, from its last point on: there is something before that point and after it. -/
def suffixOf (name : String) : String :=
  match name.toList.reverse.idxOf? '.' with
  | none => ""
  | some behind =>
    let place := name.length - 1 - behind
    if 0 < place ∧ place < name.length - 1 then String.ofList (name.toList.drop place) else ""

def suffix (path : Path) : String := (path.name?.map suffixOf).getD ""

/-- The path with another suffix: nothing, or a point with something behind it. There has to be a last part. -/
def withSuffix? (path : Path) (suffix : String) : Option Path :=
  match path.name? with
  | none => none
  | some name =>
    if suffix = "" ∨ (suffix.toList.head? = some '.' ∧ suffix ≠ ".") then
      let stem := String.ofList (name.toList.take (name.length - (suffixOf name).length))
      some (path.parent.child (stem ++ suffix))
    else none

/-- The path with something more behind its suffix. -/
def sibling? (path : Path) (added : String) : Option Path := path.withSuffix? (path.suffix ++ added)

end Path
end HomeTiles
