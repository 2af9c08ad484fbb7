import HomeTiles.Storage

/-!
# File storage: a record among others in a file

A storage file is an indented JSON object with one record under each name. Every
write puts the whole object into a file beside the storage file and then moves
that file over it. A file that cannot be read, or that holds no object, counts
as an empty object and is reported; only one that cannot even be looked for, its
path being too long, is a fault.
-/

namespace HomeTiles

/-- A storage file and the name of one record in it. -/
structure StorageFile where
  path : Path
  name : String := storeName
  deriving DecidableEq, Repr

namespace StorageFile

def layout : Layout := .indented 2

/-! ## Reading -/

/-- The object that some bytes hold, or what is wrong with them: no cause means another kind of value. -/
def parse (content : ByteArray) : Except (Option Cause) Fields :=
  match String.fromUTF8? content with
  | none => .error (some .undecodable)
  | some text => match Value.read text with
    | .error fault => .error (some (.read fault))
    | .ok (.object fields) => .ok fields
    | .ok _ => .error none

/-- All records of the file, none if there is no file or no object in it; `report` words the trouble. -/
def records (file : StorageFile) (report : Path → Option Cause → Notice) (tree : FileTree) :
    Except Fault Fields × List Notice :=
  match tree.hasPath file.path with
  | .error fault => (.error (.file fault), [])
  | .ok false => (.ok [], [])
  | .ok true => match tree.readFile file.path with
    | .error fault => (.ok [], [report file.path (some (.file fault))])
    | .ok content => match parse content with
      | .error cause => (.ok [], [report file.path cause])
      | .ok fields => (.ok fields, [])

/-- The record under the name, if it is an object. -/
def load (file : StorageFile) (tree : FileTree) : Except Fault (Option Value) × List Notice :=
  let (fields, notices) := file.records .ignoringFile tree
  (fields.map fun fields => (fields.get? file.name).filter Value.isObject, notices)

/-! ## Writing -/

/-- Puts the text of all records into the file `beside` and moves it to the storage file. -/
def replace (file : StorageFile) (beside : Path) (fields : Fields) (tree : FileTree) : Except Cause Unit × FileTree :=
  match tree.makeDirectories file.path.parent with
  | (.error fault, made) => (.error (.file fault), made)
  | (.ok (), made) => match (Value.object fields).write layout with
    | .error fault => (.error (.write fault), made)
    | .ok text => match made.writeFile beside text.toUTF8 with
      | .error fault => (.error (.file fault), made)
      | .ok written => match written.moveFile beside file.path with
        | .error fault => (.error (.file fault), written)
        | .ok moved => (.ok (), moved)

/-- Writes all records; the path has to have a last part. -/
def write (file : StorageFile) (fields : Fields) (tree : FileTree) : Except Fault Unit × FileTree :=
  match file.path.sibling? ".tmp" with
  | none => (.error (.namelessFile file.path), tree)
  | some beside => match file.replace beside fields tree with
    | (.error cause, after) => (.error (.unavailable (.file file.path cause)), after)
    | (.ok (), after) => (.ok (), after)

/-- Puts a record under the name and keeps the others. -/
def save (file : StorageFile) (record : Value) (tree : FileTree) : Outcome FileTree :=
  match file.records .replacingFile tree with
  | (.error fault, notices) => ⟨.error fault, tree, notices⟩
  | (.ok fields, notices) =>
    let (result, after) := file.write (fields.put file.name record) tree
    ⟨result, after, notices⟩

/-- Takes the record out and keeps the others; the file is written only if there was one. -/
def clear (file : StorageFile) (tree : FileTree) : Outcome FileTree :=
  match file.records .ignoringFile tree with
  | (.error fault, notices) => ⟨.error fault, tree, notices⟩
  | (.ok fields, notices) => match (fields.get? file.name).bind Value.present? with
    | none => ⟨.ok (), tree, notices⟩
    | some _ =>
      let (result, after) := file.write (fields.erase file.name) tree
      ⟨result, after, notices⟩

def storage (file : StorageFile) : Storage FileTree where
  load := file.load
  save := file.save
  clear := file.clear

end StorageFile
end HomeTiles
