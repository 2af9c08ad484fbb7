import HomeTiles.Preferences

/-!
# Callbacks: named migrations and document changes

A caller may hand a store a migration, from a state and its version to a new
state, and changes, from the document to the entries to be put over it. Here are
the ones that go by a name.
-/

namespace HomeTiles

/-- A migration that goes by a name. -/
inductive Migration where
  | identity
  | resetFavorites
  | note
  | null
  | list
  | unserializable
  | fail
  deriving DecidableEq, Repr

/-- What a migration makes of a state that was stored under a version. -/
def Migration.run (migration : Migration) (state version : Value) : Except Fault Value :=
  match migration with
  | .identity => .ok state
  | .resetFavorites => match state with
    | .object fields => .ok (.object (Entries.put fields Preferences.favoritesKey (.object [])))
    | _ => .error .wrongKind
  | .note => .ok (.object [(Preferences.widgetsKey, .object []), ("from", version), ("was", state)])
  | .null => .ok .null
  | .list => .ok (.array [state])
  | .unserializable => .ok (.object [("bad", .handle true)])
  | .fail => .error (.callback "migrate failed")

/-- A change of the document that goes by a name. -/
inductive Change where
  | addFavorite (package : String)
  | whole
  /-- Writes into the copy it was given and asks for nothing. -/
  | scribble
  /-- Writes into the copy it was given and fails. -/
  | scribbleAndFail
  | count
  | value (v : Value)
  deriving Repr

namespace Change

/-- One more than a number: truth values count as zero and one. -/
def plusOne : Value → Except Fault Value
  | .bool b => .ok (.int (if b then 2 else 1))
  | .int n => .ok (.int (n + 1))
  | .float x => .ok (.float (x.add (Double.ofInt 1)))
  | _ => .error .wrongKind

/-- The favorites of a document, which have to be an object. -/
def favorites (document : Fields) : Except Fault Fields :=
  match Value.underName document Preferences.favoritesKey with
  | .object favorites => .ok favorites
  | _ => .error .wrongKind

def run (change : Change) (document : Fields) : Except Fault Value :=
  match change with
  | .addFavorite package => match favorites document with
    | .ok entries =>
      .ok (.object [(Preferences.favoritesKey, .object (entries.put package (.bool true)))])
    | .error fault => .error fault
  | .whole => .ok (.object document)
  | .scribble => (favorites document).map fun _ => .object []
  | .scribbleAndFail => match favorites document with
    | .ok _ => .error (.callback "updater failed")
    | .error fault => .error fault
  | .count => (plusOne ((document.get? "count").getD (.int 0))).map fun n => .object [("count", n)]
  | .value v => .ok v

end Change
end HomeTiles
