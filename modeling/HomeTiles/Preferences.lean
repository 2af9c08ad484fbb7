import HomeTiles.Notices
import HomeTiles.ValueEquality
import HomeTiles.WidgetSize

/-!
# Preferences: the document of a home page

A preference document is an object with a map of widget settings and a map of
favorite apps, both keyed by package, and whatever else was stored with it.
`restore` makes a document of stored preferences; `toggled`, `resized` and
`flipped` give the maps that a change of one package leads to, for any document,
also one whose maps are no objects. All names in a document are texts: a map that
a list of pairs would give a number, a truth value or null as a name is left out,
and `mapOf` takes such a list for a wrong kind of value.
-/

namespace HomeTiles.Preferences

/-! ## Documents -/

def widgetsKey : String := "widgetSettings"

def favoritesKey : String := "favoriteApps"

/-- The document that has nothing set. -/
def defaults : Fields := [(widgetsKey, .object []), (favoritesKey, .object [])]

/-- A document whose map under a name is an object: another kind of value gives way to an empty one. -/
def repaired (fields : Fields) (key : String) : Fields × List Notice :=
  if (Value.underName fields key).isObject then (fields, [])
  else (fields.put key (.object []), [.resetMap key])

/-- The document that stored preferences mean: their entries over the defaults, both maps objects. -/
def restore : Value → Fields × List Notice
  | .null => (defaults, [])
  | .object fields =>
    let (widgets, widgetNotices) := repaired (defaults.merge fields) widgetsKey
    let (document, favoriteNotices) := repaired widgets favoritesKey
    (document, widgetNotices ++ favoriteNotices)
  | other => (defaults, [.discardedPreferences other.kindName])

/-- The settings of one widget; an entry that is no object counts as missing. -/
def entryOf (widgets : Fields) (package : String) : Fields :=
  match widgets.get? package with
  | some (.object entry) => entry
  | _ => []

/-! ## Questions -/

def widgetSettings (document : Fields) (package : String) : Except Fault Fields :=
  match Value.underName document widgetsKey with
  | .object widgets => .ok (Entries.merge [("hide", .bool false)] (entryOf widgets package))
  | _ => .error .noEntries

/-- Whether a package is a favorite: it has an entry that counts as true. -/
def isFavorite (document : Fields) (package : String) : Except Fault Bool :=
  match Value.underName document favoritesKey with
  | .object favorites => .ok (Value.underName favorites package).truthy
  | _ => .error .noEntries

/-! ## Changes -/

/-- The widgets with one of them hidden or shown, whichever it was not. -/
def toggled (package : String) (document : Fields) : Except Fault Value :=
  match Value.underName document widgetsKey with
  | .object widgets =>
    let entry := entryOf widgets package
    let hide := !(Value.underName entry "hide").truthy
    .ok (.object [(widgetsKey, .object (Entries.put widgets package (.object (entry.put "hide" (.bool hide)))))])
  | _ => .error .noEntries

def resized (package : String) (size : WidgetSize) (document : Fields) : Except Fault Value :=
  match Value.underName document widgetsKey with
  | .object widgets =>
    let entry := (entryOf widgets package).put "size" (.text size.label)
    .ok (.object [(widgetsKey, .object (Entries.put widgets package (.object entry)))])
  | _ => .error .wrongKind

/-- The favorites with one package made a favorite or not, whichever it was not. -/
def flipped (package : String) (document : Fields) : Except Fault Value :=
  match Value.underName document favoritesKey with
  | .object favorites =>
    let favorite := !(Value.underName favorites package).truthy
    .ok (.object [(favoritesKey, .object (Entries.put favorites package (.bool favorite)))])
  | _ => .error .wrongKind

/-! ## Maps from lists of pairs -/

/-- The name and the value that an item of a list gives, the item being the one numbered `index`. -/
def pairOf (index : Nat) : Value → Except Fault (String × Value)
  | .text s => match s.toList with
    | [name, v] => .ok (String.singleton name, .text (String.singleton v))
    | chars => .error (.notAPair index chars.length)
  | .array [name, v] => match name with
    | .text name => .ok (name, v)
    | _ => .error .wrongKind
  | .array items => .error (.notAPair index items.length)
  | .object [(name, _), (second, _)] => .ok (name, .text second)
  | .object fields => .error (.notAPair index fields.length)
  | _ => .error .wrongKind

/-- Puts the pairs of a list over a map, the first item being the one numbered `index`. -/
def pairsOver (entries : Fields) : Nat → List Value → Except Fault Fields
  | _, [] => .ok entries
  | index, item :: rest => match pairOf index item with
    | .error fault => .error fault
    | .ok (name, v) => pairsOver (entries.put name v) (index + 1) rest

/-- The map that a value stands for: an object, or a list whose items are pairs. -/
def mapOf : Value → Except Fault Fields
  | .object fields => .ok fields
  | .array items => pairsOver [] 0 items
  | .text s => if s = "" then .ok [] else .error (.notAPair 0 1)
  | _ => .error .wrongKind

end HomeTiles.Preferences
