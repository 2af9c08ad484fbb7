import HomeTiles.Storage

/-!
# Settings storage: a record as one value of a settings file

The record is kept as compact JSON under a name of its own among other settings.
Every change is followed by a synchronisation, whose status says whether it
worked; the value has changed in any case.
-/

namespace HomeTiles

/-- A settings file: its values, the status it reports, how often it was synchronised and whose it is. -/
structure Settings where
  values : Fields := []
  status : SettingsStatus := .noError
  syncs : Nat := 0
  organization : String
  application : String

namespace Settings

/-- Synchronises and asks for the status. -/
def sync (settings : Settings) : Outcome Settings :=
  let synced := { settings with syncs := settings.syncs + 1 }
  if settings.status = .noError then ⟨.ok (), synced, []⟩
  else ⟨.error (.unavailable (.settings settings.status)), synced, []⟩

/-- The record that a value stands for, or what is wrong with the value. -/
def parse : Value → Except Cause (Option Value)
  | .text s => match Value.read s with
    | .ok record => .ok (if record.isObject then some record else none)
    | .error fault => .error (.read fault)
  | _ => .error .notText

/-- The record under a name, if its value is the text of an object. -/
def load (name : String) (settings : Settings) : Option Value × List Notice :=
  match settings.values.get? name with
  | none => (none, [])
  | some raw =>
    if raw.truthy then
      match parse raw with
      | .ok record => (record, [])
      | .error cause => (none, [.ignoringSetting name cause])
    else (none, [])

def save (name : String) (record : Value) (settings : Settings) : Outcome Settings :=
  match record.write .compact with
  | .error fault => ⟨.error (.unavailable (.notSerializable (.write fault))), settings, []⟩
  | .ok text => sync { settings with values := settings.values.put name (.text text) }

def clear (name : String) (settings : Settings) : Outcome Settings :=
  sync { settings with values := settings.values.erase name }

def storage (name : String) : Storage Settings where
  load settings :=
    let (record, notices) := load name settings
    (.ok record, notices)
  save := save name
  clear := clear name

end Settings
end HomeTiles
