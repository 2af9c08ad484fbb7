import HomeTiles.AppSnapshot

/-!
# Tile actions: the one thing that an app tile offers

A tile offers to launch, update, download or install an app, or says that it is
up to date. Versions are compared by hash only: `AppSnapshot.localHash` is the
hash of the local version, `AppSnapshot.latestHash` the one that the publisher
advertises. `TileAction.resolve` goes through the actions in order of precedence.
-/

namespace HomeTiles

/-- What a tile offers. -/
inductive TileAction where
  | launch
  | update
  | download
  | install
  | upToDate
  deriving DecidableEq, Repr

namespace TileAction

def all : List TileAction := [.launch, .update, .download, .install, .upToDate]

def label : TileAction → String
  | .launch => "launch"
  | .update => "update"
  | .download => "download"
  | .install => "install"
  | .upToDate => "up_to_date"

def ofLabel? (s : String) : Option TileAction := all.find? (·.label == s)

/-- The action that a value names; any other value fails with its spelling. -/
def ofValue (v : Value) : Except Fault TileAction :=
  match v.text?.bind ofLabel? with
  | some action => .ok action
  | none => match v.literal? with
    | some shown => .error (.notAChoice shown "ActionState")
    | none => .error .tooManyDigits

end TileAction

namespace AppSnapshot

/-- The value of a version's entry among the hashes, unless it counts as false. -/
def hashOf? (app : AppSnapshot) (version : String) : Option Value :=
  (app.codeHashes.get? version).filter Value.truthy

/-- The hash that the publisher advertises. -/
def latestHash (app : AppSnapshot) : Option Value := app.currentVersion.bind app.hashOf?

/-- The hash of a local version: the one listed for it, or else itself. -/
def localHash (app : AppSnapshot) (version : String) : Value := (app.hashOf? version).getD (.text version)

/-- Whether an update is due: both hashes are known and differ, and the package is not this node's own. -/
def updatable (app : AppSnapshot) (localNode : Value) : Bool :=
  match app.ourVersion, app.latestHash with
  | some version, some latest => !(app.localHash version).equal latest && !app.publisher.equal localNode
  | _, _ => false

end AppSnapshot

/-- What decides the action of a tile. -/
structure TileFlags where
  installed : Bool
  downloaded : Bool
  updatable : Bool
  deriving DecidableEq, Repr

def AppSnapshot.flags (app : AppSnapshot) (localNode : Value) : TileFlags :=
  ⟨app.installed.truthy, app.downloaded, app.updatable localNode⟩

/-- The action for some flags: an installed app with a known launch path is launched, an installed
one that can be updated is updated, one that was not downloaded is downloaded, and a downloaded
one that is not installed is installed. -/
def TileFlags.action (flags : TileFlags) (launchable : Bool) : TileAction :=
  if flags.installed && launchable then .launch
  else if flags.installed && flags.updatable then .update
  else if !flags.downloaded then .download
  else if !flags.installed then .install
  else .upToDate

/-- The action that a tile offers for a snapshot, given the node and what is known as launch path. -/
def TileAction.resolve (app : AppSnapshot) (localNode launchPath : Value) : TileAction :=
  (app.flags localNode).action launchPath.nonEmptyText?.isSome

end HomeTiles
