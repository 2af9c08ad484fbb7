import HomeTiles.Faults

/-!
# Notices: what is reported on the way

A `Notice` reports something that an operation coped with. `Notice.text` words
it; how the cause of a trouble is named is left to whoever prints the notice.
-/

namespace HomeTiles

/-- A report of something out of the ordinary. -/
inductive Notice where
  /-- A storage file is overwritten that could not be read, or that holds no JSON object. -/
  | replacingFile (path : Path) (cause : Option Cause)
  /-- A storage file is passed over that could not be read, or that holds no JSON object. -/
  | ignoringFile (path : Path) (cause : Option Cause)
  /-- A settings value is passed over that could not be read. -/
  | ignoringSetting (name : String) (cause : Cause)
  /-- Stored preferences of another kind than an object are dropped. -/
  | discardedPreferences (kind : String)
  /-- A map of the preferences is of another kind than an object. -/
  | resetMap (name : String)
  /-- Stored preferences of another version are dropped. -/
  | otherVersion (stored expected : Value)
  | keptInMemory
  | migrationNotWritten
  | listenerFailed (listener : String)
  | refreshFailed (address : Value) (fault : FetchFault)
  deriving Repr

inductive Severity where
  | warning
  | error
  deriving DecidableEq, Repr

namespace Notice

/-- Lost preferences and failing listeners are errors, the rest are warnings. -/
def severity : Notice → Severity
  | .otherVersion _ _ => .error
  | .listenerFailed _ => .error
  | _ => .warning

/-- Names for causes and fetch faults inside notices. -/
structure CauseNames where
  cause : Cause → String
  fetchFault : FetchFault → String

/-- What a storage file's trouble is called: with no cause it is the kind of its content. -/
def trouble (names : CauseNames) : Option Cause → String
  | some cause => names.cause cause
  | none => "not a JSON object"

/-- The text of a notice; none if a value in it cannot be shown. -/
def text (names : CauseNames) : Notice → Option String
  | .replacingFile path cause =>
    some ("Replacing unreadable store file " ++ path.text ++ " (" ++ trouble names cause
      ++ "); its previous contents are lost")
  | .ignoringFile path cause =>
    some ("Ignoring unreadable store file " ++ path.text ++ ": " ++ trouble names cause)
  | .ignoringSetting name cause =>
    some ("Ignoring unreadable settings value " ++ String.ofList (Display.quoted name) ++ ": " ++ names.cause cause)
  | .discardedPreferences kind => some ("Discarding persisted preferences of type " ++ kind)
  | .resetMap name =>
    some ("Resetting malformed " ++ String.ofList (Display.quoted name) ++ " in persisted preferences")
  | .otherVersion stored expected => do
    let stored ← stored.shown?
    let expected ← expected.shown?
    return "Stored preferences are version " ++ stored ++ " (expected " ++ expected
      ++ ") and no migrate function was given; starting from defaults"
  | .keptInMemory => some "Preferences kept in memory only; durable write failed"
  | .migrationNotWritten => some "Migrated preferences could not be written back"
  | .listenerFailed listener => some ("Preference listener " ++ listener ++ " failed")
  | .refreshFailed address fault => do
    let address ← address.shown?
    return "Launch listing refresh failed for " ++ address ++ ": " ++ names.fetchFault fault

end Notice
end HomeTiles
