import HomeTiles.Faults
import HomeTiles.ValueEquality

/-!
# App snapshots: what is known of one package

A snapshot holds what an app catalogue says of a package, as raw values: any of
them may be of a kind that makes no sense. The accessors take what they can use
and count the rest as missing. `AppSnapshot.ofCatalogue` makes a snapshot of a
catalogue entry and normalises it on the way.
-/

namespace HomeTiles

/-- What is known of one package at a time. -/
structure AppSnapshot where
  packageId : Value
  installed : Value := .bool false
  /-- The local state, null if the package was not downloaded. -/
  state : Value := .null
  metadata : Value := .null
  publisher : Value := .text ""
  deriving DecidableEq, Repr

namespace AppSnapshot

/-- The entries of an object; any other value has none. -/
def entriesOf (v : Value) : Fields := v.fields?.getD []

/-! ## Accessors -/

def downloaded (app : AppSnapshot) : Bool := app.state != .null

/-- The local version, a label or a hash. -/
def ourVersion (app : AppSnapshot) : Option String :=
  (Value.underName (entriesOf app.state) "our_version").nonEmptyText?

def properties (app : AppSnapshot) : Fields := entriesOf (Value.underName (entriesOf app.metadata) "properties")

/-- The version that the publisher advertises. -/
def currentVersion (app : AppSnapshot) : Option String :=
  (Value.underName app.properties "current_version").nonEmptyText?

def codeHashes (app : AppSnapshot) : Fields := entriesOf (Value.underName app.properties "code_hashes")

/-! ## Catalogue entries -/

/-- A value as text; a value that counts as false gives the empty text. -/
def textOf (v : Value) : Except Fault Value :=
  if v.truthy then
    match v.shown? with
    | some s => .ok (.text s)
    | none => .error .tooManyDigits
  else .ok (.text "")

/-- An object as it is, an empty object for other values that count as true, null for the rest. -/
def stateOf (v : Value) : Value :=
  if v.isObject then v else if v.truthy then .object [] else .null

/-- An object as it is, null for other values. -/
def metadataOf (v : Value) : Value := if v.isObject then v else .null

/-- The snapshot of a catalogue entry, which has to be an object. -/
def ofCatalogue : Value → Except Fault AppSnapshot
  | .object entry => do
    let package := Value.underName entry "package"
    let packageId ← textOf (if package.truthy then package else Value.underName entry "package_id")
    let publisher ← textOf (Value.underName entry "publisher")
    return {
      packageId
      installed := .bool (Value.underName entry "installed").truthy
      state := stateOf (Value.underName entry "state")
      metadata := metadataOf (Value.underName entry "metadata")
      publisher }
  | _ => .error .noEntries

/-- The snapshot with the fields of an object as they are; the package has to be named. -/
def ofFields (fields : Fields) : Except Fault AppSnapshot :=
  match fields.get? "package_id" with
  | none => .error .wrongKind
  | some packageId => .ok {
      packageId
      installed := (fields.get? "installed").getD (.bool false)
      state := Value.underName fields "state"
      metadata := Value.underName fields "metadata"
      publisher := (fields.get? "publisher").getD (.text "") }

end AppSnapshot
end HomeTiles
