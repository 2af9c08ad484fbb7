import HomeTiles.TileAction
import HomeTiles.Proofs.TextValues

/-!
# Snapshot fields: what a snapshot takes from raw values

A value `Has` another one under a name if it is an object with that entry. Each
accessor of a snapshot finds just what stands there in the right kind, as
`ourVersion_eq_some_iff`, `currentVersion_eq_some_iff` and `hashOf?_eq_some_iff`
say. A value can be shown unless some part of it is an integer of too many digits
(`shown?_eq_none_iff`), which is all that can keep a catalogue entry from giving
a snapshot (`ofCatalogue_ok_iff`, `ofCatalogue_error_iff`).
-/

namespace HomeTiles

namespace Value

/-! ## Entries of raw values -/

/-- A value is an object and has another value under a name. -/
def Has (v : Value) (key : String) (w : Value) : Prop := ∃ fields : Fields, v = .object fields ∧ fields.get? key = some w

theorem nonEmptyText?_eq_some_iff {v : Value} {s : String} : v.nonEmptyText? = some s ↔ v = .text s ∧ s ≠ "" := by
  cases v with
  | text t =>
    simp only [nonEmptyText?, text.injEq]
    split_ifs with empty
    · simp only [false_iff, not_and, not_not]
      rintro rfl
      exact empty
    · rw [Option.some.injEq]
      exact (and_iff_left_of_imp fun same => same ▸ empty).symm
  | _ => simp [nonEmptyText?]

theorem isSome_nonEmptyText?_iff {v : Value} : v.nonEmptyText?.isSome = true ↔ ∃ s, v = .text s ∧ s ≠ "" := by
  simp only [Option.isSome_iff_exists, nonEmptyText?_eq_some_iff]

/-- What stands under a name, if it is not null, is there. -/
theorem underName_eq_iff {fields : Fields} {key : String} {w : Value} (present : w ≠ .null) :
    underName fields key = w ↔ fields.get? key = some w := by
  unfold underName
  cases found : fields.get? key with
  | none => exact ⟨fun same => absurd same.symm present, nofun⟩
  | some u => exact Option.some_inj.symm

theorem has_underName_iff {fields : Fields} {key name : String} {w : Value} :
    (underName fields key).Has name w ↔ ∃ u, fields.get? key = some u ∧ u.Has name w := by
  constructor
  · rintro ⟨inner, whole, found⟩
    exact ⟨_, (underName_eq_iff (by simp)).mp whole, inner, rfl, found⟩
  · rintro ⟨_, found, inner, rfl, deeper⟩
    exact ⟨inner, (underName_eq_iff (by simp)).mpr found, deeper⟩

/-- A missing value counts as false. -/
theorem truthy_underName (fields : Fields) (key : String) :
    (underName fields key).truthy = ((fields.get? key).getD (.bool false)).truthy := by
  unfold underName
  cases fields.get? key <;> rfl

theorem underName_put_of_ne {fields : Fields} {key other : String} (apart : key ≠ other) (v : Value) :
    underName (fields.put key v) other = underName fields other := by
  rw [underName, Entries.get?_put, if_neg apart, underName]

/-! ## Values that can be shown -/

/-- Some part of a value is an integer with more digits than a text may hold. -/
def HasLongInteger (v : Value) : Prop := ∃ n, v.Part (.int n) ∧ digitLimit < (Nat.toDigits 10 n.natAbs).length

theorem itemsHaveLongInteger_iff {items : List Value} :
    itemsHaveLongInteger items = true ↔ ∃ x ∈ items, x.hasLongInteger = true := by
  induction items with
  | nil => simp [itemsHaveLongInteger]
  | cons x rest ih => simp [itemsHaveLongInteger, ih]

theorem fieldsHaveLongInteger_iff {fields : Fields} :
    fieldsHaveLongInteger fields = true ↔ ∃ entry ∈ fields, entry.2.hasLongInteger = true := by
  induction fields with
  | nil => simp [fieldsHaveLongInteger]
  | cons entry rest ih =>
    obtain ⟨k, x⟩ := entry
    simp [fieldsHaveLongInteger, ih]

theorem hasLongInteger_iff (v : Value) : v.hasLongInteger = true ↔ v.HasLongInteger := by
  induction v using byParts with
  | int n =>
    rw [hasLongInteger, ← Bool.not_eq_false, exceedsDigitLimit_eq_false_iff, Nat.not_le]
    constructor
    · intro long
      exact ⟨n, .self _, long⟩
    · rintro ⟨m, ⟨⟩, long⟩
      exact long
  | array items ih =>
    rw [hasLongInteger, itemsHaveLongInteger_iff]
    constructor
    · rintro ⟨x, inside, long⟩
      obtain ⟨n, part, long⟩ := (ih x inside).mp long
      exact ⟨n, .item inside part, long⟩
    · rintro ⟨n, part, long⟩
      cases part with
      | item inside part => exact ⟨_, inside, (ih _ inside).mpr ⟨n, part, long⟩⟩
  | object fields ih =>
    rw [hasLongInteger, fieldsHaveLongInteger_iff]
    constructor
    · rintro ⟨entry, inside, long⟩
      obtain ⟨n, part, long⟩ := (ih entry inside).mp long
      exact ⟨n, .entry inside part, long⟩
    · rintro ⟨n, part, long⟩
      cases part with
      | entry inside part => exact ⟨_, inside, (ih _ inside).mpr ⟨n, part, long⟩⟩
  | null => exact ⟨nofun, by rintro ⟨n, ⟨⟩, _⟩⟩
  | bool b => exact ⟨nofun, by rintro ⟨n, ⟨⟩, _⟩⟩
  | float x => exact ⟨nofun, by rintro ⟨n, ⟨⟩, _⟩⟩
  | text s => exact ⟨nofun, by rintro ⟨n, ⟨⟩, _⟩⟩
  | handle b => exact ⟨nofun, by rintro ⟨n, ⟨⟩, _⟩⟩

/-- A value can be shown unless an integer in it is too long. -/
theorem shown?_eq_none_iff (v : Value) : v.shown? = none ↔ v.HasLongInteger := by
  rw [← hasLongInteger_iff]
  cases v with
  | text s => exact ⟨nofun, nofun⟩
  | _ => simp only [shown?, literal?, ite_eq_left_iff, reduceCtorEq, imp_false, Bool.not_eq_true, Bool.not_eq_false]

/-- What counts as false holds no long integer. -/
theorem truthy_of_hasLongInteger {v : Value} (long : v.HasLongInteger) : v.truthy = true := by
  obtain ⟨n, part, long⟩ := long
  cases part with
  | self =>
    have other : n ≠ 0 := by
      rintro rfl
      exact absurd long (by decide)
    simpa [truthy] using other
  | item inside _ => simpa [truthy] using List.ne_nil_of_mem inside
  | entry inside _ => simpa [truthy] using List.ne_nil_of_mem inside

end Value

namespace AppSnapshot

/-! ## Accessors -/

theorem get?_entriesOf_iff {v w : Value} {key : String} :
    Entries.get? (entriesOf v) key = some w ↔ v.Has key w := by
  cases v with
  | object fields =>
    constructor
    · intro found
      exact ⟨fields, rfl, found⟩
    · rintro ⟨_, ⟨⟩, found⟩
      exact found
  | _ => exact ⟨nofun, by rintro ⟨_, ⟨⟩, _⟩⟩

theorem nonEmptyText?_entriesOf_iff {v : Value} {key s : String} :
    (Value.underName (entriesOf v) key).nonEmptyText? = some s ↔ v.Has key (.text s) ∧ s ≠ "" := by
  rw [Value.nonEmptyText?_eq_some_iff, Value.underName_eq_iff (w := .text s) nofun, get?_entriesOf_iff]

variable {app : AppSnapshot}

theorem get?_properties_iff {key : String} {w : Value} :
    Entries.get? app.properties key = some w ↔
      ∃ properties, app.metadata.Has "properties" properties ∧ properties.Has key w := by
  simp only [properties, get?_entriesOf_iff, Value.has_underName_iff]

/-- The local version is what the state says, if that is a text with something in it. -/
theorem ourVersion_eq_some_iff {version : String} :
    app.ourVersion = some version ↔ app.state.Has "our_version" (.text version) ∧ version ≠ "" :=
  nonEmptyText?_entriesOf_iff

theorem currentVersion_eq_some_iff {version : String} :
    app.currentVersion = some version ↔
      (∃ properties, app.metadata.Has "properties" properties ∧ properties.Has "current_version" (.text version)) ∧
        version ≠ "" := by
  rw [currentVersion, Value.nonEmptyText?_eq_some_iff, Value.underName_eq_iff (w := .text version) nofun,
    get?_properties_iff]

theorem get?_codeHashes_iff {version : String} {hash : Value} :
    Entries.get? app.codeHashes version = some hash ↔ ∃ properties hashes,
      app.metadata.Has "properties" properties ∧ properties.Has "code_hashes" hashes ∧ hashes.Has version hash := by
  simp only [codeHashes, get?_entriesOf_iff, Value.has_underName_iff, get?_properties_iff]
  constructor
  · rintro ⟨hashes, ⟨properties, there, listed⟩, found⟩
    exact ⟨properties, hashes, there, listed, found⟩
  · rintro ⟨properties, hashes, there, listed, found⟩
    exact ⟨hashes, ⟨properties, there, listed⟩, found⟩

theorem hashOf?_eq_some_iff {version : String} {hash : Value} :
    app.hashOf? version = some hash ↔ Entries.get? app.codeHashes version = some hash ∧ hash.truthy = true := by
  rw [hashOf?, Option.filter_eq_some_iff]

theorem hashOf?_eq_none_iff {version : String} :
    app.hashOf? version = none ↔ ∀ hash, Entries.get? app.codeHashes version = some hash → hash.truthy = false := by
  rw [hashOf?, Option.filter_eq_none_iff]
  simp only [Bool.not_eq_true]

theorem latestHash_eq_some_iff {hash : Value} :
    app.latestHash = some hash ↔ ∃ version, app.currentVersion = some version ∧ app.hashOf? version = some hash :=
  Option.bind_eq_some_iff

/-- An update is due if both versions are known, their hashes differ and another node is the publisher. -/
theorem updatable_iff {localNode : Value} :
    app.updatable localNode = true ↔ ∃ version latest, app.ourVersion = some version ∧ app.latestHash = some latest ∧
      (app.localHash version).equal latest = false ∧ app.publisher.equal localNode = false := by
  unfold updatable
  split
  · next version latest ours advertised =>
    rw [Bool.and_eq_true, Bool.not_eq_true', Bool.not_eq_true']
    constructor
    · rintro ⟨differ, foreign⟩
      exact ⟨version, latest, ours, advertised, differ, foreign⟩
    · rintro ⟨_, _, ours', advertised', differ, foreign⟩
      cases ours.symm.trans ours'
      cases advertised.symm.trans advertised'
      exact ⟨differ, foreign⟩
  · next unknown => exact ⟨nofun, fun ⟨version, latest, ours, advertised, _⟩ => (unknown _ _ ours advertised).elim⟩

/-- A local version is found in a state that is an object only, so an app with one was downloaded. -/
theorem downloaded_of_ourVersion {version : String} (ours : app.ourVersion = some version) : app.downloaded = true := by
  obtain ⟨⟨fields, object, _⟩, _⟩ := ourVersion_eq_some_iff.mp ours
  rw [downloaded, object]
  rfl

theorem downloaded_of_updatable {localNode : Value} (due : app.updatable localNode = true) : app.downloaded = true := by
  obtain ⟨version, _, ours, _⟩ := updatable_iff.mp due
  exact downloaded_of_ourVersion ours

/-- What a node has published itself is never due for an update there. -/
theorem updatable_of_own {localNode : Value} (own : app.publisher.equal localNode = true) :
    app.updatable localNode = false := by
  rw [← Bool.not_eq_true, updatable_iff]
  rintro ⟨_, _, _, _, _, foreign⟩
  rw [own] at foreign
  cases foreign

/-! ## Catalogue entries -/

theorem textOf_ok_iff {v w : Value} : textOf v = .ok w ↔
    (v.truthy = true ∧ ∃ s, v.shown? = some s ∧ w = .text s) ∨ (v.truthy = false ∧ w = .text "") := by
  unfold textOf
  split_ifs with counts
  · cases shown : v.shown? with
    | none => simp [counts]
    | some s => simp [counts, eq_comm]
  · simp [counts, eq_comm]

theorem textOf_error_iff {v : Value} {fault : Fault} :
    textOf v = .error fault ↔ fault = .tooManyDigits ∧ v.HasLongInteger := by
  rw [← Value.shown?_eq_none_iff]
  unfold textOf
  split_ifs with counts
  · cases v.shown? with
    | none => simp [eq_comm]
    | some s => simp
  · refine ⟨nofun, fun ⟨_, long⟩ => absurd (Value.truthy_of_hasLongInteger ?_) counts⟩
    exact v.shown?_eq_none_iff.mp long

/-- The value of a catalogue entry that names its package. -/
def identifier (entry : Fields) : Value :=
  if (Value.underName entry "package").truthy then Value.underName entry "package" else Value.underName entry "package_id"

variable {entry : Fields}

theorem ofCatalogue_ok_iff : ofCatalogue (.object entry) = .ok app ↔ ∃ packageId publisher,
    textOf (identifier entry) = .ok packageId ∧ textOf (Value.underName entry "publisher") = .ok publisher ∧
    app = {
      packageId
      installed := .bool (Value.underName entry "installed").truthy
      state := stateOf (Value.underName entry "state")
      metadata := metadataOf (Value.underName entry "metadata")
      publisher } := by
  show (textOf (identifier entry) >>= fun packageId => _) = _ ↔ _
  cases textOf (identifier entry) with
  | error fault => exact ⟨nofun, fun ⟨_, _, named, _⟩ => nomatch named⟩
  | ok packageId =>
    show (textOf (Value.underName entry "publisher") >>= fun publisher => _) = _ ↔ _
    cases textOf (Value.underName entry "publisher") with
    | error fault => exact ⟨nofun, fun ⟨_, _, _, published, _⟩ => nomatch published⟩
    | ok publisher =>
      constructor
      · rintro ⟨⟩
        exact ⟨packageId, publisher, rfl, rfl, rfl⟩
      · rintro ⟨_, _, ⟨⟩, ⟨⟩, rfl⟩
        rfl

/-- An entry gives no snapshot just when its package or its publisher cannot be shown. -/
theorem ofCatalogue_error_iff {fault : Fault} : ofCatalogue (.object entry) = .error fault ↔
    fault = .tooManyDigits ∧ ((identifier entry).HasLongInteger ∨ (Value.underName entry "publisher").HasLongInteger) := by
  show (textOf (identifier entry) >>= fun packageId => _) = _ ↔ _
  cases named : textOf (identifier entry) with
  | error first =>
    obtain ⟨rfl, long⟩ := textOf_error_iff.mp named
    constructor
    · rintro ⟨⟩
      exact ⟨rfl, .inl long⟩
    · rintro ⟨rfl, _⟩
      rfl
  | ok packageId =>
    have short : ¬(identifier entry).HasLongInteger := by
      intro long
      rw [textOf_error_iff.mpr ⟨rfl, long⟩] at named
      cases named
    rw [or_iff_right short, ← textOf_error_iff]
    show (textOf (Value.underName entry "publisher") >>= fun publisher => _) = _ ↔ _
    cases textOf (Value.underName entry "publisher") with
    | error second =>
      constructor
      · rintro ⟨⟩
        rfl
      · rintro ⟨⟩
        rfl
    | ok publisher => exact ⟨nofun, nofun⟩

/-! ## Fields as they are -/

theorem ofFields_ok_iff {fields : Fields} : ofFields fields = .ok app ↔ ∃ packageId,
    Entries.get? fields "package_id" = some packageId ∧
    app = {
      packageId
      installed := (Entries.get? fields "installed").getD (.bool false)
      state := Value.underName fields "state"
      metadata := Value.underName fields "metadata"
      publisher := (Entries.get? fields "publisher").getD (.text "") } := by
  unfold ofFields
  cases Entries.get? fields "package_id" with
  | none => exact ⟨nofun, fun ⟨_, named, _⟩ => nomatch named⟩
  | some packageId => simp [eq_comm]

end AppSnapshot
end HomeTiles
