import HomeTiles.Proofs.Rehydration

/-!
# Stored contents: a store opens over whatever is there

What lies where a record should be can be anything: no file or a directory, bytes
that are no text, a text that is no JSON, JSON of another kind. A storage that is
`Lasting` beyond the program tells a record from all that (`Lasting.Holds`), and
loading gives the record or nothing (`Lasting.exists_load`). So opening a store over
it leaves it as it is and comes to the defaults or to the state that was stored,
with both maps in place (`opened_over_any_content`). Only a path that is too long to
be looked up keeps a store from opening.
-/

namespace HomeTiles

variable {σ : Type}

/-! ## What restoring makes of a state -/

namespace Preferences

theorem get?_repaired (fields : Fields) (key other : String) :
    (repaired fields key).1.get? other =
      if key = other then
        some (if (Value.underName fields key).isObject then Value.underName fields key else .object [])
      else fields.get? other := by
  rw [repaired_eq]
  by_cases object : (Value.underName fields key).isObject = true
  · rw [if_pos object, if_pos object]
    split_ifs with same
    · subst same
      obtain ⟨entries, there⟩ := Value.get?_of_isObject object
      rw [Value.underName, there]
      rfl
    · rfl
  · rw [if_neg object, if_neg object, Entries.get?_put]

/-- The value under the name of a map, before the map is repaired, is the state's or the default. -/
private theorem underName_defaults_merge {fields : Fields} (distinct : (Entries.names fields).Nodup) {key : String}
    (map : key ∈ Entries.names defaults) :
    Value.underName (defaults.merge fields) key = ((fields.get? key).getD (.object [])) := by
  have default : defaults.get? key = some (.object []) := by
    have either : key = widgetsKey ∨ key = favoritesKey := by simpa [defaults, Entries.names] using map
    rcases either with rfl | rfl <;> rfl
  rw [Value.underName, Entries.get?_merge defaults distinct, default]
  cases fields.get? key <;> rfl

/-- A restored state has its own entries, but that each of the two maps is empty where the state has no object for it. -/
theorem get?_restore {fields : Fields} (distinct : (Entries.names fields).Nodup) (key : String) :
    (restore (.object fields)).1.get? key =
      if key ∈ Entries.names defaults then
        some (if (Value.underName fields key).isObject then Value.underName fields key else .object [])
      else fields.get? key := by
  have map (key : String) (inside : key ∈ Entries.names defaults) :
      (if (Value.underName (defaults.merge fields) key).isObject then Value.underName (defaults.merge fields) key
        else .object []) =
      if (Value.underName fields key).isObject then Value.underName fields key else .object [] := by
    rw [underName_defaults_merge distinct inside, Value.underName]
    cases fields.get? key <;> rfl
  have apart : widgetsKey ≠ favoritesKey := by decide
  rw [restore_object, get?_repaired, get?_repaired]
  have untouched : Value.underName (repaired (defaults.merge fields) widgetsKey).1 favoritesKey =
      Value.underName (defaults.merge fields) favoritesKey := by
    rw [Value.underName, get?_repaired, if_neg apart, Value.underName]
  rw [untouched]
  by_cases favorites : favoritesKey = key
  · subst favorites
    have inside : favoritesKey ∈ Entries.names defaults := by decide
    rw [if_pos rfl, if_pos inside, map favoritesKey inside]
  · rw [if_neg favorites]
    by_cases widgets : widgetsKey = key
    · subst widgets
      have inside : widgetsKey ∈ Entries.names defaults := by decide
      rw [if_pos rfl, if_pos inside, map widgetsKey inside]
    · have outside : key ∉ Entries.names defaults := by
        simpa [defaults, Entries.names] using And.intro (Ne.symm widgets) (Ne.symm favorites)
      rw [if_neg widgets, if_neg outside, Entries.get?_merge defaults distinct, Entries.get?_eq_none_iff.mpr outside,
        Option.or_none]

end Preferences

/-! ## What is read of a file -/

namespace StorageFile

theorem parse_ok_iff {content : ByteArray} {fields : Fields} : parse content = .ok fields ↔
    ∃ text, String.fromUTF8? content = some text ∧ Value.read text = .ok (.object fields) := by
  unfold parse
  cases String.fromUTF8? content with
  | none => simp
  | some text =>
    dsimp only
    cases read : Value.read text with
    | error fault => simp [read]
    | ok v => cases v <;> simp [read]

/-- Only what stands in an object that a file holds is among the records of a node. -/
theorem get?_held {node? : Option Node} {key : String} {v : Value} : (held node?).get? key = some v ↔
    ∃ content fields, node? = some (.file content) ∧ parse content = .ok fields ∧ fields.get? key = some v := by
  constructor
  · intro found
    cases node? with
    | none => cases found
    | some node =>
      cases node with
      | directory entries => cases found
      | file content =>
        rw [held] at found
        cases parsed : parse content with
        | error cause =>
          rw [parsed] at found
          cases found
        | ok fields =>
          rw [parsed] at found
          exact ⟨content, fields, rfl, parsed, found⟩
  · rintro ⟨content, fields, rfl, parsed, found⟩
    rw [held, parsed]
    exact found

/-- Where a path is not too long the records are found: those of the object in the file that is there, or none. -/
theorem exists_found {tree : FileTree} {path : Path} (fits : tree.locate path ≠ .error .tooLong) :
    ∃ records : Fields, found (tree.locate path) = .ok records ∧ ∀ key v, records.get? key = some v ↔
      ∃ content fields, tree.find path = .ok (.file content) ∧ parse content = .ok fields ∧ fields.get? key = some v := by
  unfold FileTree.find
  cases located : tree.locate path with
  | error fault =>
    refine ⟨[], ?_, fun key v => ⟨nofun, ?_⟩⟩
    · cases fault with
      | tooLong => exact absurd located fits
      | _ => rfl
    · rintro ⟨content, fields, there, _⟩
      cases there
  | ok spot =>
    obtain ⟨names, node?⟩ := spot
    refine ⟨held node?, rfl, fun key v => get?_held.trans ?_⟩
    cases node? with
    | none => simp
    | some node => simp

end StorageFile

/-! ## What is read of a settings value -/

/-- A settings file loads an object if there is the text of it, and nothing of whatever else there is. -/
theorem Settings.load_eq_some_iff {name : String} {settings : Settings} {v : Value} :
    (Settings.load name settings).1 = some v ↔
      ∃ record text, v = .object record ∧ settings.values.get? name = some (.text text) ∧
        Value.read text = .ok (.object record) := by
  constructor
  · intro loaded
    unfold Settings.load at loaded
    split at loaded
    · cases loaded
    · next raw there =>
      split_ifs at loaded
      cases raw with
      | text text =>
        rw [Settings.parse] at loaded
        cases read : Value.read text with
        | error fault =>
          rw [read] at loaded
          cases loaded
        | ok found =>
          rw [read] at loaded
          cases found with
          | object record =>
            cases loaded
            exact ⟨record, text, rfl, there, read⟩
          | _ => cases loaded
      | _ => cases loaded
  · rintro ⟨record, text, rfl, there, read⟩
    rw [Settings.load_of_text there read rfl]

/-! ## Storages that outlast the program -/

/-- A storage whose contents outlast the program, with the device that has them: a file with whatever bytes, or a
settings file with whatever values. -/
inductive Lasting : {σ : Type} → Storage σ → σ → Type where
  | inFile (file : StorageFile) (tree : FileTree) : Lasting file.storage tree
  | inSettings (name : String) (settings : Settings) : Lasting (Settings.storage name) settings

namespace Lasting

variable {storage : Storage σ} {device : σ}

/-- The path of a storage file is too long to be looked up. -/
def TooLong : Lasting storage device → Prop
  | .inFile file tree => tree.locate file.path = .error .tooLong
  | .inSettings _ _ => False

/-- A record lies in the storage under its name: the storage file holds the text of an object that has it there, or the
settings have its text there. -/
def Holds : Lasting storage device → Fields → Prop
  | .inFile file tree, record => ∃ (content : ByteArray) (text : String) (fields : Fields), tree.find file.path = .ok (.file content) ∧
      String.fromUTF8? content = some text ∧ Value.read text = .ok (.object fields) ∧
      fields.get? file.name = some (.object record)
  | .inSettings name settings, record => ∃ text, settings.values.get? name = some (.text text) ∧
      Value.read text = .ok (.object record)

theorem load_of_tooLong {lasting : Lasting storage device} (long : lasting.TooLong) :
    (storage.load device).1 = .error (.file .tooLong) := by
  cases lasting with
  | inFile file tree =>
    show (file.load tree).1 = _
    rw [StorageFile.load_fst, show tree.locate file.path = _ from long]
    rfl
  | inSettings name settings => exact long.elim

/-- Whatever there is, loading gives the record that is held, and nothing if none is. -/
theorem exists_load {lasting : Lasting storage device} (fits : ¬lasting.TooLong) :
    ∃ loaded, (storage.load device).1 = .ok loaded ∧
      ∀ v, loaded = some v ↔ ∃ record, v = .object record ∧ lasting.Holds record := by
  cases lasting with
  | inSettings name settings =>
    refine ⟨(Settings.load name settings).1, rfl, fun v => Settings.load_eq_some_iff.trans ?_⟩
    constructor
    · rintro ⟨record, text, same, there, read⟩
      exact ⟨record, same, text, there, read⟩
    · rintro ⟨record, same, text, there, read⟩
      exact ⟨record, text, same, there, read⟩
  | inFile file tree =>
    obtain ⟨records, found, stands⟩ := StorageFile.exists_found fits
    refine ⟨(records.get? file.name).filter Value.isObject, ?_, fun v => ?_⟩
    · show (file.load tree).1 = _
      rw [StorageFile.load_fst, found]
      rfl
    · rw [Option.filter_eq_some_iff, stands]
      constructor
      · rintro ⟨⟨content, fields, there, parsed, entry⟩, object⟩
        obtain ⟨text, decoded, read⟩ := StorageFile.parse_ok_iff.mp parsed
        cases v with
        | object record => exact ⟨record, rfl, content, text, fields, there, decoded, read, entry⟩
        | _ => cases object
      · rintro ⟨record, rfl, content, text, fields, there, decoded, read, entry⟩
        exact ⟨⟨content, fields, there, StorageFile.parse_ok_iff.mpr ⟨text, decoded, read⟩, entry⟩, rfl⟩

end Lasting

/-! ## Opening a store -/

/-- The version that a record was stored under; one that names none has the first. -/
def recordVersion (record : Fields) : Value := (Entries.get? record "version").getD (.int 0)

namespace Run

/-- A store without a migration takes a loaded object as it is or not at all. -/
theorem stateOf_unmigrating {store : PreferenceStore σ} (unmigrating : store.migrate = none) (record : Fields) :
    ∃ notices, stateOf store (some (.object record)) =
      .ok (if (recordVersion record).equal store.version then Value.underName record "state" else .null, false,
        notices) := by
  unfold stateOf
  dsimp only
  rw [unmigrating, ← recordVersion]
  split_ifs
  · exact ⟨_, rfl⟩
  · exact ⟨_, rfl⟩

/-- Where nothing can be loaded no store opens. -/
theorem opened_of_fault {storage : Storage σ} (version : Int) {device : σ} {fault : Fault}
    (others : List (PreferenceStore σ)) (listeners : List Listener) (load : (storage.load device).1 = .error fault) :
    (opened storage (.int version) none device others listeners).1 = .error fault ∧
      (opened storage (.int version) none device others listeners).2.device = device := by
  let store : PreferenceStore σ := { storage, version := .int version }
  let start : Run σ := { device, store, number := others.length, shelf := others ++ [store], listeners }
  have found : (start.store.storage.load start.device).1.bind (stateOf start.store) = .error fault := by
    show (storage.load device).1.bind (stateOf store) = _
    rw [load]
    rfl
  have failed : start.rehydrate = (.error fault, start.loaded) := rehydrate_of_fault found
  exact ⟨congrArg Prod.fst failed, congrArg (·.2.device) failed⟩

/-- A store that was opened over a storage without a migration has the document that the loaded state is restored to,
and the device is as before. -/
theorem opened_of_state {storage : Storage σ} {version : Int} {device : σ} {loaded : Option Value} {state : Value}
    {notices : List Notice} (others : List (PreferenceStore σ)) (listeners : List Listener)
    (load : (storage.load device).1 = .ok loaded)
    (made : stateOf { storage, version := .int version : PreferenceStore σ } loaded = .ok (state, false, notices)) :
    (opened storage (.int version) none device others listeners).1 = .ok (Preferences.restore state).1 ∧
      (opened storage (.int version) none device others listeners).2.store.document = (Preferences.restore state).1 ∧
      (opened storage (.int version) none device others listeners).2.device = device := by
  let store : PreferenceStore σ := { storage, version := .int version }
  let start : Run σ := { device, store, number := others.length, shelf := others ++ [store], listeners }
  have calm : start.Calm := nofun
  have found : (start.store.storage.load start.device).1.bind (stateOf start.store) = .ok (state, false, notices) := by
    show (storage.load device).1.bind (stateOf store) = _
    rw [load]
    exact made
  obtain ⟨result, undisturbed⟩ := rehydrate_of_state found calm
  exact ⟨result, undisturbed.document, undisturbed.device⟩

end Run

/-- Where a storage can be looked into a store opens over it, and the state that is restored is the one of the record that
is held, if it has the version asked for, and none otherwise. -/
theorem Lasting.opened_of_fits {storage : Storage σ} {device : σ} {lasting : Lasting storage device}
    (fits : ¬lasting.TooLong) (version : Int) (others : List (PreferenceStore σ)) (listeners : List Listener) :
    let opened := Run.opened storage (.int version) none device others listeners
    ∃ state, (opened.1 = .ok (Preferences.restore state).1 ∧
        opened.2.store.document = (Preferences.restore state).1 ∧ opened.2.device = device) ∧
      (∀ record, lasting.Holds record → (recordVersion record).equal (.int version) = true →
        state = Value.underName record "state") ∧
      ((∀ record, lasting.Holds record → (recordVersion record).equal (.int version) = false) → state = .null) := by
  intro opened
  obtain ⟨loaded, load, held⟩ := exists_load fits
  cases loaded with
  | none =>
    refine ⟨.null, Run.opened_of_state others listeners load rfl, fun record holds => ?_, fun _ => rfl⟩
    cases (held (.object record)).mpr ⟨record, rfl, holds⟩
  | some v =>
    obtain ⟨record, rfl, holds⟩ := (held v).mp rfl
    let store : PreferenceStore σ := { storage, version := .int version }
    have unmigrating : store.migrate = none := rfl
    obtain ⟨notices, made⟩ := Run.stateOf_unmigrating unmigrating record
    refine ⟨_, Run.opened_of_state others listeners load made, fun other there equal => ?_, fun unequal => ?_⟩
    · cases (held (.object other)).mpr ⟨other, rfl, there⟩
      exact if_pos equal
    · exact if_neg (Bool.eq_false_iff.mp (unequal record holds))

/-- Opening a store without a migration leaves the device as it is and works, unless the path of a storage file is too
long. What is loaded is the record that is held, if one is; the document is what its state is restored to if the versions
are equal, the defaults otherwise, and both maps are objects. A restored state keeps its own entries, and of the two maps
those that are objects; the others are empty. -/
theorem opened_over_any_content {storage : Storage σ} {device : σ} (lasting : Lasting storage device) (version : Int)
    (others : List (PreferenceStore σ)) (listeners : List Listener) :
    let opened := Run.opened storage (.int version) none device others listeners
    opened.2.device = device ∧
    (lasting.TooLong → (storage.load device).1 = .error (.file .tooLong) ∧ opened.1 = .error (.file .tooLong)) ∧
    (¬lasting.TooLong →
      (∃ loaded, (storage.load device).1 = .ok loaded ∧
        ∀ v, loaded = some v ↔ ∃ record, v = .object record ∧ lasting.Holds record) ∧
      ∃ document, opened.1 = .ok document ∧ opened.2.store.document = document ∧
        (Value.underName document Preferences.widgetsKey).isObject = true ∧
        (Value.underName document Preferences.favoritesKey).isObject = true ∧
        (∀ record, lasting.Holds record → (recordVersion record).equal (.int version) = true →
          document = (Preferences.restore (Value.underName record "state")).1) ∧
        ((∀ record, lasting.Holds record → (recordVersion record).equal (.int version) = false) →
          document = Preferences.defaults)) ∧
    ∀ state : Fields, (Entries.names state).Nodup → ∀ key, (Preferences.restore (.object state)).1.get? key =
      if key ∈ Entries.names Preferences.defaults then
        some (if (Value.underName state key).isObject then Value.underName state key else .object [])
      else state.get? key := by
  intro opened
  rcases Classical.em lasting.TooLong with long | fits
  · have load := Lasting.load_of_tooLong long
    have failed := Run.opened_of_fault version others listeners load
    refine ⟨?_, fun _ => ⟨load, ?_⟩, fun fits => absurd long fits, fun state distinct => Preferences.get?_restore distinct⟩
    · exact failed.2
    · exact failed.1
  · obtain ⟨state, ⟨result, document, device⟩, own, none⟩ := Lasting.opened_of_fits fits version others listeners
    obtain ⟨widgets, favorites⟩ := Preferences.maps_restore state
    refine ⟨device, fun long => absurd long fits, fun _ => ⟨Lasting.exists_load fits,
      _, result, document, widgets, favorites, fun record holds equal => ?_, fun unequal => ?_⟩,
      fun state distinct => Preferences.get?_restore distinct⟩
    · rw [own record holds equal]
    · rw [none unequal]
      rfl

/-- A file with a record that names no version and has a number for a map, and a file whose bytes are no text. -/
theorem opened_over_record_and_rubbish :
    let file : StorageFile := ⟨Path.ofText "f.json", storeName⟩
    let holding (content : ByteArray) := FileTree.fresh.put ["tmp", "work", "f.json"] (.file content)
    let text := "\x7b\"homepage_persistent_store\": \x7b\"state\": \x7b\"widgetSettings\": 3, \"theme\": \"dark\"\x7d\x7d\x7d"
    (Run.opened file.storage (.int storeVersion) none (holding text.toUTF8) [] []).1 =
        .ok [("widgetSettings", .object []), ("favoriteApps", .object []), ("theme", .text "dark")] ∧
      (Run.opened file.storage (.int storeVersion) none (holding ⟨#[0xff]⟩) [] []).1 = .ok Preferences.defaults := by
  intro file holding text
  have spot (content : ByteArray) : (holding content).locate file.path =
      .ok ⟨["tmp", "work", "f.json"], some (.file content)⟩ := rfl
  have find (content : ByteArray) : (holding content).find file.path = .ok (.file content) := rfl
  have fits (content : ByteArray) : ¬(Lasting.inFile file (holding content)).TooLong := by
    intro long
    cases (spot content).symm.trans long
  let state : Value := .object [("widgetSettings", .int 3), ("theme", .text "dark")]
  have decoded : String.fromUTF8? text.toUTF8 = some text := by decide +kernel
  have read : Value.read text = .ok (.object [("homepage_persistent_store", .object [("state", state)])]) := by
    decide +kernel
  have holds : (Lasting.inFile file (holding text.toUTF8)).Holds [("state", state)] :=
    ⟨text.toUTF8, text, _, find text.toUTF8, decoded, read, rfl⟩
  have undecodable : String.fromUTF8? ⟨#[0xff]⟩ = none := by decide +kernel
  have nothing (record : Fields) : ¬(Lasting.inFile file (holding ⟨#[0xff]⟩)).Holds record := by
    rintro ⟨content, text, fields, there, decoded, _⟩
    rw [find] at there
    cases there
    rw [undecodable] at decoded
    cases decoded
  obtain ⟨_, _, opens, _⟩ := opened_over_any_content (.inFile file (holding text.toUTF8)) storeVersion [] []
  obtain ⟨_, document, result, _, _, _, own, _⟩ := opens (fits text.toUTF8)
  obtain ⟨_, _, opens', _⟩ := opened_over_any_content (.inFile file (holding ⟨#[0xff]⟩)) storeVersion [] []
  obtain ⟨_, document', result', _, _, _, _, none⟩ := opens' (fits ⟨#[0xff]⟩)
  constructor
  · rw [result, own _ holds (by decide +kernel)]
    rfl
  · rw [result', none fun record there => absurd there (nothing record)]

/-- A name of 256 bytes in an empty directory: there is nothing to load, and yet loading fails and no store opens. -/
theorem opened_over_path_too_long :
    let file : StorageFile := ⟨⟨.working, [String.ofList (List.replicate 64 '🏠')]⟩, storeName⟩
    (file.load FileTree.fresh).1 = .error (.file .tooLong) ∧
      (Run.opened file.storage (.int storeVersion) none FileTree.fresh [] []).1 = .error (.file .tooLong) ∧
      FileTree.fresh.listing = [] := by
  decide +kernel

end HomeTiles
