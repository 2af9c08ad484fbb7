import HomeTiles.Proofs.FailedCalls
import HomeTiles.Proofs.StoredContents

/-!
# Whole documents: both maps are there and nothing goes wrong with them

A document is `Whole` if both of its maps are objects. A store by itself comes to a
whole document when it opens and keeps it through every change that gives a map no
other kind of value, through reloads, whatever a migration returns, and through what
listeners add (`Sturdy.actAll`). On a whole document every question has an answer and
every change can be made, so what a call can fail with is its write, or a size that
is none (`Run.Serving`).
-/

namespace HomeTiles

variable {σ : Type}

/-! ## Whole documents -/

namespace Preferences

/-- Both maps of a document are objects, whatever is in them. -/
structure Whole (document : Fields) : Prop where
  widgets : ∃ entries, document.get? widgetsKey = some (.object entries)
  favorites : ∃ entries, document.get? favoritesKey = some (.object entries)

/-- What a value would put in the place of the two maps are objects. -/
def GivesMaps : Value → Prop
  | .object changes => ∀ entry ∈ changes, entry.1 ∈ Entries.names defaults → entry.2.isObject = true
  | _ => True

theorem whole_restore (v : Value) : Whole (restore v).1 :=
  ⟨Value.get?_of_isObject (maps_restore v).1, Value.get?_of_isObject (maps_restore v).2⟩

private theorem exists_get?_put {document : Fields} {key name : String} (map : name ∈ Entries.names defaults)
    (before : ∃ entries, document.get? name = some (.object entries)) {v : Value}
    (gives : key ∈ Entries.names defaults → v.isObject = true) :
    ∃ entries, (document.put key v).get? name = some (.object entries) := by
  rw [Entries.get?_put]
  split_ifs with same
  · subst same
    have object := gives map
    cases v with
    | object entries => exact ⟨entries, rfl⟩
    | _ => cases object
  · exact before

theorem Whole.put {document : Fields} (whole : Whole document) {key : String} {v : Value}
    (gives : key ∈ Entries.names defaults → v.isObject = true) : Whole (document.put key v) :=
  ⟨exists_get?_put (by decide) whole.widgets gives, exists_get?_put (by decide) whole.favorites gives⟩

theorem Whole.merge {document : Fields} (whole : Whole document) {changes : Fields} (gives : GivesMaps (.object changes)) :
    Whole (document.merge changes) := by
  induction changes generalizing document with
  | nil => exact whole
  | cons entry rest ih =>
    obtain ⟨first, later⟩ := List.forall_mem_cons.mp gives
    exact ih (whole.put first) later

/-! ## What changes of one package ask for -/

theorem givesMaps_single (key : String) (entries : Fields) : GivesMaps (.object [(key, .object entries)]) := by
  intro entry inside _
  rw [List.mem_singleton.mp inside]
  rfl

theorem givesMaps_toggled {document : Fields} {package : String} {changes : Value}
    (asked : toggled package document = .ok changes) : GivesMaps changes := by
  obtain ⟨widgets, found⟩ := widgets_of_toggled asked
  rw [toggled_of_widgets found] at asked
  cases asked
  exact givesMaps_single _ _

theorem givesMaps_resized {document : Fields} {package : String} {size : WidgetSize} {changes : Value}
    (asked : resized package size document = .ok changes) : GivesMaps changes := by
  obtain ⟨widgets, found⟩ := widgets_of_resized asked
  rw [resized_of_widgets found] at asked
  cases asked
  exact givesMaps_single _ _

theorem givesMaps_flipped {document : Fields} {package : String} {changes : Value}
    (asked : flipped package document = .ok changes) : GivesMaps changes := by
  obtain ⟨favorites, found⟩ := favorites_of_flipped asked
  rw [flipped_of_favorites found] at asked
  cases asked
  exact givesMaps_single _ _

end Preferences

open Preferences (Whole GivesMaps)

/-! ## Storages that load objects -/

/-- What a storage gives is an object. -/
def Storage.LoadsObjects (storage : Storage σ) (device : σ) : Prop :=
  ∀ held, (storage.load device).1 = .ok (some held) → held.isObject = true

theorem StorageFile.loadsObjects (file : StorageFile) (tree : FileTree) : file.storage.LoadsObjects tree := by
  intro held loaded
  change (file.load tree).1 = _ at loaded
  rw [StorageFile.load_fst] at loaded
  cases found : StorageFile.found (tree.locate file.path) with
  | error fault =>
    rw [found] at loaded
    cases loaded
  | ok fields =>
    rw [found] at loaded
    exact (Option.filter_eq_some_iff.mp (Except.ok.inj loaded)).2

theorem Settings.loadsObjects (name : String) (settings : Settings) : (Settings.storage name).LoadsObjects settings := by
  intro held loaded
  obtain ⟨record, text, rfl, _⟩ := Settings.load_eq_some_iff.mp (Except.ok.inj loaded)
  rfl

namespace Adapter

variable {storage : Storage σ} (adapter : Adapter storage) {device : σ}
include adapter

/-- After an object was saved, or was not, an object is loaded if one was before. -/
theorem loadsObjects_save (before : storage.LoadsObjects device) (fields : Fields) :
    storage.LoadsObjects (storage.save (.object fields) device).device := by
  cases adapter with
  | settings name => exact Settings.loadsObjects name _
  | file file named => exact file.loadsObjects _
  | memory =>
    show Memory.storage.LoadsObjects (Memory.save (.object fields) device).device
    unfold Memory.save
    split_ifs
    · exact before
    · split
      · exact before
      · next kept ok =>
        intro held loaded
        change Except.ok kept.present? = Except.ok (some held) at loaded
        have object : kept.isObject = true := by
          unfold Memory.keep at ok
          split at ok
          · cases ok
          · next written =>
            split at ok
            · cases ok
            · next read =>
              cases ok
              exact Value.isObject_of_read written read
        rw [Value.present?_of_isObject object] at loaded
        cases loaded
        exact object

theorem loadsObjects_clear (before : storage.LoadsObjects device) :
    storage.LoadsObjects (storage.clear device).device := by
  cases adapter with
  | settings name => exact Settings.loadsObjects name _
  | file file named => exact file.loadsObjects _
  | memory =>
    show Memory.storage.LoadsObjects (Memory.clear device).device
    unfold Memory.clear
    split_ifs
    · exact before
    · intro held loaded
      cases loaded

/-- Loading fails only over a path that is too long. -/
theorem tooLong_of_load {fault : Fault} (failed : (storage.load device).1 = .error fault) : fault = .file .tooLong := by
  cases adapter with
  | memory => cases failed
  | settings name => cases failed
  | file file named =>
    change (file.load device).1 = _ at failed
    cases read : file.records .ignoringFile device with
    | mk found notices =>
      cases found with
      | ok fields => simp [StorageFile.load, read, Except.map] at failed
      | error stuck =>
        simp only [StorageFile.load, read, Except.map, Except.error.injEq] at failed
        exact failed ▸ StorageFile.fault_of_records read

end Adapter

/-- A migration returns something, whatever it is given. -/
def MigratesAll (migrate : Option (Value → Value → Except Fault Value)) : Prop :=
  ∀ step, migrate = some step → ∀ state version, ∃ migrated, step state version = .ok migrated

/-- An object is made a state of, and nothing is one of the defaults. -/
theorem exists_stateOf {store : PreferenceStore σ} (migrates : MigratesAll store.migrate) {record : Option Value}
    (object : ∀ held, record = some held → held.isObject = true) : ∃ answer, Run.stateOf store record = .ok answer := by
  cases record with
  | none => exact ⟨_, rfl⟩
  | some held =>
    have fields := object held rfl
    cases held with
    | object record =>
      unfold Run.stateOf
      dsimp only
      split_ifs
      · exact ⟨_, rfl⟩
      · split
        · exact ⟨_, rfl⟩
        · next step given =>
          obtain ⟨migrated, returned⟩ := migrates step given (Value.underName record "state")
            ((Entries.get? record "version").getD (.int 0))
          rw [returned]
          exact ⟨_, rfl⟩
    | _ => cases fields

/-! ## Stores that keep a whole document -/

/-- A store by itself with a whole document, over a storage that gives objects, with a migration that returns. -/
structure Sturdy (storage : Storage σ) (run : Run σ) : Prop where
  alone : run.Alone
  kept : run.store.storage = storage
  migrates : MigratesAll run.store.migrate
  loads : storage.LoadsObjects run.device
  whole : Whole run.store.document

namespace Sturdy

variable {storage : Storage σ} {run other : Run σ}

theorem same (sturdy : Sturdy storage run) (same : Run.SameWork run other) : Sturdy storage other where
  alone := same.alone sturdy.alone
  kept := by
    rw [same.store]
    exact sturdy.kept
  migrates := by
    rw [same.store]
    exact sturdy.migrates
  loads := by
    rw [same.device]
    exact sturdy.loads
  whole := by
    rw [same.document]
    exact sturdy.whole

theorem withDocument (sturdy : Sturdy storage run) {document : Fields} (whole : Whole document) :
    Sturdy storage (run.withDocument document) :=
  { sturdy with whole }

/-- The store may be written, whatever comes of it. -/
theorem saved (adapter : Adapter storage) (sturdy : Sturdy storage run) (persistent : Bool) (notices : List Notice) :
    Sturdy storage { run with
      device := (run.store.storage.save run.store.record run.device).device
      store := { run.store with persistent }, notices } where
  alone := sturdy.alone
  kept := sturdy.kept
  migrates := sturdy.migrates
  loads := by
    rw [sturdy.kept]
    exact adapter.loadsObjects_save sturdy.loads _
  whole := sturdy.whole

theorem commit (adapter : Adapter storage) (sturdy : Sturdy storage run) {document : Fields} (whole : Whole document) :
    Sturdy storage (Run.commit Run.silent document run).2 := by
  obtain ⟨device, persistent, notices, same⟩ := Run.commit_silent_eq document run
  have reached := Run.device_commit_silent document run
  rw [same] at reached ⊢
  have saved := (sturdy.withDocument whole).saved adapter persistent notices
  rw [show device = _ from reached]
  exact saved

theorem writeBack (adapter : Adapter storage) (sturdy : Sturdy storage run) : Sturdy storage run.writeBack.2 := by
  obtain ⟨device, persistent, notices, same⟩ := Run.writeBack_eq run
  have reached := Run.device_writeBack run
  rw [same] at reached ⊢
  rw [show device = _ from reached]
  exact sturdy.saved adapter persistent notices

theorem kept_sturdy (adapter : Adapter storage) : Run.Kept fun _ (run : Run σ) => Sturdy storage run where
  alone sturdy := sturdy.alone
  fewer _ sturdy := sturdy
  same sturdy same := sturdy.same same
  nested sturdy asked := sturdy.commit adapter (sturdy.whole.merge (Preferences.givesMaps_flipped asked))

/-- A change that gives a map no other kind of value. -/
theorem setBy (adapter : Adapter storage) (sturdy : Sturdy storage run) {ask : Fields → Except Fault Value}
    (gives : ∀ changes, ask run.store.document = .ok changes → GivesMaps changes) : Sturdy storage (run.setBy ask).2 := by
  rcases Run.changeBy_cases Run.announce ask run with ⟨changes, asked, committed⟩ | nothing
  · rw [Run.setBy, committed]
    exact (kept_sturdy adapter).announce _ _ 0 (sturdy.commit adapter (sturdy.whole.merge (gives _ asked)))
  · rw [Run.setBy, nothing]
    exact sturdy

/-- Whatever is restored is whole, so nothing that is loaded or migrated can spoil the document. -/
theorem rehydrate (adapter : Adapter storage) (sturdy : Sturdy storage run) : Sturdy storage run.rehydrate.2 := by
  have loaded : Sturdy storage run.loaded := sturdy.same ⟨rfl, rfl, rfl, rfl⟩
  rw [Run.rehydrate_eq]
  split
  · exact loaded
  · next state migrated notices _ =>
    have restored : Sturdy storage (run.restored state notices) :=
      (loaded.withDocument (Preferences.whole_restore state)).same ⟨rfl, rfl, rfl, rfl⟩
    have back : Sturdy storage
        (if migrated then (run.restored state notices).writeBack else (.ok (), run.restored state notices)).2 := by
      split_ifs
      · exact restored.writeBack adapter
      · exact restored
    unfold Run.settle
    split
    · next written =>
      rw [written] at back
      exact back
    · next written =>
      rw [written] at back
      dsimp only
      unfold Run.announceOther
      split_ifs
      · exact back
      · exact (kept_sturdy adapter).announce _ _ 0 back

theorem opened (adapter : Adapter storage) (version : Value) {migrate : Option (Value → Value → Except Fault Value)}
    (migrates : MigratesAll migrate) {device : σ} (loads : storage.LoadsObjects device) :
    Sturdy storage (Run.opened storage version migrate device [] []).2 := by
  let store : PreferenceStore σ := { storage, version, migrate }
  have start : Sturdy storage ({ device, store, shelf := [store] } : Run σ) := {
    alone := ⟨rfl, Nat.le_refl 1⟩
    kept := rfl
    migrates := migrates
    loads := loads
    whole := ⟨⟨[], rfl⟩, ⟨[], rfl⟩⟩ }
  exact start.rehydrate adapter

end Sturdy

/-! ## Any operations -/

namespace Operation

/-- An operation that gives no map another kind of value, and puts nothing but objects where a record is kept. -/
def Tame (run : Run σ) : Operation σ → Prop
  | .set changes => GivesMaps changes
  | .setBy ask => ∀ changes, ask run.store.document = .ok changes → GivesMaps changes
  | .outside effect => run.store.storage.LoadsObjects (effect run.device)
  | _ => True

/-- Operations one after another, each of them tame where it is done. -/
def AllTame : List (Operation σ) → Run σ → Prop
  | [], _ => True
  | operation :: rest, run => operation.Tame run ∧ AllTame rest (act run operation)

/-- What a tame operation asks for spoils no map: calls for one package never do, and a map of widgets is a map. -/
theorem Tame.gives {run : Run σ} {operation : Operation σ} (tame : operation.Tame run) {request : Request}
    (requests : operation.request? = some request) {ask : Fields → Except Fault Value} (asks : request.ask? = some ask)
    {changes : Value} (asked : ask run.store.document = .ok changes) : GivesMaps changes := by
  cases operation with
  | set value =>
    cases requests
    cases asks
    cases asked
    exact tame
  | setBy ask =>
    cases requests
    cases asks
    exact tame changes asked
  | setWidgets settings =>
    cases requests
    cases asks
    cases made : Preferences.mapOf settings with
    | error fault =>
      rw [made] at asked
      cases asked
    | ok widgets =>
      rw [made] at asked
      cases asked
      exact Preferences.givesMaps_single _ _
  | toggle package =>
    cases requests
    cases asks
    exact Preferences.givesMaps_toggled asked
  | resize package size =>
    cases requests
    cases asks
    cases named : WidgetSize.ofValue size with
    | error fault =>
      rw [named] at asked
      cases asked
    | ok size =>
      rw [named] at asked
      exact Preferences.givesMaps_resized asked
  | favorite package =>
    cases requests
    cases asks
    exact Preferences.givesMaps_flipped asked
  | recruit listener =>
    cases requests
    cases asks
  | subscribe number =>
    cases requests
    cases asks
  | unsubscribe subscription =>
    cases requests
    cases asks
  | _ => cases requests

end Operation

namespace Sturdy

variable {storage : Storage σ} {run : Run σ}

theorem act (adapter : Adapter storage) (sturdy : Sturdy storage run) {operation : Operation σ}
    (tame : operation.Tame run) : Sturdy storage (Operation.act run operation) := by
  cases requests : operation.request? with
  | some request =>
    rw [Operation.act_of_request requests]
    cases asks : request.ask? with
    | some ask =>
      rw [Request.answer_of_ask asks]
      exact sturdy.setBy adapter fun changes asked => tame.gives requests asks asked
    | none => exact sturdy.same (Request.sameWork_of_unasking sturdy.alone asks)
  | none =>
    cases operation with
    | rehydrate => exact sturdy.rehydrate adapter
    | clearStorage =>
      have cleared : storage.LoadsObjects (run.store.storage.clear run.device).device := by
        rw [sturdy.kept]
        exact adapter.loadsObjects_clear sturdy.loads
      exact ⟨sturdy.alone, sturdy.kept, sturdy.migrates, cleared, sturdy.whole⟩
    | outside effect =>
      have loads : storage.LoadsObjects (effect run.device) := sturdy.kept ▸ tame
      exact ⟨sturdy.alone, sturdy.kept, sturdy.migrates, loads, sturdy.whole⟩
    | _ => cases requests

theorem actAll (adapter : Adapter storage) (sturdy : Sturdy storage run) {operations : List (Operation σ)}
    (tame : Operation.AllTame operations run) : Sturdy storage (Operation.actAll operations run) := by
  induction operations generalizing run with
  | nil => exact sturdy
  | cons operation rest ih => exact ih (sturdy.act adapter tame.1) tame.2

end Sturdy

/-! ## What a whole document is good for -/

theorem WidgetSize.ofValue_ok_iff {v : Value} {size : WidgetSize} :
    WidgetSize.ofValue v = .ok size ↔ v = .text size.label := by
  constructor
  · intro named
    unfold WidgetSize.ofValue at named
    split at named
    · next found given =>
      cases named
      cases v with
      | text s =>
        have label := List.find?_some (show WidgetSize.all.find? (·.label == s) = some size from given)
        rw [eq_of_beq label]
      | _ => cases given
    · split at named <;> cases named
  · rintro rfl
    cases size <;> rfl

/-- A value that is no size is turned down, shown as it is spelled unless it has too many digits for that. -/
theorem WidgetSize.fault_of_ofValue {v : Value} {fault : Fault} (failed : WidgetSize.ofValue v = .error fault) :
    fault = .tooManyDigits ∨ ∃ shown, fault = .notAChoice shown "WidgetSize" := by
  unfold WidgetSize.ofValue at failed
  split at failed
  · cases failed
  · split at failed
    · cases failed
      exact .inr ⟨_, rfl⟩
    · cases failed
      exact .inl rfl

namespace Run

/-- What a change comes back with is what its write gives: nothing, or that the storage is unavailable, or that the path
of a storage file is too long, which it is then for loading too. -/
def Written (run : Run σ) (result : Except Fault Unit) : Prop :=
  result = .ok () ∨ (∃ failure, result = .error (.unavailable failure)) ∨
    (result = .error (.file .tooLong) ∧ (run.store.storage.load run.device).1 = .error (.file .tooLong))

/-- The document is whole, and no call about packages fails but by its write or for a size that is none; asking about them
never fails, nor does reloading where the path of a storage file is not too long. -/
structure Serving (run : Run σ) : Prop where
  whole : Whole run.store.document
  toggle : ∀ package, run.Written (run.toggle package).1
  favorite : ∀ package, run.Written (run.favorite package).1
  setWidgets : ∀ widgets, run.Written (run.setWidgets (.object widgets)).1
  resize : ∀ package (size : WidgetSize), run.Written (run.resize package (.text size.label)).1
  rejects : ∀ package v, (∀ size : WidgetSize, v ≠ .text size.label) → ∃ fault,
    (fault = .tooManyDigits ∨ ∃ shown, fault = .notAChoice shown "WidgetSize") ∧ run.resize package v = (.error fault, run)
  isFavorite : ∀ package, ∃ answer, Preferences.isFavorite run.store.document package = .ok answer
  widgetSettings : ∀ package, ∃ settings, Preferences.widgetSettings run.store.document package = .ok settings ∧
    "hide" ∈ Entries.names settings
  rehydrate : (∃ document, run.rehydrate.1 = .ok document) ∨
    (run.rehydrate.1 = .error (.file .tooLong) ∧ (run.store.storage.load run.device).1 = .error (.file .tooLong))

/-- A change that has something to commit comes back with what its write gives. -/
theorem written_of_asked {run : Run σ} (adapter : Adapter run.store.storage) (request : Request)
    {ask : Fields → Except Fault Value} (asks : request.ask? = some ask) {changes : Fields}
    (asked : ask run.store.document = .ok (.object changes)) : run.Written (request.answer run).1 := by
  have commits : asked? ask run.store.document = some (run.store.document.merge changes) := by
    rw [asked?, asked]
  rw [Request.answer_of_ask asks, setBy_of_asked commits, commit_eq, result_commit_silent]
  cases saved : (run.store.storage.save (run.withDocument (run.store.document.merge changes)).store.record
      run.device).result with
  | ok _ => exact .inl rfl
  | error fault =>
    rcases adapter.fault_of_save saved with unavailable | rfl
    · cases fault with
      | unavailable failure => exact .inr (.inl ⟨failure, rfl⟩)
      | _ => cases unavailable
    · exact .inr (.inr ⟨rfl, adapter.tooLong_of_save saved⟩)

end Run

open Run

theorem Sturdy.serving {storage : Storage σ} {run : Run σ} (adapter : Adapter storage) (sturdy : Sturdy storage run) :
    run.Serving := by
  have adapter' : Adapter run.store.storage := sturdy.kept ▸ adapter
  obtain ⟨widgets, hasWidgets⟩ := sturdy.whole.widgets
  obtain ⟨favorites, hasFavorites⟩ := sturdy.whole.favorites
  constructor
  · exact sturdy.whole
  · intro package
    exact written_of_asked adapter' (.toggle package) rfl (Preferences.toggled_of_widgets hasWidgets package)
  · intro package
    exact written_of_asked adapter' (.favorite package) rfl
      (Preferences.flipped_of_favorites hasFavorites package)
  · intro settings
    exact written_of_asked adapter' (.setWidgets (.object settings)) rfl rfl
  · intro package size
    have named : WidgetSize.ofValue (.text size.label) = .ok size := WidgetSize.ofValue_ok_iff.mpr rfl
    have asked : (WidgetSize.ofValue (.text size.label)).bind (Preferences.resized package · run.store.document) =
        Preferences.resized package size run.store.document := by
      rw [named]
      rfl
    exact written_of_asked adapter' (.resize package (.text size.label)) rfl
      (asked.trans (Preferences.resized_of_widgets hasWidgets package size))
  · intro package v other
    cases named : WidgetSize.ofValue v with
    | ok size => exact absurd (WidgetSize.ofValue_ok_iff.mp named) (other size)
    | error fault =>
      refine ⟨fault, WidgetSize.fault_of_ofValue named, ?_⟩
      rw [Run.resize, named]
  · intro package
    rw [Preferences.isFavorite, Value.underName, hasFavorites]
    exact ⟨_, rfl⟩
  · intro package
    rw [Preferences.widgetSettings, Value.underName, hasWidgets]
    exact ⟨_, rfl, Entries.mem_names_merge (List.mem_singleton.mpr rfl) _⟩
  · cases loaded : (run.store.storage.load run.device).1 with
    | error fault =>
      obtain rfl := adapter'.tooLong_of_load loaded
      have found : (run.store.storage.load run.device).1.bind (stateOf run.store) = .error (.file .tooLong) := by
        rw [loaded]
        rfl
      exact .inr ⟨by rw [rehydrate_of_fault found], rfl⟩
    | ok record =>
      have object : ∀ held, record = some held → held.isObject = true := by
        rintro held rfl
        exact sturdy.loads held (sturdy.kept ▸ loaded)
      obtain ⟨⟨state, migrated, notices⟩, made⟩ := exists_stateOf sturdy.migrates object
      have found : (run.store.storage.load run.device).1.bind (stateOf run.store) = .ok (state, migrated, notices) := by
        rw [loaded]
        exact made
      exact .inl (exists_rehydrate_of_found (.adapter adapter' run.device) found)

/-- A store that was opened over objects serves after any operations that gave a map no other kind of value: its document
has both maps, and calls about packages fail by their write alone, whatever was loaded, migrated or refused before and
whatever listeners did in between. -/
theorem serving_actAll {storage : Storage σ} (adapter : Adapter storage) (version : Value)
    {migrate : Option (Value → Value → Except Fault Value)} (migrates : MigratesAll migrate) {device : σ}
    (loads : storage.LoadsObjects device) {operations : List (Operation σ)}
    (tame : Operation.AllTame operations (Run.opened storage version migrate device [] []).2) :
    (Operation.actAll operations (Run.opened storage version migrate device [] []).2).Serving :=
  ((Sturdy.opened adapter version migrates loads).actAll adapter tame).serving adapter

/-- A record of another version that is migrated to a list, a listener that favorites, and entries that are no settings. -/
theorem serving_after_rubbish :
    let migrate : Option (Value → Value → Except Fault Value) := some fun state _ => .ok (.array [state])
    let operations : List (Operation Memory) := [
      .outside fun memory => { memory with record := some (.object [("version", .text "old"), ("state", .int 3)]) },
      .rehydrate,
      .recruit ⟨"once", .favorite "p" .hear, 0⟩,
      .set (.object [("widgetSettings", .object [("p", .int 3), ("q", .object [("hide", .text "no")])])])]
    let opened := Run.opened Memory.storage (.int storeVersion) migrate {} [] []
    Adapter Memory.storage ∧ MigratesAll migrate ∧ Memory.storage.LoadsObjects {} ∧
      Operation.AllTame operations opened.2 ∧ (Operation.actAll operations opened.2).Serving := by
  intro migrate operations opened
  have migrates : MigratesAll migrate := by
    intro step given state version
    obtain rfl : (fun state _ => .ok (.array [state])) = step := Option.some.inj given
    exact ⟨_, rfl⟩
  have loads : Memory.storage.LoadsObjects {} := nofun
  have tame : Operation.AllTame operations opened.2 := by
    refine ⟨?_, trivial, trivial, Preferences.givesMaps_single _ _, trivial⟩
    rintro held ⟨⟩
    rfl
  exact ⟨.memory, migrates, loads, tame, serving_actAll .memory (.int storeVersion) migrates loads tame⟩

/-- A name of 256 bytes below a directory that has come to be there: reloading fails, and hiding a widget fails for
another reason than that the storage is unavailable. -/
theorem reload_over_path_too_long :
    let file : StorageFile := ⟨⟨.working, ["a", String.ofList (List.replicate 64 '🏠')]⟩, storeName⟩
    let opened := Run.opened file.storage (.int storeVersion) none FileTree.fresh [] []
    let run := Operation.actAll [.outside fun tree => (tree.makeDirectories (Path.ofText "a")).2] opened.2
    opened.1 = .ok Preferences.defaults ∧ run.rehydrate.1 = .error (.file .tooLong) ∧
      (run.toggle "p").1 = .error (.file .tooLong) ∧ (Fault.file .tooLong).isUnavailable = false := by
  decide +kernel

end HomeTiles
