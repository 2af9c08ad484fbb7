import HomeTiles.Proofs.CurrentRecord
import HomeTiles.Proofs.KeyedChanges
import HomeTiles.Proofs.NestedAnnouncements

/-!
# Updates that are kept: listeners that write back

A change that is announced to listeners which make favorites of their own comes
to the change and one favorite for each of them, none of which is lost
(`Run.setBy_keeps_updates`). Each is written once and heard of by everybody. What
the favorites become is `flippedTimes`, as in the closed form of calls that a
caller makes one after another.
-/

namespace HomeTiles

/-! ## Favorites made one after another -/

/-- Only the favorites change, each package as often as it is named. -/
theorem Preferences.withAllFlipped_eq (packages : List String) {document favorites : Fields}
    (found : document.get? favoritesKey = some (.object favorites)) :
    ∃ favorites' : Fields, withAllFlipped document packages = document.put favoritesKey (.object favorites') ∧
      ∀ package, favorites'.get? package = flippedTimes (packages.count package) (favorites.get? package) := by
  induction packages using List.reverseRecOn with
  | nil => exact ⟨favorites, (Entries.put_of_get? found).symm, fun package => rfl⟩
  | append_singleton packages last ih =>
    obtain ⟨before, same, flips⟩ := ih
    have there : (withAllFlipped document packages).get? favoritesKey = some (.object before) := by
      rw [same, Entries.get?_put, if_pos rfl]
    refine ⟨before.put last (.bool (!(Value.underName before last).truthy)), ?_, fun package => ?_⟩
    · have step : withAllFlipped document (packages ++ [last]) = withFlipped (withAllFlipped document packages) last :=
        List.foldl_append
      rw [step, withFlipped_of_favorites there, same, Entries.put_put]
    · rw [Entries.get?_put, List.count_append]
      by_cases here : last = package
      · subst here
        rw [if_pos rfl, List.count_singleton_self, flippedTimes_succ, Value.underName, flips]
      · have other : [last].count package = 0 := List.count_eq_zero_of_not_mem (by simpa using Ne.symm here)
        rw [if_neg here, other, Nat.add_zero, flips]

namespace Run

variable {σ : Type} {storage : Storage σ} {run : Run (σ × List Touch)}

/-! ## One write for each update -/

theorem log_commit_silent (kept : run.store.storage = storage.recorded) (document : Fields) :
    (commit silent document run).2.device.2 = .write (commit silent document run).1 :: run.device.2 ∧
    (commit silent document run).2.store.storage = storage.recorded := by
  constructor
  · rw [(sameWork_commit kept document).device, result_commit_silent, kept]
    rfl
  · obtain ⟨device, persistent, notices, same⟩ := commit_silent_eq document run
    rw [same]
    exact kept

/-- Each favorite is written once. -/
theorem log_flipAll (packages : List String) (kept : run.store.storage = storage.recorded) {favorites : Fields}
    (found : run.store.document.get? Preferences.favoritesKey = some (.object favorites)) :
    ∃ writes : List (Except Fault Unit), writes.length = packages.length ∧
      (run.flipAll packages).device.2 = (writes.map Touch.write).reverse ++ run.device.2 := by
  induction packages generalizing run favorites with
  | nil => exact ⟨[], rfl, rfl⟩
  | cons package rest ih =>
    obtain ⟨log, kept'⟩ := log_commit_silent kept (Preferences.withFlipped run.store.document package)
    obtain ⟨flipped, found'⟩ := favorites_withFlipped found package
    rw [← document_commit_silent (Preferences.withFlipped run.store.document package) run] at found'
    obtain ⟨writes, length, later⟩ := ih kept' found'
    refine ⟨(commit silent (Preferences.withFlipped run.store.document package) run).1 :: writes, ?_, ?_⟩
    · rw [List.length_cons, List.length_cons, length]
    · rw [flipAll, List.foldl_cons, changeBy_flipped silent found package, ← flipAll, later, log]
      simp

/-- A change that leaves the favorites an object is committed first and then announced. -/
theorem setBy_announced (alone : run.Alone) (staying : Staying run.listeners run.store.subscribed)
    {ask : Fields → Except Fault Value} {changes favorites : Fields}
    (asked : ask run.store.document = .ok (.object changes))
    (found : (run.store.document.merge changes).get? Preferences.favoritesKey = some (.object favorites)) :
    let ready := (commit silent (run.store.document.merge changes) run).2
    (run.setBy ask).1 = (commit silent (run.store.document.merge changes) run).1 ∧
      ready.awaited = run.awaited ∧ Announced run.store.document ready (run.setBy ask).2 := by
  intro ready
  obtain ⟨subscribed, listeners, _⟩ := subscribed_commit_silent (run.store.document.merge changes) run
  have document : ready.store.document = run.store.document.merge changes := document_commit_silent _ run
  have committed : run.setBy ask = ((commit silent (run.store.document.merge changes) run).1,
      announce ready.store.document run.store.document ready) := by
    rw [setBy, changeBy, asked, document]
    exact commit_eq announce _ run
  have staying' : Staying ready.listeners ready.store.subscribed := by
    rw [listeners, subscribed]
    exact staying
  rw [committed]
  refine ⟨rfl, ?_, ?_⟩
  · rw [awaited, listeners, subscribed]
    rfl
  · rw [← document] at found
    exact announce_announced (alone_commit_silent alone) staying' found run.store.document

/-- The last of some writes is the latest touch. -/
private theorem head?_writes (first : Except Fault Unit) (later : List (Except Fault Unit)) (log : List Touch) :
    ∃ write ∈ first :: later, (((first :: later).map Touch.write).reverse ++ log).head? = some (.write write) := by
  refine ⟨(first :: later).getLast (List.cons_ne_nil _ _), List.getLast_mem _, ?_⟩
  rw [List.head?_append, List.head?_reverse, List.getLast?_map, List.getLast?_eq_getLast_of_ne_nil (List.cons_ne_nil _ _)]
  rfl

/-- The writes, the events and the document of a change over a recorded storage. -/
theorem updates_of_setBy (adapter : AnyAdapter storage) (recording : Recording storage run)
    (known : ∀ number ∈ run.store.subscribed, number < run.listeners.length)
    (staying : Staying run.listeners run.store.subscribed)
    {ask : Fields → Except Fault Value} {changes favorites : Fields}
    (asked : ask run.store.document = .ok (.object changes)) (proper : (Value.object changes).Proper)
    (found : (run.store.document.merge changes).get? Preferences.favoritesKey = some (.object favorites)) :
    let committed := run.store.document.merge changes
    let packages := run.awaited.map Prod.snd
    let result := (run.setBy ask).1
    let after := (run.setBy ask).2
    after.awaited = [] ∧ ∃ (nested : List (Except Fault Unit)) (heard : List Event) (favorites' : Fields),
      nested.length = packages.length ∧
      after.device.2 = ((result :: nested).map Touch.write).reverse ++ run.device.2 ∧
      after.events = run.events ++ heard ∧
      heard.length = run.store.subscribed.length * (packages.length + 1) ∧
      after.store.document = committed.put Preferences.favoritesKey (.object favorites') ∧
      (∀ package, favorites'.get? package = flippedTimes (packages.count package) (favorites.get? package)) ∧
      ((∀ write ∈ result :: nested, write = .ok ()) →
        storage.load after.device.1 = (.ok (some after.store.record.settled), [])) ∧
      ∀ fault, result = .error fault → fault.OfWrite := by
  intro committed packages result after
  obtain ⟨same, awaits, announced⟩ := setBy_announced recording.alone staying asked found
  obtain ⟨log, kept'⟩ := log_commit_silent recording.kept committed
  obtain ⟨subscribed, listeners, events⟩ := subscribed_commit_silent committed run
  have document : (commit silent committed run).2.store.document = committed := document_commit_silent committed run
  have found' : (commit silent committed run).2.store.document.get? Preferences.favoritesKey = some (.object favorites) := by
    rw [document]
    exact found
  obtain ⟨nested, length, nestedLog⟩ := log_flipAll packages kept' found'
  obtain ⟨favorites', flipped, flips⟩ := Preferences.withAllFlipped_eq packages found
  have work : SameWork ((commit silent committed run).2.flipAll packages) after := by
    have done := announced.work
    rw [awaits] at done
    exact done
  have writes : after.device.2 = ((result :: nested).map Touch.write).reverse ++ run.device.2 := by
    rw [work.device, nestedLog, log, ← same]
    simp [result]
  let heard := transcript run.listeners run.store.subscribed run.awaited committed run.store.document
  have events' : after.events = run.events ++ heard := by
    rw [announced.events, events, listeners, subscribed, awaits, document]
  refine ⟨announced.settled, nested, heard, favorites', length, writes, events', ?_, ?_, flips, fun worked => ?_,
    fun fault failed => ?_⟩
  · rw [length_transcript known, List.length_map]
  · rw [work.document, document_flipAll packages found', document]
    exact flipped
  · have current : Current storage after := Current.of_setBy adapter.faithful recording asked proper
    obtain ⟨write, inside, last⟩ := head?_writes result nested run.device.2
    rw [← writes, worked write inside] at last
    exact current.stored last
  · have failed' : (storage.save (run.withDocument committed).store.record run.device.1).result = .error fault := by
      have saved := same.symm.trans failed
      rw [result_commit_silent, recording.kept] at saved
      exact saved
    exact adapter.fault_of_save failed'

/-- No update is lost. A change of a store by itself that leaves the favorites an object is announced with as many
levels as there are favorites to be made, and more make no difference. The listeners that are awaited, each counted
once, make one favorite each: every update is written once, everybody hears of each, and the document is the one that
was committed with these favorites in it. If all writes work the storage holds that document. If the first fails, which is
the one that the caller is told of, the record did not reach the storage or a file's path is too long or nameless. -/
theorem setBy_keeps_updates {run : Run σ} (adapter : AnyAdapter run.store.storage) (alone : run.Alone)
    {version : Int} (versioned : run.store.version = .int version) (document : (Value.object run.store.document).Proper)
    (known : ∀ number ∈ run.store.subscribed, number < run.listeners.length)
    (staying : Staying run.listeners run.store.subscribed)
    {ask : Fields → Except Fault Value} {changes favorites : Fields}
    (asked : ask run.store.document = .ok (.object changes)) (proper : (Value.object changes).Proper)
    (found : (run.store.document.merge changes).get? Preferences.favoritesKey = some (.object favorites)) :
    let committed := run.store.document.merge changes
    let packages := run.awaited.map Prod.snd
    let result := (run.setBy ask).1
    let after := (run.setBy ask).2
    (∀ depth, run.pending ≤ depth → changeBy (announceWithin depth) ask run = run.setBy ask) ∧
    (run.awaited.map Prod.fst).Nodup ∧ after.awaited = [] ∧
    ∃ (nested : List (Except Fault Unit)) (heard : List Event) (favorites' : Fields),
      (run.recorded []).setBy ask = (result, after.recorded ((result :: nested).map Touch.write).reverse) ∧
      nested.length = packages.length ∧
      after.events = run.events ++ heard ∧
      heard.length = run.store.subscribed.length * (packages.length + 1) ∧
      after.store.document = committed.put Preferences.favoritesKey (.object favorites') ∧
      (∀ package, favorites'.get? package = flippedTimes (packages.count package) (favorites.get? package)) ∧
      ((∀ write ∈ result :: nested, write = .ok ()) →
        run.store.storage.load after.device = (.ok (some after.store.record.settled), [])) ∧
      ∀ fault, result = .error fault → fault.OfWrite := by
  intro committed packages result after
  have recording := Recording.of_alone alone versioned document []
  obtain ⟨log, same⟩ := setBy_recorded ask run []
  obtain ⟨settled, nested, heard, favorites', length, writes, rest⟩ :=
    updates_of_setBy adapter recording known staying asked proper found
  rw [same] at settled writes rest
  have logged : log = ((result :: nested).map Touch.write).reverse := by
    rw [← List.append_nil (List.reverse _)]
    exact writes
  subst logged
  exact ⟨fun depth enough => changeBy_announceWithin enough ask, nodup_dueAmong rfl, settled, nested, heard, favorites',
    same, length, rest⟩

/-- Two listeners make the same package a favorite, one of them subscribed twice: nine events and no favorite. -/
theorem updates_kept_of_two_favorites :
    let run : Run Memory := {
      device := {}
      store := { storage := Memory.storage, subscribed := [0, 1, 0] }
      listeners := [⟨"a", .favorite "p" .hear, 0⟩, ⟨"b", .favorite "p" .hear, 0⟩] }
    let changes : Fields := [("theme", .text "dark")]
    let ask : Fields → Except Fault Value := fun _ => .ok (.object changes)
    let after := (run.setBy ask).2
    (∀ number ∈ run.store.subscribed, number < run.listeners.length) ∧ Staying run.listeners run.store.subscribed ∧
      after.events.length = 9 ∧
      (∃ favorites : Fields,
        after.store.document = (run.store.document.merge changes).put Preferences.favoritesKey (.object favorites) ∧
          favorites.get? "p" = some (.bool false)) ∧
      Memory.storage.load after.device = (.ok (some after.store.record.settled), []) := by
  intro run changes ask after
  have alone : run.Alone := ⟨rfl, Nat.zero_le 1⟩
  have known : ∀ number ∈ run.store.subscribed, number < run.listeners.length := by decide
  have staying : Staying run.listeners run.store.subscribed := by
    have all : ∀ listener ∈ run.listeners, listener.stays = true := by decide
    intro number _ listener there
    exact all listener (List.mem_of_getElem? there)
  have asked : ask run.store.document = .ok (.object changes) := rfl
  have proper : (Value.object changes).Proper := ⟨List.nodup_singleton _, trivial, trivial⟩
  have found : (run.store.document.merge changes).get? Preferences.favoritesKey = some (.object []) := rfl
  obtain ⟨_, _, _, nested, heard, favorites, same, _, events, count, document, flips, stored, _⟩ :=
    setBy_keeps_updates (.adapter .memory) alone rfl Preferences.proper_defaults known staying asked proper found
  have done : (run.setBy ask).2 = after := rfl
  rw [done] at events document stored same
  have length : after.events.length = heard.length := congrArg List.length events
  refine ⟨known, staying, length.trans (count.trans (by decide)), ⟨favorites, document, (flips "p").trans (by decide)⟩,
    stored fun write inside => ?_⟩
  have log : ((run.recorded []).setBy ask).2.device.2 = List.replicate 3 (.write (.ok ())) := by
    decide +kernel
  rw [same] at log
  have one : Touch.write write ∈ List.replicate 3 (Touch.write (.ok ())) := by
    rw [← log]
    exact List.mem_reverse.mpr (List.mem_map_of_mem inside)
  exact Touch.write.inj (List.eq_of_mem_replicate one)

/-- A name of 256 bytes below a directory that has come to be there: the change and the favorite that a listener
makes of it are both refused, and the caller is not told that the storage is unavailable. -/
theorem nested_writes_path_too_long :
    let file : StorageFile := ⟨⟨.working, ["a", String.ofList (List.replicate 64 '🏠')]⟩, storeName⟩
    let operations : List (Operation FileTree) :=
      [.recruit ⟨"once", .favorite "p" .hear, 0⟩,
        .outside fun tree => (tree.makeDirectories (Path.ofText "a")).2]
    let opened := Run.opened file.storage (.int storeVersion) none FileTree.fresh [] []
    let run := Operation.actAll operations opened.2
    let recorded := (run.recorded []).favorite "q"
    opened.1 = .ok Preferences.defaults ∧ recorded.1 = .error (.file .tooLong) ∧
      recorded.2.device.2 = [.write (.error (.file .tooLong)), .write (.error (.file .tooLong))] ∧
      (Fault.file .tooLong).isUnavailable = false := by
  decide +kernel

end Run

end HomeTiles
