import HomeTiles.Proofs.LastHeard

/-!
# Calm listeners: announcements that nothing comes of

A listener that is not pending changes no document when it is called, whatever
else it does: it may fail, scribble, leave or bring such listeners along, also
at another store. Where only such listeners are subscribed an announcement tells
everybody who was subscribed when it began, each place once and in order, and
leaves the work as it is (`undisturbed_announce`). So every change and every reload
does and gives back what it would with nobody listening (`setBy_calm`,
`rehydrate_calm`).
-/

namespace HomeTiles

variable {σ : Type}

/-- There is a listener of a number, and it is not pending. -/
def CalmAt (listeners : List Listener) (number : Nat) : Prop :=
  ∃ listener, listeners[number]? = some listener ∧ listener.isPending = false

instance (listeners : List Listener) (number : Nat) : Decidable (CalmAt listeners number) :=
  match found : listeners[number]? with
  | none => isFalse fun ⟨_, there, _⟩ => by rw [found] at there; cases there
  | some listener =>
    if quiet : listener.isPending = false then isTrue ⟨listener, found, quiet⟩
    else isFalse fun ⟨_, there, calm⟩ => by
      rw [found] at there
      cases there
      exact quiet calm

theorem CalmAt.lt_length {listeners : List Listener} {number : Nat} (calm : CalmAt listeners number) :
    number < listeners.length := by
  obtain ⟨listener, there, _⟩ := calm
  exact (List.getElem?_eq_some_iff.mp there).1

theorem CalmAt.afterCall {listeners : List Listener} {other : Nat} (calm : CalmAt listeners other) (number : Nat) :
    CalmAt (afterCall listeners number) other := by
  obtain ⟨listener, there, quiet⟩ := calm
  rw [CalmAt, getElem?_afterCall, there]
  split_ifs
  · refine ⟨_, rfl, ?_⟩
    have parts := listener.behavior.favoritesNow_add_later
    simp only [Listener.isPending, bne_eq_false_iff_eq] at quiet ⊢
    omega
  · exact ⟨_, rfl, quiet⟩

theorem CalmAt.append {listeners : List Listener} {number : Nat} (calm : CalmAt listeners number) (more : List Listener) :
    CalmAt (listeners ++ more) number := by
  obtain ⟨listener, there, quiet⟩ := calm
  exact ⟨listener, by rw [List.getElem?_append_left (List.getElem?_eq_some_iff.mp there).1, there], quiet⟩

theorem names_afterCall (listeners : List Listener) (number : Nat) :
    (afterCall listeners number).map (·.name) = listeners.map (·.name) := by
  refine List.ext_getElem? fun other => ?_
  rw [List.getElem?_map, List.getElem?_map, getElem?_afterCall]
  split_ifs
  · rw [Option.map_map]
    rfl
  · rfl

/-- Where listeners only came the others go by the same names. -/
theorem namesOf_of_prefix {listeners others : List Listener}
    (grown : listeners.map (·.name) <+: others.map (·.name)) {numbers : List Nat}
    (known : ∀ number ∈ numbers, number < listeners.length) : namesOf others numbers = namesOf listeners numbers := by
  unfold namesOf
  refine List.filterMap_congr fun number inside => ?_
  have there : number < (listeners.map (·.name)).length := by simpa using known number inside
  obtain ⟨more, split⟩ := grown
  rw [← List.getElem?_map, ← List.getElem?_map, ← split, List.getElem?_append_left there]

namespace Run

/-! ## Runs that agree -/

/-- Two runs over the same device, at stores that differ at most in who is subscribed. -/
structure Agrees (run other : Run σ) : Prop where
  device : other.device = run.device
  store : other.store = { run.store with subscribed := other.store.subscribed }

theorem Agrees.trans {run other third : Run σ} (first : Agrees run other) (second : Agrees other third) :
    Agrees run third := ⟨second.device.trans first.device, by rw [second.store, first.store]⟩

theorem Agrees.document {run other : Run σ} (agrees : Agrees run other) :
    other.store.document = run.store.document := by rw [agrees.store]

theorem SameWork.agrees {run other : Run σ} (same : SameWork run other) : Agrees run other := ⟨same.device, same.store⟩

/-- None of the listeners that are subscribed is pending. -/
def Calm (run : Run σ) : Prop := ∀ number ∈ run.store.subscribed, CalmAt run.listeners number

instance (run : Run σ) : Decidable run.Calm :=
  inferInstanceAs (Decidable (∀ number ∈ run.store.subscribed, CalmAt run.listeners number))

theorem Ready.calm {run after : Run σ} (ready : Ready run after) (calm : run.Calm) : after.Calm := by
  intro number inside
  rw [ready.subscribed] at inside
  rw [ready.listeners]
  exact calm number inside

/-- A run that goes on from another one with the same work: some events were heard, and somebody may have come or
left who is not pending. -/
structure Undisturbed (heard : List Event) (run after : Run σ) : Prop extends Agrees run after where
  events : after.events = run.events ++ heard
  names : run.listeners.map (·.name) <+: after.listeners.map (·.name)
  still : ∀ number, CalmAt run.listeners number → CalmAt after.listeners number
  calm : run.Calm → after.Calm

namespace Undisturbed

theorem refl (run : Run σ) : Undisturbed [] run run :=
  ⟨⟨rfl, rfl⟩, (List.append_nil _).symm, List.prefix_rfl, fun _ => id, id⟩

theorem trans {heard more : List Event} {run other third : Run σ} (first : Undisturbed heard run other)
    (second : Undisturbed more other third) : Undisturbed (heard ++ more) run third where
  toAgrees := first.toAgrees.trans second.toAgrees
  events := by rw [second.events, first.events, List.append_assoc]
  names := first.names.trans second.names
  still number := second.still number ∘ first.still number
  calm := second.calm ∘ first.calm

/-- Who comes or leaves at another store does not disturb this one. -/
theorem visit {α : Type} {act : Run σ → α × Run σ}
    (quiet : ∀ there : Run σ, Undisturbed [] there (act there).2 ∧ (act there).2.shelf = there.shelf) (number : Nat)
    (run : Run σ) : Undisturbed [] run (run.visit number act).2 := by
  unfold Run.visit
  split_ifs
  · exact (quiet run).1
  · split
    · exact (quiet run).1
    · next store found =>
      obtain ⟨there, shelf⟩ := quiet { run with store, number, shelf := run.stores }
      have back : ((act { run with store, number, shelf := run.stores }).2.shelf[run.number]?).getD run.store =
          run.store := by
        rw [shelf, stores, List.getElem?_set, if_pos rfl]
        split_ifs <;> rfl
      refine ⟨⟨there.device, ?_⟩, there.events, there.names, there.still, fun calm other inside => ?_⟩
      · dsimp only
        rw [back]
      · dsimp only at inside ⊢
        rw [back] at inside
        exact there.still other (calm other inside)

end Undisturbed

/-! ## Calls of calm listeners -/

/-- Somebody is subscribed who is not pending. -/
theorem undisturbed_recruit {listener : Listener} (quiet : listener.isPending = false) (run : Run σ) :
    Undisturbed [] run (recruit listener run).2 := by
  refine ⟨⟨rfl, rfl⟩, (List.append_nil _).symm, ?_, fun number at_ => at_.append _, ?_⟩
  · show run.listeners.map _ <+: (run.listeners ++ [listener]).map _
    rw [List.map_append]
    exact List.prefix_append _ _
  · intro calm number inside
    show CalmAt (run.listeners ++ [listener]) number
    rcases List.mem_append.mp inside with before | new
    · exact (calm number before).append _
    · rw [List.mem_singleton.mp new]
      exact ⟨listener, List.getElem?_concat_length, quiet⟩

theorem undisturbed_unsubscribe (subscription : Subscription) (run : Run σ) :
    Undisturbed [] run (run.unsubscribe subscription) := by
  refine .visit (fun there => ⟨?_, rfl⟩) _ _
  refine ⟨⟨rfl, rfl⟩, (List.append_nil _).symm, List.prefix_rfl, fun _ => id, ?_⟩
  intro calm number inside
  exact calm number (List.mem_of_mem_erase inside)

/-- Who has no favorites to make does not disturb the work, whatever it does at a call. -/
theorem undisturbed_perform (favorite : String → Run σ → Except Fault Unit × Run σ) (number : Nat) (listener : Listener)
    {behavior : Behavior} (quiet : behavior.favorites = 0) (run : Run σ) :
    Undisturbed [] run (perform favorite number listener behavior run) := by
  induction behavior generalizing run with
  | fail => exact ⟨⟨rfl, rfl⟩, (List.append_nil _).symm, List.prefix_rfl, fun _ => id, id⟩
  | failOnce rest => exact ⟨⟨rfl, rfl⟩, (List.append_nil _).symm, List.prefix_rfl, fun _ => id, id⟩
  | leave => exact undisturbed_unsubscribe _ run
  | leaveThen rest ih => exact (undisturbed_unsubscribe _ run).trans (ih quiet _)
  | recruit name behavior rest _ ih =>
    obtain ⟨first, later⟩ := Nat.add_eq_zero_iff.mp quiet
    let recruited : Listener := { name, behavior, home := listener.home }
    have calm : recruited.isPending = false := by simpa [Listener.isPending] using first
    exact (Undisturbed.visit (fun there => ⟨undisturbed_recruit calm there, rfl⟩) _ run).trans (ih later _)
  | favorite package rest => cases quiet
  | _ => exact .refl run

/-- A listener that is not pending hears of a change when it is told, and the work goes on as before. -/
theorem undisturbed_tell (favorite : String → Run σ → Except Fault Unit × Run σ) (new old : Fields) {run : Run σ}
    {number : Nat} (calm : CalmAt run.listeners number) :
    Undisturbed (told run.listeners [number] new old) run (tell favorite new old run number) := by
  obtain ⟨listener, there, quiet⟩ := calm
  have heard : told run.listeners [number] new old = [⟨listener.name, new, old⟩] := by simp [told, namesOf, there]
  have hears : Undisturbed [⟨listener.name, new, old⟩] run { run with
      events := run.events ++ [⟨listener.name, new, old⟩], listeners := afterCall run.listeners number } :=
    ⟨⟨rfl, rfl⟩, rfl, names_afterCall run.listeners number ▸ List.prefix_rfl, fun _ at_ => at_.afterCall number,
      fun all other inside => (all other inside).afterCall number⟩
  have none : listener.behavior.favorites = 0 := by simpa [Listener.isPending] using quiet
  rw [heard]
  unfold tell
  rw [there]
  exact hears.trans (undisturbed_perform favorite number listener none _)

private theorem undisturbed_foldl_tell (new old : Fields) {numbers : List Nat} {run : Run σ}
    (calm : ∀ number ∈ numbers, CalmAt run.listeners number) :
    Undisturbed (told run.listeners numbers new old) run (numbers.foldl (tell favorite new old) run) := by
  induction numbers generalizing run with
  | nil => exact .refl run
  | cons number rest ih =>
    obtain ⟨here, later⟩ := List.forall_mem_cons.mp calm
    have first := undisturbed_tell favorite new old here
    have others := ih fun other inside => first.still other (later other inside)
    rw [told, namesOf_of_prefix first.names fun other inside => (later other inside).lt_length, ← told] at others
    rw [List.foldl_cons, ← List.singleton_append, told_append]
    exact first.trans others

/-- Among calm listeners an announcement is heard by everybody who was subscribed when it began, and nothing comes
of it. -/
theorem undisturbed_announce (new old : Fields) {run : Run σ} (calm : run.Calm) :
    Undisturbed (told run.listeners run.store.subscribed new old) run (announce new old run) := by
  rw [announce_eq]
  exact undisturbed_foldl_tell new old calm

/-! ## Changes -/

/-- The document that a change which is asked for leads to, if it asks for anything of use. -/
def asked? (ask : Fields → Except Fault Value) (document : Fields) : Option Fields :=
  match ask document with
  | .ok (.object changes) => some (document.merge changes)
  | _ => none

/-- What everybody who is subscribed hears of a document that is announced, if one is. -/
def heardOf (run : Run σ) : Option Fields → List Event
  | none => []
  | some new => told run.listeners run.store.subscribed new run.store.document

/-- A change that is asked for is committed. -/
theorem setBy_of_asked {ask : Fields → Except Fault Value} {run : Run σ} {new : Fields}
    (asked : asked? ask run.store.document = some new) : run.setBy ask = commit announce new run := by
  unfold asked? at asked
  split at asked
  · next changes made =>
    cases asked
    simp only [setBy, changeBy, made]
  · cases asked

/-- Where nothing of use is asked for nothing is done, and the reason comes back: it depends on the document alone. -/
theorem setBy_of_unasked {ask : Fields → Except Fault Value} {document : Fields} (unasked : asked? ask document = none) :
    ∃ fault, ∀ run : Run σ, run.store.document = document → run.setBy ask = (.error fault, run) := by
  unfold asked? at unasked
  cases made : ask document with
  | error fault =>
    refine ⟨fault, ?_⟩
    rintro run rfl
    simp only [setBy, changeBy, made]
  | ok changes =>
    refine ⟨.wrongKind, ?_⟩
    rintro run rfl
    rw [made] at unasked
    cases changes with
    | object changes => cases unasked
    | _ => simp only [setBy, changeBy, made]

theorem sameWork_unheard (run : Run σ) : SameWork run.unheard run := ⟨rfl, rfl, rfl, rfl⟩

theorem calm_unheard (run : Run σ) : run.unheard.Calm := nofun

/-- A commit among calm listeners: the announcement is all that there is beside a silent one. -/
theorem undisturbed_commit (new : Fields) {run : Run σ} (calm : run.Calm) :
    (commit announce new run).1 = (commit silent new run).1 ∧
      Undisturbed (run.heardOf (some new)) (commit silent new run).2 (commit announce new run).2 := by
  have ready := ready_commit_silent new run
  have undisturbed := undisturbed_announce new run.store.document (ready.calm calm)
  rw [commit_eq]
  rw [ready.listeners, ready.subscribed] at undisturbed
  exact ⟨rfl, undisturbed⟩

/-- A change among calm listeners: everybody hears of it, whatever becomes of the write, and the rest is as with nobody
listening. -/
theorem setBy_calm {run : Run σ} (calm : run.Calm) (ask : Fields → Except Fault Value) :
    (run.setBy ask).1 = (run.unheard.setBy ask).1 ∧ Agrees (run.unheard.setBy ask).2 (run.setBy ask).2 ∧
      (run.setBy ask).2.events = run.events ++ run.heardOf (asked? ask run.store.document) ∧ (run.setBy ask).2.Calm := by
  have document : run.unheard.store.document = run.store.document := rfl
  cases asked : asked? ask run.store.document with
  | none =>
    obtain ⟨fault, nothing⟩ := setBy_of_unasked (σ := σ) asked
    rw [nothing run rfl, nothing run.unheard document]
    exact ⟨rfl, (sameWork_unheard run).agrees, (List.append_nil _).symm, calm⟩
  | some new =>
    have asked' : asked? ask run.unheard.store.document = some new := asked
    rw [setBy_of_asked asked, setBy_of_asked asked']
    have ready := ready_commit_silent new run
    obtain ⟨result, undisturbed⟩ := undisturbed_commit new calm
    have nobody := announce_unheard new run.unheard.store.document (ready_commit_silent new run.unheard).subscribed
    rw [commit_eq announce _ run.unheard, nobody, result, result_commit_silent, result_commit_silent]
    refine ⟨rfl, ?_, ?_, undisturbed.calm (ready.calm calm)⟩
    · exact ((sameWork_unheard run).commit_silent new).agrees.trans undisturbed.toAgrees
    · rw [undisturbed.events, ready.events]

/-! ## Reloads -/

/-- The document that is announced after a reload: it is another one than before. -/
def reloaded? (result : Except Fault Fields) (old : Fields) : Option Fields :=
  match result with
  | .ok document => if document.alikeAsCopies old then none else some document
  | .error _ => none

/-- The run with a loaded state restored, and written back if it was migrated. -/
def restoredBy (run : Run σ) (state : Value) (migrated : Bool) (notices : List Notice) : Except Fault Unit × Run σ :=
  if migrated then (run.restored state notices).writeBack else (.ok (), run.restored state notices)

theorem ready_restoredBy (run : Run σ) (state : Value) (migrated : Bool) (notices : List Notice) :
    Ready run (run.restoredBy state migrated notices).2 := by
  unfold restoredBy
  split_ifs
  · obtain ⟨alone, listeners, subscribed, events⟩ := ready_writeBack (run.restored state notices)
    exact ⟨alone, listeners, subscribed, events⟩
  · exact ⟨id, rfl, rfl, rfl⟩

theorem document_restoredBy (run : Run σ) (state : Value) (migrated : Bool) (notices : List Notice) :
    (run.restoredBy state migrated notices).2.store.document = (Preferences.restore state).1 := by
  unfold restoredBy
  split_ifs
  · exact document_writeBack (run.restored state notices)
  · rfl

theorem rehydrate_of_fault {run : Run σ} {fault : Fault}
    (found : (run.store.storage.load run.device).1.bind (stateOf run.store) = .error fault) :
    run.rehydrate = (.error fault, run.loaded) := by
  rw [rehydrate_eq, found]

section Restored

variable {run : Run σ} {state : Value} {migrated : Bool} {notices : List Notice}
  (found : (run.store.storage.load run.device).1.bind (stateOf run.store) = .ok (state, migrated, notices))
include found

theorem rehydrate_of_unrestored {fault : Fault} {written : Run σ}
    (failed : run.restoredBy state migrated notices = (.error fault, written)) : run.rehydrate = (.error fault, written) := by
  have back : (if migrated then (run.restored state notices).writeBack else (.ok (), run.restored state notices)) =
      (.error fault, written) := failed
  rw [rehydrate_eq, found]
  dsimp only
  rw [settle, back]

theorem rehydrate_of_restored {written : Run σ} (restored : run.restoredBy state migrated notices = (.ok (), written)) :
    let announced := announceOther (Preferences.restore state).1 run.store.document written
    run.rehydrate = (.ok announced.store.document, announced) := by
  have back : (if migrated then (run.restored state notices).writeBack else (.ok (), run.restored state notices)) =
      (.ok (), written) := restored
  rw [rehydrate_eq, found]
  dsimp only
  rw [settle, back]
  rfl

/-- A reload among calm listeners: what was loaded is restored, and the announcement is all that there is beside. -/
theorem rehydrate_of_state (calm : run.Calm) :
    run.rehydrate.1 = (run.restoredBy state migrated notices).1.map (fun _ => (Preferences.restore state).1) ∧
      Undisturbed (run.heardOf (reloaded? run.rehydrate.1 run.store.document)) (run.restoredBy state migrated notices).2
        run.rehydrate.2 := by
  have ready := ready_restoredBy run state migrated notices
  have document := document_restoredBy run state migrated notices
  cases back : run.restoredBy state migrated notices with
  | mk result written =>
    rw [back] at ready document
    cases result with
    | error fault =>
      rw [rehydrate_of_unrestored found back]
      exact ⟨rfl, .refl written⟩
    | ok _ =>
      have undisturbed := undisturbed_announce (Preferences.restore state).1 run.store.document (ready.calm calm)
      rw [ready.listeners, ready.subscribed] at undisturbed
      rw [rehydrate_of_restored found back]
      dsimp only
      unfold announceOther
      split_ifs with same
      · rw [document]
        refine ⟨rfl, ?_⟩
        rw [reloaded?, if_pos same]
        exact .refl written
      · rw [undisturbed.document, document]
        refine ⟨rfl, ?_⟩
        rw [reloaded?, if_neg same]
        exact undisturbed

end Restored

/-- Writing a document back looks at nothing but the work. -/
theorem SameWork.writeBack {run other : Run σ} (same : SameWork run other) :
    other.writeBack.1 = run.writeBack.1 ∧ SameWork run.writeBack.2 other.writeBack.2 := by
  obtain ⟨device, store, number, shelf, listeners, events, notices⟩ := run
  obtain ⟨device', store', number', shelf', listeners', events', notices'⟩ := other
  obtain ⟨rfl, moved, rfl, rfl⟩ := same
  obtain ⟨subscribed, rfl⟩ : ∃ subscribed, store' = { store with subscribed } := ⟨_, moved⟩
  unfold Run.writeBack
  simp only [PreferenceStore.record]
  generalize store.storage.save _ _ = outcome
  obtain ⟨result, after, reported⟩ := outcome
  cases result with
  | ok => exact ⟨rfl, rfl, rfl, rfl, rfl⟩
  | error fault =>
    dsimp only
    split_ifs
    · exact ⟨rfl, rfl, rfl, rfl, rfl⟩
    · exact ⟨rfl, rfl, rfl, rfl, rfl⟩

theorem SameWork.restoredBy {run other : Run σ} (same : SameWork run other) (state : Value) (migrated : Bool)
    (notices : List Notice) : (other.restoredBy state migrated notices).1 = (run.restoredBy state migrated notices).1 ∧
      SameWork (run.restoredBy state migrated notices).2 (other.restoredBy state migrated notices).2 := by
  have restored : SameWork (run.restored state notices) (other.restored state notices) := by
    refine ⟨same.device, ?_, same.number, same.shelf⟩
    show ({ other.store with document := (Preferences.restore state).1 } : PreferenceStore σ) =
      { run.store with document := (Preferences.restore state).1, subscribed := other.store.subscribed }
    rw [same.store]
  unfold Run.restoredBy
  split_ifs
  · exact restored.writeBack
  · exact ⟨rfl, restored⟩

/-- A reload among calm listeners: everybody hears of the document just when it is another one, and the rest is as with
nobody listening. -/
theorem rehydrate_calm {run : Run σ} (calm : run.Calm) :
    run.rehydrate.1 = run.unheard.rehydrate.1 ∧ Agrees run.unheard.rehydrate.2 run.rehydrate.2 ∧
      run.rehydrate.2.events = run.events ++ run.heardOf (reloaded? run.rehydrate.1 run.store.document) ∧
      run.rehydrate.2.Calm := by
  have finds : (run.unheard.store.storage.load run.unheard.device).1.bind (stateOf run.unheard.store) =
      (run.store.storage.load run.device).1.bind (stateOf run.store) := rfl
  cases found : (run.store.storage.load run.device).1.bind (stateOf run.store) with
  | error fault =>
    rw [rehydrate_of_fault found, rehydrate_of_fault (finds.trans found)]
    exact ⟨rfl, (show SameWork run.unheard.loaded run.loaded from ⟨rfl, rfl, rfl, rfl⟩).agrees,
      (List.append_nil _).symm, calm⟩
  | ok answer =>
    obtain ⟨state, migrated, notices⟩ := answer
    have ready := ready_restoredBy run state migrated notices
    obtain ⟨result, undisturbed⟩ := rehydrate_of_state found calm
    obtain ⟨result', undisturbed'⟩ := rehydrate_of_state (finds.trans found) run.calm_unheard
    obtain ⟨same, work⟩ := (sameWork_unheard run).restoredBy state migrated notices
    refine ⟨by rw [result, result', same], ?_, ?_, undisturbed.calm (ready.calm calm)⟩
    · have unheard : Agrees run.unheard.rehydrate.2 (run.unheard.restoredBy state migrated notices).2 := by
        refine ⟨undisturbed'.device.symm, ?_⟩
        rw [undisturbed'.store]
      exact (unheard.trans work.agrees).trans undisturbed.toAgrees
    · rw [undisturbed.events, ready.events]

end Run
end HomeTiles
