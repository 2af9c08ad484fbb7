import HomeTiles.Proofs.Announcements
import Mathlib.Data.List.Forall2

/-!
# Paired runs: two runs that do the same side by side

A `Pairing` says which stores, devices, notices and results of two runs go with
each other; paired runs agree in everything else, in particular in what has been
heard. If a pairing is `Lawful`, which is about writing a document and nothing
more, then whatever is done in both runs keeps them paired: announcements with
all that listeners do in them (`Lawful.announce`), and so every change of a
document (`Lawful.setBy`). If it also `Reloads` they may take their documents
from their storages (`Reloads.rehydrate`). A favorite that fails ends the call of
the listener that makes it. So where a write may fail in one of the runs only,
listeners have to be `Prompt`: they do nothing at a call behind a favorite.
-/

namespace HomeTiles

namespace Behavior

/-- Whether a call is over here. -/
def stops : Behavior → Bool
  | .leave => false
  | .leaveThen _ => false
  | .favorite _ _ => false
  | .recruit _ _ _ => false
  | _ => true

/-- At every call a favorite is the last that is done, by new listeners too. -/
def Prompt : Behavior → Prop
  | .wait rest => rest.Prompt
  | .failOnce rest => rest.Prompt
  | .leaveThen rest => rest.Prompt
  | .favorite _ rest => rest.stops = true ∧ rest.Prompt
  | .recruit _ behavior rest => behavior.Prompt ∧ rest.Prompt
  | _ => True

theorem Prompt.later {behavior : Behavior} (prompt : behavior.Prompt) : behavior.later.Prompt := by
  induction behavior with
  | wait rest => exact prompt
  | failOnce rest => exact prompt
  | leaveThen rest ih => exact ih prompt
  | favorite package rest ih => exact ih prompt.2
  | recruit name behavior rest _ ih => exact ih prompt.2
  | _ => trivial

end Behavior

/-- The listeners are prompt at all their calls. -/
def AllPrompt (listeners : List Listener) : Prop := ∀ listener ∈ listeners, listener.behavior.Prompt

theorem AllPrompt.afterCall {listeners : List Listener} (prompt : AllPrompt listeners) (number : Nat) :
    AllPrompt (afterCall listeners number) := by
  induction listeners generalizing number with
  | nil => simpa [HomeTiles.afterCall] using prompt
  | cons first rest ih =>
    obtain ⟨here, later⟩ := List.forall_mem_cons.mp prompt
    cases number with
    | zero => exact List.forall_mem_cons.mpr ⟨here.later, later⟩
    | succ number => exact List.forall_mem_cons.mpr ⟨here, ih later number⟩

theorem AllPrompt.concat {listeners : List Listener} (prompt : AllPrompt listeners) {listener : Listener}
    (new : listener.behavior.Prompt) : AllPrompt (listeners ++ [listener]) := by
  intro other inside
  rcases List.mem_append.mp inside with before | here
  · exact prompt other before
  · rw [List.mem_singleton.mp here]
    exact new

/-- What goes with what in two runs, and the documents that their stores may have. -/
structure Pairing (σ τ : Type) where
  stores : PreferenceStore σ → PreferenceStore τ → Prop
  devices : σ → τ → Prop
  notices : List Notice → List Notice → Prop
  results : Except Fault Unit → Except Fault Unit → Prop
  documents : Fields → Prop
  /-- Whether of results that go with each other both are faults or none. -/
  agreeing : Prop

/-- The notices after what a listener did at home: a failure is reported. -/
def reported (name : String) (notices : List Notice) : Except Fault Unit → List Notice
  | .ok () => notices
  | .error _ => notices ++ [.listenerFailed name]

namespace Pairing

variable {σ τ α : Type}

/-- Runs whose parts go with each other and who have heard the same. -/
structure Runs (pairing : Pairing σ τ) (run : Run σ) (other : Run τ) : Prop where
  device : pairing.devices run.device other.device
  store : pairing.stores run.store other.store
  number : run.number = other.number
  shelf : List.Forall₂ pairing.stores run.shelf other.shelf
  listeners : run.listeners = other.listeners
  events : run.events = other.events
  notices : pairing.notices run.notices other.notices
  prompt : pairing.agreeing ∨ AllPrompt run.listeners

/-- A way of doing something in each of two runs that keeps them paired and gives back what goes with each other. -/
def Together (pairing : Pairing σ τ) (answers : α → α → Prop) (act : Run σ → α × Run σ) (act' : Run τ → α × Run τ) :
    Prop :=
  ∀ run other, pairing.Runs run other → answers (act run).1 (act' other).1 ∧ pairing.Runs (act run).2 (act' other).2

/-- What a pairing has to say of writing a document for all else to follow. -/
structure Lawful (pairing : Pairing σ τ) : Prop where
  document : ∀ {store store'}, pairing.stores store store' → store.document = store'.document
  documents : ∀ {store store'}, pairing.stores store store' → pairing.documents store.document
  subscribed : ∀ {store store'}, pairing.stores store store' → store.subscribed = store'.subscribed
  resubscribe : ∀ {store store'}, pairing.stores store store' → ∀ subscribed,
    pairing.stores { store with subscribed } { store' with subscribed }
  same : ∀ result, pairing.results result result
  told : ∀ {result result' notices notices'}, pairing.results result result' → pairing.notices notices notices' →
    ∀ name, pairing.notices (reported name notices result) (reported name notices' result')
  flipped : ∀ {document package changes}, pairing.documents document →
    Preferences.flipped package document = .ok (.object changes) → pairing.documents (document.merge changes)
  commit : ∀ {document}, pairing.documents document →
    pairing.Together pairing.results (Run.commit Run.silent document) (Run.commit Run.silent document)
  agree : pairing.agreeing → ∀ {result result'}, pairing.results result result' → result.isOk = result'.isOk

/-! ## At other stores -/

theorem forall₂_getElem? {R : σ → τ → Prop} {left : List σ} {right : List τ} (pairs : List.Forall₂ R left right)
    (place : Nat) :
    (left[place]? = none ∧ right[place]? = none) ∨
      ∃ a b, left[place]? = some a ∧ right[place]? = some b ∧ R a b := by
  induction pairs generalizing place with
  | nil => exact .inl ⟨rfl, rfl⟩
  | cons here _ ih =>
    cases place with
    | zero => exact .inr ⟨_, _, rfl, rfl, here⟩
    | succ place => exact ih place

theorem forall₂_set {R : σ → τ → Prop} {left : List σ} {right : List τ} (pairs : List.Forall₂ R left right) {a : σ} {b : τ}
    (new : R a b) (place : Nat) : List.Forall₂ R (left.set place a) (right.set place b) := by
  induction pairs generalizing place with
  | nil => exact .nil
  | cons here rest ih =>
    cases place with
    | zero => exact .cons new rest
    | succ place => exact .cons here (ih place)

variable {pairing : Pairing σ τ}

theorem Together.visit {answers : α → α → Prop} {act : Run σ → α × Run σ} {act' : Run τ → α × Run τ}
    (together : pairing.Together answers act act') (number : Nat) :
    pairing.Together answers (Run.visit number act) (Run.visit number act') := by
  intro run other pair
  unfold Run.visit
  by_cases here : number = run.number
  · rw [if_pos here, if_pos (here.trans pair.number)]
    exact together run other pair
  · rw [if_neg here, if_neg (pair.number ▸ here)]
    rcases forall₂_getElem? pair.shelf number with ⟨none, none'⟩ | ⟨store, store', found, found', stores⟩
    · rw [none, none']
      exact together run other pair
    · have stocked : List.Forall₂ pairing.stores run.stores other.stores := by
        rw [Run.stores, Run.stores, ← pair.number]
        exact forall₂_set pair.shelf pair.store run.number
      have moved : pairing.Runs { run with store, number, shelf := run.stores }
          { other with store := store', number, shelf := other.stores } :=
        ⟨pair.device, stores, rfl, stocked, pair.listeners, pair.events, pair.notices, pair.prompt⟩
      obtain ⟨answer, after⟩ := together _ _ moved
      rw [found, found']
      refine ⟨answer, after.device, ?_, pair.number, ?_, after.listeners, after.events, after.notices, after.prompt⟩
      · dsimp only
        rw [← pair.number]
        rcases forall₂_getElem? after.shelf run.number with ⟨none, none'⟩ | ⟨back, back', there, there', home⟩
        · rw [none, none']
          exact pair.store
        · rw [there, there']
          exact home
      · exact forall₂_set after.shelf after.store number

/-! ## Listeners -/

/-- Where a call is over nothing is left but to report that it failed, if it did. -/
private theorem perform_of_stops (favorite : String → Run σ → Except Fault Unit × Run σ) (number : Nat)
    (listener : Listener) {behavior : Behavior} (stops : behavior.stops = true) (run : Run σ) :
    Run.perform favorite number listener behavior run = run ∨
      Run.perform favorite number listener behavior run = run.note (.listenerFailed listener.name) := by
  cases behavior with
  | leave => cases stops
  | leaveThen rest => cases stops
  | favorite package rest => cases stops
  | recruit name behavior rest => cases stops
  | fail => exact .inr rfl
  | failOnce rest => exact .inr rfl
  | _ => exact .inl rfl

namespace Lawful

variable (lawful : pairing.Lawful)
include lawful

theorem subscribe (listener : Nat) :
    pairing.Together Eq (Run.subscribe listener) (Run.subscribe listener) := by
  intro run other pair
  refine ⟨by rw [Run.subscribe, Run.subscribe, pair.number], pair.device, ?_, pair.number, pair.shelf, pair.listeners,
    pair.events, pair.notices, pair.prompt⟩
  show pairing.stores { run.store with subscribed := _ } { other.store with subscribed := _ }
  rw [← lawful.subscribed pair.store]
  exact lawful.resubscribe pair.store _

theorem recruit {listener : Listener} (prompt : pairing.agreeing ∨ listener.behavior.Prompt) :
    pairing.Together Eq (Run.recruit listener) (Run.recruit listener) := by
  intro run other pair
  have known : pairing.Runs (run.introduce listener).2 (other.introduce listener).2 := by
    refine ⟨pair.device, pair.store, pair.number, pair.shelf, ?_, pair.events, pair.notices, ?_⟩
    · rw [Run.introduce, Run.introduce, pair.listeners]
    · rcases pair.prompt with agreeing | all
      · exact .inl agreeing
      · exact prompt.imp_right all.concat
  have number : (run.introduce listener).1 = (other.introduce listener).1 := by
    rw [Run.introduce, Run.introduce, pair.listeners]
  unfold Run.recruit
  dsimp only
  rw [← number]
  exact lawful.subscribe _ _ _ known

theorem unsubscribe (subscription : Subscription) {run : Run σ} {other : Run τ} (pair : pairing.Runs run other) :
    pairing.Runs (run.unsubscribe subscription) (other.unsubscribe subscription) := by
  have together : pairing.Together (fun _ _ => True)
      (fun there : Run σ => ((), { there with
        store := { there.store with subscribed := there.store.subscribed.erase subscription.listener } }))
      (fun there : Run τ => ((), { there with
        store := { there.store with subscribed := there.store.subscribed.erase subscription.listener } })) := by
    intro run other pair
    refine ⟨trivial, pair.device, ?_, pair.number, pair.shelf, pair.listeners, pair.events, pair.notices, pair.prompt⟩
    dsimp only
    rw [← lawful.subscribed pair.store]
    exact lawful.resubscribe pair.store _
  exact (together.visit subscription.store run other pair).2

/-- Calls that have come to results which go with each other are over alike. -/
private theorem told_over {run : Run σ} {other : Run τ} (pair : pairing.Runs run other) {result result' : Except Fault Unit}
    (results : pairing.results result result') (name : String) :
    pairing.Runs { run with notices := reported name run.notices result }
      { other with notices := reported name other.notices result' } :=
  ⟨pair.device, pair.store, pair.number, pair.shelf, pair.listeners, pair.events, lawful.told results pair.notices name,
    pair.prompt⟩

/-- What a listener does at a call is done in both runs, be it that favorites come to the same or that they are the
last thing that it does. -/
theorem perform {favorite : String → Run σ → Except Fault Unit × Run σ}
    {favorite' : String → Run τ → Except Fault Unit × Run τ}
    (together : ∀ package, pairing.Together pairing.results (favorite package) (favorite' package)) (number : Nat)
    (listener : Listener) {behavior : Behavior} (prompt : pairing.agreeing ∨ behavior.Prompt) {run : Run σ}
    {other : Run τ} (pair : pairing.Runs run other) :
    pairing.Runs (Run.perform favorite number listener behavior run)
      (Run.perform favorite' number listener behavior other) := by
  have failed {run : Run σ} {other : Run τ} (pair : pairing.Runs run other) :
      pairing.Runs (run.note (.listenerFailed listener.name)) (other.note (.listenerFailed listener.name)) :=
    lawful.told_over pair (lawful.same (.error .wrongKind)) listener.name
  induction behavior generalizing run other with
  | fail => exact failed pair
  | failOnce rest => exact failed pair
  | leave => exact lawful.unsubscribe _ pair
  | leaveThen rest ih => exact ih prompt (lawful.unsubscribe _ pair)
  | recruit name behavior rest _ ih =>
    let new : Listener := { name, behavior, home := listener.home }
    have prompt' : pairing.agreeing ∨ new.behavior.Prompt := prompt.imp_right And.left
    exact ih (prompt.imp_right And.right) ((lawful.recruit prompt').visit listener.home _ _ pair).2
  | favorite package rest ih =>
    obtain ⟨results, changed⟩ := (together package).visit listener.home _ _ pair
    rw [Run.perform, Run.perform]
    generalize Run.visit listener.home (favorite package) run = done at changed results ⊢
    generalize Run.visit listener.home (favorite' package) other = done' at changed results ⊢
    obtain ⟨result, after⟩ := done
    obtain ⟨result', after'⟩ := done'
    dsimp only at results changed
    -- only where the results need not agree does one run go on alone, and then nothing is left to do
    have ended (apart : result.isOk ≠ result'.isOk) : rest.stops = true := by
      rcases prompt with agreeing | prompt
      · exact absurd (lawful.agree agreeing results) apart
      · exact prompt.1
    have reported := lawful.told_over changed results listener.name
    cases result with
    | error fault =>
      cases result' with
      | error fault' => exact failed changed
      | ok _ =>
        dsimp only
        rcases perform_of_stops favorite' number listener (ended Bool.noConfusion) after' with same | same
        · rw [same]
          exact reported
        · rw [same]
          exact failed changed
    | ok _ =>
      cases result' with
      | error fault' =>
        dsimp only
        rcases perform_of_stops favorite number listener (ended Bool.noConfusion) after with same | same
        · rw [same]
          exact reported
        · rw [same]
          exact failed changed
      | ok _ => exact ih (prompt.imp_right And.right) changed
  | _ => exact pair

theorem tell {favorite : String → Run σ → Except Fault Unit × Run σ} {favorite' : String → Run τ → Except Fault Unit × Run τ}
    (together : ∀ package, pairing.Together pairing.results (favorite package) (favorite' package)) (new old : Fields)
    {run : Run σ} {other : Run τ} (pair : pairing.Runs run other) (number : Nat) :
    pairing.Runs (Run.tell favorite new old run number) (Run.tell favorite' new old other number) := by
  have known : run.listeners[number]? = other.listeners[number]? := by rw [pair.listeners]
  unfold Run.tell
  rw [← known]
  cases there : run.listeners[number]? with
  | none => exact pair
  | some listener =>
    refine lawful.perform together number listener (pair.prompt.imp_right fun all => all _ (List.mem_of_getElem? there)) ?_
    exact ⟨pair.device, pair.store, pair.number, pair.shelf, by rw [pair.listeners], by rw [pair.events], pair.notices,
      pair.prompt.imp_right fun all => all.afterCall number⟩

theorem foldl_tell {favorite : String → Run σ → Except Fault Unit × Run σ}
    {favorite' : String → Run τ → Except Fault Unit × Run τ}
    (together : ∀ package, pairing.Together pairing.results (favorite package) (favorite' package)) (new old : Fields)
    (numbers : List Nat) {run : Run σ} {other : Run τ} (pair : pairing.Runs run other) :
    pairing.Runs (numbers.foldl (Run.tell favorite new old) run) (numbers.foldl (Run.tell favorite' new old) other) := by
  induction numbers generalizing run other with
  | nil => exact pair
  | cons number rest ih => exact ih (lawful.tell together new old pair number)

/-! ## Changes -/

/-- A change is made in both runs if it leads to a document that their stores may have. -/
theorem changeBy {announce : Run.Announcer σ} {announce' : Run.Announcer τ}
    (announces : ∀ new old run other, pairing.Runs run other → pairing.Runs (announce new old run) (announce' new old other))
    (ask : Fields → Except Fault Value) {run : Run σ} {other : Run τ} (pair : pairing.Runs run other)
    (allowed : ∀ changes, ask run.store.document = .ok (.object changes) →
      pairing.documents (run.store.document.merge changes)) :
    pairing.results (run.changeBy announce ask).1 (other.changeBy announce' ask).1 ∧
      pairing.Runs (run.changeBy announce ask).2 (other.changeBy announce' ask).2 := by
  have document := lawful.document pair.store
  unfold Run.changeBy
  rw [← document]
  cases asked : ask run.store.document with
  | error fault => exact ⟨lawful.same _, pair⟩
  | ok value =>
    cases value with
    | object changes =>
      dsimp only
      rw [Run.commit_eq announce, Run.commit_eq announce', ← document]
      obtain ⟨results, committed⟩ := lawful.commit (allowed changes asked) run other pair
      exact ⟨results, announces _ _ _ _ committed⟩
    | _ => exact ⟨lawful.same _, pair⟩

theorem announceWithin (depth : Nat) (new old : Fields) {run : Run σ} {other : Run τ} (pair : pairing.Runs run other) :
    pairing.Runs (Run.announceWithin depth new old run) (Run.announceWithin depth new old other) := by
  induction depth generalizing new old run other with
  | zero =>
    rw [Run.announceWithin, Run.announceWithin, ← lawful.subscribed pair.store]
    exact lawful.foldl_tell (fun _ _ _ pair => ⟨lawful.same _, pair⟩) new old _ pair
  | succ depth ih =>
    rw [Run.announceWithin, Run.announceWithin, ← lawful.subscribed pair.store]
    refine lawful.foldl_tell (fun package there there' pair => ?_) new old _ pair
    refine lawful.changeBy (fun new old _ _ pair => ih new old pair) _ pair fun changes asked => ?_
    exact lawful.flipped (lawful.documents pair.store) asked

theorem announce (new old : Fields) {run : Run σ} {other : Run τ} (pair : pairing.Runs run other) :
    pairing.Runs (Run.announce new old run) (Run.announce new old other) := by
  have pending : run.pending = other.pending := by rw [Run.pending, Run.pending, pair.listeners]
  rw [Run.announce, Run.announce, ← pending]
  exact lawful.announceWithin run.pending new old pair

theorem setBy (ask : Fields → Except Fault Value) {run : Run σ} {other : Run τ} (pair : pairing.Runs run other)
    (allowed : ∀ changes, ask run.store.document = .ok (.object changes) →
      pairing.documents (run.store.document.merge changes)) :
    pairing.results (run.setBy ask).1 (other.setBy ask).1 ∧ pairing.Runs (run.setBy ask).2 (other.setBy ask).2 :=
  lawful.changeBy (fun new old _ _ pair => lawful.announce new old pair) ask pair allowed

theorem announceOther (new old : Fields) {run : Run σ} {other : Run τ} (pair : pairing.Runs run other) :
    pairing.Runs (Run.announceOther new old run) (Run.announceOther new old other) := by
  unfold Run.announceOther
  split_ifs
  · exact pair
  · exact lawful.announce new old pair

end Lawful

/-! ## Rehydrating -/

/-- What a pairing has to say of storages for documents to be taken from them. -/
structure Reloads (pairing : Pairing σ τ) : Prop extends Lawful pairing where
  states : ∀ {run other}, pairing.Runs run other → (run.store.storage.load run.device).1.bind (Run.stateOf run.store) =
    (other.store.storage.load other.device).1.bind (Run.stateOf other.store)
  loaded : ∀ {run other}, pairing.Runs run other → pairing.Runs run.loaded other.loaded
  restored : ∀ {run other state migrated notices}, pairing.Runs run other →
    (run.store.storage.load run.device).1.bind (Run.stateOf run.store) = .ok (state, migrated, notices) →
    pairing.Runs (run.restored state notices) (other.restored state notices)
  writeBack : pairing.Together Eq Run.writeBack Run.writeBack

namespace Reloads

variable (reloads : pairing.Reloads)
include reloads

theorem settle (migrated : Bool) (old : Fields) :
    pairing.Together Eq (Run.settle migrated old) (Run.settle migrated old) := by
  intro run other pair
  have back : (if migrated then run.writeBack else (.ok (), run)).1 = (if migrated then other.writeBack else (.ok (), other)).1 ∧
      pairing.Runs (if migrated then run.writeBack else (.ok (), run)).2
        (if migrated then other.writeBack else (.ok (), other)).2 := by
    cases migrated with
    | false => exact ⟨rfl, pair⟩
    | true => exact reloads.writeBack run other pair
  have document := reloads.document pair.store
  unfold Run.settle
  generalize (if migrated then run.writeBack else (.ok (), run)) = done at back ⊢
  generalize (if migrated then other.writeBack else (.ok (), other)) = done' at back ⊢
  obtain ⟨result, written⟩ := done
  obtain ⟨result', written'⟩ := done'
  obtain ⟨same, pair'⟩ := back
  dsimp only at same pair'
  subst same
  cases result with
  | error fault => exact ⟨rfl, pair'⟩
  | ok =>
    dsimp only
    rw [← document]
    have told := reloads.toLawful.announceOther run.store.document old pair'
    exact ⟨by rw [reloads.document told.store], told⟩

theorem rehydrate : pairing.Together Eq Run.rehydrate Run.rehydrate := by
  intro run other pair
  have states := reloads.states pair
  rw [Run.rehydrate_eq, Run.rehydrate_eq, ← states, ← reloads.document pair.store]
  cases found : (run.store.storage.load run.device).1.bind (Run.stateOf run.store) with
  | error fault => exact ⟨rfl, reloads.loaded pair⟩
  | ok answer =>
    obtain ⟨state, migrated, notices⟩ := answer
    exact reloads.settle migrated run.store.document _ _ (reloads.restored pair found)

/-- Stores that are opened beside paired ones find the same and are paired. -/
theorem opened {storage : Storage σ} {storage' : Storage τ} {version : Value}
    {migrate : Option (Value → Value → Except Fault Value)}
    (new : pairing.stores { storage, version, migrate } { storage := storage', version, migrate })
    {device : σ} {device' : τ} (devices : pairing.devices device device') {others : List (PreferenceStore σ)}
    {others' : List (PreferenceStore τ)} (stores : List.Forall₂ pairing.stores others others')
    (quiet : pairing.notices [] []) {listeners : List Listener} (prompt : pairing.agreeing ∨ AllPrompt listeners) :
    (Run.opened storage version migrate device others listeners).1 =
        (Run.opened storage' version migrate device' others' listeners).1 ∧
      pairing.Runs (Run.opened storage version migrate device others listeners).2
        (Run.opened storage' version migrate device' others' listeners).2 := by
  have shelves := List.rel_append stores (.cons new .nil)
  exact reloads.rehydrate
    { device, store := _, number := others.length, shelf := others ++ [_], listeners }
    { device := device', store := _, number := others'.length, shelf := others' ++ [_], listeners }
    ⟨devices, new, stores.length_eq, shelves, rfl, rfl, quiet, prompt⟩

end Reloads

end Pairing

end HomeTiles
