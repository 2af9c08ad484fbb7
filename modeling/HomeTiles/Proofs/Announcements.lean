import HomeTiles.PreferenceStore
import HomeTiles.Proofs.PreferenceDocuments

/-!
# Announcements: what telling the listeners keeps

A commit is a silent one followed by the announcement (`commit_eq`), and nested
commits are all that an announcement can do to the device and the document of a
store that stands `Alone`. So whatever is kept by nested silent commits and does
not depend on listeners, events and notices is kept by every announcement
(`Kept.announce`). Where no listener is pending an announcement leaves the
document as it is, also beside other stores (`announce_quiet`).
-/

namespace HomeTiles.Run

variable {σ : Type}

/-! ## Commits without their announcement -/

/-- Tells nobody. -/
def silent : Announcer σ := fun _ _ run => run

/-- The announcement comes after everything else of a commit. -/
theorem commit_eq (announce : Announcer σ) (document : Fields) (run : Run σ) :
    commit announce document run =
      ((commit silent document run).1, announce document run.store.document (commit silent document run).2) := by
  unfold commit silent
  dsimp only
  split
  · rfl
  · split_ifs <;> rfl

/-- A commit that nobody hears of changes the document and the flag of its store, the device and the notices. -/
theorem commit_silent_eq (document : Fields) (run : Run σ) :
    ∃ device persistent notices, (commit silent document run).2 =
      { run with device, store := { run.store with document, persistent }, notices } := by
  unfold commit silent
  dsimp only
  split
  · exact ⟨_, _, _, rfl⟩
  · split_ifs
    · exact ⟨_, _, _, rfl⟩
    · exact ⟨_, _, _, rfl⟩

theorem document_commit_silent (document : Fields) (run : Run σ) :
    (commit silent document run).2.store.document = document := by
  obtain ⟨device, persistent, notices, same⟩ := commit_silent_eq document run
  rw [same]

theorem device_commit_silent (document : Fields) (run : Run σ) :
    (commit silent document run).2.device =
      (run.store.storage.save (run.withDocument document).store.record run.device).device := by
  unfold commit silent
  dsimp only
  split
  · rfl
  · split_ifs <;> rfl

/-- A commit gives back what its write does. -/
theorem result_commit_silent (document : Fields) (run : Run σ) :
    (commit silent document run).1 =
      (run.store.storage.save (run.withDocument document).store.record run.device).result := by
  unfold commit silent
  dsimp only
  have same : (run.withDocument document).store.storage.save (run.withDocument document).store.record
      (run.withDocument document).device =
    run.store.storage.save (run.withDocument document).store.record run.device := rfl
  rw [same]
  split
  · next ok => rw [ok]
  · next fault failed =>
    rw [failed]
    split_ifs <;> rfl

section Written

variable {run : Run σ} {document : Fields} {device : σ} {notices : List Notice}

theorem commit_silent_of_saved
    (saved : run.store.storage.save (run.withDocument document).store.record run.device = ⟨.ok (), device, notices⟩) :
    commit silent document run = (.ok (), { run with
      device, store := { run.store with document, persistent := true }, notices := run.notices ++ notices }) := by
  have outcome : (run.withDocument document).store.storage.save (run.withDocument document).store.record
      (run.withDocument document).device = ⟨.ok (), device, notices⟩ := saved
  simp only [commit, outcome]
  rfl

theorem commit_silent_of_refused {failure : WriteFailure}
    (refused : run.store.storage.save (run.withDocument document).store.record run.device =
      ⟨.error (.unavailable failure), device, notices⟩) :
    commit silent document run = (.error (.unavailable failure), { run with
      device, store := { run.store with document, persistent := false }
      notices := run.notices ++ notices ++ [.keptInMemory] }) := by
  have outcome : (run.withDocument document).store.storage.save (run.withDocument document).store.record
      (run.withDocument document).device = ⟨.error (.unavailable failure), device, notices⟩ := refused
  simp only [commit, outcome]
  rfl

end Written

theorem pending_commit_silent (document : Fields) (run : Run σ) :
    (commit silent document run).2.pending = run.pending := by
  obtain ⟨device, persistent, notices, same⟩ := commit_silent_eq document run
  rw [same]
  rfl

/-- What a change asks for is committed silently and then announced, unless it asks for nothing of use. -/
theorem changeBy_cases (announce : Announcer σ) (ask : Fields → Except Fault Value) (run : Run σ) :
    (∃ changes, ask run.store.document = .ok (.object changes) ∧
      (changeBy announce ask run).2 = announce (run.store.document.merge changes) run.store.document
        (commit silent (run.store.document.merge changes) run).2) ∨
    (changeBy announce ask run).2 = run := by
  unfold changeBy
  split
  · exact .inr rfl
  · next changes asked => exact .inl ⟨changes, asked, by rw [commit_eq]⟩
  · exact .inr rfl

/-! ## Favorites that are still to be made -/

end Run

namespace Behavior

/-- How many favorites come of the next call: those made then, and all that new listeners will make. -/
def favoritesNow : Behavior → Nat
  | .leaveThen rest => rest.favoritesNow
  | .favorite _ rest => rest.favoritesNow + 1
  | .recruit _ behavior rest => behavior.favorites + rest.favoritesNow
  | _ => 0

theorem favoritesNow_add_later (behavior : Behavior) :
    behavior.favoritesNow + behavior.later.favorites = behavior.favorites := by
  induction behavior with
  | leaveThen rest ih => exact ih
  | favorite package rest ih =>
    simp only [favoritesNow, later, favorites]
    omega
  | recruit name behavior rest _ ih =>
    simp only [favoritesNow, later, favorites]
    omega
  | wait rest => exact Nat.zero_add _
  | failOnce rest => exact Nat.zero_add _
  | _ => rfl

end Behavior

namespace Run

/-- A call takes from the favorites to be made those that come of it. -/
theorem pending_afterCall {listeners : List Listener} {number : Nat} {listener : Listener}
    (there : listeners[number]? = some listener) :
    favoritesOfAll (afterCall listeners number) + listener.behavior.favoritesNow = favoritesOfAll listeners := by
  induction listeners generalizing number with
  | nil => cases there
  | cons first rest ih =>
    cases number with
    | zero =>
      cases there
      have parts := listener.behavior.favoritesNow_add_later
      simp only [afterCall, List.modify_zero_cons, favoritesOfAll]
      omega
    | succ number =>
      have later := ih there
      simp only [afterCall, List.modify_succ_cons, favoritesOfAll] at later ⊢
      omega

/-- Doing something at another store that changes neither shelf nor document changes no document. -/
theorem document_visit {α : Type} {act : Run σ → α × Run σ} (shelf : ∀ run, (act run).2.shelf = run.shelf)
    (document : ∀ run, (act run).2.store.document = run.store.document) (number : Nat) (run : Run σ) :
    (run.visit number act).2.store.document = run.store.document := by
  unfold visit
  split_ifs
  · exact document run
  · split
    · exact document run
    · next store found =>
      dsimp only
      rw [shelf]
      dsimp only [stores]
      rw [List.getElem?_set, if_pos rfl]
      split_ifs <;> rfl

theorem pending_visit_le {α : Type} {act : Run σ → α × Run σ} (more : Nat)
    (fewer : ∀ run, (act run).2.pending ≤ run.pending + more) (number : Nat) (run : Run σ) :
    (run.visit number act).2.pending ≤ run.pending + more := by
  unfold visit
  split_ifs
  · exact fewer run
  · split
    · exact fewer run
    · exact fewer _

theorem pending_recruit (listener : Listener) (run : Run σ) :
    (recruit listener run).2.pending = run.pending + listener.behavior.favorites := by
  show favoritesOfAll (run.listeners ++ [listener]) = favoritesOfAll run.listeners + listener.behavior.favorites
  induction run.listeners with
  | nil => exact (Nat.zero_add _).symm
  | cons first rest ih =>
    simp only [List.cons_append, favoritesOfAll]
    omega

theorem pending_unsubscribe_le (subscription : Subscription) (run : Run σ) :
    (run.unsubscribe subscription).pending ≤ run.pending :=
  pending_visit_le 0 (fun _ => Nat.le_refl _) _ run

/-- What a listener does at a call adds at most what comes of the call to the favorites to be made, if favorites do
not add to them. -/
theorem pending_perform_le {favorite : String → Run σ → Except Fault Unit × Run σ}
    (fewer : ∀ package there, (favorite package there).2.pending ≤ there.pending) (number : Nat) (listener : Listener)
    (behavior : Behavior) (run : Run σ) :
    (perform favorite number listener behavior run).pending ≤ run.pending + behavior.favoritesNow := by
  induction behavior generalizing run with
  | leave => exact pending_unsubscribe_le _ run
  | leaveThen rest ih => exact Nat.le_trans (ih _) (Nat.add_le_add_right (pending_unsubscribe_le _ run) _)
  | recruit name behavior rest _ ih =>
    have recruited : (run.visit listener.home (recruit { name, behavior, home := listener.home })).2.pending ≤
        run.pending + behavior.favorites :=
      pending_visit_le _ (fun there => Nat.le_of_eq (pending_recruit _ there)) listener.home run
    have later := ih (run.visit listener.home (recruit { name, behavior, home := listener.home })).2
    simp only [perform, Behavior.favoritesNow]
    omega
  | favorite package rest ih =>
    have made := pending_visit_le 0 (fewer package) listener.home run
    rw [perform, Behavior.favoritesNow]
    split
    · next changed same =>
      rw [same] at made
      exact Nat.le_trans (ih changed) (Nat.add_le_add made (Nat.le_succ _))
    · next changed same =>
      rw [same] at made
      exact Nat.le_trans made (Nat.add_le_add_left (Nat.zero_le _) _)
  | _ => exact Nat.le_refl _

/-- A call leaves no more favorites to be made than there were before, if that goes for the favorites made in it. -/
theorem pending_tell_le {favorite : String → Run σ → Except Fault Unit × Run σ}
    (fewer : ∀ package there, (favorite package there).2.pending ≤ there.pending) (new old : Fields) (run : Run σ)
    (number : Nat) : (tell favorite new old run number).pending ≤ run.pending := by
  unfold tell
  split
  · exact Nat.le_refl _
  · next listener there =>
    refine Nat.le_trans (pending_perform_le fewer number listener listener.behavior _) (Nat.le_of_eq ?_)
    exact pending_afterCall there

theorem pending_foldl_tell_le {favorite : String → Run σ → Except Fault Unit × Run σ}
    (fewer : ∀ package there, (favorite package there).2.pending ≤ there.pending) (new old : Fields)
    (numbers : List Nat) (run : Run σ) : (numbers.foldl (tell favorite new old) run).pending ≤ run.pending := by
  induction numbers generalizing run with
  | nil => exact Nat.le_refl _
  | cons number rest ih => exact Nat.le_trans (ih _) (pending_tell_le fewer new old run number)

/-- A favorite that is not made. -/
def unmade (_ : String) (run : Run σ) : Except Fault Unit × Run σ := (.ok (), run)

/-- Without its favorites a listener keeps the document. -/
theorem document_perform_unmade (number : Nat) (listener : Listener) (behavior : Behavior) (run : Run σ) :
    (perform unmade number listener behavior run).store.document = run.store.document := by
  induction behavior generalizing run with
  | leave => exact document_visit (fun _ => rfl) (fun _ => rfl) _ run
  | leaveThen rest ih => exact (ih _).trans (document_visit (fun _ => rfl) (fun _ => rfl) _ run)
  | recruit name behavior rest _ ih => exact (ih _).trans (document_visit (fun _ => rfl) (fun _ => rfl) _ run)
  | favorite package rest ih =>
    have home : (run.visit listener.home (unmade package)).2.store.document = run.store.document :=
      document_visit (fun _ => rfl) (fun _ => rfl) _ run
    rw [perform]
    split
    · next changed same =>
      rw [same] at home
      exact (ih changed).trans home
    · next changed same =>
      rw [same] at home
      exact home
  | _ => rfl

theorem document_tell_unmade (new old : Fields) (run : Run σ) (number : Nat) :
    (tell unmade new old run number).store.document = run.store.document := by
  unfold tell
  split
  · rfl
  · exact document_perform_unmade _ _ _ _

theorem announce_quiet (new old : Fields) {run : Run σ} (quiet : run.pending = 0) :
    (announce new old run).store.document = run.store.document ∧ (announce new old run).pending = 0 := by
  have document (numbers : List Nat) (run : Run σ) :
      (numbers.foldl (tell unmade new old) run).store.document = run.store.document := by
    induction numbers generalizing run with
    | nil => rfl
    | cons number rest ih => exact (ih _).trans (document_tell_unmade new old run number)
  have fewer : (run.store.subscribed.foldl (tell unmade new old) run).pending ≤ run.pending :=
    pending_foldl_tell_le (fun _ _ => Nat.le_refl _) new old run.store.subscribed run
  rw [announce, quiet, announceWithin]
  exact ⟨document run.store.subscribed run, Nat.eq_zero_of_le_zero (quiet ▸ fewer)⟩

/-! ## A store by itself -/

/-- The store at work is the only one. -/
def Alone (run : Run σ) : Prop := run.number = 0 ∧ run.shelf.length ≤ 1

/-- Whatever store a listener calls its home is the only one there is. -/
theorem Alone.visit {α : Type} {run : Run σ} (alone : run.Alone) (number : Nat) (act : Run σ → α × Run σ) :
    run.visit number act = act run := by
  obtain ⟨first, single⟩ := alone
  unfold Run.visit
  split_ifs with here
  · rfl
  · rw [first] at here
    rw [List.getElem?_eq_none (by omega)]

theorem alone_commit_silent {document : Fields} {run : Run σ} (alone : run.Alone) :
    (commit silent document run).2.Alone := by
  obtain ⟨device, persistent, notices, same⟩ := commit_silent_eq document run
  rw [same]
  exact alone

/-- Two runs at the same point of their work: they differ only in listeners, subscriptions, events and notices. -/
structure SameWork (run other : Run σ) : Prop where
  device : other.device = run.device
  store : other.store = { run.store with subscribed := other.store.subscribed }
  number : other.number = run.number
  shelf : other.shelf = run.shelf

theorem SameWork.alone {run other : Run σ} (same : SameWork run other) (alone : run.Alone) : other.Alone :=
  ⟨same.number.trans alone.1, by rw [same.shelf]; exact alone.2⟩

theorem SameWork.document {run other : Run σ} (same : SameWork run other) :
    other.store.document = run.store.document := by rw [same.store]

/-- A store by itself loses a subscription and nothing else. -/
theorem sameWork_unsubscribe {run : Run σ} (alone : run.Alone) (subscription : Subscription) :
    SameWork run (run.unsubscribe subscription) := by
  rw [unsubscribe, alone.visit]
  exact ⟨rfl, rfl, rfl, rfl⟩

/-- What a commit keeps that a listener makes, and listeners do not change otherwise, told with the number of favorites
that may still be made. -/
structure Kept (inv : Nat → Run σ → Prop) : Prop where
  alone : ∀ {favorites run}, inv favorites run → run.Alone
  fewer : ∀ {favorites fewer run}, fewer ≤ favorites → inv favorites run → inv fewer run
  same : ∀ {favorites run other}, inv favorites run → SameWork run other → inv favorites other
  nested : ∀ {favorites run package changes}, inv (favorites + 1) run →
    Preferences.flipped package run.store.document = .ok (.object changes) →
    inv favorites (commit silent (run.store.document.merge changes) run).2

namespace Kept

variable {inv : Nat → Run σ → Prop} (kept : Kept inv)
include kept

/-- What a listener does at a call keeps what the favorites that it may make keep. -/
private theorem perform {favorite : String → Run σ → Except Fault Unit × Run σ}
    (favors : ∀ {package run} more, inv (run.pending + more + 1) run →
      inv ((favorite package run).2.pending + more) (favorite package run).2)
    (more number : Nat) (listener : Listener) (behavior : Behavior) {run : Run σ}
    (holds : inv (run.pending + behavior.favoritesNow + more) run) :
    inv ((Run.perform favorite number listener behavior run).pending + more)
      (Run.perform favorite number listener behavior run) := by
  induction behavior generalizing run with
  | leave =>
    have left := sameWork_unsubscribe (kept.alone holds) ⟨number, listener.home⟩
    exact kept.fewer (Nat.add_le_add_right (pending_unsubscribe_le _ run) _) (kept.same holds left)
  | leaveThen rest ih =>
    have left := sameWork_unsubscribe (kept.alone holds) ⟨number, listener.home⟩
    have enough := pending_unsubscribe_le ⟨number, listener.home⟩ run
    exact ih (kept.fewer (by rw [Behavior.favoritesNow]; omega) (kept.same holds left))
  | recruit name behavior rest _ ih =>
    have home := (kept.alone holds).visit listener.home (recruit { name, behavior, home := listener.home })
    rw [Run.perform, home]
    refine ih (kept.fewer (Nat.le_of_eq ?_) (kept.same holds ⟨rfl, rfl, rfl, rfl⟩))
    rw [pending_recruit, Behavior.favoritesNow, Nat.add_assoc run.pending]
  | favorite package rest ih =>
    have home := (kept.alone holds).visit listener.home (favorite package)
    have changed : inv ((favorite package run).2.pending + (rest.favoritesNow + more)) (favorite package run).2 := by
      refine favors _ (kept.fewer ?_ holds)
      rw [Behavior.favoritesNow]
      omega
    rw [Run.perform, home]
    split
    · next after same =>
      rw [same, ← Nat.add_assoc] at changed
      exact ih changed
    · next fault after same =>
      rw [same] at changed
      exact kept.same (kept.fewer (Nat.add_le_add_left (Nat.le_add_left _ _) _) changed) ⟨rfl, rfl, rfl, rfl⟩
  | _ => exact kept.same holds ⟨rfl, rfl, rfl, rfl⟩

private theorem tell {favorite : String → Run σ → Except Fault Unit × Run σ}
    (favors : ∀ {package run} more, inv (run.pending + more + 1) run →
      inv ((favorite package run).2.pending + more) (favorite package run).2)
    (new old : Fields) (more : Nat) {run : Run σ} (holds : inv (run.pending + more) run) (number : Nat) :
    inv ((Run.tell favorite new old run number).pending + more) (Run.tell favorite new old run number) := by
  unfold Run.tell
  split
  · exact holds
  · next listener there =>
    refine kept.perform favors more number listener listener.behavior (kept.fewer (Nat.le_of_eq ?_)
      (kept.same holds ⟨rfl, rfl, rfl, rfl⟩))
    exact congrArg (· + more) (pending_afterCall there)

private theorem foldl_tell {favorite : String → Run σ → Except Fault Unit × Run σ}
    (favors : ∀ {package run} more, inv (run.pending + more + 1) run →
      inv ((favorite package run).2.pending + more) (favorite package run).2)
    (new old : Fields) (more : Nat) (subscribed : List Nat) {run : Run σ} (holds : inv (run.pending + more) run) :
    inv ((subscribed.foldl (Run.tell favorite new old) run).pending + more)
      (subscribed.foldl (Run.tell favorite new old) run) := by
  induction subscribed generalizing run with
  | nil => exact holds
  | cons number rest ih => exact ih (kept.tell favors new old more holds number)

/-- Announcing keeps what nested commits keep, however deep they are nested. -/
theorem announceWithin (depth : Nat) (new old : Fields) (more : Nat) {run : Run σ} (holds : inv (run.pending + more) run) :
    inv ((Run.announceWithin depth new old run).pending + more) (Run.announceWithin depth new old run) := by
  induction depth generalizing new old more run with
  | zero =>
    rw [Run.announceWithin]
    exact kept.foldl_tell (fun more holds => kept.fewer (Nat.le_succ _) holds) new old more _ holds
  | succ depth ih =>
    rw [Run.announceWithin]
    refine kept.foldl_tell (fun {package run} more holds => ?_) new old more _ holds
    rcases changeBy_cases (Run.announceWithin depth) (Preferences.flipped package) run with ⟨changes, asked, eq⟩ | eq
    · rw [eq]
      refine ih _ _ _ ?_
      rw [pending_commit_silent]
      exact kept.nested holds asked
    · rw [eq]
      exact kept.fewer (Nat.le_succ _) holds

theorem announce (new old : Fields) (more : Nat) {run : Run σ} (holds : inv (run.pending + more) run) :
    inv ((Run.announce new old run).pending + more) (Run.announce new old run) :=
  kept.announceWithin run.pending new old more holds

end Kept

/-! ## Rehydrating in two steps -/

/-- The run after loading. -/
def loaded (run : Run σ) : Run σ :=
  { run with notices := run.notices ++ (run.store.storage.load run.device).2 }

/-- The run with the document that a loaded state is restored to. -/
def restored (run : Run σ) (state : Value) (notices : List Notice) : Run σ :=
  ({ run.loaded with notices := run.loaded.notices ++ notices ++ (Preferences.restore state).2 } : Run σ).withDocument
    (Preferences.restore state).1

/-- Announces a document if it is another one. -/
def announceOther : Announcer σ := fun new old run => if new.alikeAsCopies old then run else announce new old run

/-- Writes a restored document back if it was migrated and announces it if it is another one. -/
def settle (migrated : Bool) (old : Fields) (run : Run σ) : Except Fault Fields × Run σ :=
  match if migrated then run.writeBack else (.ok (), run) with
  | (.error fault, written) => (.error fault, written)
  | (.ok (), written) =>
    let announced := announceOther run.store.document old written
    (.ok announced.store.document, announced)

/-- What is loaded is restored first and then settled. -/
theorem rehydrate_eq (run : Run σ) :
    run.rehydrate = match (run.store.storage.load run.device).1.bind (stateOf run.store) with
      | .error fault => (.error fault, run.loaded)
      | .ok (state, migrated, notices) => settle migrated run.store.document (run.restored state notices) := rfl

/-- What is found in a storage comes of what was loaded, be it a record or nothing. -/
theorem record_of_found {τ : Type} {storage : Storage τ} {device : τ} {store : PreferenceStore σ}
    {answer : Value × Bool × List Notice} (found : (storage.load device).1.bind (stateOf store) = .ok answer) :
    ∃ record, (storage.load device).1 = .ok record ∧ stateOf store record = .ok answer := by
  cases loaded : (storage.load device).1 with
  | error fault =>
    rw [loaded] at found
    cases found
  | ok record =>
    rw [loaded] at found
    exact ⟨record, rfl, found⟩

/-! ## Other uses of the storage -/

/-- Writing a document back changes the flag of its store, the device and the notices. -/
theorem writeBack_eq (run : Run σ) : ∃ device persistent notices,
    run.writeBack.2 = { run with device, store := { run.store with persistent }, notices } := by
  unfold writeBack
  dsimp only
  split
  · exact ⟨_, _, _, rfl⟩
  · split_ifs
    · exact ⟨_, _, _, rfl⟩
    · exact ⟨_, _, _, rfl⟩

section Written

variable {run : Run σ} {device : σ} {notices : List Notice}

theorem writeBack_of_saved (saved : run.store.storage.save run.store.record run.device = ⟨.ok (), device, notices⟩) :
    writeBack run = (.ok (), { run with
      device, store := { run.store with persistent := true }, notices := run.notices ++ notices }) := by
  simp only [writeBack, saved]
  rfl

theorem writeBack_of_refused {failure : WriteFailure}
    (refused : run.store.storage.save run.store.record run.device = ⟨.error (.unavailable failure), device, notices⟩) :
    writeBack run = (.ok (), { run with
      device, store := { run.store with persistent := false }
      notices := run.notices ++ notices ++ [.migrationNotWritten] }) := by
  simp only [writeBack, refused]
  rfl

theorem clearStorage_of_cleared (cleared : run.store.storage.clear run.device = ⟨.ok (), device, notices⟩) :
    clearStorage run = (.ok (), { run with device, notices := run.notices ++ notices }) := by
  simp only [clearStorage, cleared]
  rfl

end Written

end HomeTiles.Run
