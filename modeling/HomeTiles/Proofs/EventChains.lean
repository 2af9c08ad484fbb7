import HomeTiles.Proofs.Rehydration

/-!
# Event chains: each event takes up where the one before it ended

Among calm listeners an operation either tells everybody who is subscribed of the
document that it leaves and the one that it found, or nobody, and then it leaves
the document that it found, or an alike one (`Operation.passed_act`). So whoever
stays subscribed over a run of operations hears a chain of events: each tells, as the
old document, of the new one before it, and the last new one is the document at the
end (`announcements_exact`).
-/

namespace HomeTiles

variable {σ : Type}

/-! ## Chains -/

/-- Documents that nobody is told apart: the same one or one that compares as equal. -/
def Fields.Matches (start finish : Fields) : Prop := finish = start ∨ finish.alike start = true

theorem Fields.Matches.trans {start middle finish : Fields} (first : start.Matches middle)
    (second : middle.Matches finish) : start.Matches finish := by
  rcases first with rfl | first
  · exact second
  · rcases second with rfl | second
    · exact .inr first
    · exact .inr (Value.alike_trans second first)

/-- Events that lead from one document to another: each has as its old document the new one of the event before. -/
def Linked (start : Fields) : List Event → Fields → Prop
  | [], finish => start.Matches finish
  | event :: rest, finish => start.Matches event.old ∧ Linked event.new rest finish

theorem Linked.after {start middle finish : Fields} {events : List Event} (same : start.Matches middle)
    (linked : Linked middle events finish) : Linked start events finish := by
  cases events with
  | nil => exact same.trans linked
  | cons event rest => exact ⟨same.trans linked.1, linked.2⟩

/-! ## Single operations -/

/-- An operation that subscribes nobody who is pending, or a change from outside that leaves a device as there can be. -/
def Operation.Gentle (run : Run σ) : Operation σ → Prop
  | .recruit listener => listener.isPending = false
  | .subscribe number => CalmAt run.listeners number
  | .outside effect => Grounded run.store.storage (effect run.device)
  | _ => True

namespace Run

/-- A run that goes on from another one over its storage, which was saved to at most. -/
def Saves (run after : Run σ) : Prop :=
  after.store.storage = run.store.storage ∧
    (after.device = run.device ∨ ∃ record, after.device = (run.store.storage.save record run.device).device)

theorem Saves.grounded {run after : Run σ} (saves : Saves run after) (grounded : Grounded run.store.storage run.device) :
    Grounded after.store.storage after.device := by
  obtain ⟨storage, same | ⟨record, saved⟩⟩ := saves
  · rw [storage, same]
    exact grounded
  · rw [storage, saved]
    exact grounded.save record

/-- A run after an operation among calm listeners: everybody who was subscribed has heard of the new document, or
nobody has heard anything and it matches the old one. -/
structure Passed (run after : Run σ) : Prop where
  calm : after.Calm
  grounded : Grounded after.store.storage after.device
  heard : (after.events = run.events ∧ run.store.document.Matches after.store.document) ∨
    after.events = run.events ++ told run.listeners run.store.subscribed after.store.document run.store.document

theorem Undisturbed.passed {run after : Run σ} (undisturbed : Undisturbed [] run after) (calm : run.Calm)
    (grounded : Grounded run.store.storage run.device) : Passed run after := by
  refine ⟨undisturbed.calm calm, ?_, .inl ⟨undisturbed.events.trans (List.append_nil _), .inl undisturbed.document⟩⟩
  rw [undisturbed.store, undisturbed.device]
  exact grounded

section Steps

variable {run : Run σ} (calm : run.Calm)
include calm

/-- A change among calm listeners leaves the document that it was asked for, if it was asked for one. -/
theorem document_setBy_calm (ask : Fields → Except Fault Value) :
    (run.setBy ask).2.store.document = (asked? ask run.store.document).getD run.store.document := by
  rw [(setBy_calm calm ask).2.1.document]
  cases asked : asked? ask run.store.document with
  | none =>
    obtain ⟨fault, nothing⟩ := setBy_of_unasked (σ := σ) asked
    rw [nothing run.unheard rfl]
    rfl
  | some new =>
    have asked' : asked? ask run.unheard.store.document = some new := asked
    rw [setBy_of_asked asked', commit_eq,
      announce_unheard _ _ (ready_commit_silent new run.unheard).subscribed, document_commit_silent]
    rfl

theorem saves_setBy (ask : Fields → Except Fault Value) : Saves run (run.setBy ask).2 := by
  cases asked : asked? ask run.store.document with
  | none =>
    obtain ⟨fault, nothing⟩ := setBy_of_unasked (σ := σ) asked
    rw [nothing run rfl]
    exact ⟨rfl, .inl rfl⟩
  | some new =>
    rw [setBy_of_asked asked]
    have agrees := (undisturbed_commit new calm).2.toAgrees
    obtain ⟨device, persistent, notices, same⟩ := commit_silent_eq new run
    constructor
    · rw [agrees.store, same]
    · right
      exact ⟨_, agrees.device.trans (device_commit_silent new run)⟩

theorem passed_setBy (grounded : Grounded run.store.storage run.device) (ask : Fields → Except Fault Value) :
    Passed run (run.setBy ask).2 := by
  obtain ⟨_, _, heard, calm'⟩ := setBy_calm calm ask
  have document := document_setBy_calm calm ask
  refine ⟨calm', (saves_setBy calm ask).grounded grounded, ?_⟩
  cases asked : asked? ask run.store.document with
  | none =>
    rw [asked] at heard document
    left
    exact ⟨heard.trans (List.append_nil _), .inl document⟩
  | some new =>
    rw [asked] at heard document
    right
    rw [heard, document]
    rfl

/-- A reload fails before anything is changed, or it returns the document that it takes. -/
theorem rehydrate_cases (grounded : Grounded run.store.storage run.device) :
    (∃ fault, run.rehydrate = (.error fault, run.loaded)) ∨
      ∃ state migrated, run.rehydrate.1 = .ok (Preferences.restore state).1 ∧ Rehydrated run run.rehydrate.2 state migrated := by
  cases returned : run.rehydrate with
  | mk result after =>
    cases result with
    | error fault =>
      left
      refine ⟨fault, ?_⟩
      rw [← rehydrate_of_failed grounded (congrArg Prod.fst returned), returned]
    | ok document =>
      obtain ⟨state, migrated, notices, found, rfl, rehydrated⟩ := rehydrated_of_ok calm returned
      exact .inr ⟨state, migrated, rfl, rehydrated⟩

/-- A reload among calm listeners leaves the document that it gives back, or the old one if it fails. -/
theorem document_rehydrate_calm (grounded : Grounded run.store.storage run.device) :
    run.rehydrate.2.store.document = run.rehydrate.1.toOption.getD run.store.document := by
  rcases rehydrate_cases calm grounded with ⟨fault, failed⟩ | ⟨state, migrated, result, rehydrated⟩
  · rw [failed]
    rfl
  · obtain ⟨persistent, subscribed, store⟩ := rehydrated.store
    rw [result, store]
    rfl

theorem saves_rehydrate (grounded : Grounded run.store.storage run.device) : Saves run run.rehydrate.2 := by
  rcases rehydrate_cases calm grounded with ⟨fault, failed⟩ | ⟨state, migrated, _, rehydrated⟩
  · rw [failed]
    exact ⟨rfl, .inl rfl⟩
  · obtain ⟨persistent, subscribed, store⟩ := rehydrated.store
    constructor
    · rw [store]
    · cases migrated with
      | false => exact .inl (rehydrated.unmigrated rfl)
      | true => exact .inr ⟨_, (rehydrated.written rfl).1⟩

theorem passed_rehydrate (grounded : Grounded run.store.storage run.device) : Passed run run.rehydrate.2 := by
  obtain ⟨_, _, heard, calm'⟩ := rehydrate_calm calm
  have document := document_rehydrate_calm calm grounded
  refine ⟨calm', (saves_rehydrate calm grounded).grounded grounded, ?_⟩
  cases result : run.rehydrate.1 with
  | error fault =>
    rw [result] at heard document
    left
    exact ⟨heard.trans (List.append_nil _), .inl document⟩
  | ok new =>
    rw [result] at heard document
    change run.rehydrate.2.store.document = new at document
    rw [document, heard, reloaded?]
    split_ifs with alike
    · left
      exact ⟨List.append_nil _, .inr (Bool.and_eq_true_iff.mp alike).1⟩
    · right
      rfl

end Steps
end Run

namespace Operation

open Run

/-- Whatever is done among calm listeners, everybody hears of the document that it leaves or it leaves the same. -/
theorem passed_act {run : Run σ} (calm : run.Calm) (grounded : Grounded run.store.storage run.device)
    {operation : Operation σ} (gentle : operation.Gentle run) : Passed run (act run operation) := by
  have requested : ∀ request ask, operation.request? = some request → request.ask? = some ask →
      Passed run (act run operation) := by
    intro request ask requests asks
    rw [act_of_request requests, Request.answer_of_ask asks]
    exact passed_setBy calm grounded ask
  cases operation with
  | set changes => exact requested _ _ rfl rfl
  | setBy ask => exact requested _ _ rfl rfl
  | setWidgets settings => exact requested _ _ rfl rfl
  | toggle package => exact requested _ _ rfl rfl
  | resize package size => exact requested _ _ rfl rfl
  | favorite package => exact requested _ _ rfl rfl
  | recruit listener => exact (undisturbed_recruit gentle run).passed calm grounded
  | subscribe other =>
    refine ⟨?_, grounded, .inl ⟨rfl, .inl rfl⟩⟩
    intro number inside
    rcases List.mem_append.mp inside with before | new
    · exact calm number before
    · rw [List.mem_singleton.mp new]
      exact gentle
  | unsubscribe subscription => exact (undisturbed_unsubscribe subscription run).passed calm grounded
  | rehydrate => exact passed_rehydrate calm grounded
  | clearStorage => exact ⟨calm, grounded.clear, .inl ⟨rfl, .inl rfl⟩⟩
  | outside effect => exact ⟨calm, gentle, .inl ⟨rfl, .inl rfl⟩⟩

/-! ## Runs of operations -/

/-- A listener is subscribed while operations are done one after another, at the place that stands beside each. -/
def Stays (number : Nat) : List (Nat × Operation σ) → Run σ → Prop
  | [], _ => True
  | (place, operation) :: rest, run =>
    run.store.subscribed[place]? = some number ∧ operation.Gentle run ∧ Stays number rest (act run operation)

/-- The events that are delivered at the places beside the operations. -/
def deliveries : List (Nat × Operation σ) → Run σ → List Event
  | [], _ => []
  | (place, operation) :: rest, run =>
    ((act run operation).events.drop run.events.length)[place]?.toList ++ deliveries rest (act run operation)

/-- Who stays subscribed hears a chain of events from the document at the start to the one at the end. -/
theorem linked_deliveries {run : Run σ} (calm : run.Calm) (grounded : Grounded run.store.storage run.device)
    {number : Nat} {stay : List (Nat × Operation σ)} (stays : Stays number stay run) :
    Linked run.store.document (deliveries stay run) (actAll (stay.map Prod.snd) run).store.document := by
  induction stay generalizing run with
  | nil => exact .inl rfl
  | cons step rest ih =>
    obtain ⟨place, operation⟩ := step
    obtain ⟨there, gentle, later⟩ := stays
    have passed := passed_act calm grounded gentle
    have linked := ih passed.calm passed.grounded later
    rw [deliveries]
    rcases passed.heard with ⟨silent, same⟩ | heard
    · rw [silent, List.drop_length]
      exact linked.after same
    · have known : ∀ other ∈ run.store.subscribed, other < run.listeners.length :=
        fun other inside => (calm other inside).lt_length
      obtain ⟨listener, found, _⟩ := calm number (List.mem_of_getElem? there)
      rw [heard, List.drop_left, getElem?_told known, there, Option.bind_some, found]
      constructor
      · exact .inl rfl
      · exact linked

end Operation

open Operation Run

/-- Among calm listeners every announcement is heard by each of those who are subscribed when it begins, once, in order
and at its place, and by nobody else; whatever becomes of the write, all else is as with nobody listening. A change is
announced if it is committed, a reload if it gives another document. So over any operations the events that are
delivered to who stays subscribed are a chain. -/
theorem announcements_exact {run : Run σ} (calm : run.Calm) (grounded : Grounded run.store.storage run.device) :
    (∀ new, (run.heardOf (some new)).length = run.store.subscribed.length ∧
      ∀ (place number : Nat), run.store.subscribed[place]? = some number → ∃ listener, run.listeners[number]? = some listener ∧
        (run.heardOf (some new))[place]? = some (Event.mk listener.name new run.store.document)) ∧
    (∀ request ask, Request.ask? request = some ask →
      (request.answer run).1 = (request.answer run.unheard).1 ∧
      Agrees (request.answer run.unheard).2 (request.answer run).2 ∧
      (request.answer run).2.store.document = (asked? ask run.store.document).getD run.store.document ∧
      (request.answer run).2.events = run.events ++ run.heardOf (asked? ask run.store.document)) ∧
    (run.rehydrate.1 = run.unheard.rehydrate.1 ∧ Agrees run.unheard.rehydrate.2 run.rehydrate.2 ∧
      run.rehydrate.2.store.document = run.rehydrate.1.toOption.getD run.store.document ∧
      run.rehydrate.2.events = run.events ++ run.heardOf (reloaded? run.rehydrate.1 run.store.document)) ∧
    ∀ number stay, Stays number stay run →
      Linked run.store.document (deliveries stay run) (actAll (stay.map Prod.snd) run).store.document := by
  have known : ∀ number ∈ run.store.subscribed, number < run.listeners.length :=
    fun number inside => (calm number inside).lt_length
  refine ⟨fun new => ⟨length_told known _ _, ?_⟩, ?_, ?_, ?_⟩
  · intro place number there
    obtain ⟨listener, found, _⟩ := calm number (List.mem_of_getElem? there)
    refine ⟨listener, found, ?_⟩
    rw [heardOf, getElem?_told known, there, Option.bind_some, found]
    rfl
  · intro request ask asks
    rw [Request.answer_of_ask asks, Request.answer_of_ask asks]
    obtain ⟨result, agrees, heard, _⟩ := setBy_calm calm ask
    exact ⟨result, agrees, document_setBy_calm calm ask, heard⟩
  · obtain ⟨result, agrees, heard, _⟩ := rehydrate_calm calm
    exact ⟨result, agrees, document_rehydrate_calm calm grounded, heard⟩
  · intro number stay stays
    exact linked_deliveries calm grounded stays

/-- A listener that is subscribed twice hears at its second place of a favorite whose write is refused and, when others
have left and come, of what was saved from outside; the second reload is no news. -/
theorem announcements_exact_among_leavers :
    let run : Run Memory := {
      device := { refusesWrites := true }
      store := { storage := Memory.storage, subscribed := [0, 1, 2, 0, 3] }
      listeners := [⟨"ear", .hear, 0⟩, ⟨"deaf", .fail, 0⟩, ⟨"brief", .leave, 0⟩,
        ⟨"host", .recruit "guest" .hear .hear, 0⟩] }
    let record : Value := .object [("state", .object [("theme", .text "dark")]), ("version", .int 0)]
    let stay : List (Nat × Operation Memory) :=
      [(3, .favorite "p"), (2, .outside fun _ => { record := some record }), (2, .rehydrate), (2, .rehydrate)]
    run.Calm ∧ Grounded run.store.storage run.device ∧ Stays 0 stay run ∧ (deliveries stay run).length = 2 ∧
      Linked run.store.document (deliveries stay run) (actAll (stay.map Prod.snd) run).store.document := by
  intro run record stay
  have calm : run.Calm := by decide
  have grounded : Grounded run.store.storage run.device := .adapter .memory run.device
  have stays : Stays 0 stay run := by
    refine ⟨by decide, trivial, by decide +kernel, ?_, by decide +kernel, trivial, by decide +kernel, trivial, trivial⟩
    exact .adapter .memory _
  exact ⟨calm, grounded, stays, by decide +kernel, (announcements_exact calm grounded).2.2.2 0 stay stays⟩

end HomeTiles
