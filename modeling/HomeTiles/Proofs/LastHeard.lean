import HomeTiles.MemoryStorage
import HomeTiles.Proofs.NestedAnnouncements
import HomeTiles.Proofs.RecordedStorage

/-!
# What listeners hear last

An operation that announces a document does so in one announcement, at the end,
of a document that does not depend on who listens (`Operation.act_announces`).
When it is over those who are subscribed have heard last of the document that
the store has then. Only who stands behind a listener that makes a favorite in
the middle of the announcement has heard last of the document that was announced
first (`Operation.lastOf_act`): favorites are announced at once, not when the
announcement that they interrupt is over.
-/

namespace HomeTiles

namespace Run

variable {σ : Type}

/-! ## Before the announcement -/

/-- The run with nobody listening. -/
def unheard (run : Run σ) : Run σ := { run with store := { run.store with subscribed := [] } }

/-- A run that has come to its announcement from another one: nobody has heard anything yet. -/
structure Ready (run ready : Run σ) : Prop where
  alone : run.Alone → ready.Alone
  listeners : ready.listeners = run.listeners
  subscribed : ready.store.subscribed = run.store.subscribed
  events : ready.events = run.events

theorem ready_commit_silent (document : Fields) (run : Run σ) : Ready run (commit silent document run).2 := by
  obtain ⟨subscribed, listeners, events⟩ := subscribed_commit_silent document run
  exact ⟨alone_commit_silent, listeners, subscribed, events⟩

theorem ready_writeBack (run : Run σ) : Ready run run.writeBack.2 := by
  obtain ⟨device, persistent, notices, same⟩ := writeBack_eq run
  rw [same]
  exact ⟨id, rfl, rfl, rfl⟩

theorem document_writeBack (run : Run σ) : run.writeBack.2.store.document = run.store.document := by
  obtain ⟨device, persistent, notices, same⟩ := writeBack_eq run
  rw [same]

theorem announce_unheard (new old : Fields) {run : Run σ} (nobody : run.store.subscribed = []) :
    announce new old run = run := by
  unfold announce
  cases run.pending with
  | zero => rw [announceWithin, nobody, List.foldl_nil]
  | succ depth => rw [announceWithin, nobody, List.foldl_nil]

/-- With nobody listening a change leaves the document that it commits. -/
theorem document_setBy_unheard {ask : Fields → Except Fault Value} {run : Run σ} {changes : Fields}
    (asked : ask run.store.document = .ok (.object changes)) :
    (run.unheard.setBy ask).2.store.document = run.store.document.merge changes := by
  have same : run.unheard.store.document = run.store.document := rfl
  have nobody := (ready_commit_silent (run.store.document.merge changes) run.unheard).subscribed
  unfold setBy changeBy
  rw [same, asked]
  dsimp only
  rw [commit_eq, same]
  dsimp only
  rw [announce_unheard _ _ nobody, document_commit_silent]

theorem document_settle_unheard (migrated : Bool) (old : Fields) {run : Run σ} (nobody : run.store.subscribed = []) :
    (settle migrated old run).2.store.document = run.store.document := by
  obtain ⟨silence, same⟩ : (if migrated then run.writeBack else (.ok (), run)).2.store.subscribed = [] ∧
      (if migrated then run.writeBack else (.ok (), run)).2.store.document = run.store.document := by
    cases migrated with
    | false => exact ⟨nobody, rfl⟩
    | true => exact ⟨(ready_writeBack run).subscribed.trans nobody, document_writeBack run⟩
  unfold settle
  split
  · next written =>
    rw [written] at same
    exact same
  · next written =>
    rw [written] at same silence
    dsimp only
    unfold announceOther
    split_ifs
    · exact same
    · rw [announce_unheard _ _ silence]
      exact same

end Run

namespace Operation

variable {σ : Type}

open Run

/-- The end of what is done in a run, with listeners and with nobody listening: the run is ready, it has the
document that is left if nobody listens, and that is announced. -/
structure Announces (run after unheard ready : Run σ) (old : Fields) : Prop where
  comes : Ready run ready
  document : unheard.store.document = ready.store.document
  announced : after = announce ready.store.document old ready

theorem setBy_announces (ask : Fields → Except Fault Value) (run : Run σ) :
    (run.setBy ask).2.events = run.events ∨
      ∃ ready old, Announces run (run.setBy ask).2 (run.unheard.setBy ask).2 ready old := by
  rcases changeBy_cases announce ask run with ⟨changes, asked, committed⟩ | nothing
  · have document := document_commit_silent (run.store.document.merge changes) run
    refine .inr ⟨(commit silent (run.store.document.merge changes) run).2, run.store.document, ?_, ?_, ?_⟩
    · exact ready_commit_silent _ run
    · rw [document]
      exact document_setBy_unheard asked
    · rw [document]
      exact committed
  · exact .inl (congrArg Run.events nothing)

theorem answer_announces (request : Request) {run : Run σ} (alone : run.Alone) :
    (request.answer run).2.events = run.events ∨
      ∃ ready old, Announces run (request.answer run).2 (request.answer run.unheard).2 ready old := by
  cases asks : request.ask? with
  | some ask =>
    rw [Request.answer_of_ask asks, Request.answer_of_ask asks]
    exact setBy_announces ask run
  | none =>
    left
    cases request with
    | recruit listener => rfl
    | subscribe listener => rfl
    | unsubscribe subscription => rw [Request.answer, Run.unsubscribe, alone.visit]
    | _ => cases asks

theorem settle_announces (migrated : Bool) (old : Fields) (run : Run σ) :
    (settle migrated old run).2.events = run.events ∨
      ∃ ready, Ready run ready ∧ ready.store.document = run.store.document ∧
        (settle migrated old run).2 = announce ready.store.document old ready := by
  obtain ⟨ready, same⟩ : Ready run (if migrated then run.writeBack else (.ok (), run)).2 ∧
      (if migrated then run.writeBack else (.ok (), run)).2.store.document = run.store.document := by
    cases migrated with
    | false => exact ⟨⟨id, rfl, rfl, rfl⟩, rfl⟩
    | true => exact ⟨ready_writeBack run, document_writeBack run⟩
  unfold settle
  split
  · next written =>
    rw [written] at ready
    exact .inl ready.events
  · next written =>
    rw [written] at ready same
    dsimp only
    unfold announceOther
    split_ifs
    · exact .inl ready.events
    · exact .inr ⟨_, ready, same, by rw [same]⟩

theorem rehydrate_announces (run : Run σ) :
    run.rehydrate.2.events = run.events ∨
      ∃ ready old, Announces run run.rehydrate.2 run.unheard.rehydrate.2 ready old := by
  have loads : run.unheard.store.storage.load run.unheard.device = run.store.storage.load run.device := rfl
  have states : stateOf run.unheard.store = stateOf run.store := rfl
  cases found : (run.store.storage.load run.device).1.bind (stateOf run.store) with
  | error fault =>
    rw [rehydrate_eq, found]
    exact .inl rfl
  | ok answer =>
    obtain ⟨state, migrated, notices⟩ := answer
    have heard : run.rehydrate = settle migrated run.store.document (run.restored state notices) := by
      rw [rehydrate_eq, found]
    have unheard : run.unheard.rehydrate = settle migrated run.store.document (run.unheard.restored state notices) := by
      rw [rehydrate_eq, loads, states, found]
      rfl
    rcases settle_announces migrated run.store.document (run.restored state notices) with nothing | ⟨ready, come, same, announced⟩
    · rw [heard]
      exact .inl nothing
    · refine .inr ⟨ready, run.store.document, ?_, ?_, ?_⟩
      · exact ⟨come.alone, come.listeners, come.subscribed, come.events⟩
      · rw [unheard, document_settle_unheard _ _ rfl, same]
        rfl
      · rw [heard]
        exact announced

/-- Every operation announces, if at all, at its end and what it would leave with nobody listening. -/
theorem act_announces (operation : Operation σ) {run : Run σ} (alone : run.Alone) :
    (act run operation).events = run.events ∨
      ∃ ready old, Announces run (act run operation) (act run.unheard operation) ready old := by
  cases requests : operation.request? with
  | some request =>
    rw [act_of_request requests, act_of_request requests]
    exact answer_announces request alone
  | none =>
    cases operation with
    | rehydrate => exact rehydrate_announces run
    | clearStorage => exact .inl rfl
    | outside effect => exact .inl rfl
    | _ => cases requests

/-! ## The last event -/

/-- Everybody has heard of the document last, those behind a listener that adds a favorite of the one without. -/
theorem lastOf_announce {ready : Run σ} (alone : ready.Alone) (staying : Staying ready.listeners ready.store.subscribed)
    (old : Fields) :
    let after := announce ready.store.document old ready
    ∃ heard, after.events = ready.events ++ heard ∧ after.store.subscribed = ready.store.subscribed ∧
      ∀ name ∈ namesOf ready.listeners ready.store.subscribed, ∃ event, lastOf name heard = some event ∧
        event.new = if name ∈ namesOf ready.listeners (behind ready.store.subscribed ready.awaited)
          then ready.store.document else after.store.document := by
  intro after
  by_cases object : ∃ favorites, ready.store.document.get? Preferences.favoritesKey = some (.object favorites)
  · obtain ⟨favorites, found⟩ := object
    have announced : Announced old ready after := announce_announced alone staying found old
    refine ⟨_, announced.events, announced.subscribed, fun name inside => ?_⟩
    rw [announced.work.document, document_flipAll _ found]
    exact lastOf_transcript rfl inside ready.store.document old
  · have stuck : ∀ favorites, ready.store.document.get? Preferences.favoritesKey ≠ some (.object favorites) :=
      fun favorites found => object ⟨favorites, found⟩
    obtain ⟨due, notices, heard⟩ := announceWithin_stuck ready.pending alone staying stuck ready.store.document old
    have same : after = _ := heard
    rw [same]
    refine ⟨_, rfl, rfl, fun name inside => ?_⟩
    rw [ite_self]
    exact ⟨_, (lastOf_told _ _ name _ old).trans (if_pos inside), rfl⟩

end Operation
end HomeTiles
