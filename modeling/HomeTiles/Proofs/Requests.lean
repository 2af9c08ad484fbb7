import HomeTiles.Proofs.PairedRuns

/-!
# Requests: what callers ask of a store

A `Request` changes the document or the subscriptions of the store at work. It
says nothing of storages, so the same request can be made in runs over different
ones: lawfully paired runs answer it alike and stay paired
(`Pairing.Lawful.answer`). A request that changes the document is `Run.setBy`
with what it asks (`Request.answer_of_ask`).
-/

namespace HomeTiles

/-- What a caller asks of the store at work. -/
inductive Request where
  | set (changes : Value)
  | setBy (ask : Fields → Except Fault Value)
  | setWidgets (settings : Value)
  | toggle (package : String)
  | resize (package : String) (size : Value)
  | favorite (package : String)
  /-- Subscribes a listener that is not known yet. -/
  | recruit (listener : Listener)
  /-- Subscribes the listener of a number once more. -/
  | subscribe (listener : Nat)
  | unsubscribe (subscription : Subscription)

namespace Request

variable {σ τ : Type}

/-- What comes back of a request, and the run after it. -/
def answer (run : Run σ) : Request → Except Fault Unit × Run σ
  | .set changes => run.set changes
  | .setBy ask => run.setBy ask
  | .setWidgets settings => run.setWidgets settings
  | .toggle package => run.toggle package
  | .resize package size => run.resize package size
  | .favorite package => run.favorite package
  | .recruit listener => (.ok (), (run.recruit listener).2)
  | .subscribe listener => (.ok (), (run.subscribe listener).2)
  | .unsubscribe subscription => (.ok (), run.unsubscribe subscription)

/-- The run after requests; one that fails is gone on after. -/
def answerAll (requests : List Request) (run : Run σ) : Run σ :=
  requests.foldl (fun run request => (answer run request).2) run

/-! ## Changes of the document -/

/-- What a request that changes the document asks of it. -/
def ask? : Request → Option (Fields → Except Fault Value)
  | .set changes => some fun _ => .ok changes
  | .setBy ask => some ask
  | .setWidgets settings => some fun _ =>
    (Preferences.mapOf settings).map fun widgets => .object [(Preferences.widgetsKey, .object widgets)]
  | .toggle package => some (Preferences.toggled package)
  | .resize package size => some fun document => (WidgetSize.ofValue size).bind (Preferences.resized package · document)
  | .favorite package => some (Preferences.flipped package)
  | _ => none

theorem answer_of_ask {request : Request} {ask : Fields → Except Fault Value} (asks : request.ask? = some ask)
    (run : Run σ) : answer run request = run.setBy ask := by
  cases request with
  | setWidgets settings =>
    cases asks
    simp only [answer, Run.setWidgets, Run.setBy, Run.changeBy]
    cases Preferences.mapOf settings <;> rfl
  | resize package size =>
    cases asks
    simp only [answer, Run.resize, Run.setBy, Run.changeBy]
    cases WidgetSize.ofValue size <;> rfl
  | set changes =>
    cases asks
    rfl
  | setBy ask =>
    cases asks
    rfl
  | toggle package =>
    cases asks
    rfl
  | favorite package =>
    cases asks
    rfl
  | _ => cases asks

/-- The values that a request brings in are such as a program can hold. -/
def Proper : Request → Prop
  | .set changes => changes.Proper
  | .setBy ask => ∀ document changes, (Value.object document).Proper → ask document = .ok changes → changes.Proper
  | .setWidgets settings => settings.Proper
  | _ => True

/-- A proper request asks a proper document for proper changes only. -/
theorem proper_of_ask {request : Request} (proper : request.Proper) {ask : Fields → Except Fault Value}
    (asks : request.ask? = some ask) {document : Fields} (before : (Value.object document).Proper) {changes : Value}
    (asked : ask document = .ok changes) : changes.Proper := by
  cases request with
  | set value =>
    cases asks
    cases asked
    exact proper
  | setBy ask =>
    cases asks
    exact proper document changes before asked
  | setWidgets settings =>
    cases asks
    cases made : Preferences.mapOf settings with
    | error fault =>
      rw [made] at asked
      cases asked
    | ok widgets =>
      rw [made] at asked
      cases asked
      exact ⟨List.nodup_singleton _, Preferences.proper_mapOf proper made, trivial⟩
  | toggle package =>
    cases asks
    exact Preferences.proper_toggled before asked
  | resize package size =>
    cases asks
    cases named : WidgetSize.ofValue size with
    | error fault =>
      rw [named] at asked
      cases asked
    | ok size =>
      rw [named] at asked
      exact Preferences.proper_resized before asked
  | favorite package =>
    cases asks
    exact Preferences.proper_flipped before asked
  | _ => cases asks

/-- A listener that a request makes known is prompt. -/
def Prompt : Request → Prop
  | .recruit listener => listener.behavior.Prompt
  | _ => True

/-! ## What requests keep -/

/-- A request of a store by itself that asks nothing of the document is about listeners and subscriptions only. -/
theorem sameWork_of_unasking {run : Run σ} (alone : run.Alone) {request : Request} (unasking : request.ask? = none) :
    Run.SameWork run (answer run request).2 := by
  cases request with
  | recruit listener => exact ⟨rfl, rfl, rfl, rfl⟩
  | subscribe listener => exact ⟨rfl, rfl, rfl, rfl⟩
  | unsubscribe subscription => exact Run.sameWork_unsubscribe alone subscription
  | _ => cases unasking

/-- A request of a store by itself keeps what proper changes keep and listeners and subscriptions do not matter to. -/
theorem keeps {inv : Run σ → Prop} {run : Run σ} (alone : run.Alone)
    (before : (Value.object run.store.document).Proper) (same : ∀ {other}, Run.SameWork run other → inv other)
    (setBy : ∀ ask, (∀ changes, ask run.store.document = .ok changes → changes.Proper) → inv (run.setBy ask).2)
    {request : Request} (proper : request.Proper) : inv (answer run request).2 := by
  cases asks : request.ask? with
  | some ask =>
    rw [answer_of_ask asks]
    exact setBy ask fun changes asked => proper_of_ask proper asks before asked
  | none => exact same (sameWork_of_unasking alone asks)

end Request

/-- Paired runs answer a request alike if the document that it leads to is allowed. -/
theorem Pairing.Lawful.answer {σ τ : Type} {pairing : Pairing σ τ} (lawful : pairing.Lawful) {request : Request}
    (prompt : pairing.agreeing ∨ request.Prompt) {run : Run σ} {other : Run τ} (pair : pairing.Runs run other)
    (allowed : ∀ ask changes, request.ask? = some ask → ask run.store.document = .ok (.object changes) →
      pairing.documents (run.store.document.merge changes)) :
    pairing.results (Request.answer run request).1 (Request.answer other request).1 ∧
      pairing.Runs (Request.answer run request).2 (Request.answer other request).2 := by
  cases asks : request.ask? with
  | some ask =>
    rw [Request.answer_of_ask asks, Request.answer_of_ask asks]
    exact lawful.setBy ask pair fun changes asked => allowed ask changes asks asked
  | none =>
    cases request with
    | recruit listener => exact ⟨lawful.same _, (lawful.recruit prompt run other pair).2⟩
    | subscribe listener => exact ⟨lawful.same _, (lawful.subscribe listener run other pair).2⟩
    | unsubscribe subscription => exact ⟨lawful.same _, lawful.unsubscribe subscription pair⟩
    | _ => cases asks

end HomeTiles
