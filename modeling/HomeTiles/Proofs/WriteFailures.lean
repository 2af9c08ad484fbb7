import HomeTiles.Proofs.CurrentRecord

/-!
# Write failures: what a session sees of its storage

Runs over a storage whose writes meet with troubles, others in each run, that
start with the same documents, subscriptions and listeners go on with the same
ones, and the same is heard in both, whatever the troubles are; what comes back of
a request differs at most in how its own write went (`Request.session_answerAll`).
Whatever failed before, a write that works leaves the whole document stored
(`Request.answer_despite_failures`).
-/

namespace HomeTiles

variable {σ τ : Type}

/-! ## What comes back of writes -/

/-- What can come back of a write. -/
def WriteResult (result : Except Fault Unit) : Prop := ∀ fault, result = .error fault → fault.OfWrite

theorem AnyAdapter.writeResult_troubled {storage : Storage σ} (adapter : AnyAdapter storage) (record : Value)
    (device : σ × List (Trouble σ)) : WriteResult (storage.troubled.save record device).result := by
  intro fault failed
  rcases Storage.fault_of_troubled failed with unavailable | ⟨_, failed⟩
  · exact .inl unavailable
  · exact adapter.fault_of_save failed

/-! ## The session -/

/-- Runs over two storages that are in the same session: only how writes go tells them apart. -/
def session (storage : Storage σ) (storage' : Storage τ) : Pairing σ τ where
  stores store store' := store.storage = storage ∧ store'.storage = storage' ∧ store.document = store'.document ∧
    store.subscribed = store'.subscribed
  devices _ _ := True
  notices _ _ := True
  results result result' := result = result' ∨ (WriteResult result ∧ WriteResult result')
  documents _ := True
  agreeing := False

theorem lawful_session {storage : Storage σ} {storage' : Storage τ}
    (writes : ∀ record device, WriteResult (storage.save record device).result)
    (writes' : ∀ record device, WriteResult (storage'.save record device).result) : (session storage storage').Lawful where
  document stores := stores.2.2.1
  documents _ := trivial
  subscribed stores := stores.2.2.2
  resubscribe stores _ := ⟨stores.1, stores.2.1, stores.2.2.1, rfl⟩
  same _ := .inl rfl
  told _ _ _ := trivial
  flipped _ _ := trivial
  commit := by
    intro document _ run other pair
    obtain ⟨kept, kept', _, subscribed⟩ := pair.store
    obtain ⟨device, persistent, notices, same⟩ := Run.commit_silent_eq document run
    obtain ⟨device', persistent', notices', same'⟩ := Run.commit_silent_eq document other
    constructor
    · right
      rw [Run.result_commit_silent, Run.result_commit_silent, kept, kept']
      exact ⟨writes _ _, writes' _ _⟩
    · rw [same, same']
      exact ⟨trivial, ⟨kept, kept', rfl, subscribed⟩, pair.number, pair.shelf, pair.listeners, pair.events, trivial,
        pair.prompt⟩
  agree := False.elim

namespace Request

/-- A session goes on the same whatever becomes of the writes in it. -/
theorem session_answerAll {storage : Storage σ} {storage' : Storage τ} (lawful : (session storage storage').Lawful)
    {requests : List Request} (prompt : ∀ request ∈ requests, request.Prompt) {run : Run σ} {other : Run τ}
    (pair : (session storage storage').Runs run other) :
    (session storage storage').Runs (answerAll requests run) (answerAll requests other) := by
  induction requests generalizing run other with
  | nil => exact pair
  | cons request rest ih =>
    obtain ⟨first, later⟩ := List.forall_mem_cons.mp prompt
    exact ih later (lawful.answer (.inr first) pair fun _ _ _ _ => trivial).2

/-- Two runs of the same requests start in the same session, with prompt listeners, over a storage whose writes meet
with some troubles in the one and with others in the other, or fail by themselves. At every step they have the same
document and the same has been heard; the same comes back of it, or in both what can come back of a write. If the last
attempt to write worked the storage holds the very record of the store, with all that was made while writes failed. -/
theorem answer_despite_failures {storage : Storage σ} (adapter : AnyAdapter storage) {run other : Run (σ × List (Trouble σ))}
    (pair : (session storage.troubled storage.troubled).Runs run other) (alone : run.Alone) {version : Int}
    (versioned : run.store.version = .int version) (document : (Value.object run.store.document).Proper)
    {log : List Touch} (stored : log.head? = some (.write (.ok ())) →
      storage.load run.device.1 = (.ok (some run.store.record.settled), []))
    {requests : List Request} (proper : ∀ request ∈ requests, request.Proper)
    (prompt : ∀ request ∈ requests, request.Prompt) {last : Request} (properLast : last.Proper) (promptLast : last.Prompt) :
    let result := (last.answer (answerAll requests run)).1
    let result' := (last.answer (answerAll requests other)).1
    let after := (last.answer (answerAll requests run)).2
    let after' := (last.answer (answerAll requests other)).2
    (result = result' ∨ (WriteResult result ∧ WriteResult result')) ∧
    after.store.document = after'.store.document ∧ after.events = after'.events ∧
    ∃ log', answerAll (requests ++ [last]) (run.recorded log) = after.recorded log' ∧
      (log'.head? = some (.write (.ok ())) →
        storage.load after.device.1 = (.ok (some after.store.record.settled), []) ∧
        ((∀ part, after.store.record.Part part → part ≠ .float (.nan true)) →
          after.store.record.settled = after.store.record)) := by
  intro result result' after after'
  have lawful := lawful_session adapter.writeResult_troubled adapter.writeResult_troubled
  obtain ⟨results, paired⟩ :=
    lawful.answer (.inr promptLast) (session_answerAll lawful prompt pair) fun _ _ _ _ => trivial
  have step : answerAll (requests ++ [last]) run = (last.answer (answerAll requests run)).2 := by
    rw [answerAll, List.foldl_append]
    rfl
  refine ⟨results, lawful.document paired.store, paired.events, ?_⟩
  obtain ⟨log', same⟩ := Run.answerAll_recorded (requests ++ [last]) run log
  rw [step] at same
  refine ⟨log', same, fun worked => ⟨?_, Value.settled_eq_self_iff.mpr⟩⟩
  have recording := Recording.of_alone alone versioned document log
  rw [pair.store.1] at recording
  have start : Current storage.troubled (run.recorded log) := ⟨recording, stored⟩
  have all : ∀ request ∈ requests ++ [last], request.Proper := by
    intro request inside
    rcases List.mem_append.mp inside with before | here
    · exact proper request before
    · rw [List.mem_singleton.mp here]
      exact properLast
  have current := start.answerAll adapter.faithful.troubled all
  rw [same] at current
  exact current.stored worked

/-- The writes of a change and of the favorite that a listener makes of it are refused in one of two runs; after the
next change both have it all, and the storage of the one that was refused holds it. -/
theorem answer_after_one_refusal :
    let start (writes : List (Trouble Memory)) : Run (Memory × List (Trouble Memory)) := {
      device := ({}, writes)
      store := { storage := Memory.storage.troubled, subscribed := [0] }
      listeners := [⟨"once", .favorite "a" .hear, 0⟩] }
    let run := answerAll [.favorite "b"] (start [.refused, .refused])
    let other := answerAll [.favorite "b"] (start [])
    let after := ((Request.toggle "c").answer run).2
    (session Memory.storage.troubled Memory.storage.troubled).Runs (start [.refused, .refused]) (start []) ∧
      after.store.document = ((Request.toggle "c").answer other).2.store.document ∧
      after.events = ((Request.toggle "c").answer other).2.events ∧
      Memory.storage.load after.device.1 = (.ok (some after.store.record.settled), []) := by
  intro start
  dsimp only
  have pair : (session Memory.storage.troubled Memory.storage.troubled).Runs (start [.refused, .refused]) (start []) :=
    ⟨trivial, ⟨rfl, rfl, rfl, rfl⟩, rfl, .nil, rfl, rfl, trivial, .inr (List.forall_mem_singleton.mpr ⟨rfl, trivial⟩)⟩
  have alone : (start [.refused, .refused]).Alone := ⟨rfl, Nat.zero_le 1⟩
  have untouched : ([] : List Touch).head? = some (.write (.ok ())) →
      Memory.storage.load (start [.refused, .refused]).device.1 =
        (.ok (some (start [.refused, .refused]).store.record.settled), []) := by
    intro last
    cases last
  have proper : ∀ request ∈ [Request.favorite "b"], request.Proper := by
    intro request inside
    rw [List.mem_singleton.mp inside]
    trivial
  have prompt : ∀ request ∈ [Request.favorite "b"], request.Prompt := by
    intro request inside
    rw [List.mem_singleton.mp inside]
    trivial
  obtain ⟨_, document, events, log, same, stored⟩ :=
    answer_despite_failures (.adapter .memory) pair alone rfl Preferences.proper_defaults untouched proper prompt
      (show (Request.toggle "c").Proper from trivial) (show (Request.toggle "c").Prompt from trivial)
  have worked : (answerAll ([.favorite "b"] ++ [.toggle "c"]) ((start [.refused, .refused]).recorded [])).device.2.head? =
      some (.write (.ok ())) := by
    decide +kernel
  rw [same] at worked
  exact ⟨pair, document, events, (stored worked).1⟩

/-- A name of 256 bytes below a directory that has come to be there is too long even to be looked up: a caller is
told that the storage is unavailable only in the run where it refuses the write. -/
theorem outcomes_of_path_too_long :
    let file : StorageFile := ⟨⟨.working, ["a", String.ofList (List.replicate 64 '🏠')]⟩, storeName⟩
    let opened (writes : List (Trouble FileTree)) :=
      Run.opened file.storage.troubled (.int storeVersion) none (FileTree.fresh, writes) [] []
    let start (writes : List (Trouble FileTree)) :=
      { (opened writes).2 with device := ((FileTree.fresh.makeDirectories (Path.ofText "a")).2, writes) }
    let outcome (writes : List (Trouble FileTree)) := ((Request.favorite "p").answer (start writes)).1
    (opened []).1 = .ok Preferences.defaults ∧ outcome [.refused] = .error (.unavailable .disabled) ∧
      outcome [] = .error (.file .tooLong) ∧ (Fault.file .tooLong).isUnavailable = false := by
  decide +kernel

end Request

end HomeTiles
