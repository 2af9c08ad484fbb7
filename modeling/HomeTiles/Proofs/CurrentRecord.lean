import HomeTiles.Proofs.WriteThrough

/-!
# Current records: a storage that was written last holds the document

A store by itself over a faithful storage is `Current`: if a write was the last
to touch the storage and worked, the very record of the store is loaded, whatever
was refused before. Every change
keeps that, the favorites that listeners add among them (`Current.answerAll`).
-/

namespace HomeTiles

variable {σ : Type}

/-! ## Stores whose record is current -/

/-- A store by itself over a recorded storage, with a version and a document such as a program can hold. -/
structure Recording (storage : Storage σ) (run : Run (σ × List Touch)) : Prop where
  alone : run.Alone
  kept : run.store.storage = storage.recorded
  versioned : ∃ version, run.store.version = .int version
  document : (Value.object run.store.document).Proper

/-- The storage holds the record of the store if a write that worked was the last to touch it. -/
structure Current (storage : Storage σ) (run : Run (σ × List Touch)) : Prop extends Recording storage run where
  stored : run.device.2.head? = some (.write (.ok ())) →
    storage.load run.device.1 = (.ok (some run.store.record.settled), [])

variable {storage : Storage σ} {run other : Run (σ × List Touch)}

/-- A store by itself, beside any record of what has touched its storage. -/
theorem Recording.of_alone {run : Run σ} (alone : run.Alone) {version : Int} (versioned : run.store.version = .int version)
    (document : (Value.object run.store.document).Proper) (log : List Touch) :
    Recording run.store.storage (run.recorded log) where
  alone := by
    refine ⟨alone.1, ?_⟩
    show (run.shelf.map PreferenceStore.recorded).length ≤ 1
    rw [List.length_map]
    exact alone.2
  kept := rfl
  versioned := ⟨version, versioned⟩
  document := document

theorem Recording.same (recording : Recording storage run) (same : Run.SameWork run other) : Recording storage other where
  alone := same.alone recording.alone
  kept := by
    rw [same.store]
    exact recording.kept
  versioned := by
    rw [same.store]
    exact recording.versioned
  document := by
    rw [same.document]
    exact recording.document

namespace Current

theorem same (current : Current storage run) (same : Run.SameWork run other) : Current storage other where
  toRecording := current.toRecording.same same
  stored := by
    have record : other.store.record = run.store.record := by
      rw [same.store]
      rfl
    rw [same.device, record]
    exact current.stored

/-- Whatever was stored before, an attempt to write a document leaves a current record. -/
theorem of_commit (faithful : storage.Faithful) (recording : Recording storage run) {document : Fields}
    (proper : (Value.object document).Proper) : Current storage (Run.commit Run.silent document run).2 := by
  obtain ⟨version, versioned⟩ := recording.versioned
  have attempted : Current storage ((run.withDocument document).written storage) := {
    alone := recording.alone
    kept := recording.kept
    versioned := recording.versioned
    document := proper
    stored := by
      intro last
      have saved := Touch.write.inj (Option.some.inj last)
      have whole : (run.withDocument document).store.record.Proper := proper_record versioned proper
      exact faithful _ _ rfl whole saved }
  exact attempted.same (Run.sameWork_commit recording.kept document)

/-- The favorites of listeners keep a record current. -/
theorem kept_current (faithful : storage.Faithful) :
    Run.Kept fun _ (run : Run (σ × List Touch)) => Current storage run where
  alone current := current.alone
  fewer _ current := current
  same current same := current.same same
  nested current asked :=
    of_commit faithful current.toRecording (current.document.merge (Preferences.proper_flipped current.document asked))

/-- A change that is committed leaves a current record, however it is written and whoever adds to it. -/
theorem of_setBy (faithful : storage.Faithful) (recording : Recording storage run) {ask : Fields → Except Fault Value}
    {changes : Fields} (asked : ask run.store.document = .ok (.object changes)) (proper : (Value.object changes).Proper) :
    Current storage (run.setBy ask).2 := by
  have committed : (run.setBy ask).2 = Run.announce (run.store.document.merge changes) run.store.document
      (Run.commit Run.silent (run.store.document.merge changes) run).2 := by
    rw [Run.setBy, Run.changeBy, asked]
    exact congrArg Prod.snd (Run.commit_eq Run.announce _ run)
  rw [committed]
  exact (kept_current faithful).announce _ _ 0 (of_commit faithful recording (recording.document.merge proper))

theorem setBy (faithful : storage.Faithful) (current : Current storage run) {ask : Fields → Except Fault Value}
    (proper : ∀ changes, ask run.store.document = .ok changes → changes.Proper) :
    Current storage (run.setBy ask).2 := by
  rcases Run.changeBy_cases Run.announce ask run with ⟨changes, asked, _⟩ | nothing
  · exact of_setBy faithful current.toRecording asked (proper _ asked)
  · rw [Run.setBy, nothing]
    exact current

theorem answer (faithful : storage.Faithful) (current : Current storage run) {request : Request}
    (proper : request.Proper) : Current storage (request.answer run).2 :=
  Request.keeps current.alone current.document current.same (fun _ asks => current.setBy faithful asks) proper

theorem answerAll (faithful : storage.Faithful) (current : Current storage run) {requests : List Request}
    (proper : ∀ request ∈ requests, request.Proper) : Current storage (Request.answerAll requests run) := by
  induction requests generalizing run with
  | nil => exact current
  | cons request rest ih =>
    obtain ⟨first, later⟩ := List.forall_mem_cons.mp proper
    exact ih (current.answer faithful first) later

end Current

end HomeTiles
