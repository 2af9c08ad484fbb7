import HomeTiles.Proofs.VersionHashes

/-!
# Snapshots in normal form

A snapshot is `Normal` if every field is of the kind that it should be. Catalogue
entries give just the normal snapshots, and each gives itself again as an entry
(`ofCatalogue_toCatalogue_iff`). One `Normalises` another one if it has the same
fields in normal form: the accessors read the same from both, so the two differ
only in a state that is not `Telling` and in a publisher that is no text
(`flags_eq_iff`). That is how the snapshot of an entry stands to the one with the
fields of the entry as they are (`normalised_offers_alike`).
-/

namespace HomeTiles

namespace AppSnapshot

variable {app raw : AppSnapshot} {entry : Fields}

/-! ## Fields of the right kinds -/

/-- Every field is of the kind that it should be. -/
structure Normal (app : AppSnapshot) : Prop where
  packageId : ∃ s, app.packageId = .text s
  installed : ∃ b, app.installed = .bool b
  state : app.state = .null ∨ app.state.isObject = true
  metadata : app.metadata = .null ∨ app.metadata.isObject = true
  publisher : ∃ s, app.publisher = .text s

/-- A snapshot as an entry of a catalogue. -/
def toCatalogue (app : AppSnapshot) : Value := .object [
  ("package", app.packageId), ("installed", app.installed), ("state", app.state), ("metadata", app.metadata),
  ("publisher", app.publisher)]

theorem exists_text_of_textOf {v w : Value} (shown : textOf v = .ok w) : ∃ s, w = .text s := by
  rcases textOf_ok_iff.mp shown with ⟨_, s, _, same⟩ | ⟨_, same⟩
  · exact ⟨s, same⟩
  · exact ⟨"", same⟩

theorem textOf_text (s : String) : textOf (.text s) = .ok (.text s) := by
  rw [textOf_ok_iff]
  by_cases empty : s = ""
  · exact .inr ⟨by simp [Value.truthy, empty], by rw [empty]⟩
  · exact .inl ⟨by simp [Value.truthy, empty], s, rfl, rfl⟩

theorem null_or_isObject_stateOf (v : Value) : stateOf v = .null ∨ (stateOf v).isObject = true := by
  unfold stateOf
  split_ifs with object counts
  · exact .inr object
  · exact .inr rfl
  · exact .inl rfl

theorem null_or_isObject_metadataOf (v : Value) : metadataOf v = .null ∨ (metadataOf v).isObject = true := by
  unfold metadataOf
  split_ifs with object
  · exact .inr object
  · exact .inl rfl

theorem stateOf_eq_self {v : Value} (kind : v = .null ∨ v.isObject = true) : stateOf v = v := by
  rcases kind with rfl | object
  · rfl
  · rw [stateOf, if_pos object]

theorem metadataOf_eq_self {v : Value} (kind : v = .null ∨ v.isObject = true) : metadataOf v = v := by
  rcases kind with rfl | object
  · rfl
  · rw [metadataOf, if_pos object]

theorem Normal.of_made (made : ofCatalogue (.object entry) = .ok app) : app.Normal := by
  obtain ⟨packageId, publisher, named, published, rfl⟩ := ofCatalogue_ok_iff.mp made
  exact {
    packageId := exists_text_of_textOf named
    installed := ⟨_, rfl⟩
    state := null_or_isObject_stateOf _
    metadata := null_or_isObject_metadataOf _
    publisher := exists_text_of_textOf published }

/-- A snapshot gives itself again as a catalogue entry just when it is normal. -/
theorem ofCatalogue_toCatalogue_iff : ofCatalogue app.toCatalogue = .ok app ↔ app.Normal := by
  constructor
  · exact Normal.of_made
  · intro normal
    obtain ⟨packageId, installed, state, metadata, publisher⟩ := app
    obtain ⟨⟨package, rfl⟩, ⟨there, rfl⟩, ofState, ofMetadata, ⟨node, rfl⟩⟩ := normal
    refine ofCatalogue_ok_iff.mpr ⟨.text package, .text node, ?_, textOf_text node, ?_⟩
    · -- an empty package counts as missing, and a missing one gives the empty text again
      unfold identifier
      split_ifs with counts
      · exact textOf_text package
      · have empty : package = "" := by simpa [Value.underName, Entries.get?, Value.ofOption, Value.truthy] using counts
        rw [empty]
        rfl
    · have again := stateOf_eq_self ofState
      have again' := metadataOf_eq_self ofMetadata
      simp [Value.underName, Entries.get?, Value.ofOption, Value.truthy, again, again']

/-! ## Fields as they are -/

/-- A snapshot has the fields of another one in normal form, whatever the packages are. -/
structure Normalises (app raw : AppSnapshot) : Prop where
  installed : app.installed = .bool raw.installed.truthy
  state : app.state = stateOf raw.state
  metadata : app.metadata = metadataOf raw.metadata
  publisher : textOf raw.publisher = .ok app.publisher

/-- A missing value is shown as the empty text. -/
theorem textOf_underName (fields : Fields) (key : String) :
    textOf (Value.underName fields key) = textOf ((Entries.get? fields key).getD (.text "")) := by
  unfold Value.underName
  cases Entries.get? fields key <;> rfl

/-- The snapshot with any package and the other fields of an entry as they are. -/
theorem ofFields_put (entry : Fields) (packageId : Value) : ofFields (Entries.put entry "package_id" packageId) = .ok {
    packageId
    installed := (Entries.get? entry "installed").getD (.bool false)
    state := Value.underName entry "state"
    metadata := Value.underName entry "metadata"
    publisher := (Entries.get? entry "publisher").getD (.text "") } :=
  ofFields_ok_iff.mpr ⟨packageId, by simp [Entries.get?_put], by simp [Entries.get?_put, Value.underName_put_of_ne]⟩

theorem Normalises.of_made {packageId : Value} (made : ofCatalogue (.object entry) = .ok app)
    (direct : ofFields (Entries.put entry "package_id" packageId) = .ok raw) : Normalises app raw := by
  obtain ⟨_, publisher, _, published, rfl⟩ := ofCatalogue_ok_iff.mp made
  cases (ofFields_put entry packageId).symm.trans direct
  exact {
    installed := by rw [Value.truthy_underName]
    state := rfl
    metadata := rfl
    publisher := by rwa [textOf_underName] at published }

theorem has_stateOf_iff {v w : Value} {key : String} : (stateOf v).Has key w ↔ v.Has key w := by
  unfold stateOf
  split_ifs with object counts
  · exact Iff.rfl
  · constructor
    · rintro ⟨_, ⟨⟩, ⟨⟩⟩
    · rintro ⟨_, rfl, _⟩
      exact absurd rfl object
  · constructor
    · rintro ⟨_, ⟨⟩, _⟩
    · rintro ⟨_, rfl, _⟩
      exact absurd rfl object

/-- A state that tells whether the app was downloaded: null, an object, or any other value that counts as true. -/
def Telling (state : Value) : Prop := state = .null ∨ state.isObject = true ∨ state.truthy = true

instance : DecidablePred Telling := fun _ => inferInstanceAs (Decidable (_ ∨ _ ∨ _))

/-- Normalising keeps whether a state is null just when the state is telling. -/
theorem telling_iff {v : Value} : Telling v ↔ (stateOf v = .null ↔ v = .null) := by
  unfold Telling stateOf
  split_ifs with object counts
  · exact iff_of_true (.inr (.inl object)) Iff.rfl
  · have there : v ≠ .null := by
      rintro rfl
      cases counts
    exact iff_of_true (.inr (.inr counts)) (iff_of_false nofun there)
  · simp [object, counts]

namespace Normalises

variable (normalises : Normalises app raw)
include normalises

theorem downloaded_eq_iff : app.downloaded = raw.downloaded ↔ Telling raw.state := by
  rw [telling_iff, ← normalises.state, Bool.eq_iff_iff]
  simp [downloaded, not_iff_not]

/-- Of what normalising changes nothing counts for an update but how the publisher compares with a node. -/
theorem updatable_eq {localNode other : Value} (published : app.publisher.equal localNode = raw.publisher.equal other) :
    app.updatable localNode = raw.updatable other := by
  rw [Bool.eq_iff_iff, updatable_iff_updateDue, updatable_iff_updateDue, normalises.state, normalises.metadata]
  simp only [UpdateDue, has_stateOf_iff, has_metadataOf_iff, published]

theorem publisher_eq {s : String} (published : raw.publisher = .text s) : app.publisher = raw.publisher := by
  have shown := normalises.publisher
  rw [published, textOf_text] at shown
  rw [published, Except.ok.inj shown]

/-- All nodes see the same updates due just when the publisher is a text or no update can be due at all. -/
theorem updatable_eq_iff : (∀ localNode, app.updatable localNode = raw.updatable localNode) ↔
    (∃ s, raw.publisher = .text s) ∨ ∀ localNode, raw.updatable localNode = false := by
  by_cases published : ∃ s, raw.publisher = .text s
  · obtain ⟨s, text⟩ := published
    refine iff_of_true (fun localNode => ?_) (.inl ⟨s, text⟩)
    exact normalises.updatable_eq (by rw [normalises.publisher_eq text])
  · rw [or_iff_right published]
    -- a node that is named as the publisher is shown tells the two apart: only the normal form is its own
    obtain ⟨node, shown⟩ := exists_text_of_textOf normalises.publisher
    have own : app.publisher.equal (.text node) = true := Value.equal_text_iff.mpr shown
    have foreign : raw.publisher.equal (.text node) = false := by
      rw [← Bool.not_eq_true, Value.equal_text_iff]
      exact fun text => published ⟨node, text⟩
    constructor
    · intro same localNode
      cases here : raw.publisher.equal localNode with
      | true => exact updatable_of_own here
      | false =>
        calc raw.updatable localNode
          _ = raw.updatable (.text node) := by rw [updatable, updatable, here, foreign]
          _ = app.updatable (.text node) := (same _).symm
          _ = false := updatable_of_own own
    · intro never localNode
      rw [never]
      cases here : app.publisher.equal localNode with
      | true => exact updatable_of_own here
      | false => rw [normalises.updatable_eq (here.trans foreign.symm), never]

/-- Normalising keeps the flags for every node just when the state is telling and all nodes see the same updates. -/
theorem flags_eq_iff : (∀ localNode, app.flags localNode = raw.flags localNode) ↔
    Telling raw.state ∧ ((∃ s, raw.publisher = .text s) ∨ ∀ localNode, raw.updatable localNode = false) := by
  rw [← normalises.downloaded_eq_iff, ← normalises.updatable_eq_iff]
  constructor
  · intro same
    exact ⟨congrArg TileFlags.downloaded (same .null), fun localNode => congrArg TileFlags.updatable (same localNode)⟩
  · rintro ⟨downloaded, updates⟩ localNode
    rw [flags, flags, normalises.installed, downloaded, updates]
    rfl

end Normalises

end AppSnapshot

open AppSnapshot in
/-- The snapshot of a catalogue entry is normal and gives itself again as an entry. It has the flags of the snapshot with
any package and the other fields of the entry as they are, and offers the same, if the state is telling and the publisher
is a text or missing. In no other case do all nodes see the same flags, unless no update can be due at all: then the
publisher does not matter. -/
theorem normalised_offers_alike (entry : Fields) (app : AppSnapshot) (made : ofCatalogue (.object entry) = .ok app)
    (packageId : Value) :
    let telling := Telling (Value.underName entry "state")
    let published := ∀ v, Entries.get? entry "publisher" = some v → ∃ s, v = .text s
    app.Normal ∧ ofCatalogue app.toCatalogue = .ok app ∧
    ∃ raw, ofFields (Entries.put entry "package_id" packageId) = .ok raw ∧
      (telling → published → ∀ localNode launchPath, OffersAlike app raw localNode launchPath) ∧
      ((∀ localNode, app.flags localNode = raw.flags localNode) ↔
        telling ∧ (published ∨ ∀ localNode, raw.updatable localNode = false)) := by
  intro telling published
  have normal := Normal.of_made made
  have direct := ofFields_put entry packageId
  have flags_iff := (Normalises.of_made made direct).flags_eq_iff
  have texts : (∃ s, (Entries.get? entry "publisher").getD (.text "") = .text s) ↔ published := by
    simp only [published]
    cases Entries.get? entry "publisher" <;> simp
  rw [texts] at flags_iff
  refine ⟨normal, ofCatalogue_toCatalogue_iff.mpr normal, _, direct, ?_, flags_iff⟩
  intro tells text localNode launchPath
  exact .of_flags (flags_iff.mpr ⟨tells, .inl text⟩ localNode) launchPath

open AppSnapshot in
/-- A state that is a text with something in it is taken for an empty object, which costs nothing, and the empty text for
null. A number as publisher is another one than its own digits. -/
theorem normalised_offers_alike_for_odd_fields :
    let properties : Fields := [("current_version", .text "v2"), ("code_hashes", .object [("v2", .text "h2")])]
    let entry (state publisher : Value) : Fields := [("package", .int 7), ("installed", .text "yes"), ("state", state),
      ("metadata", .object [("properties", .object properties)]), ("publisher", publisher)]
    let SameFlags (entry : Fields) : Prop := ∃ app raw, ofCatalogue (.object entry) = .ok app ∧
      ofFields (Entries.put entry "package_id" .null) = .ok raw ∧ ∀ localNode, app.flags localNode = raw.flags localNode
    (∃ app raw, ofCatalogue (.object (entry (.text "yes") (.text "x"))) = .ok app ∧
      ofFields (Entries.put (entry (.text "yes") (.text "x")) "package_id" .null) = .ok raw ∧
      app.state = .object [] ∧ raw.state = .text "yes" ∧ OffersAlike app raw (.text "y") (.text "")) ∧
    ¬SameFlags (entry (.text "") (.text "x")) ∧ ¬SameFlags (entry (.object [("our_version", .text "v1")]) (.int 5)) := by
  intro properties entry SameFlags
  refine ⟨?_, ?_, ?_⟩
  · let app : AppSnapshot :=
      ⟨.text "7", .bool true, .object [], .object [("properties", .object properties)], .text "x"⟩
    have made : ofCatalogue (.object (entry (.text "yes") (.text "x"))) = .ok app := by decide +kernel
    obtain ⟨_, _, raw, direct, alike, _⟩ := normalised_offers_alike _ app made .null
    have published : ∀ v, Entries.get? (entry (.text "yes") (.text "x")) "publisher" = some v → ∃ s, v = .text s := by
      rintro v ⟨⟩
      exact ⟨"x", rfl⟩
    refine ⟨app, raw, made, direct, rfl, ?_, alike (by decide) published _ _⟩
    cases direct
    rfl
  · rintro ⟨app, raw, made, direct, same⟩
    obtain ⟨_, _, raw', direct', _, flags_iff⟩ := normalised_offers_alike _ app made .null
    cases direct.symm.trans direct'
    exact absurd (flags_iff.mp same).1 (by decide)
  · rintro ⟨app, raw, made, direct, same⟩
    obtain ⟨_, _, raw', direct', _, flags_iff⟩ := normalised_offers_alike _ app made .null
    cases direct.symm.trans direct'
    rcases (flags_iff.mp same).2 with published | never
    · obtain ⟨_, ⟨⟩⟩ := published _ rfl
    · cases direct
      exact absurd (never (.text "y")) (by decide)

end HomeTiles
