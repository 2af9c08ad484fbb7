import HomeTiles.Proofs.VersionHashes

/-!
# Malformed hashes

A hash should be a text with something in it, but any value can stand among an
app's hashes. A snapshot is `pruned` by leaving out the malformed ones. That
changes what a tile offers just where they have `Misled` it into an update
(`pruned_offers_alike_iff`): where the advertised hash is malformed, or where the
local version is the advertised hash and a malformed one is listed for it.
-/

namespace HomeTiles

/-! ## Leaving malformed hashes out -/

namespace Value

/-- A value with what stands under a name changed, if it is an object. -/
def within (change : Value → Value) (key : String) : Value → Value
  | .object fields => .object (Entries.modify change key fields)
  | v => v

/-- A hash as it should be: a text with something in it. -/
def isHash (v : Value) : Bool := v.nonEmptyText?.isSome

/-- An object with only those of its entries that are hashes as they should be. -/
def onlyHashes : Value → Value
  | .object hashes => .object (hashes.filter fun entry => entry.2.isHash)
  | v => v

theorem isHash_iff {v : Value} : v.isHash = true ↔ ∃ s, v = .text s ∧ s ≠ "" := isSome_nonEmptyText?_iff

theorem underName_modify {change : Value → Value} (fixed : change .null = .null) (key : String) (fields : Fields) :
    underName (Entries.modify change key fields) key = change (underName fields key) := by
  rw [underName, underName, Entries.get?_modify]
  cases Entries.get? fields key with
  | none => exact fixed.symm
  | some v => simp [ofOption]

theorem underName_modify_of_ne (change : Value → Value) {key other : String} (apart : other ≠ key) (fields : Fields) :
    underName (Entries.modify change key fields) other = underName fields other := by
  rw [underName, underName, Entries.get?_modify]
  cases Entries.get? fields other <;> simp [ofOption, apart]

end Value

namespace AppSnapshot

theorem entriesOf_within (change : Value → Value) (key : String) (v : Value) :
    entriesOf (v.within change key) = Entries.modify change key (entriesOf v) := by
  cases v <;> rfl

/-- The snapshot without its malformed hashes. -/
def pruned (app : AppSnapshot) : AppSnapshot :=
  { app with metadata := app.metadata.within (Value.within Value.onlyHashes "code_hashes") "properties" }

variable {app : AppSnapshot}

theorem properties_pruned : app.pruned.properties = Entries.modify Value.onlyHashes "code_hashes" app.properties := by
  rw [properties, pruned, entriesOf_within, Value.underName_modify rfl, entriesOf_within]
  rfl

@[simp] theorem currentVersion_pruned : app.pruned.currentVersion = app.currentVersion := by
  rw [currentVersion, properties_pruned, Value.underName_modify_of_ne _ (by decide)]
  rfl

theorem codeHashes_pruned : app.pruned.codeHashes = app.codeHashes.filter fun entry => entry.2.isHash := by
  rw [codeHashes, properties_pruned, Value.underName_modify rfl, codeHashes]
  cases Value.underName app.properties "code_hashes" <;> rfl

section Distinct

variable (distinct : (Entries.names app.codeHashes).Nodup)
include distinct

theorem hashOf?_pruned (version : String) : app.pruned.hashOf? version = (app.hashOf? version).filter Value.isHash := by
  have counts : ∀ v : Value, (v.isHash && v.truthy) = (v.truthy && v.isHash) := fun v => Bool.and_comm _ _
  rw [hashOf?, codeHashes_pruned, Entries.get?_filter distinct, hashOf?, Option.filter_filter, Option.filter_filter]
  simp only [counts]

/-- The advertised hash of a pruned snapshot is the one advertised, if that is as it should be. -/
theorem latestHash_pruned_iff {hash : Value} :
    app.pruned.latestHash = some hash ↔ app.latestHash = some hash ∧ hash.isHash = true := by
  simp only [latestHash_eq_some_iff, currentVersion_pruned, hashOf?_pruned distinct, Option.filter_eq_some_iff,
    exists_and_right, ← and_assoc]

/-- The local hash of a pruned snapshot: a malformed one gives way to the version itself. -/
theorem localHash_pruned (version : String) : app.pruned.localHash version =
    if (app.localHash version).isHash then app.localHash version else .text version := by
  rw [localHash, hashOf?_pruned distinct, localHash]
  cases app.hashOf? version with
  | none => simp
  | some hash => by_cases fine : hash.isHash <;> simp [Option.filter_some, fine]

end Distinct

/-! ## Misled into an update -/

/-- An update is offered because of a malformed hash: the one advertised is malformed and is not the local one, or the
local version is the advertised hash and a malformed one is listed for it. -/
def Misled (app : AppSnapshot) (localNode : Value) : Prop :=
  app.publisher.equal localNode = false ∧ ∃ version latest, app.ourVersion = some version ∧ app.latestHash = some latest ∧
    ((latest.isHash = false ∧ (app.localHash version).equal latest = false) ∨
      (latest = .text version ∧ (app.localHash version).isHash = false))

section Pruned

variable (distinct : (Entries.names app.codeHashes).Nodup) {localNode : Value}
include distinct

/-- An update that is offered is one of the pruned snapshot too, or the app was misled into it. -/
theorem pruned_or_misled_of_updatable (due : app.updatable localNode = true) :
    app.pruned.updatable localNode = true ∨ app.Misled localNode := by
  obtain ⟨version, latest, ours, advertised, differ, foreign⟩ := updatable_iff.mp due
  cases fine : latest.isHash with
  | false => exact .inr ⟨foreign, version, latest, ours, advertised, .inl ⟨fine, differ⟩⟩
  | true =>
    obtain ⟨s, rfl, _⟩ := Value.isHash_iff.mp fine
    have advertised' : app.pruned.latestHash = some (.text s) := (latestHash_pruned_iff distinct).mpr ⟨advertised, fine⟩
    cases fine' : (app.localHash version).isHash with
    | true =>
      refine .inl (updatable_iff.mpr ⟨version, .text s, ours, advertised', ?_, foreign⟩)
      rw [localHash_pruned distinct, if_pos fine']
      exact differ
    | false =>
      by_cases same : version = s
      · exact .inr ⟨foreign, version, .text s, ours, advertised, .inr ⟨same ▸ rfl, fine'⟩⟩
      · refine .inl (updatable_iff.mpr ⟨version, .text s, ours, advertised', ?_, foreign⟩)
        rw [localHash_pruned distinct, fine', if_neg Bool.false_ne_true, ← Bool.not_eq_true, Value.equal_text_iff]
        exact fun both => same (Value.text.inj both)

/-- Leaving malformed hashes out makes no update due. -/
theorem updatable_of_pruned (due : app.pruned.updatable localNode = true) : app.updatable localNode = true := by
  obtain ⟨version, latest, ours, advertised, differ, foreign⟩ := updatable_iff.mp due
  obtain ⟨advertised, fine⟩ := (latestHash_pruned_iff distinct).mp advertised
  obtain ⟨s, rfl, _⟩ := Value.isHash_iff.mp fine
  refine updatable_iff.mpr ⟨version, .text s, ours, advertised, ?_, foreign⟩
  rw [localHash_pruned distinct] at differ
  split_ifs at differ with fine'
  · exact differ
  · -- a malformed hash is no text, so it cannot be the one advertised
    rw [← Bool.not_eq_true, Value.equal_text_iff]
    intro same
    rw [same] at fine'
    exact fine' fine

omit distinct in
theorem updatable_of_misled (misled : app.Misled localNode) : app.updatable localNode = true := by
  obtain ⟨foreign, version, latest, ours, advertised, ⟨_, differ⟩ | ⟨rfl, malformed⟩⟩ := misled
  · exact updatable_iff.mpr ⟨version, latest, ours, advertised, differ, foreign⟩
  · refine updatable_iff.mpr ⟨version, .text version, ours, advertised, ?_, foreign⟩
    rw [← Bool.not_eq_true, Value.equal_text_iff]
    intro same
    obtain ⟨_, filled⟩ := ourVersion_eq_some_iff.mp ours
    rw [same, Value.isHash_iff.mpr ⟨version, rfl, filled⟩] at malformed
    cases malformed

theorem updatable_pruned_of_misled (misled : app.Misled localNode) : app.pruned.updatable localNode = false := by
  obtain ⟨_, version, latest, ours, advertised, wrong⟩ := misled
  rw [← Bool.not_eq_true, updatable_iff]
  rintro ⟨version', latest', ours', advertised', differ, _⟩
  obtain ⟨advertised', fine⟩ := (latestHash_pruned_iff distinct).mp advertised'
  cases ours.symm.trans ours'
  cases advertised.symm.trans advertised'
  rcases wrong with ⟨malformed, _⟩ | ⟨rfl, malformed⟩
  · rw [fine] at malformed
    cases malformed
  · rw [localHash_pruned distinct, malformed, if_neg Bool.false_ne_true, Value.equal_text_iff.mpr rfl] at differ
    cases differ

/-- The flag for an update is the one of the pruned snapshot just where the app was not misled. -/
theorem updatable_pruned_iff : app.pruned.updatable localNode = app.updatable localNode ↔ ¬app.Misled localNode := by
  constructor
  · intro same misled
    rw [updatable_pruned_of_misled distinct misled, updatable_of_misled misled] at same
    cases same
  · intro sound
    rw [Bool.eq_iff_iff]
    exact ⟨updatable_of_pruned distinct, fun due => (pruned_or_misled_of_updatable distinct due).resolve_right sound⟩

end Pruned

end AppSnapshot

open AppSnapshot in
/-- Without the malformed hashes a tile has the same flags and offers the same, unless they have misled it into an update
that is not due without them. Where they have not, an update is offered only if the advertised hash is a text with
something in it that differs from the local one. -/
theorem pruned_offers_alike_iff (app : AppSnapshot) (distinct : (Entries.names app.codeHashes).Nodup)
    (localNode launchPath : Value) :
    (app.pruned.flags localNode = app.flags localNode ↔ ¬app.Misled localNode) ∧
    (TileAction.resolve app.pruned localNode launchPath = TileAction.resolve app localNode launchPath ↔
      ¬(app.Misled localNode ∧ app.installed.truthy = true ∧ launchPath.nonEmptyText? = none)) ∧
    (app.Misled localNode → app.updatable localNode = true ∧ app.pruned.updatable localNode = false) ∧
    (TileAction.resolve app localNode launchPath = .update → ¬app.Misled localNode →
      ∃ version current own latest, app.ourVersion = some version ∧ app.currentVersion = some current ∧
        Entries.get? app.codeHashes current = some (.text latest) ∧ latest ≠ "" ∧
        app.pruned.localHash version = .text own ∧ own ≠ latest) := by
  have flags_iff : app.pruned.flags localNode = app.flags localNode ↔ ¬app.Misled localNode := by
    rw [← updatable_pruned_iff distinct, flags, flags, TileFlags.mk.injEq]
    exact ⟨fun same => same.2.2, fun same => ⟨rfl, rfl, same⟩⟩
  refine ⟨flags_iff, ?_, fun misled => ⟨updatable_of_misled misled, updatable_pruned_of_misled distinct misled⟩, ?_⟩
  · constructor
    · rintro same ⟨misled, installed, pathless⟩
      have offered : TileAction.resolve app localNode launchPath = .update :=
        TileAction.resolve_eq_update_iff.mpr ⟨installed, pathless, updatable_of_misled misled⟩
      rw [← same, TileAction.resolve_eq_update_iff, updatable_pruned_of_misled distinct misled] at offered
      exact absurd offered.2.2 Bool.false_ne_true
    · intro sound
      by_cases misled : app.Misled localNode
      · exact TileAction.resolve_eq_of_idle rfl rfl fun installed pathless => sound ⟨misled, installed, pathless⟩
      · exact (OffersAlike.of_flags (flags_iff.mpr misled) launchPath).2
  · intro offered sound
    obtain ⟨_, _, due⟩ := TileAction.resolve_eq_update_iff.mp offered
    rw [← (updatable_pruned_iff distinct).mpr sound] at due
    obtain ⟨version, latest, ours, advertised, differ, _⟩ := updatable_iff.mp due
    obtain ⟨advertised, fine⟩ := (latestHash_pruned_iff distinct).mp advertised
    obtain ⟨s, rfl, filled⟩ := Value.isHash_iff.mp fine
    obtain ⟨current, known, found⟩ := latestHash_eq_some_iff.mp advertised
    obtain ⟨own, text⟩ : ∃ own, app.pruned.localHash version = .text own := by
      rw [localHash_pruned distinct]
      split_ifs with fine'
      · obtain ⟨own, text, _⟩ := Value.isHash_iff.mp fine'
        exact ⟨own, text⟩
      · exact ⟨version, rfl⟩
    refine ⟨version, current, own, s, ours, known, (hashOf?_eq_some_iff.mp found).1, filled, text, ?_⟩
    rintro rfl
    rw [text, Value.equal_text_iff.mpr rfl] at differ
    cases differ

/-- A malformed hash misleads where it is the advertised one, or where it hides that the local version is that one. -/
theorem misled_by_malformed_hash :
    let app (version : String) (hashes : Fields) : AppSnapshot := {
      packageId := .text "p"
      installed := .bool true
      state := .object [("our_version", .text version)]
      metadata := .object [("properties", .object [("current_version", .text "v2"), ("code_hashes", .object hashes)])]
      publisher := .text "x" }
    (app "v1" [("v1", .text "h1"), ("v2", .bool true)]).Misled (.text "y") ∧
      (app "h2" [("h2", .int 5), ("v2", .text "h2")]).Misled (.text "y") ∧
      ¬(app "v1" [("v1", .bool true), ("v2", .text "h2")]).Misled (.text "y") := by
  intro app
  refine ⟨?_, ?_, ?_⟩
  · exact not_not.mp (mt (pruned_offers_alike_iff (app "v1" _) (by decide) (.text "y") .null).1.mpr (by decide))
  · exact not_not.mp (mt (pruned_offers_alike_iff (app "h2" _) (by decide) (.text "y") .null).1.mpr (by decide))
  · exact (pruned_offers_alike_iff (app "v1" _) (by decide) (.text "y") .null).1.mp (by decide)

/-- A catalogue entry whose advertised hash is a number: its tile offers an update, and none without that hash. -/
theorem update_offered_on_number :
    let hashes : Fields := [("v1", .text "h1"), ("v2", .int 5)]
    let entry : Fields := [("package", .text "p"), ("installed", .bool true),
      ("state", .object [("our_version", .text "v1")]),
      ("metadata", .object [("properties", .object [("current_version", .text "v2"), ("code_hashes", .object hashes)])]),
      ("publisher", .text "x")]
    ∃ app, AppSnapshot.ofCatalogue (.object entry) = .ok app ∧ app.codeHashes = hashes ∧
      app.flags (.text "y") = ⟨true, true, true⟩ ∧ TileAction.resolve app (.text "y") .null = .update ∧
      app.pruned.codeHashes = [("v1", .text "h1")] ∧
      app.pruned.flags (.text "y") = ⟨true, true, false⟩ ∧ TileAction.resolve app.pruned (.text "y") .null = .upToDate := by
  intro hashes entry
  exact ⟨_, rfl, by decide⟩

end HomeTiles
