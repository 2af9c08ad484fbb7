import HomeTiles.Proofs.AlikeValues
import HomeTiles.Proofs.DecisionTable

/-!
# Versions by their hashes

Of the local version only its hash counts for what a tile offers: two versions
with the same hash, or with equal ones, can stand for each other
(`offersAlike_of_localHash`), be they labels or hashes themselves. So an app that
took the newest version has nothing to update (`updatable_of_newest`).
-/

namespace HomeTiles

namespace AppSnapshot

/-! ## Offering alike -/

/-- Two snapshots have the same flags and offer the same action. -/
def OffersAlike (app other : AppSnapshot) (localNode launchPath : Value) : Prop :=
  app.flags localNode = other.flags localNode ∧
    TileAction.resolve app localNode launchPath = TileAction.resolve other localNode launchPath

theorem OffersAlike.of_flags {app other : AppSnapshot} {localNode : Value}
    (same : app.flags localNode = other.flags localNode) (launchPath : Value) :
    OffersAlike app other localNode launchPath :=
  ⟨same, by rw [TileAction.resolve, same, TileAction.resolve]⟩

/-! ## Another local version -/

/-- The snapshot with another local version in its state. -/
def withVersion (app : AppSnapshot) (version : Value) : AppSnapshot :=
  { app with state := .object (Entries.put (entriesOf app.state) "our_version" version) }

section WithVersion

variable (app : AppSnapshot) (version : Value)

@[simp] theorem ourVersion_withVersion : (app.withVersion version).ourVersion = version.nonEmptyText? := by
  show (Value.underName (Entries.put _ _ _) _).nonEmptyText? = _
  rw [Value.underName, Entries.get?_put, if_pos rfl]
  rfl

@[simp] theorem downloaded_withVersion : (app.withVersion version).downloaded = true := rfl

@[simp] theorem latestHash_withVersion : (app.withVersion version).latestHash = app.latestHash := rfl

@[simp] theorem localHash_withVersion (other : String) : (app.withVersion version).localHash other = app.localHash other := rfl

end WithVersion

variable {app : AppSnapshot}

/-- Only the hash of the local version counts, as far as it can be told from the one advertised. -/
theorem offersAlike_of_localHash {version other : String} (filled : version ≠ "") (filled' : other ≠ "")
    (same : ∀ latest, (app.localHash version).equal latest = (app.localHash other).equal latest) (localNode launchPath : Value) :
    OffersAlike (app.withVersion (.text version)) (app.withVersion (.text other)) localNode launchPath := by
  have found : (Value.text version).nonEmptyText? = some version := Value.nonEmptyText?_eq_some_iff.mpr ⟨rfl, filled⟩
  have found' : (Value.text other).nonEmptyText? = some other := Value.nonEmptyText?_eq_some_iff.mpr ⟨rfl, filled'⟩
  refine .of_flags ?_ launchPath
  have updates : (app.withVersion (.text version)).updatable localNode = (app.withVersion (.text other)).updatable localNode := by
    rw [Bool.eq_iff_iff, updatable_iff, updatable_iff]
    simp only [ourVersion_withVersion, latestHash_withVersion, localHash_withVersion, found, found', Option.some.injEq]
    constructor
    · rintro ⟨_, latest, rfl, advertised, differ, foreign⟩
      exact ⟨other, latest, rfl, advertised, same latest ▸ differ, foreign⟩
    · rintro ⟨_, latest, rfl, advertised, differ, foreign⟩
      exact ⟨version, latest, rfl, advertised, same latest ▸ differ, foreign⟩
  rw [flags, flags, updates]
  rfl

/-- A hash has no other hash listed for it: its entry is missing, counts as false or is the hash again. -/
def NamesItself (app : AppSnapshot) (hash : String) : Prop :=
  ∀ listed, Entries.get? app.codeHashes hash = some listed → listed.truthy = false ∨ listed.equal (.text hash) = true

theorem localHash_of_listed {version : String} {hash : Value} (listed : Entries.get? app.codeHashes version = some hash)
    (counts : hash.truthy = true) : app.localHash version = hash := by
  rw [localHash, hashOf?_eq_some_iff.mpr ⟨listed, counts⟩, Option.getD_some]

theorem localHash_of_namesItself {hash : String} (itself : app.NamesItself hash) : app.localHash hash = .text hash := by
  unfold localHash
  cases found : app.hashOf? hash with
  | none => rfl
  | some listed =>
    obtain ⟨listed, counts⟩ := hashOf?_eq_some_iff.mp found
    rcases itself _ listed with empty | same
    · rw [counts] at empty
      cases empty
    · exact Value.equal_text_iff.mp same

/-! ## The newest version -/

/-- What an app has as its local version once it took the update: the advertised label, or its hash. -/
inductive Newest (app : AppSnapshot) : Value → Prop where
  | label : Newest app (Value.ofOption (app.currentVersion.map .text))
  | hash {hash : String} (advertised : app.latestHash = some (.text hash)) (itself : app.NamesItself hash) :
    Newest app (.text hash)

/-- The newest version has the advertised hash. -/
theorem Newest.localHash {version : Value} (newest : Newest app version) {ours : String} {latest : Value}
    (named : version.nonEmptyText? = some ours) (advertised : app.latestHash = some latest) :
    app.localHash ours = latest := by
  cases newest with
  | label =>
    obtain ⟨current, known, found⟩ := latestHash_eq_some_iff.mp advertised
    obtain ⟨listed, counts⟩ := hashOf?_eq_some_iff.mp found
    rw [known] at named
    obtain ⟨same, _⟩ := Value.nonEmptyText?_eq_some_iff.mp named
    cases same
    exact localHash_of_listed listed counts
  | hash advertised' itself =>
    obtain ⟨same, _⟩ := Value.nonEmptyText?_eq_some_iff.mp named
    cases same
    rw [localHash_of_namesItself itself]
    exact Option.some.inj (advertised'.symm.trans advertised)

/-- An app with the newest version has nothing to update. -/
theorem updatable_of_newest {version : Value} (newest : Newest app version)
    (number : ∀ latest, app.latestHash = some latest → latest.equal latest = true) (localNode : Value) :
    (app.withVersion version).updatable localNode = false := by
  rw [← Bool.not_eq_true, updatable_iff]
  rintro ⟨ours, latest, named, advertised, differ, _⟩
  rw [ourVersion_withVersion] at named
  rw [latestHash_withVersion] at advertised
  rw [localHash_withVersion, newest.localHash named advertised, number latest advertised] at differ
  cases differ

/-- Whatever update was due, an app that took it is up to date. -/
theorem upToDate_of_newest {version : Value} (newest : Newest app version)
    (number : ∀ latest, app.latestHash = some latest → latest.equal latest = true) {localNode launchPath : Value}
    (due : TileAction.resolve app localNode launchPath = .update) :
    TileAction.resolve (app.withVersion version) localNode launchPath = .upToDate := by
  obtain ⟨installed, pathless, _⟩ := TileAction.resolve_eq_update_iff.mp due
  exact TileAction.resolve_eq_upToDate installed pathless (app.downloaded_withVersion version)
    (updatable_of_newest newest number localNode)

end AppSnapshot

open AppSnapshot in
/-- Versions are compared by hash only, where no hash is a NaN: a label and its hash can stand for each other if that
names itself, and so can two labels with equal hashes. The newest version leaves nothing to update. What the node
itself has published is never updated. -/
theorem versions_compared_by_hash (app : AppSnapshot)
    (numbers : ∀ entry ∈ app.codeHashes, entry.2.Plain ∧ entry.2.isNaN = false) (localNode launchPath : Value) :
    (∀ version hash, version ≠ "" → hash ≠ "" → Entries.get? app.codeHashes version = some (.text hash) →
      app.NamesItself hash →
      OffersAlike (app.withVersion (.text version)) (app.withVersion (.text hash)) localNode launchPath) ∧
    (∀ version, app.Newest version →
      (app.withVersion version).updatable localNode = false ∧
      (TileAction.resolve app localNode launchPath = .update →
        TileAction.resolve (app.withVersion version) localNode launchPath = .upToDate)) ∧
    (∀ one two hash hash', one ≠ "" → two ≠ "" → Entries.get? app.codeHashes one = some hash →
      Entries.get? app.codeHashes two = some hash' → hash.truthy = true → hash'.truthy = true → hash.equal hash' = true →
      OffersAlike (app.withVersion (.text one)) (app.withVersion (.text two)) localNode launchPath) ∧
    (app.publisher.equal localNode = true → ∀ metadata,
      TileAction.resolve { app with metadata } localNode launchPath ≠ .update) := by
  have number : ∀ latest, app.latestHash = some latest → latest.equal latest = true := by
    intro latest advertised
    obtain ⟨version, _, found⟩ := latestHash_eq_some_iff.mp advertised
    obtain ⟨plain, number⟩ := numbers _ (Entries.mem_of_get? (hashOf?_eq_some_iff.mp found).1)
    exact plain.equal_self number
  refine ⟨?_, ?_, ?_, ?_⟩
  · intro version hash filled filled' listed itself
    have counts : (Value.text hash).truthy = true := by simpa [Value.truthy] using filled'
    refine offersAlike_of_localHash filled filled' (fun latest => ?_) localNode launchPath
    rw [localHash_of_listed listed counts, localHash_of_namesItself itself]
  · intro version newest
    exact ⟨updatable_of_newest newest number localNode, upToDate_of_newest newest number⟩
  · intro one two hash hash' filled filled' listed listed' counts counts' same
    obtain ⟨plain, _⟩ := numbers _ (Entries.mem_of_get? listed)
    obtain ⟨plain', _⟩ := numbers _ (Entries.mem_of_get? listed')
    refine offersAlike_of_localHash filled filled' (fun latest => ?_) localNode launchPath
    rw [localHash_of_listed listed counts, localHash_of_listed listed' counts']
    exact Value.equal_congr plain.1 plain'.1 same latest
  · intro own metadata due
    obtain ⟨_, _, updates⟩ := TileAction.resolve_eq_update_iff.mp due
    obtain ⟨_, _, _, _, _, foreign⟩ := updatable_iff.mp updates
    rw [own] at foreign
    cases foreign

open AppSnapshot in
/-- The hash of the newest version settles the update, and one and true are the same hash. -/
theorem versions_compared_by_mixed_hashes :
    let hashes : Fields :=
      [("v1", .text "h1"), ("v2", .text "h2"), ("h2", .text "h2"), ("a", .int 1), ("b", .bool true)]
    let app : AppSnapshot := {
      packageId := .text "p"
      installed := .bool true
      state := .object [("our_version", .text "v1")]
      metadata := .object [("properties", .object [("current_version", .text "v2"), ("code_hashes", .object hashes)])]
      publisher := .text "x" }
    TileAction.resolve app (.text "y") .null = .update ∧
      TileAction.resolve (app.withVersion (.text "h2")) (.text "y") .null = .upToDate ∧
      OffersAlike (app.withVersion (.text "v1")) (app.withVersion (.text "h1")) (.text "y") .null ∧
      OffersAlike (app.withVersion (.text "a")) (app.withVersion (.text "b")) (.text "y") .null := by
  intro hashes app
  have numbers : ∀ entry ∈ app.codeHashes, entry.2.Plain ∧ entry.2.isNaN = false := by
    show ∀ entry ∈ hashes, _
    simp [hashes, Value.Plain, Value.Proper, Value.settled, Value.isNaN]
  obtain ⟨labels, newest, equals, _⟩ := versions_compared_by_hash app numbers (.text "y") .null
  have due : TileAction.resolve app (.text "y") .null = .update := by decide
  have itself : app.NamesItself "h2" := by
    rintro listed ⟨⟩
    exact .inr (by decide)
  have unlisted : app.NamesItself "h1" := by
    rintro listed ⟨⟩
  exact ⟨due, (newest _ (.hash (by decide) itself)).2 due, labels "v1" "h1" (by decide) (by decide) rfl unlisted,
    equals "a" "b" (.int 1) (.bool true) (by decide) (by decide) rfl rfl rfl rfl (by decide)⟩

end HomeTiles
