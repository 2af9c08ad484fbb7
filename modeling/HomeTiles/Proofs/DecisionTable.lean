import HomeTiles.Proofs.SnapshotFields

/-!
# The decision table of a tile

What a tile offers is `Decided` by a table of rules, of which the first that
applies counts. The conditions speak of the values that a snapshot was `Made` of,
whatever kinds these are (`UpdateDue`). Only an app that was downloaded can be
due for an update, so below launching no two rules apply at once and they can be
asked in any order (`decision_table`).
-/

namespace HomeTiles

/-! ## Tables -/

/-- An action and the condition for it. -/
structure Rule where
  condition : Prop
  action : TileAction

/-- The first rule that applies decides on its action; `otherwise` is left if none does. -/
def Decided (otherwise : TileAction) : List Rule → TileAction → Prop
  | [], action => action = otherwise
  | rule :: rest, action => (rule.condition ∧ action = rule.action) ∨ (¬rule.condition ∧ Decided otherwise rest action)

/-- No two of some rules apply at once. -/
def Exclusive (rules : List Rule) : Prop := rules.Pairwise fun rule other => ¬(rule.condition ∧ other.condition)

theorem decided_iff_of_exclusive {rules : List Rule} (exclusive : Exclusive rules) (otherwise action : TileAction) :
    Decided otherwise rules action ↔ (∃ rule ∈ rules, rule.condition ∧ action = rule.action) ∨
      (∀ rule ∈ rules, ¬rule.condition) ∧ action = otherwise := by
  induction rules with
  | nil => simp [Decided]
  | cons rule rest ih =>
    obtain ⟨alone, exclusive⟩ := List.pairwise_cons.mp exclusive
    rw [Decided, ih exclusive, List.forall_mem_cons]
    by_cases applies : rule.condition
    · -- the rules behind one that applies do not apply
      have silent : ¬∃ other ∈ rest, other.condition ∧ action = other.action :=
        fun ⟨other, inside, both, _⟩ => alone other inside ⟨applies, both⟩
      simp [applies, silent]
    · simp [applies]

/-- The order of rules that exclude one another does not matter. -/
theorem decided_iff_of_perm {rules others : List Rule} (exclusive : Exclusive rules) (order : others.Perm rules)
    (otherwise action : TileAction) : Decided otherwise others action ↔ Decided otherwise rules action := by
  have exclusive' : Exclusive others :=
    exclusive.perm order.symm fun apart both => apart both.symm
  rw [decided_iff_of_exclusive exclusive, decided_iff_of_exclusive exclusive']
  simp only [order.mem_iff]

/-- A rule may ask as well that the one before it does not apply. -/
theorem decided_iff_of_asking (rule next : Rule) {rest : List Rule} {otherwise action : TileAction} :
    Decided otherwise (rule :: ⟨¬rule.condition ∧ next.condition, next.action⟩ :: rest) action ↔
      Decided otherwise (rule :: next :: rest) action := by
  by_cases applies : rule.condition <;> simp [Decided, applies]

/-- The table of a tile, in terms of what the flags stand for. -/
theorem TileFlags.decided_action {flags : TileFlags} {launchable : Bool} {installed opens due absent : Prop}
    (installs : flags.installed = true ↔ installed) (launches : launchable = true ↔ opens)
    (updates : flags.updatable = true ↔ due) (misses : flags.downloaded = false ↔ absent) :
    Decided .upToDate
      [⟨installed ∧ opens, .launch⟩, ⟨installed ∧ due, .update⟩, ⟨absent, .download⟩, ⟨¬installed, .install⟩]
      (flags.action launchable) := by
  obtain rfl := propext installs
  obtain rfl := propext launches
  obtain rfl := propext updates
  obtain rfl := propext misses
  obtain ⟨installed, downloaded, updatable⟩ := flags
  cases launchable <;> cases installed <;> cases downloaded <;> cases updatable <;> simp [Decided, action]

/-! ## Single actions -/

theorem TileAction.resolve_eq_launch_iff {app : AppSnapshot} {localNode launchPath : Value} :
    resolve app localNode launchPath = .launch ↔
      app.installed.truthy = true ∧ ∃ path, launchPath = .text path ∧ path ≠ "" := by
  rw [← Value.isSome_nonEmptyText?_iff]
  unfold resolve AppSnapshot.flags TileFlags.action
  cases launchPath.nonEmptyText? <;> cases app.installed.truthy <;> cases app.updatable localNode <;>
    cases app.downloaded <;> simp

theorem TileAction.resolve_eq_update_iff {app : AppSnapshot} {localNode launchPath : Value} :
    resolve app localNode launchPath = .update ↔
      app.installed.truthy = true ∧ launchPath.nonEmptyText? = none ∧ app.updatable localNode = true := by
  unfold resolve AppSnapshot.flags TileFlags.action
  cases launchPath.nonEmptyText? <;> cases app.installed.truthy <;> cases app.updatable localNode <;>
    cases app.downloaded <;> simp

theorem TileAction.resolve_eq_upToDate {app : AppSnapshot} {localNode launchPath : Value}
    (installed : app.installed.truthy = true) (pathless : launchPath.nonEmptyText? = none)
    (downloaded : app.downloaded = true) (current : app.updatable localNode = false) :
    resolve app localNode launchPath = .upToDate := by
  simp [resolve, AppSnapshot.flags, TileFlags.action, installed, pathless, downloaded, current]

/-- Whether an update is due matters only for an installed app without a launch path. -/
theorem TileAction.resolve_eq_of_idle {app other : AppSnapshot} {localNode launchPath : Value}
    (installed : app.installed = other.installed) (downloaded : app.downloaded = other.downloaded)
    (idle : app.installed.truthy = true → launchPath.nonEmptyText? ≠ none) :
    resolve app localNode launchPath = resolve other localNode launchPath := by
  unfold resolve AppSnapshot.flags TileFlags.action
  rw [← installed, ← downloaded]
  cases there : app.installed.truthy with
  | false => rfl
  | true =>
    obtain ⟨path, found⟩ := Option.ne_none_iff_exists'.mp (idle there)
    rw [found]
    rfl

/-- What is offered in place of launching is what is offered without a launch path. -/
theorem TileAction.resolve_of_ne_launch {app : AppSnapshot} {localNode launchPath : Value}
    (other : resolve app localNode launchPath ≠ .launch) :
    resolve app localNode launchPath = resolve app localNode .null := by
  revert other
  unfold resolve TileFlags.action
  cases launchPath.nonEmptyText? <;> cases (app.flags localNode).installed <;> simp [Value.nonEmptyText?]

/-! ## Conditions on raw values -/

/-- What a version stands for among some hashes: the one listed for it, unless that counts as false, and else itself. -/
inductive StandsFor (hashes : Value) (version : String) : Value → Prop where
  | listed {hash : Value} (found : hashes.Has version hash) (counts : hash.truthy = true) : StandsFor hashes version hash
  | itself (unlisted : ∀ hash, hashes.Has version hash → hash.truthy = false) : StandsFor hashes version (.text version)

/-- An app's state and metadata name two versions that stand for different hashes, and its publisher is not the node. -/
def UpdateDue (state metadata publisher localNode : Value) : Prop :=
  ∃ (version current : String) (properties hashes own latest : Value),
    (state.Has "our_version" (.text version) ∧ version ≠ "") ∧
    metadata.Has "properties" properties ∧
    (properties.Has "current_version" (.text current) ∧ current ≠ "") ∧
    properties.Has "code_hashes" hashes ∧ (hashes.Has current latest ∧ latest.truthy = true) ∧
    StandsFor hashes version own ∧ own.equal latest = false ∧ publisher.equal localNode = false

theorem Value.Has.unique {v w u : Value} {key : String} (one : v.Has key w) (two : v.Has key u) : w = u := by
  obtain ⟨fields, rfl, found⟩ := one
  obtain ⟨_, ⟨⟩, found'⟩ := two
  rw [found] at found'
  cases found'
  rfl

theorem StandsFor.unique {hashes own other : Value} {version : String} (one : StandsFor hashes version own)
    (two : StandsFor hashes version other) : own = other := by
  cases one with
  | listed found counts => cases two with
    | listed found' _ => exact found.unique found'
    | itself unlisted =>
      rw [unlisted _ found] at counts
      cases counts
  | itself unlisted => cases two with
    | listed found' counts =>
      rw [unlisted _ found'] at counts
      cases counts
    | itself _ => rfl

/-- An object under a name is passed on by whatever has the same entries. -/
theorem UpdateDue.of_has {state metadata other publisher localNode : Value}
    (same : ∀ properties, metadata.Has "properties" properties → other.Has "properties" properties)
    (due : UpdateDue state metadata publisher localNode) : UpdateDue state other publisher localNode := by
  obtain ⟨version, current, properties, hashes, own, latest, ours, there, rest⟩ := due
  exact ⟨version, current, properties, hashes, own, latest, ours, same properties there, rest⟩

namespace AppSnapshot

variable {app : AppSnapshot}

theorem standsFor_localHash {hashes : Value} (listing : ∀ version hash,
    Entries.get? app.codeHashes version = some hash ↔ hashes.Has version hash) (version : String) :
    StandsFor hashes version (app.localHash version) := by
  unfold localHash
  cases found : app.hashOf? version with
  | none =>
    refine .itself fun hash has => ?_
    exact hashOf?_eq_none_iff.mp found hash ((listing version hash).mpr has)
  | some hash =>
    obtain ⟨found, counts⟩ := hashOf?_eq_some_iff.mp found
    exact .listed ((listing version hash).mp found) counts

/-- The flag for an update says what the raw values say. -/
theorem updatable_iff_updateDue {localNode : Value} :
    app.updatable localNode = true ↔ UpdateDue app.state app.metadata app.publisher localNode := by
  have listing : ∀ {properties hashes}, app.metadata.Has "properties" properties → properties.Has "code_hashes" hashes →
      ∀ version hash, Entries.get? app.codeHashes version = some hash ↔ hashes.Has version hash := by
    intro properties hashes there listed version hash
    rw [get?_codeHashes_iff]
    constructor
    · rintro ⟨properties', hashes', there', listed', found⟩
      cases there.unique there'
      cases listed.unique listed'
      exact found
    · intro found
      exact ⟨properties, hashes, there, listed, found⟩
  rw [updatable_iff]
  constructor
  · rintro ⟨version, latest, ours, advertised, differ, foreign⟩
    obtain ⟨current, known, found⟩ := latestHash_eq_some_iff.mp advertised
    obtain ⟨found, counts⟩ := hashOf?_eq_some_iff.mp found
    obtain ⟨properties, hashes, there, listed, has⟩ := get?_codeHashes_iff.mp found
    obtain ⟨⟨properties', there', named⟩, filled⟩ := currentVersion_eq_some_iff.mp known
    cases there.unique there'
    exact ⟨version, current, properties, hashes, app.localHash version, latest, ourVersion_eq_some_iff.mp ours, there,
      ⟨named, filled⟩, listed, ⟨has, counts⟩, standsFor_localHash (listing there listed) version, differ, foreign⟩
  · rintro ⟨version, current, properties, hashes, own, latest, ours, there, ⟨named, filled⟩, listed, ⟨has, counts⟩, stands,
      differ, foreign⟩
    have known : app.currentVersion = some current :=
      currentVersion_eq_some_iff.mpr ⟨⟨properties, there, named⟩, filled⟩
    have found : app.hashOf? current = some latest :=
      hashOf?_eq_some_iff.mpr ⟨(listing there listed current latest).mpr has, counts⟩
    have same : own = app.localHash version := stands.unique (standsFor_localHash (listing there listed) version)
    exact ⟨version, latest, ourVersion_eq_some_iff.mpr ours, latestHash_eq_some_iff.mpr ⟨current, known, found⟩,
      same ▸ differ, foreign⟩

/-! ## Snapshots made of raw values -/

/-- A snapshot is made of some fields: as they are, or as a catalogue entry. -/
def Made (fields : Fields) (app : AppSnapshot) : Prop := ofFields fields = .ok app ∨ ofCatalogue (.object fields) = .ok app

theorem has_metadataOf_iff {v w : Value} {key : String} : (metadataOf v).Has key w ↔ v.Has key w := by
  unfold metadataOf
  split_ifs with object
  · exact Iff.rfl
  · constructor
    · rintro ⟨_, ⟨⟩, _⟩
    · rintro ⟨fields, rfl, _⟩
      exact absurd rfl object

variable {fields : Fields}

theorem Made.installed (made : Made fields app) :
    app.installed.truthy = (Value.underName fields "installed").truthy := by
  rcases made with direct | listed
  · obtain ⟨_, _, rfl⟩ := ofFields_ok_iff.mp direct
    exact (Value.truthy_underName fields "installed").symm
  · obtain ⟨_, _, _, _, rfl⟩ := ofCatalogue_ok_iff.mp listed
    rfl

theorem Made.metadata (made : Made fields app) (key : String) (w : Value) :
    app.metadata.Has key w ↔ (Value.underName fields "metadata").Has key w := by
  rcases made with direct | listed
  · obtain ⟨_, _, rfl⟩ := ofFields_ok_iff.mp direct
    exact Iff.rfl
  · obtain ⟨_, _, _, _, rfl⟩ := ofCatalogue_ok_iff.mp listed
    exact has_metadataOf_iff

theorem exists_ofFields (named : "package_id" ∈ Entries.names fields) : ∃ app, ofFields fields = .ok app := by
  cases found : Entries.get? fields "package_id" with
  | none => exact absurd named (Entries.get?_eq_none_iff.mp found)
  | some packageId => exact ⟨_, ofFields_ok_iff.mpr ⟨packageId, found, rfl⟩⟩

end AppSnapshot

open AppSnapshot in
/-- Whatever values a snapshot is made of and is asked with, the first rule of the table decides on the action. An app
that is due for an update was downloaded, so the rules below launching exclude one another once installing asks for that
too, and every order of them decides alike. Fields that name a package make a snapshot, and so does every catalogue entry
whose package and publisher can be shown. -/
theorem decision_table (fields : Fields) (localNode launchPath : Value) :
    (∀ app, Made fields app →
      let installed := (Value.underName fields "installed").truthy = true
      let due := UpdateDue app.state (Value.underName fields "metadata") app.publisher localNode
      let launch : Rule := ⟨installed ∧ ∃ path, launchPath = .text path ∧ path ≠ "", .launch⟩
      let update : Rule := ⟨installed ∧ due, .update⟩
      let download : Rule := ⟨app.state = .null, .download⟩
      let install : Rule := ⟨¬installed, .install⟩
      let installLoaded : Rule := ⟨app.state ≠ .null ∧ ¬installed, .install⟩
      let action := TileAction.resolve app localNode launchPath
      Decided .upToDate [launch, update, download, install] action ∧
      (due → app.state ≠ .null) ∧
      Exclusive [update, download, installLoaded] ∧
      ∀ below, below.Perm [update, download, installLoaded] → Decided .upToDate (launch :: below) action) ∧
    ("package_id" ∈ Entries.names fields → ∃ app, ofFields fields = .ok app) ∧
    ∀ fault, ofCatalogue (.object fields) = .error fault ↔ fault = .tooManyDigits ∧
      ((identifier fields).HasLongInteger ∨ (Value.underName fields "publisher").HasLongInteger) := by
  refine ⟨?_, exists_ofFields, fun fault => ofCatalogue_error_iff⟩
  intro app made installed due launch update download install installLoaded action
  have updates : app.updatable localNode = true ↔ due := by
    rw [updatable_iff_updateDue]
    exact ⟨.of_has fun properties => (made.metadata _ _).mp, .of_has fun properties => (made.metadata _ _).mpr⟩
  have misses : app.downloaded = false ↔ app.state = .null := by simp [downloaded]
  have loaded : due → app.state ≠ .null := by
    intro asked absent
    have present := downloaded_of_updatable (updates.mpr asked)
    rw [misses.mpr absent] at present
    cases present
  have table : Decided .upToDate [launch, update, download, install] action :=
    TileFlags.decided_action (by rw [flags, made.installed]) Value.isSome_nonEmptyText?_iff updates misses
  have exclusive : Exclusive [update, download, installLoaded] := by
    simp only [Exclusive, List.pairwise_cons, List.forall_mem_cons, List.not_mem_nil, false_implies, implies_true,
      List.Pairwise.nil, and_true]
    exact ⟨⟨fun both => loaded both.1.2 both.2, fun both => both.2.2 both.1.1⟩, fun both => both.2.1 both.1⟩
  have asking : Decided .upToDate [download, installLoaded] action ↔ Decided .upToDate [download, install] action :=
    decided_iff_of_asking download install
  have asked : Decided .upToDate [launch, update, download, installLoaded] action := by
    rw [Decided, Decided] at table ⊢
    rwa [asking]
  refine ⟨table, loaded, exclusive, fun below order => ?_⟩
  exact asked.imp_right (And.imp_right (decided_iff_of_perm exclusive order _ _).mpr)

end HomeTiles
