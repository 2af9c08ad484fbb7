import HomeTiles.Proofs.DecisionTable
import HomeTiles.Proofs.LaunchListings

/-!
# Launching from a cache

What a tile offers with the launch path that a cache has for its app, whatever
refreshes the cache has seen. A path is there if the last listing that was
brought gives one (`get?_eq_some_iff`), under the package that the catalogue
entry names (`NamesPackage`). Nothing but launching hangs on the cache (`decisions_over_runs`).
-/

namespace HomeTiles

/-! ## The package of a catalogue entry -/

/-- The package that a catalogue entry names: the first of its two names that counts as true, shown as text, and the
empty text if neither does. -/
inductive NamesPackage (entry : Fields) : String → Prop where
  | package {shown : String} (counts : (Value.underName entry "package").truthy = true)
    (text : (Value.underName entry "package").shown? = some shown) : NamesPackage entry shown
  | packageId {shown : String} (absent : (Value.underName entry "package").truthy = false)
    (counts : (Value.underName entry "package_id").truthy = true)
    (text : (Value.underName entry "package_id").shown? = some shown) : NamesPackage entry shown
  | nothing (absent : (Value.underName entry "package").truthy = false)
    (absent' : (Value.underName entry "package_id").truthy = false) : NamesPackage entry ""

theorem AppSnapshot.exists_namesPackage {entry : Fields} {packageId : Value}
    (made : textOf (identifier entry) = .ok packageId) : ∃ package, NamesPackage entry package ∧ packageId = .text package := by
  unfold identifier at made
  split_ifs at made with counts
  · rcases textOf_ok_iff.mp made with ⟨_, shown, text, same⟩ | ⟨empty, _⟩
    · exact ⟨shown, .package counts text, same⟩
    · rw [counts] at empty
      cases empty
  · have absent := Bool.eq_false_iff.mpr counts
    rcases textOf_ok_iff.mp made with ⟨counts', shown, text, same⟩ | ⟨empty, same⟩
    · exact ⟨shown, .packageId absent counts' text, same⟩
    · exact ⟨"", .nothing absent empty, same⟩

/-! ## Paths and actions -/

/-- After any calls a cache has a path for a package just when the last listing that was brought gives it first. -/
theorem CacheCall.Served.get?_eq_some_iff {base : String} {calls : List CacheCall} {run : CacheRun}
    (served : Served base calls run) (package path : String) : run.cache.get? package = some path ↔
      ∃ payload, BringLast calls payload ∧ Listing.GivesFirst (Listing.rowsOf payload) package path := by
  constructor
  · intro found
    by_cases brought : ∃ payload, BringLast calls payload
    · obtain ⟨payload, last⟩ := brought
      exact ⟨payload, last, ((served.shows payload last).first package path).mp found⟩
    · obtain ⟨before, row, after, split, _⟩ :=
        ((served.empty (not_exists.mp brought)).first package path).mp found
      simp at split
  · rintro ⟨payload, last, gives⟩
    exact ((served.shows payload last).first package path).mpr gives

namespace LaunchPathCache

variable {cache : LaunchPathCache} {app : AppSnapshot} {package : String}

theorem resolve_of_package (identity : app.packageId = .text package) (localNode : Value) :
    cache.resolve app localNode = .ok (cache.get? package,
      TileAction.resolve app localNode (Value.ofOption ((cache.get? package).map .text))) := by
  rw [resolve, identity]
  rfl

theorem ofOption_eq_text_iff {path? : Option String} {path : String} :
    Value.ofOption (path?.map .text) = .text path ↔ path? = some path := by
  cases path? <;> simp [Value.ofOption]

end LaunchPathCache

open CacheCall in
/-- Whatever refreshes a cache has seen, the tile of a catalogue entry offers to launch just when the app is installed
and the first row for its package in the last listing that was brought has a path with something in it. Any other action
is the one without a launch path, so that all caches agree on it, and a refresh that fails changes no action. -/
theorem decisions_over_runs (base : String) (calls : List CacheCall) (entry : Fields) (app : AppSnapshot)
    (made : AppSnapshot.ofCatalogue (.object entry) = .ok app) (localNode : Value) :
    let cache := (actAll calls { cache := { base := .text base } }).cache
    ∃ package action, NamesPackage entry package ∧ app.packageId = .text package ∧
      cache.resolve app localNode = .ok (cache.get? package, action) ∧
      (action = .launch ↔ (Value.underName entry "installed").truthy = true ∧ ∃ payload path,
        BringLast calls payload ∧ Listing.GivesFirst (Listing.rowsOf payload) package path ∧ path ≠ "") ∧
      (action ≠ .launch → action = TileAction.resolve app localNode .null ∧
        ∀ (other : LaunchPathCache) path? action', other.resolve app localNode = .ok (path?, action') →
          action' ≠ .launch → action' = action) ∧
      ∀ reply, (cache.refresh reply).result ≠ .ok true →
        ∀ anyApp anyNode, (cache.refresh reply).cache.resolve anyApp anyNode = cache.resolve anyApp anyNode := by
  intro cache
  have served := served_actAll base calls
  obtain ⟨packageId, publisher, named, _, same⟩ := AppSnapshot.ofCatalogue_ok_iff.mp made
  obtain ⟨package, named', rfl⟩ := AppSnapshot.exists_namesPackage named
  have identity : app.packageId = .text package := by rw [same]
  have installed : app.installed.truthy = (Value.underName entry "installed").truthy :=
    AppSnapshot.Made.installed (.inr made)
  refine ⟨package, _, named', identity, LaunchPathCache.resolve_of_package identity localNode, ?_, ?_, ?_⟩
  · rw [TileAction.resolve_eq_launch_iff, installed]
    simp only [LaunchPathCache.ofOption_eq_text_iff]
    refine and_congr_right fun _ => ⟨?_, ?_⟩
    · rintro ⟨path, found, filled⟩
      obtain ⟨payload, last, gives⟩ := (served.get?_eq_some_iff package path).mp found
      exact ⟨payload, path, last, gives, filled⟩
    · rintro ⟨payload, path, last, gives, filled⟩
      exact ⟨path, (served.get?_eq_some_iff package path).mpr ⟨payload, last, gives⟩, filled⟩
  · intro elsewhere
    have pathless := TileAction.resolve_of_ne_launch elsewhere
    refine ⟨pathless, fun other path? action' resolved elsewhere' => ?_⟩
    rw [LaunchPathCache.resolve_of_package identity] at resolved
    cases resolved
    rw [pathless]
    exact TileAction.resolve_of_ne_launch elsewhere'
  · intro reply failed anyApp anyNode
    rw [(LaunchPathCache.refresh_result served.address reply).2.2.2.2 failed]

open CacheCall in
/-- The second row of a package does not count, and neither does a refresh that fails. -/
theorem launched_from_stale_listing :
    let listing := "[5, \x7b\"package_name\": \"7\", \"path\": \"/1\"\x7d, \x7b\"package_name\": \"7\", \"path\": \"\"\x7d]"
    let calls : List CacheCall := [.refresh (.answered 200 none listing), .refresh (.answered 503 none "[]")]
    let cache := (actAll calls { cache := { base := .text "node/" } }).cache
    let entry : Fields := [("package", .int 7), ("installed", .text "yes"), ("publisher", .null)]
    ∃ app, AppSnapshot.ofCatalogue (.object entry) = .ok app ∧
      cache.resolve app (.text "me") = .ok (some "/1", .launch) := by
  intro listing calls cache entry
  let app : AppSnapshot := ⟨.text "7", .bool true, .null, .null, .text ""⟩
  let rows : List Value := [.int 5, .object [("package_name", .text "7"), ("path", .text "/1")],
    .object [("package_name", .text "7"), ("path", .text "")]]
  have made : AppSnapshot.ofCatalogue (.object entry) = .ok app := by decide +kernel
  have read : Value.read listing = .ok (.array rows) := by decide +kernel
  have last : BringLast calls (.array rows) := by
    refine ⟨[], _, _, rfl, ⟨_, rfl, 200, none, listing, rfl, by decide, read⟩, ?_⟩
    rintro later inside v ⟨reply, rfl, status, reason, body, rfl, fine, _⟩
    cases List.mem_singleton.mp inside
    exact fine (by decide)
  have gives : Listing.GivesFirst rows "7" "/1" := by
    refine ⟨[.int 5], _, _, rfl, ⟨_, rfl, rfl, rfl⟩, ?_⟩
    rintro row inside path ⟨fields, rfl, _⟩
    cases List.mem_singleton.mp inside
  obtain ⟨package, action, _, identity, resolved, launches, _⟩ :=
    decisions_over_runs "node/" calls entry app made (.text "me")
  cases identity
  have path : cache.get? "7" = some "/1" := by decide +kernel
  rw [path, launches.mpr ⟨rfl, .array rows, "/1", last, gives, by decide⟩] at resolved
  exact ⟨app, made, resolved⟩

end HomeTiles
