import HomeTiles.LaunchPathCache
import HomeTiles.Proofs.SnapshotFields
import Mathlib.Data.List.Induction

/-!
# Launch listings: what a cache shows after any refreshes

A cache `Shows` the rows of a payload if each package has the path of its first
row and the packages stand in the order of their first rows, each once. A refresh
that brings a payload makes the cache show its rows (`shows_pathsOf`), and every
other one leaves the cache as it is (`refresh_cases`). So whatever came in between,
a cache shows the last payload that was brought (`shows_last_payload`).
-/

namespace HomeTiles

/-! ## Rows -/

namespace Listing

/-- A row gives a path for a package: both the package's name and the path are texts. -/
def Gives (row : Value) (package path : String) : Prop :=
  ∃ fields : Fields, row = .object fields ∧ fields.get? "package_name" = some (.text package) ∧
    fields.get? "path" = some (.text path)

/-- None of some rows gives a path for a package. -/
def Omit (rows : List Value) (package : String) : Prop := ∀ row ∈ rows, ∀ path, ¬Gives row package path

/-- The first of some rows that gives a path for a package gives this one. -/
def GivesFirst (rows : List Value) (package path : String) : Prop :=
  ∃ before row after, rows = before ++ row :: after ∧ Gives row package path ∧ Omit before package

/-- Some rows give a path for a package before they give one for another. -/
def GivesBefore (rows : List Value) (package other : String) : Prop :=
  ∃ before after, rows = before ++ after ∧ (∃ path, GivesFirst before package path) ∧ Omit before other

theorem entry?_eq_some_iff (row : Value) (entry : LaunchEntry) :
    entry? row = some entry ↔ Gives row entry.packageName entry.path := by
  obtain ⟨package, path⟩ := entry
  constructor
  · intro found
    unfold entry? at found
    split at found
    · next fields =>
      split at found
      · next name way named leads =>
        cases found
        exact ⟨fields, rfl, (Value.underName_eq_iff (by simp)).mp named, (Value.underName_eq_iff (by simp)).mp leads⟩
      · cases found
    · cases found
  · rintro ⟨fields, rfl, named, leads⟩
    have name : Value.underName fields "package_name" = .text package := (Value.underName_eq_iff (by simp)).mpr named
    have way : Value.underName fields "path" = .text path := (Value.underName_eq_iff (by simp)).mpr leads
    simp only [name, way, entry?]

theorem omit_concat_iff {rows : List Value} {row : Value} {package : String} :
    Omit (rows ++ [row]) package ↔ Omit rows package ∧ ∀ path, ¬Gives row package path := by
  simp only [Omit, List.mem_append, List.mem_singleton, or_imp, forall_and, forall_eq]

/-- The first row for a package is among the earlier ones, or it is the last. -/
theorem givesFirst_concat_iff {rows : List Value} {row : Value} {package path : String} :
    GivesFirst (rows ++ [row]) package path ↔
      GivesFirst rows package path ∨ (Omit rows package ∧ Gives row package path) := by
  constructor
  · rintro ⟨before, first, after, split, gives, omits⟩
    rcases List.eq_nil_or_concat after with rfl | ⟨rest, last, rfl⟩
    · obtain ⟨rfl, same⟩ := List.append_inj' split rfl
      cases same
      exact .inr ⟨omits, gives⟩
    · rw [List.concat_eq_append, ← List.cons_append, ← List.append_assoc] at split
      obtain ⟨rfl, -⟩ := List.append_inj' split rfl
      exact .inl ⟨before, first, rest, rfl, gives, omits⟩
  · rintro (⟨before, first, after, rfl, gives, omits⟩ | ⟨omits, gives⟩)
    · exact ⟨before, first, after ++ [row], by rw [List.append_assoc, List.cons_append], gives, omits⟩
    · exact ⟨rows, row, [], rfl, gives, omits⟩

theorem GivesBefore.append {rows : List Value} {package other : String} (gives : GivesBefore rows package other)
    (more : List Value) : GivesBefore (rows ++ more) package other := by
  obtain ⟨before, after, rfl, first, omits⟩ := gives
  exact ⟨before, after ++ more, List.append_assoc _ _ _, first, omits⟩

end Listing

namespace LaunchPathCache

open Listing

/-- A cache has the path of the first row for each package, and the packages in the order of their first rows. -/
structure Shows (cache : LaunchPathCache) (rows : List Value) : Prop where
  first : ∀ package path, cache.get? package = some path ↔ GivesFirst rows package path
  missing : ∀ package, cache.get? package = none ↔ Omit rows package
  listed : ∀ package, package ∈ cache.paths.names ↔ ∃ path, GivesFirst rows package path
  distinct : cache.paths.names.Nodup
  order : cache.paths.names.Pairwise (GivesBefore rows)

/-- The packages that are listed are those that have a path. -/
theorem mem_names_iff {cache : LaunchPathCache} {rows : List Value}
    (first : ∀ package path, cache.get? package = some path ↔ GivesFirst rows package path) (package : String) :
    package ∈ cache.paths.names ↔ ∃ path, GivesFirst rows package path := by
  rw [← not_iff_not, ← Entries.get?_eq_none_iff]
  simp only [← first]
  exact Option.eq_none_iff_forall_ne_some.trans not_exists.symm

theorem shows_nil (base : Value) : Shows ⟨base, []⟩ [] := by
  have first : ∀ package path, get? ⟨base, []⟩ package = some path ↔ GivesFirst [] package path :=
    fun package path => ⟨nofun, fun ⟨before, row, after, split, _⟩ => by simp at split⟩
  exact ⟨first, fun package => ⟨fun _ _ inside => (List.not_mem_nil inside).elim, fun _ => rfl⟩, mem_names_iff first,
    List.nodup_nil, .nil⟩

section Concat

variable {base : Value} {paths : Entries String} {rows : List Value} {row : Value}
  (shows : Shows ⟨base, paths⟩ rows)
include shows

/-- A row that gives nothing, or nothing for a package that has no path yet, changes nothing. -/
theorem Shows.concat_of_known (known : ∀ package path, Gives row package path → ∃ other, paths.get? package = some other) :
    Shows ⟨base, paths⟩ (rows ++ [row]) := by
  have apart : ∀ package path, Omit rows package → ¬Gives row package path := by
    intro package path omits gives
    obtain ⟨other, found⟩ := known package path gives
    have absent : paths.get? package = none := (shows.missing package).mpr omits
    rw [found] at absent
    cases absent
  have first : ∀ package path, get? ⟨base, paths⟩ package = some path ↔ GivesFirst (rows ++ [row]) package path := by
    intro package path
    rw [shows.first, givesFirst_concat_iff]
    exact ⟨.inl, fun gives => gives.resolve_right fun ⟨omits, gives⟩ => apart package path omits gives⟩
  refine ⟨first, fun package => ?_, mem_names_iff first, shows.distinct, shows.order.imp fun before => before.append [row]⟩
  rw [shows.missing, omit_concat_iff]
  exact ⟨fun omits => ⟨omits, fun path => apart package path omits⟩, And.left⟩

/-- A row for a package that has no path yet gives its path, and the package comes last. -/
theorem Shows.concat_of_new {entry : LaunchEntry} (gives : entry? row = some entry)
    (absent : paths.get? entry.packageName = none) :
    Shows ⟨base, paths.put entry.packageName entry.path⟩ (rows ++ [row]) := by
  have only : ∀ package path, Gives row package path ↔ package = entry.packageName ∧ path = entry.path := by
    intro package path
    have same := entry?_eq_some_iff row ⟨package, path⟩
    rw [← same, gives]
    obtain ⟨name, way⟩ := entry
    simp [eq_comm]
  have new : Omit rows entry.packageName := (shows.missing _).mp absent
  have names : (paths.put entry.packageName entry.path).names = paths.names ++ [entry.packageName] := by
    rw [Entries.names_put, if_neg (Entries.get?_eq_none_iff.mp absent)]
  have first : ∀ package path, get? ⟨base, paths.put entry.packageName entry.path⟩ package = some path ↔
      GivesFirst (rows ++ [row]) package path := by
    intro package path
    show (paths.put _ _).get? package = some path ↔ _
    rw [Entries.get?_put, givesFirst_concat_iff, only, ← shows.first]
    show _ ↔ paths.get? package = some path ∨ _
    split_ifs with same
    · subst same
      simp [absent, new, eq_comm]
    · simp [Ne.symm same]
  refine ⟨first, ?_, mem_names_iff first, ?_, ?_⟩
  · intro package
    show (paths.put _ _).get? package = none ↔ _
    simp only [Entries.get?_put, omit_concat_iff, only]
    split_ifs with same
    · simp [same]
    · simp only [Ne.symm same, false_and, not_false_eq_true, implies_true, and_true]
      exact shows.missing package
  · exact Entries.nodup_put shows.distinct _ _
  · show (paths.put _ _).names.Pairwise _
    rw [names, List.pairwise_append]
    refine ⟨shows.order.imp fun before => before.append [row], List.pairwise_singleton _ _, ?_⟩
    intro earlier inside last same
    rw [List.mem_singleton.mp same]
    exact ⟨rows, [row], rfl, (shows.listed earlier).mp inside, new⟩

end Concat

theorem pathsOf_concat (entries : List LaunchEntry) (entry : LaunchEntry) :
    pathsOf (entries ++ [entry]) = match (pathsOf entries).get? entry.packageName with
      | some _ => pathsOf entries
      | none => (pathsOf entries).put entry.packageName entry.path := by
  unfold pathsOf
  rw [List.foldl_append]
  rfl

/-- The paths of the entries in some rows show the rows. -/
theorem shows_pathsOf (base : Value) (rows : List Value) : Shows ⟨base, pathsOf (rows.filterMap entry?)⟩ rows := by
  induction rows using List.reverseRecOn with
  | nil => exact shows_nil base
  | append_singleton rows row ih =>
    rw [List.filterMap_append]
    cases gives : entry? row with
    | none =>
      rw [List.filterMap_cons_none gives, List.filterMap_nil, List.append_nil]
      refine ih.concat_of_known fun package path given => ?_
      rw [(entry?_eq_some_iff row ⟨package, path⟩).mpr given] at gives
      cases gives
    | some entry =>
      rw [List.filterMap_cons_some gives, List.filterMap_nil, pathsOf_concat]
      split
      · next path known =>
        refine ih.concat_of_known fun package path given => ?_
        rw [(entry?_eq_some_iff row ⟨package, path⟩).mpr given] at gives
        cases gives
        exact ⟨_, known⟩
      · next absent => exact ih.concat_of_new gives absent

/-! ## Refreshing -/

end LaunchPathCache

/-- A fault that is neither one of requests nor one of a value that cannot be used. -/
def FetchFault.IsForeign (fault : FetchFault) : Prop := fault = .noAddress ∨ ∃ message, fault = .aborted message

theorem FetchFault.isForeign_iff {fault : FetchFault} : fault.IsForeign ↔ fault.isRecoverable = false := by
  cases fault <;> simp [IsForeign, isRecoverable]

/-- A reply brings a payload: its status is no error and its body can be read. -/
def Reply.Brings (reply : Reply) (payload : Value) : Prop :=
  ∃ status reason body, reply = .answered status reason body ∧ ¬(400 ≤ status ∧ status < 600) ∧
    Value.read body = .ok payload

theorem Reply.Brings.unique {reply : Reply} {v w : Value} (one : reply.Brings v) (two : reply.Brings w) : v = w := by
  obtain ⟨status, reason, body, rfl, _, read⟩ := one
  obtain ⟨_, _, _, ⟨⟩, _, read'⟩ := two
  rw [read] at read'
  cases read'
  rfl

/-- The rows of a payload; one that is no array has none. -/
def Listing.rowsOf : Value → List Value
  | .array rows => rows
  | _ => []

theorem Listing.entries_eq (payload : Value) : entries payload = (rowsOf payload).filterMap entry? := by
  cases payload <;> rfl

theorem Listing.payload_ok_iff {address : String} {reply : Reply} {v : Value} :
    payload address reply = .ok v ↔ reply.Brings v := by
  constructor
  · intro came
    unfold payload at came
    split at came
    · cases came
    · next status reason body =>
      split_ifs at came with error
      split at came
      · next read =>
        cases came
        exact ⟨status, reason, body, rfl, error, read⟩
      · cases came
  · rintro ⟨status, reason, body, rfl, fine, read⟩
    simp only [payload, if_neg fine, read]

namespace LaunchPathCache
open Listing

/-- The request that a cache makes at a server's address. -/
def request (base : String) : Request := ⟨trimSlashes base ++ route, .int timeout⟩

section Refresh

variable {base : String} {cache : LaunchPathCache} (address : cache.base = .text base)
include address

/-- A refresh asks once, whatever comes of it: a payload takes the place of the last one, anything else leaves the cache,
and only what is foreign is passed on. -/
theorem refresh_cases (reply : Reply) :
    (∃ v, reply.Brings v ∧ cache.refresh reply =
      ⟨.ok true, { cache with paths := pathsOf ((rowsOf v).filterMap entry?) }, some (request base), []⟩) ∨
    (∀ v, ¬reply.Brings v) ∧ ((∃ fault, reply = .failed fault ∧ fault.IsForeign ∧
        cache.refresh reply = ⟨.error fault, cache, some (request base), []⟩) ∨
      (∀ fault, reply = .failed fault → ¬fault.IsForeign) ∧
        ∃ fault, cache.refresh reply = ⟨.ok false, cache, some (request base), [.refreshFailed cache.base fault]⟩) := by
  have fetched : fetch cache.base (.int timeout) reply =
      ((payload (request base).address reply).map entries, some (request base)) := by
    rw [address]
    rfl
  cases came : payload (request base).address reply with
  | ok v =>
    refine .inl ⟨v, payload_ok_iff.mp came, ?_⟩
    simp only [refresh, fetched, came, Except.map, entries_eq]
  | error fault =>
    have nothing : ∀ v, ¬reply.Brings v := by
      intro v brings
      rw [payload_ok_iff.mpr brings] at came
      cases came
    refine .inr ⟨nothing, ?_⟩
    cases reply with
    | failed stopped =>
      cases came
      by_cases foreign : fault.IsForeign
      · refine .inl ⟨fault, rfl, foreign, ?_⟩
        simp [refresh, fetched, payload, Except.map, FetchFault.isForeign_iff.mp foreign]
      · refine .inr ⟨?_, fault, ?_⟩
        · rintro stopped ⟨⟩
          exact foreign
        · have recoverable : fault.isRecoverable = true := by simpa [FetchFault.isForeign_iff] using foreign
          simp only [refresh, fetched, payload, Except.map, recoverable, if_true]
    | answered status reason body =>
      have recoverable : fault.isRecoverable = true := by
        simp only [payload] at came
        split_ifs at came
        · cases came
          rfl
        · split at came
          · cases came
          · cases came
            rfl
      refine .inr ⟨nofun, fault, ?_⟩
      simp only [refresh, fetched, came, Except.map, recoverable, if_true]

/-- What a refresh gives back. -/
theorem refresh_result (reply : Reply) :
    (cache.refresh reply).request = some (request base) ∧
    ((cache.refresh reply).result = .ok true ↔ ∃ payload, reply.Brings payload) ∧
    ((cache.refresh reply).result = .ok false ↔
      (∀ payload, ¬reply.Brings payload) ∧ ∀ fault, reply = .failed fault → ¬fault.IsForeign) ∧
    (∀ fault, (cache.refresh reply).result = .error fault ↔ reply = .failed fault ∧ fault.IsForeign) ∧
    ((cache.refresh reply).result ≠ .ok true → (cache.refresh reply).cache = cache) := by
  rcases refresh_cases address reply with ⟨v, brings, same⟩ | ⟨nothing, ⟨fault, rfl, foreign, same⟩ | ⟨known, fault, same⟩⟩
  · rw [same]
    refine ⟨rfl, ⟨fun _ => ⟨v, brings⟩, fun _ => rfl⟩, ⟨nofun, fun ⟨nothing, _⟩ => absurd brings (nothing v)⟩,
      fun fault => ⟨nofun, ?_⟩, fun other => absurd rfl other⟩
    rintro ⟨rfl, _⟩
    obtain ⟨_, _, _, ⟨⟩, _⟩ := brings
  · rw [same]
    refine ⟨rfl, ⟨nofun, fun ⟨v, brings⟩ => absurd brings (nothing v)⟩,
      ⟨nofun, fun ⟨_, known⟩ => absurd foreign (known fault rfl)⟩, fun other => ?_, fun _ => rfl⟩
    constructor
    · rintro ⟨⟩
      exact ⟨rfl, foreign⟩
    · rintro ⟨⟨⟩, _⟩
      rfl
  · rw [same]
    refine ⟨rfl, ⟨nofun, fun ⟨v, brings⟩ => absurd brings (nothing v)⟩, ⟨fun _ => ⟨nothing, known⟩, fun _ => rfl⟩,
      fun other => ⟨nofun, ?_⟩, fun _ => rfl⟩
    rintro ⟨stopped, foreign⟩
    exact absurd foreign (known other stopped)

end Refresh

end LaunchPathCache

/-! ## Runs of calls -/

/-- What is asked of a cache. -/
inductive CacheCall where
  | refresh (reply : Reply)
  | get (package : String)
  | paths
  /-- The caller changes paths that it was given before. -/
  | scribble (place : Nat) (changed : Entries String)

/-- A cache at work, the requests that it has made and the paths that its callers were given, as these have them now. -/
structure CacheRun where
  cache : LaunchPathCache
  requests : List Listing.Request := []
  given : List (Entries String) := []

namespace CacheCall

def act (run : CacheRun) : CacheCall → CacheRun
  | .refresh reply =>
    let refresh := run.cache.refresh reply
    { run with cache := refresh.cache, requests := run.requests ++ refresh.request.toList }
  | .get _ => run
  | .paths => { run with given := run.given ++ [run.cache.paths] }
  | .scribble place changed => { run with given := run.given.set place changed }

def actAll (calls : List CacheCall) (run : CacheRun) : CacheRun := calls.foldl act run

def isRefresh : CacheCall → Bool
  | .refresh _ => true
  | _ => false

/-- A call is a refresh whose reply brings a payload. -/
def Brings (call : CacheCall) (payload : Value) : Prop := ∃ reply, call = .refresh reply ∧ reply.Brings payload

/-- A payload is the last that some calls bring. -/
def BringLast (calls : List CacheCall) (payload : Value) : Prop :=
  ∃ before call after, calls = before ++ call :: after ∧ call.Brings payload ∧ ∀ later ∈ after, ∀ v, ¬later.Brings v

theorem Brings.unique {call : CacheCall} {v w : Value} (one : call.Brings v) (two : call.Brings w) : v = w := by
  obtain ⟨reply, rfl, first⟩ := one
  obtain ⟨_, ⟨⟩, second⟩ := two
  exact first.unique second

theorem bringLast_concat_iff {calls : List CacheCall} {call : CacheCall} {payload : Value} :
    BringLast (calls ++ [call]) payload ↔
      call.Brings payload ∨ ((∀ v, ¬call.Brings v) ∧ BringLast calls payload) := by
  constructor
  · rintro ⟨before, bringer, after, split, brings, last⟩
    rcases List.eq_nil_or_concat after with rfl | ⟨rest, final, rfl⟩
    · obtain ⟨rfl, same⟩ := List.append_inj' split rfl
      cases same
      exact .inl brings
    · rw [List.concat_eq_append, ← List.cons_append, ← List.append_assoc] at split
      obtain ⟨rfl, same⟩ := List.append_inj' split rfl
      cases same
      rw [List.concat_eq_append, List.forall_mem_append, List.forall_mem_singleton] at last
      exact .inr ⟨last.2, before, bringer, rest, rfl, brings, last.1⟩
  · rintro (brings | ⟨nothing, before, bringer, after, rfl, brings, last⟩)
    · exact ⟨calls, call, [], rfl, brings, nofun⟩
    · refine ⟨before, bringer, after ++ [call], by rw [List.append_assoc, List.cons_append], brings, ?_⟩
      rw [List.forall_mem_append, List.forall_mem_singleton]
      exact ⟨last, nothing⟩

/-- A call that brings a payload makes the cache show its rows, any other leaves the cache; a refresh makes one request. -/
theorem act_cases {base : String} {run : CacheRun} (address : run.cache.base = .text base) (call : CacheCall) :
    ((∃ v, call.Brings v ∧ (act run call).cache.base = .text base ∧ (act run call).cache.Shows (Listing.rowsOf v)) ∨
      (∀ v, ¬call.Brings v) ∧ (act run call).cache = run.cache) ∧
    (act run call).requests = run.requests ++ if call.isRefresh then [LaunchPathCache.request base] else [] := by
  cases call with
  | refresh reply =>
    have asked : (act run (.refresh reply)).requests = run.requests ++ [LaunchPathCache.request base] := by
      rw [act, (LaunchPathCache.refresh_result address reply).1]
      rfl
    refine ⟨?_, asked⟩
    rcases LaunchPathCache.refresh_cases address reply with ⟨v, brings, same⟩ | ⟨nothing, _⟩
    · left
      rw [act, same]
      exact ⟨v, ⟨reply, rfl, brings⟩, address, LaunchPathCache.shows_pathsOf _ _⟩
    · refine .inr ⟨?_, (LaunchPathCache.refresh_result address reply).2.2.2.2 ?_⟩
      · rintro v ⟨_, ⟨⟩, brings⟩
        exact nothing v brings
      · intro worked
        obtain ⟨v, brings⟩ := (LaunchPathCache.refresh_result address reply).2.1.mp worked
        exact nothing v brings
  | _ =>
    refine ⟨.inr ⟨?_, rfl⟩, (List.append_nil _).symm⟩
    rintro v ⟨_, ⟨⟩, _⟩

/-- A cache that some calls have left: it shows the last payload that they brought and has asked once for each refresh. -/
structure Served (base : String) (calls : List CacheCall) (run : CacheRun) : Prop where
  address : run.cache.base = .text base
  shows : ∀ payload, BringLast calls payload → run.cache.Shows (Listing.rowsOf payload)
  empty : (∀ payload, ¬BringLast calls payload) → run.cache.Shows []
  requests : run.requests = List.replicate (calls.countP isRefresh) (LaunchPathCache.request base)

theorem Served.act {base : String} {calls : List CacheCall} {run : CacheRun} (served : Served base calls run)
    (call : CacheCall) : Served base (calls ++ [call]) (act run call) := by
  obtain ⟨came, asked⟩ := act_cases served.address call
  have requests : (CacheCall.act run call).requests =
      List.replicate ((calls ++ [call]).countP isRefresh) (LaunchPathCache.request base) := by
    rw [asked, served.requests, List.countP_append, List.countP_singleton, List.replicate_add]
    cases call.isRefresh <;> rfl
  rcases came with ⟨v, brings, address, shows⟩ | ⟨nothing, same⟩
  · refine ⟨address, fun payload last => ?_, fun none => ?_, requests⟩
    · rcases bringLast_concat_iff.mp last with brings' | ⟨nothing, _⟩
      · rwa [brings'.unique brings]
      · exact absurd brings (nothing v)
    · exact absurd (bringLast_concat_iff.mpr (.inl brings)) (none v)
  · refine ⟨by rw [same]; exact served.address, fun payload last => ?_, fun none => ?_, requests⟩
    · rw [same]
      rcases bringLast_concat_iff.mp last with brings | ⟨_, last⟩
      · exact absurd brings (nothing payload)
      · exact served.shows payload last
    · rw [same]
      exact served.empty fun payload last => none payload (bringLast_concat_iff.mpr (.inr ⟨nothing, last⟩))

theorem served_actAll (base : String) (calls : List CacheCall) :
    Served base calls (actAll calls { cache := { base := .text base } }) := by
  induction calls using List.reverseRecOn with
  | nil =>
    refine ⟨rfl, ?_, fun _ => LaunchPathCache.shows_nil _, rfl⟩
    rintro payload ⟨before, call, after, split, _⟩
    simp at split
  | append_singleton calls call ih =>
    rw [actAll, List.foldl_append]
    exact ih.act call

end CacheCall

open CacheCall in
/-- Whatever was asked of a cache, it shows the rows of the last payload that a refresh brought, none if none did; what
callers do to the paths that they were given does not matter. Every refresh makes one request. It gives true just when
its reply brings a payload, passes a foreign fault on, and gives false otherwise; then the cache is as before. -/
theorem shows_last_payload (base : String) (calls : List CacheCall) :
    let run := actAll calls { cache := { base := .text base } }
    let request := LaunchPathCache.request base
    (∀ payload, BringLast calls payload → run.cache.Shows (Listing.rowsOf payload)) ∧
    ((∀ payload, ¬BringLast calls payload) → run.cache.Shows []) ∧
    run.requests = List.replicate (calls.countP isRefresh) request ∧
    ∀ reply,
      let next := run.cache.refresh reply
      next.request = some request ∧
      (next.result = .ok true ↔ ∃ payload, reply.Brings payload) ∧
      (next.result = .ok false ↔
        (∀ payload, ¬reply.Brings payload) ∧ ∀ fault, reply = .failed fault → ¬fault.IsForeign) ∧
      (∀ fault, next.result = .error fault ↔ reply = .failed fault ∧ fault.IsForeign) ∧
      (next.result ≠ .ok true → next.cache = run.cache) := by
  intro run request
  obtain ⟨address, shows, empty, requests⟩ := served_actAll base calls
  exact ⟨shows, empty, requests, LaunchPathCache.refresh_result address⟩

/-- The second row of a package does not count, and a refresh that fails leaves its first one. -/
example :
    let listing := "[\x7b\"package_name\": \"p\", \"path\": \"/1\"\x7d, 5, \x7b\"package_name\": \"p\", \"path\": \"/2\"\x7d]"
    let calls : List CacheCall :=
      [.refresh (.answered 200 none listing), .paths, .scribble 0 [], .refresh (.answered 503 none "[]")]
    (CacheCall.actAll calls { cache := { base := .text "node/" } }).cache.paths = [("p", "/1")] := by
  decide +kernel

end HomeTiles
