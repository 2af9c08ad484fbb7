import HomeTiles.Listing
import HomeTiles.Notices
import HomeTiles.TileAction

/-!
# The launch path cache: paths by package from the last good listing

A refresh fetches the listing once and replaces all paths; the first row of a
package counts. A refresh that fails in a way to be expected leaves the paths as
they are and is reported, any other failure is passed on. With the cache at hand
`LaunchPathCache.resolve` finds the action of an app's tile.
-/

namespace HomeTiles

/-- The launch paths from a server, in the order of the listing. -/
structure LaunchPathCache where
  base : Value
  paths : Entries String := []

/-- What a refresh comes to. -/
structure Refresh where
  /-- Whether the paths are new, or the failure that is passed on. -/
  result : Except FetchFault Bool
  cache : LaunchPathCache
  request : Option Listing.Request
  notices : List Notice

namespace LaunchPathCache

/-- The paths of some entries: a package keeps the first one. -/
def pathsOf (entries : List LaunchEntry) : Entries String :=
  entries.foldl (fun paths entry =>
    match paths.get? entry.packageName with
    | some _ => paths
    | none => paths.put entry.packageName entry.path) []

/-- Fetches the listing, given the server's reply. -/
def refresh (cache : LaunchPathCache) (reply : Reply) : Refresh :=
  let (fetched, request) := Listing.fetch cache.base (.int Listing.timeout) reply
  match fetched with
  | .ok entries => ⟨.ok true, { cache with paths := pathsOf entries }, request, []⟩
  | .error fault =>
    if fault.isRecoverable then ⟨.ok false, cache, request, [.refreshFailed cache.base fault]⟩
    else ⟨.error fault, cache, request, []⟩

def get? (cache : LaunchPathCache) (package : String) : Option String := cache.paths.get? package

/-- The launch path under a value: only texts have one, and arrays and objects cannot be asked for. -/
def lookup (cache : LaunchPathCache) : Value → Except Fault (Option String)
  | .text package => .ok (cache.get? package)
  | .array _ => .error .wrongKind
  | .object _ => .error .wrongKind
  | _ => .ok none

/-- The launch path of an app and the action that its tile offers with it. -/
def resolve (cache : LaunchPathCache) (app : AppSnapshot) (localNode : Value) :
    Except Fault (Option String × TileAction) :=
  (cache.lookup app.packageId).map fun path =>
    (path, TileAction.resolve app localNode (Value.ofOption (path.map .text)))

end LaunchPathCache
end HomeTiles
