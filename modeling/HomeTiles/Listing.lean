import HomeTiles.Faults

/-!
# Listings: where installed apps can be opened

A listing is fetched from a fixed route of a server. Its payload is an array of
rows, of which those count that are objects with a package name and a path that
are texts. `Listing.fetch` asks once and reads the reply.
-/

namespace HomeTiles

/-- One row of a listing. -/
structure LaunchEntry where
  packageName : String
  path : String
  deriving DecidableEq, Repr

/-- What a server's answer comes to: a request that failed, or a status, its reason and a body. -/
inductive Reply where
  | failed (fault : FetchFault)
  | answered (status : Int) (reason : Option String) (body : String)
  deriving Repr

namespace Listing

def route : String := "/apps"

/-- How many seconds a request may take. -/
def timeout : Int := 20

def accepted : String := "application/json"

def trimSlashes (s : String) : String := String.ofList ((s.toList.reverse.dropWhile (· = '/')).reverse)

/-- The address of the listing under a server's address, which has to be a text. -/
def address : Value → Except FetchFault String
  | .text base => .ok (trimSlashes base ++ route)
  | _ => .error .noAddress

def entry? : Value → Option LaunchEntry
  | .object row => match Value.underName row "package_name", Value.underName row "path" with
    | .text name, .text path => some ⟨name, path⟩
    | _, _ => none
  | _ => none

/-- The entries of a payload in order; a payload that is no array has none. -/
def entries : Value → List LaunchEntry
  | .array rows => rows.filterMap entry?
  | _ => []

/-- The payload of a reply to a request for an address. -/
def payload (address : String) : Reply → Except FetchFault Value
  | .failed fault => .error fault
  | .answered status reason body =>
    if 400 ≤ status ∧ status < 600 then .error (.status status reason address)
    else match Value.read body with
      | .ok v => .ok v
      | .error fault => .error (.body fault)

structure Request where
  address : String
  timeout : Value
  deriving DecidableEq, Repr

/-- Fetches a listing under a server's address: its entries, and the request made if there was one. -/
def fetch (base timeout : Value) (reply : Reply) : Except FetchFault (List LaunchEntry) × Option Request :=
  match address base with
  | .error fault => (.error fault, none)
  | .ok address => ((payload address reply).map entries, some ⟨address, timeout⟩)

end Listing
end HomeTiles
