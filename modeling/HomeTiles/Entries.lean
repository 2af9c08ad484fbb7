/-!
# Entries: named things in their own order

`Entries` is a list of names with what stands under them, as an object of a
document or a directory has it. `get?` looks a name up, `put` gives it a value
without moving it, `erase` takes it out, and `merge` puts the entries of one
list over those of another. `get?_put` and `names_put` say what `put` does to
the values and to the order.
-/

namespace HomeTiles

/-- Named things, in order. -/
abbrev Entries (α : Type) := List (String × α)

namespace Entries

variable {α : Type}

def get? : Entries α → String → Option α
  | [], _ => none
  | (k, v) :: rest, key => if k = key then some v else get? rest key

/-- Puts a value under a name: where the name stands already it stays, otherwise it comes last. -/
def put : Entries α → String → α → Entries α
  | [], key, v => [(key, v)]
  | (k, w) :: rest, key, v => if k = key then (k, v) :: rest else (k, w) :: put rest key v

def erase : Entries α → String → Entries α
  | [], _ => []
  | (k, v) :: rest, key => if k = key then rest else (k, v) :: erase rest key

/-- The entries of the second list put over those of the first, one after the other. -/
def merge (base changes : Entries α) : Entries α := changes.foldl (fun entries (k, v) => put entries k v) base

def names (entries : Entries α) : List String := entries.map Prod.fst

/-- What was put is found, and nothing else is touched. -/
theorem get?_put (entries : Entries α) (key other : String) (v : α) :
    get? (put entries key v) other = if key = other then some v else get? entries other := by
  induction entries with
  | nil => simp [put, get?]
  | cons entry rest ih =>
    obtain ⟨k, w⟩ := entry
    by_cases here : k = key
    · subst here; simp only [put, get?, ↓reduceIte]; split <;> rfl
    · by_cases there : k = other
      · subst there; simp [put, get?, here, Ne.symm here]
      · simp [put, get?, here, there, ih]

/-- Putting keeps every name in its place and adds a new one at the end. -/
theorem names_put (entries : Entries α) (key : String) (v : α) :
    names (put entries key v) = if key ∈ names entries then names entries else names entries ++ [key] := by
  induction entries with
  | nil => simp [put, names]
  | cons entry rest ih =>
    obtain ⟨k, w⟩ := entry
    by_cases here : k = key
    · simp [put, names, here]
    · have away : ¬ key = k := fun e => here e.symm
      simp only [names] at ih
      by_cases inside : key ∈ rest.map Prod.fst <;> simp [put, names, here, away, ih, inside]

end Entries
end HomeTiles
