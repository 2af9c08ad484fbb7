import HomeTiles.Double
import HomeTiles.Entries

/-!
# Values: what documents, records and feeds are made of

`Value` holds the texts' own kinds of value, with integers and doubles kept
apart and every text made of Unicode characters, and one kind more: a `handle` is
something a program holds that no text stands for. Documents and records are handed
on as copies, and there are handles that are equal to their copies, such as a set or
a function, and others that are not, such as a thing with no equality but that of
being itself. An object has `Fields`, its entries in their own order.
`Value.identical_iff` says that comparing two values in every detail decides
their equality.
-/

namespace HomeTiles

/-- A value of a document. -/
inductive Value where
  | null
  | bool (b : Bool)
  | int (n : Int)
  | float (x : Double)
  | text (s : String)
  | array (items : List Value)
  | object (fields : List (String × Value))
  | handle (equalsCopies : Bool)
  deriving Repr, Inhabited

/-- The entries of an object. -/
abbrev Fields := Entries Value

/-! ## Identity of values -/

mutual
/-- Whether two values are the same in every detail, the order of names included. -/
def Value.identical : Value → Value → Bool
  | .null, .null => true
  | .bool a, .bool b => a == b
  | .int m, .int n => m == n
  | .float x, .float y => decide (x = y)
  | .text s, .text t => s == t
  | .array xs, .array ys => Value.identicalItems xs ys
  | .object fs, .object gs => Value.identicalFields fs gs
  | .handle a, .handle b => a == b
  | _, _ => false

def Value.identicalItems : List Value → List Value → Bool
  | [], [] => true
  | x :: xs, y :: ys => Value.identical x y && Value.identicalItems xs ys
  | _, _ => false

def Value.identicalFields : List (String × Value) → List (String × Value) → Bool
  | [], [] => true
  | (k, x) :: fs, (l, y) :: gs => k == l && Value.identical x y && Value.identicalFields fs gs
  | _, _ => false
end

mutual
private theorem identical_sound : ∀ {a b : Value}, Value.identical a b = true → a = b
  | .null, b, h => by cases b <;> simp_all [Value.identical]
  | .bool _, b, h => by cases b <;> simp_all [Value.identical]
  | .int _, b, h => by cases b <;> simp_all [Value.identical]
  | .float _, b, h => by cases b <;> simp_all [Value.identical]
  | .text _, b, h => by cases b <;> simp_all [Value.identical]
  | .array xs, b, h => by
    cases b <;> simp [Value.identical] at h
    rw [identicalItems_sound h]
  | .object fs, b, h => by
    cases b <;> simp [Value.identical] at h
    rw [identicalFields_sound h]
  | .handle _, b, h => by cases b <;> simp_all [Value.identical]

private theorem identicalItems_sound : ∀ {xs ys : List Value}, Value.identicalItems xs ys = true → xs = ys
  | [], ys, h => by cases ys <;> simp_all [Value.identicalItems]
  | x :: xs, ys, h => by
    cases ys <;> simp [Value.identicalItems] at h
    rw [identical_sound h.1, identicalItems_sound h.2]

private theorem identicalFields_sound :
    ∀ {fs gs : List (String × Value)}, Value.identicalFields fs gs = true → fs = gs
  | [], gs, h => by cases gs <;> simp_all [Value.identicalFields]
  | (k, x) :: fs, gs, h => by
    cases gs with
    | nil => simp [Value.identicalFields] at h
    | cons g gs =>
      obtain ⟨l, y⟩ := g
      simp [Value.identicalFields] at h
      rw [h.1.1, identical_sound h.1.2, identicalFields_sound h.2]
end

mutual
private theorem identical_refl : ∀ a : Value, Value.identical a a = true
  | .null | .bool _ | .int _ | .float _ | .text _ | .handle _ => by simp [Value.identical]
  | .array xs => by simpa [Value.identical] using identicalItems_refl xs
  | .object fs => by simpa [Value.identical] using identicalFields_refl fs

private theorem identicalItems_refl : ∀ xs : List Value, Value.identicalItems xs xs = true
  | [] => by simp [Value.identicalItems]
  | x :: xs => by simp [Value.identicalItems, identical_refl x, identicalItems_refl xs]

private theorem identicalFields_refl : ∀ fs : List (String × Value), Value.identicalFields fs fs = true
  | [] => by simp [Value.identicalFields]
  | (_, x) :: fs => by simp [Value.identicalFields, identical_refl x, identicalFields_refl fs]
end

/-- Being the same in every detail is equality. -/
theorem Value.identical_iff {a b : Value} : Value.identical a b = true ↔ a = b :=
  ⟨identical_sound, fun h => h ▸ identical_refl a⟩

instance : DecidableEq Value := fun _ _ => decidable_of_iff _ Value.identical_iff

/-! ## Parts of a value -/

namespace Value

/-- Whether a value counts as true: all but null, false, zeros and what is empty. -/
def truthy : Value → Bool
  | .null => false
  | .bool b => b
  | .int n => n != 0
  | .float x => !x.isZero
  | .text s => s != ""
  | .array items => !items.isEmpty
  | .object fields => !fields.isEmpty
  | .handle _ => true

/-- The entries of an object. -/
def fields? : Value → Option Fields
  | .object fields => some fields
  | _ => none

def isObject (v : Value) : Bool := v.fields?.isSome

def text? : Value → Option String
  | .text s => some s
  | _ => none

def nonEmptyText? : Value → Option String
  | .text s => if s = "" then none else some s
  | _ => none

/-- A value that is there: null stands for none. -/
def present? : Value → Option Value
  | .null => none
  | v => some v

def ofOption : Option Value → Value
  | none => .null
  | some v => v

/-- The value under a name, null for a name that is missing. -/
def underName (fields : Fields) (key : String) : Value := ofOption (fields.get? key)

def kindName : Value → String
  | .null => "NoneType"
  | .bool _ => "bool"
  | .int _ => "int"
  | .float _ => "float"
  | .text _ => "str"
  | .array _ => "list"
  | .object _ => "dict"
  | .handle _ => "object"

end Value
end HomeTiles
