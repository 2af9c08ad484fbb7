import HomeTiles.Value

/-!
# Equality of values: numbers by amount, objects without order

Two values are `alike` when a reader of the document cannot tell them apart by
comparing: an integer, a double and a truth value are one number when their
amounts agree exactly, the names of an object have no order, and a text is
never a number. `Value.equal` compares whole values in the same way, save that
a NaN standing alone equals nothing. What was handed on as a copy is
`alikeAsCopies` only if no handle in it tells it from its original.
-/

namespace HomeTiles.Value

/-- The integer that a value counts as: truth values are zero and one. -/
def integer? : Value → Option Int
  | .bool b => some (if b then 1 else 0)
  | .int n => some n
  | _ => none

/-- Whether a double and a value are the same number. -/
def sameNumber (x : Double) : Value → Bool
  | .float y => x.same y
  | v => match v.integer? with
    | some n => x.equalsInt n
    | none => false

mutual
/-- Equality of two values inside a document. -/
def alike : Value → Value → Bool
  | .null, v => match v with
    | .null => true
    | _ => false
  | .handle same, v => match v with
    | .handle same' => same == same'
    | _ => false
  | .text s, v => match v with
    | .text t => s == t
    | _ => false
  | .array xs, v => match v with
    | .array ys => alikeItems xs ys
    | _ => false
  | .object fs, v => match v with
    | .object gs => fs.length == gs.length && alikeFields fs gs
    | _ => false
  | .float x, v => sameNumber x v
  | .bool b, v => match v with
    | .float y => y.equalsInt (if b then 1 else 0)
    | w => w.integer? == some (if b then 1 else 0)
  | .int n, v => match v with
    | .float y => y.equalsInt n
    | w => w.integer? == some n

def alikeItems : List Value → List Value → Bool
  | [], ys => ys.isEmpty
  | x :: xs, ys => match ys with
    | [] => false
    | y :: rest => alike x y && alikeItems xs rest

/-- Whether every entry has a counterpart of the same name among the others. -/
def alikeFields : Fields → Fields → Bool
  | [], _ => true
  | (k, v) :: rest, others =>
    (match others.get? k with
      | some w => alike v w
      | none => false) && alikeFields rest others
end

def isNaN : Value → Bool
  | .float (.nan _) => true
  | _ => false

/-- Equality of two values that stand alone. -/
def equal (a b : Value) : Bool := !a.isNaN && alike a b

mutual
/-- Whether every handle in a value is equal to its copies. -/
def equalsCopies : Value → Bool
  | .array items => itemsEqualCopies items
  | .object fields => fieldsEqualCopies fields
  | .handle equalsCopies => equalsCopies
  | _ => true

def itemsEqualCopies : List Value → Bool
  | [] => true
  | x :: rest => equalsCopies x && itemsEqualCopies rest

def fieldsEqualCopies : List (String × Value) → Bool
  | [] => true
  | (_, v) :: rest => equalsCopies v && fieldsEqualCopies rest
end

end HomeTiles.Value

namespace HomeTiles.Fields

/-- Equality of two objects, whatever the order of their names. -/
def alike (a b : Fields) : Bool := Value.alike (.object a) (.object b)

/-- Equality of two objects whose handles, if they have the same ones, are copies. -/
def alikeAsCopies (a b : Fields) : Bool := a.alike b && (Value.object a).equalsCopies

end HomeTiles.Fields
