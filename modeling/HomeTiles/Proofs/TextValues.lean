import HomeTiles.JsonWriter
import HomeTiles.Proofs.DistinctNames

/-!
# Values that texts can hold

A value has a text if it is `Writable`: no part of it, however deep, is a handle
or an integer with more digits than a text may hold (`writeFault?_eq_none_iff`).
It stands for an object of a program if it is `Proper`: no object in it has a
name twice. What its text gives back is the `settled` value, which differs from
it in nothing but that every NaN is the one that texts name. A value that came
out of a text is `Textual`: writable, proper and settled.
-/

namespace HomeTiles

/-- The double that its text gives back: every NaN is the one that texts name. -/
def Double.settled : Double → Double
  | .nan _ => .nan false
  | x => x

theorem Double.settled_finite (negative : Bool) (ordinal : Double.Ordinal) :
    (Double.finite negative ordinal).settled = .finite negative ordinal := rfl

theorem Double.settled_settled (x : Double) : x.settled.settled = x.settled := by
  cases x <;> rfl

/-- No decimal is a NaN. -/
theorem Double.settled_ofDecimal (negative : Bool) (digits : Nat) (exponent : Int) :
    (Double.ofDecimal negative digits exponent).settled = Double.ofDecimal negative digits exponent := by
  have quotient : ∀ num den, (Double.ofQuotient negative num den).settled = Double.ofQuotient negative num den := by
    intro num den
    unfold Double.ofQuotient
    dsimp only
    split_ifs <;> rfl
  unfold Double.ofDecimal
  split_ifs
  · rfl
  · rfl
  · rfl
  · cases exponent <;> exact quotient _ _

namespace Value

/-! ## Parts -/

section Induction

set_option linter.unusedSectionVars false

variable {motive : Value → Prop} (null : motive .null) (bool : ∀ b, motive (.bool b)) (int : ∀ n, motive (.int n))
  (float : ∀ x, motive (.float x)) (text : ∀ s, motive (.text s))
  (array : ∀ items, (∀ x ∈ items, motive x) → motive (.array items))
  (object : ∀ fields, (∀ entry ∈ fields, motive entry.2) → motive (.object fields))
  (handle : ∀ equalsCopies, motive (.handle equalsCopies))
include null bool int float text array object handle

mutual
/-- What passes from the items of arrays and the entries of objects to the whole holds of every value. -/
theorem byParts : ∀ v, motive v
  | .null => null
  | .bool b => bool b
  | .int n => int n
  | .float x => float x
  | .text s => text s
  | .array items => array items (byItems items)
  | .object fields => object fields (byFields fields)
  | .handle equalsCopies => handle equalsCopies

private theorem byItems : ∀ items : List Value, ∀ x ∈ items, motive x
  | [] => fun _ inside => absurd inside List.not_mem_nil
  | x :: rest => List.forall_mem_cons.mpr ⟨byParts x, byItems rest⟩

private theorem byFields : ∀ fields : List (String × Value), ∀ entry ∈ fields, motive entry.2
  | [] => fun _ inside => absurd inside List.not_mem_nil
  | (_, x) :: rest => List.forall_mem_cons.mpr ⟨byParts x, byFields rest⟩
end

end Induction

/-- The parts of a value: itself, and the parts of what is in it. -/
inductive Part : Value → Value → Prop where
  | self (v : Value) : Part v v
  | item {items : List Value} {x w : Value} (inside : x ∈ items) (part : Part x w) : Part (.array items) w
  | entry {fields : Fields} {name : String} {x w : Value} (inside : (name, x) ∈ fields) (part : Part x w) :
    Part (.object fields) w

/-- Nothing in the value is beyond a text: no handle, and no integer of too many digits. -/
def Writable (v : Value) : Prop :=
  ∀ w, v.Part w → (∀ equalsCopies, w ≠ .handle equalsCopies) ∧
    ∀ n, w = .int n → (Nat.toDigits 10 n.natAbs).length ≤ digitLimit

/-- What holds of every part of an array holds of it and of every part of its items. -/
theorem forall_part_array_iff {p : Value → Prop} {items : List Value} :
    (∀ part, (array items).Part part → p part) ↔ p (array items) ∧ ∀ x ∈ items, ∀ part, x.Part part → p part := by
  constructor
  · exact fun all => ⟨all _ (.self _), fun x member part inside => all part (.item member inside)⟩
  · rintro ⟨here, deeper⟩ part inside
    cases inside with
    | self => exact here
    | item member inside => exact deeper _ member part inside

theorem forall_part_object_iff {p : Value → Prop} {fields : Fields} :
    (∀ part, (object fields).Part part → p part) ↔
      p (object fields) ∧ ∀ entry ∈ fields, ∀ part, entry.2.Part part → p part := by
  constructor
  · exact fun all => ⟨all _ (.self _), fun entry member part inside => all part (.entry member inside)⟩
  · rintro ⟨here, deeper⟩ part inside
    cases inside with
    | self => exact here
    | entry member inside => exact deeper _ member part inside

theorem exceedsDigitLimit_eq_false_iff (n : Int) :
    exceedsDigitLimit n = false ↔ (Nat.toDigits 10 n.natAbs).length ≤ digitLimit := by
  rw [Nat.length_toDigits_le_iff (by decide) (by decide), exceedsDigitLimit, decide_eq_false_iff_not, Nat.not_le,
    Nat.pow_eq]

theorem itemsFault?_eq_none_iff {items : List Value} :
    itemsFault? items = none ↔ ∀ x ∈ items, x.writeFault? = none := by
  induction items with
  | nil => simp [itemsFault?]
  | cons x rest ih =>
    rw [itemsFault?, List.forall_mem_cons, ← ih]
    cases x.writeFault? <;> simp

theorem fieldsFault?_eq_none_iff {fields : Fields} :
    fieldsFault? fields = none ↔ ∀ entry ∈ fields, entry.2.writeFault? = none := by
  induction fields with
  | nil => simp [fieldsFault?]
  | cons entry rest ih =>
    obtain ⟨k, x⟩ := entry
    rw [fieldsFault?, List.forall_mem_cons, ← ih]
    cases x.writeFault? <;> simp

private theorem writable_of_scalar {v : Value} (alone : ∀ w, v.Part w → w = v)
    (within : (∀ equalsCopies, v ≠ .handle equalsCopies) ∧
      ∀ n, v = .int n → (Nat.toDigits 10 n.natAbs).length ≤ digitLimit) : v.Writable := by
  intro w part
  rw [alone w part]
  exact within

theorem writable_array_iff {items : List Value} : (array items).Writable ↔ ∀ x ∈ items, x.Writable :=
  forall_part_array_iff.trans (and_iff_right ⟨nofun, nofun⟩)

theorem writable_object_iff {fields : Fields} : (object fields).Writable ↔ ∀ entry ∈ fields, entry.2.Writable :=
  forall_part_object_iff.trans (and_iff_right ⟨nofun, nofun⟩)

/-- The first fault is found just when some part is beyond a text. -/
theorem writeFault?_eq_none_iff (v : Value) : v.writeFault? = none ↔ v.Writable := by
  induction v using byParts with
  | null => exact ⟨fun _ => writable_of_scalar (by rintro _ ⟨⟩; rfl) (by simp), fun _ => rfl⟩
  | bool b => exact ⟨fun _ => writable_of_scalar (by rintro _ ⟨⟩; rfl) (by simp), fun _ => rfl⟩
  | float x => exact ⟨fun _ => writable_of_scalar (by rintro _ ⟨⟩; rfl) (by simp), fun _ => rfl⟩
  | text s => exact ⟨fun _ => writable_of_scalar (by rintro _ ⟨⟩; rfl) (by simp), fun _ => rfl⟩
  | handle equalsCopies =>
    exact ⟨fun fault => by simp [writeFault?] at fault, fun all => absurd rfl ((all _ (.self _)).1 equalsCopies)⟩
  | int n =>
    have few := exceedsDigitLimit_eq_false_iff n
    have plain : (Value.int n).writeFault? = none ↔ exceedsDigitLimit n = false := by
      cases long : exceedsDigitLimit n <;> simp [writeFault?, long]
    rw [plain, few]
    constructor
    · intro short
      refine writable_of_scalar (by rintro _ ⟨⟩; rfl) ⟨nofun, fun m same => ?_⟩
      cases same
      exact short
    · intro all
      exact (all _ (.self _)).2 n rfl
  | array items ih =>
    rw [writeFault?, itemsFault?_eq_none_iff, writable_array_iff]
    exact forall₂_congr ih
  | object fields ih =>
    rw [writeFault?, fieldsFault?_eq_none_iff, writable_object_iff]
    exact forall₂_congr ih

instance (v : Value) : Decidable v.Writable := decidable_of_iff _ v.writeFault?_eq_none_iff

/-- A value has a text in a layout just when nothing in it is beyond a text. -/
theorem exists_write_iff {layout : Layout} {v : Value} : (∃ text, v.write layout = .ok text) ↔ v.Writable := by
  rw [← writeFault?_eq_none_iff, write]
  cases v.writeFault? <;> simp

theorem write_error_iff {layout : Layout} {v : Value} {fault : WriteFault} :
    v.write layout = .error fault ↔ v.writeFault? = some fault := by
  rw [write]
  cases v.writeFault? <;> simp

theorem exists_writeFault_of_not_writable {v : Value} (refused : ¬ v.Writable) : ∃ fault, v.writeFault? = some fault :=
  Option.ne_none_iff_exists'.mp fun fine => refused (v.writeFault?_eq_none_iff.mp fine)

/-! ## Proper values -/

mutual
/-- No object in the value has a name twice. -/
def Proper : Value → Prop
  | .array items => ItemsProper items
  | .object fields => (Entries.names fields).Nodup ∧ FieldsProper fields
  | _ => True

/-- Every item of an array is proper. -/
def ItemsProper : List Value → Prop
  | [] => True
  | x :: rest => Proper x ∧ ItemsProper rest

/-- Everything under a name is proper. -/
def FieldsProper : List (String × Value) → Prop
  | [] => True
  | (_, x) :: rest => Proper x ∧ FieldsProper rest
end

theorem proper_array_iff {items : List Value} : (array items).Proper ↔ ∀ x ∈ items, x.Proper := by
  rw [Proper]
  induction items with
  | nil => simp [ItemsProper]
  | cons x rest ih => simp [ItemsProper, ih]

theorem proper_object_iff {fields : Fields} :
    (object fields).Proper ↔ (Entries.names fields).Nodup ∧ ∀ entry ∈ fields, entry.2.Proper := by
  have each : FieldsProper fields ↔ ∀ entry ∈ fields, entry.2.Proper := by
    induction fields with
    | nil => simp [FieldsProper]
    | cons entry rest ih =>
      obtain ⟨k, x⟩ := entry
      rw [FieldsProper, ih, List.forall_mem_cons]
  rw [Proper, each]

theorem Proper.of_get? {fields : Fields} (proper : (object fields).Proper) {key : String} {v : Value}
    (found : fields.get? key = some v) : v.Proper :=
  (proper_object_iff.mp proper).2 _ (Entries.mem_of_get? found)

theorem Proper.put {fields : Fields} (proper : (object fields).Proper) (key : String) {v : Value} (ok : v.Proper) :
    (object (fields.put key v)).Proper := by
  obtain ⟨distinct, all⟩ := proper_object_iff.mp proper
  refine proper_object_iff.mpr ⟨Entries.nodup_put distinct key v, fun entry inside => ?_⟩
  rcases Entries.mem_put inside with old | same
  · exact all entry old
  · rw [same]
    exact ok

theorem Proper.merge {base changes : Fields} (proper : (object base).Proper) (ok : (object changes).Proper) :
    (object (base.merge changes)).Proper := by
  obtain ⟨distinct, all⟩ := proper_object_iff.mp proper
  refine proper_object_iff.mpr ⟨Entries.nodup_merge distinct changes, fun entry inside => ?_⟩
  rcases Entries.mem_merge inside with old | new
  · exact all entry old
  · exact (proper_object_iff.mp ok).2 entry new

/-! ## Settled values -/

mutual
/-- The value that its text gives back: every NaN in it is the one that texts name. -/
def settled : Value → Value
  | .float x => .float x.settled
  | .array items => .array (settledItems items)
  | .object fields => .object (settledFields fields)
  | v => v

/-- The items that their texts give back. -/
def settledItems : List Value → List Value
  | [] => []
  | x :: rest => settled x :: settledItems rest

/-- The entries that their texts give back. -/
def settledFields : List (String × Value) → List (String × Value)
  | [] => []
  | (k, x) :: rest => (k, settled x) :: settledFields rest
end

theorem isObject_settled (v : Value) : v.settled.isObject = v.isObject := by
  cases v <;> rfl

theorem settledItems_eq (items : List Value) : settledItems items = items.map settled := by
  induction items with
  | nil => rfl
  | cons x rest ih => rw [settledItems, ih, List.map_cons]

theorem settledFields_eq (fields : Fields) : settledFields fields = Entries.mapValues settled fields := by
  induction fields with
  | nil => rfl
  | cons entry rest ih =>
    obtain ⟨k, x⟩ := entry
    rw [settledFields, ih]
    rfl

theorem get?_settledFields (fields : Fields) (key : String) :
    Entries.get? (settledFields fields) key = (Entries.get? fields key).map settled := by
  rw [settledFields_eq, Entries.get?_mapValues]

theorem settledItems_eq_self_iff {items : List Value} :
    settledItems items = items ↔ ∀ x ∈ items, x.settled = x := by
  induction items with
  | nil => simp [settledItems]
  | cons x rest ih => simp [settledItems, ih]

theorem settledFields_eq_self_iff {fields : Fields} :
    settledFields fields = fields ↔ ∀ entry ∈ fields, entry.2.settled = entry.2 := by
  induction fields with
  | nil => simp [settledFields]
  | cons entry rest ih =>
    obtain ⟨k, x⟩ := entry
    rw [settledFields, List.forall_mem_cons, ← ih]
    simp

theorem settled_settled (v : Value) : v.settled.settled = v.settled := by
  induction v using byParts with
  | float x => rw [settled, settled, Double.settled_settled]
  | array items ih =>
    rw [settled, settled, array.injEq, settledItems_eq_self_iff, settledItems_eq, List.forall_mem_map]
    exact ih
  | object fields ih =>
    rw [settled, settled, object.injEq, settledFields_eq_self_iff, settledFields_eq, Entries.mapValues,
      List.forall_mem_map]
    exact ih
  | _ => rfl

/-- A value is settled if no computed NaN is part of it. -/
theorem settled_eq_self_iff {v : Value} : v.settled = v ↔ ∀ part, v.Part part → part ≠ .float (.nan true) := by
  have scalar : ∀ {w : Value}, (∀ part, w.Part part → part = w) → w ≠ .float (.nan true) →
      ∀ part, w.Part part → part ≠ .float (.nan true) := by
    intro w alone other part inside
    rw [alone part inside]
    exact other
  induction v using byParts with
  | null => exact ⟨fun _ => scalar (by rintro _ ⟨⟩; rfl) nofun, fun _ => rfl⟩
  | bool b => exact ⟨fun _ => scalar (by rintro _ ⟨⟩; rfl) nofun, fun _ => rfl⟩
  | int n => exact ⟨fun _ => scalar (by rintro _ ⟨⟩; rfl) nofun, fun _ => rfl⟩
  | text s => exact ⟨fun _ => scalar (by rintro _ ⟨⟩; rfl) nofun, fun _ => rfl⟩
  | handle b => exact ⟨fun _ => scalar (by rintro _ ⟨⟩; rfl) nofun, fun _ => rfl⟩
  | float x =>
    constructor
    · intro same
      refine scalar (by rintro _ ⟨⟩; rfl) ?_
      rintro ⟨⟩
      cases same
    · intro none
      have other := none _ (.self _)
      cases x with
      | nan computed =>
        cases computed
        · rfl
        · exact absurd rfl other
      | infinity negative => rfl
      | finite negative ordinal => rfl
  | array items ih =>
    rw [settled, array.injEq, settledItems_eq_self_iff, forall₂_congr ih, forall_part_array_iff]
    exact (and_iff_right nofun).symm
  | object fields ih =>
    rw [settled, object.injEq, settledFields_eq_self_iff, forall₂_congr ih, forall_part_object_iff]
    exact (and_iff_right nofun).symm

/-! ## Values out of texts -/

/-- A value as texts hold it. -/
structure Textual (v : Value) : Prop where
  fault : v.writeFault? = none
  proper : v.Proper
  settled : v.settled = v

theorem textual_int {n : Int} (few : (Nat.toDigits 10 n.natAbs).length ≤ digitLimit) : (Value.int n).Textual := by
  have short := (exceedsDigitLimit_eq_false_iff n).mpr few
  exact ⟨by simp [writeFault?, short], trivial, rfl⟩

theorem textual_float {x : Double} (same : x.settled = x) : (Value.float x).Textual :=
  ⟨rfl, trivial, congrArg Value.float same⟩

theorem textual_array_iff {items : List Value} : (array items).Textual ↔ ∀ x ∈ items, x.Textual := by
  constructor
  · rintro ⟨fault, proper, settled⟩ x inside
    rw [Value.settled, array.injEq, settledItems_eq_self_iff] at settled
    exact ⟨itemsFault?_eq_none_iff.mp fault x inside, proper_array_iff.mp proper x inside, settled x inside⟩
  · intro all
    refine ⟨itemsFault?_eq_none_iff.mpr fun x inside => (all x inside).fault,
      proper_array_iff.mpr fun x inside => (all x inside).proper, ?_⟩
    rw [Value.settled, settledItems_eq_self_iff.mpr fun x inside => (all x inside).settled]

theorem textual_object_iff {fields : Fields} :
    (object fields).Textual ↔ (Entries.names fields).Nodup ∧ ∀ entry ∈ fields, entry.2.Textual := by
  constructor
  · rintro ⟨fault, proper, settled⟩
    rw [Value.settled, object.injEq, settledFields_eq_self_iff] at settled
    obtain ⟨distinct, all⟩ := proper_object_iff.mp proper
    exact ⟨distinct, fun entry inside =>
      ⟨fieldsFault?_eq_none_iff.mp fault entry inside, all entry inside, settled entry inside⟩⟩
  · rintro ⟨distinct, all⟩
    refine ⟨fieldsFault?_eq_none_iff.mpr fun entry inside => (all entry inside).fault,
      proper_object_iff.mpr ⟨distinct, fun entry inside => (all entry inside).proper⟩, ?_⟩
    rw [Value.settled, settledFields_eq_self_iff.mpr fun entry inside => (all entry inside).settled]

theorem Textual.put {fields : Fields} (textual : (object fields).Textual) (key : String) {v : Value} (ok : v.Textual) :
    (object (fields.put key v)).Textual := by
  obtain ⟨distinct, all⟩ := textual_object_iff.mp textual
  refine textual_object_iff.mpr ⟨Entries.nodup_put distinct key v, fun entry inside => ?_⟩
  rcases Entries.mem_put inside with old | same
  · exact all entry old
  · rw [same]
    exact ok

theorem Textual.erase {fields : Fields} (textual : (object fields).Textual) (key : String) :
    (object (fields.erase key)).Textual := by
  obtain ⟨distinct, all⟩ := textual_object_iff.mp textual
  exact textual_object_iff.mpr
    ⟨Entries.nodup_erase distinct key, fun entry inside => all entry (Entries.mem_of_mem_erase inside)⟩

theorem Textual.of_get? {fields : Fields} (textual : (object fields).Textual) {key : String} {v : Value}
    (found : fields.get? key = some v) : v.Textual :=
  (textual_object_iff.mp textual).2 _ (Entries.mem_of_get? found)

end Value
end HomeTiles
