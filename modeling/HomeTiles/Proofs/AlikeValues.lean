import HomeTiles.Proofs.TextValues
import HomeTiles.ValueEquality
import Mathlib.Data.List.Perm.Subperm

/-!
# When values are alike

Objects are alike if the same names stand in them and what stands under each name
is alike (`alike_of_get?`). A proper value is alike to what its text gives back
just when no computed NaN is part of it (`alike_settled_iff`); that is also when
it is alike to itself. What is alike to an alike value is alike (`alike_trans`),
numbers of different kinds among them, and two proper values are alike either way
round (`alike_symm`), so equal ones are equal to the same values (`equal_congr`).
-/

/-! ## Numbers -/

namespace HomeTiles.Double

theorem same_trans {x y z : Double} (first : x.same y = true) (second : y.same z = true) : x.same z = true := by
  cases x <;> cases y <;> simp only [same, Bool.false_eq_true] at first <;> cases z <;>
    simp only [same, Bool.false_eq_true, beq_iff_eq, Bool.and_eq_true] at first second ⊢
  · exact ⟨first.1, second.2⟩
  · exact first.trans second
  · exact first.trans second

theorem same_symm {x y : Double} (same_xy : x.same y = true) : y.same x = true := by
  cases x <;> cases y <;> simp only [same, Bool.false_eq_true, beq_iff_eq, Bool.and_eq_true] at same_xy ⊢
  · exact same_xy.symm
  · exact same_xy.symm
  · exact same_xy.symm

/-- Only a finite double equals an integer: the one with as many units. -/
theorem equalsInt_iff {x : Double} {n : Int} :
    x.equalsInt n = true ↔ ∃ negative ordinal, x = .finite negative ordinal ∧ signedUnits x = n * unitsOfOne := by
  constructor
  · intro equals
    cases x with
    | finite negative ordinal => exact ⟨negative, ordinal, rfl, beq_iff_eq.mp equals⟩
    | _ => cases equals
  · rintro ⟨negative, ordinal, rfl, units⟩
    exact beq_iff_eq.mpr units

theorem equalsInt_of_same {x y : Double} {n : Int} (same_xy : x.same y = true) (equals : y.equalsInt n = true) :
    x.equalsInt n = true := by
  obtain ⟨negative, ordinal, rfl, units⟩ := equalsInt_iff.mp equals
  cases x <;> simp only [same, Bool.false_eq_true, beq_iff_eq] at same_xy
  exact equalsInt_iff.mpr ⟨_, _, rfl, same_xy.trans units⟩

theorem same_of_equalsInt {x y : Double} {n : Int} (equals : x.equalsInt n = true) (equals' : y.equalsInt n = true) :
    x.same y = true := by
  obtain ⟨negative, ordinal, rfl, units⟩ := equalsInt_iff.mp equals
  obtain ⟨negative', ordinal', rfl, units'⟩ := equalsInt_iff.mp equals'
  simp only [same, beq_iff_eq]
  exact units.trans units'.symm

theorem eq_of_equalsInt {x : Double} {m n : Int} (equals : x.equalsInt m = true) (equals' : x.equalsInt n = true) :
    m = n := by
  obtain ⟨_, _, _, units⟩ := equalsInt_iff.mp equals
  obtain ⟨_, _, _, units'⟩ := equalsInt_iff.mp equals'
  have one : (unitsOfOne : Int) ≠ 0 := by
    have positive : 0 < unitsOfOne := by decide +kernel
    omega
  exact Int.eq_of_mul_eq_mul_right one (units.symm.trans units')

end HomeTiles.Double

namespace HomeTiles.Value

attribute [local simp] alike alikeItems alikeFields

theorem alike_of_integer {a : Value} {n : Int} (amount : a.integer? = some n) (b : Value) :
    a.alike b = match b with
      | .float y => y.equalsInt n
      | w => w.integer? == some n := by
  cases a with
  | bool b => cases amount; cases b <;> rfl
  | int n => cases amount; cases b <;> rfl
  | _ => cases amount

/-- What is alike to a number is a number: a double or an integer of the same amount. -/
theorem alike_float_iff {x : Double} {b : Value} : (float x).alike b = true ↔
    (∃ y, b = .float y ∧ x.same y = true) ∨ ∃ n, b.integer? = some n ∧ x.equalsInt n = true := by
  rw [alike]
  cases b <;> simp [sameNumber, integer?]

theorem alike_integer_iff {a : Value} {n : Int} (amount : a.integer? = some n) {b : Value} : a.alike b = true ↔
    (∃ y, b = .float y ∧ y.equalsInt n = true) ∨ b.integer? = some n := by
  rw [alike_of_integer amount]
  cases b <;> simp [integer?]

/-! ## Objects -/

theorem alikeFields_iff {fields others : Fields} :
    alikeFields fields others = true ↔ ∀ entry ∈ fields, ∃ w, others.get? entry.1 = some w ∧ entry.2.alike w = true := by
  induction fields with
  | nil => simp
  | cons entry rest ih =>
    obtain ⟨k, v⟩ := entry
    rw [alikeFields, Bool.and_eq_true, ih, List.forall_mem_cons]
    cases others.get? k with
    | none => simp
    | some w => simp

theorem alike_object_iff {a b : Fields} :
    (object a).alike (.object b) = true ↔
      a.length = b.length ∧ ∀ entry ∈ a, ∃ w, b.get? entry.1 = some w ∧ entry.2.alike w = true := by
  rw [alike, Bool.and_eq_true, beq_iff_eq, alikeFields_iff]

/-- Objects with the same names are alike if what stands under each name is. -/
theorem alike_of_get? {a b : Fields} (distinct : (Entries.names a).Nodup) (distinct' : (Entries.names b).Nodup)
    (same : ∀ key, (a.get? key = none ∧ b.get? key = none) ∨
      ∃ v w, a.get? key = some v ∧ b.get? key = some w ∧ v.alike w = true) :
    (object a).alike (.object b) = true := by
  have names : (Entries.names a).Perm (Entries.names b) := by
    refine (List.perm_ext_iff_of_nodup distinct distinct').mpr fun key => ?_
    rcases same key with ⟨none_a, none_b⟩ | ⟨v, w, found_a, found_b, _⟩
    · exact iff_of_false (Entries.get?_eq_none_iff.mp none_a) (Entries.get?_eq_none_iff.mp none_b)
    · exact iff_of_true (List.mem_map.mpr ⟨_, Entries.mem_of_get? found_a, rfl⟩)
        (List.mem_map.mpr ⟨_, Entries.mem_of_get? found_b, rfl⟩)
  refine alike_object_iff.mpr ⟨by simpa [Entries.names] using names.length_eq, fun entry inside => ?_⟩
  have found : a.get? entry.1 = some entry.2 := Entries.get?_of_mem distinct inside
  rcases same entry.1 with ⟨none_a, _⟩ | ⟨v, w, found_a, found_b, both⟩
  · rw [found] at none_a
    cases none_a
  · rw [found] at found_a
    cases found_a
    exact ⟨w, found_b, both⟩

/-! ## One value after another -/

private theorem alikeItems_trans {items others thirds : List Value}
    (each : ∀ x ∈ items, ∀ {y z : Value}, x.alike y = true → y.alike z = true → x.alike z = true)
    (first : alikeItems items others = true) (second : alikeItems others thirds = true) :
    alikeItems items thirds = true := by
  induction items generalizing others thirds with
  | nil =>
    cases others with
    | nil => exact second
    | cons y rest => cases first
  | cons x rest ih =>
    cases others with
    | nil => cases first
    | cons y others =>
      cases thirds with
      | nil => cases second
      | cons z thirds =>
        rw [alikeItems, Bool.and_eq_true] at first second ⊢
        obtain ⟨here, later⟩ := List.forall_mem_cons.mp each
        exact ⟨here first.1 second.1, ih later first.2 second.2⟩

private theorem alike_trans_of_integer {a b c : Value} {n : Int} (amount : a.integer? = some n)
    (first : a.alike b = true) (second : b.alike c = true) : a.alike c = true := by
  rw [alike_integer_iff amount] at first ⊢
  rcases first with ⟨y, rfl, equals⟩ | there
  · rcases alike_float_iff.mp second with ⟨z, rfl, both⟩ | ⟨m, there, equals'⟩
    · exact .inl ⟨z, rfl, Double.equalsInt_of_same (Double.same_symm both) equals⟩
    · rw [Double.eq_of_equalsInt equals equals']
      exact .inr there
  · exact (alike_integer_iff there).mp second

private theorem alike_trans_of_float {x : Double} {b c : Value} (first : (float x).alike b = true)
    (second : b.alike c = true) : (float x).alike c = true := by
  rw [alike_float_iff] at first ⊢
  rcases first with ⟨y, rfl, both⟩ | ⟨n, amount, equals⟩
  · rcases alike_float_iff.mp second with ⟨z, rfl, both'⟩ | ⟨m, there, equals'⟩
    · exact .inl ⟨z, rfl, Double.same_trans both both'⟩
    · exact .inr ⟨m, there, Double.equalsInt_of_same both equals'⟩
  · rcases (alike_integer_iff amount).mp second with ⟨z, rfl, equals'⟩ | there
    · exact .inl ⟨z, rfl, Double.same_of_equalsInt equals equals'⟩
    · exact .inr ⟨n, there, equals⟩

/-- Being alike goes from one value to the next. -/
theorem alike_trans {a b c : Value} (first : a.alike b = true) (second : b.alike c = true) : a.alike c = true := by
  induction a using byParts generalizing b c with
  | null =>
    cases b with
    | null => exact second
    | _ => cases first
  | bool p => exact alike_trans_of_integer rfl first second
  | int n => exact alike_trans_of_integer rfl first second
  | float x => exact alike_trans_of_float first second
  | text s =>
    cases b with
    | text t =>
      have same : s = t := by simpa using first
      rwa [same]
    | _ => cases first
  | handle same =>
    cases b with
    | handle same' =>
      have kind : same = same' := by simpa using first
      rwa [kind]
    | _ => cases first
  | array items ih =>
    cases b with
    | array others =>
      cases c with
      | array thirds =>
        exact alikeItems_trans ih first second
      | _ => cases second
    | _ => cases first
  | object fields ih =>
    cases b with
    | object others =>
      cases c with
      | object thirds =>
        rw [alike_object_iff] at first second ⊢
        refine ⟨first.1.trans second.1, fun entry inside => ?_⟩
        obtain ⟨w, found, both⟩ := first.2 entry inside
        obtain ⟨u, found', both'⟩ := second.2 _ (Entries.mem_of_get? found)
        exact ⟨u, found', ih entry inside both both'⟩
      | _ => cases second
    | _ => cases first

/-! ## Either way round -/

private theorem alikeItems_symm {items others : List Value}
    (each : ∀ x ∈ items, ∀ y ∈ others, x.alike y = true → y.alike x = true) (same : alikeItems items others = true) :
    alikeItems others items = true := by
  induction items generalizing others with
  | nil =>
    cases others with
    | nil => rfl
    | cons y rest => cases same
  | cons x rest ih =>
    cases others with
    | nil => cases same
    | cons y others =>
      rw [alikeItems, Bool.and_eq_true] at same ⊢
      refine ⟨each x List.mem_cons_self y List.mem_cons_self same.1, ih (fun x' inside y' inside' => ?_) same.2⟩
      exact each x' (List.mem_cons_of_mem _ inside) y' (List.mem_cons_of_mem _ inside')

/-- Alike objects have the same names: the first has no other, and as many of them. -/
private theorem names_of_alike {a b : Fields} (distinct : (Entries.names a).Nodup)
    (same : (object a).alike (.object b) = true) : (Entries.names b).Perm (Entries.names a) := by
  obtain ⟨lengths, each⟩ := alike_object_iff.mp same
  have inside : Entries.names a ⊆ Entries.names b := by
    intro name named
    obtain ⟨entry, member, rfl⟩ := List.mem_map.mp named
    obtain ⟨w, found, _⟩ := each entry member
    exact List.mem_map.mpr ⟨_, Entries.mem_of_get? found, rfl⟩
  have short : (Entries.names b).length ≤ (Entries.names a).length := by simp [Entries.names, lengths]
  exact ((distinct.subperm inside).perm_of_length_le short).symm

private theorem alike_symm_of_integer {a b : Value} {n : Int} (amount : a.integer? = some n) (same : a.alike b = true) :
    b.alike a = true := by
  rcases (alike_integer_iff amount).mp same with ⟨y, rfl, equals⟩ | there
  · exact alike_float_iff.mpr (.inr ⟨n, amount, equals⟩)
  · exact (alike_integer_iff there).mpr (.inr amount)

/-- Of two proper values it does not matter which one is asked. -/
theorem alike_symm {a b : Value} (proper : a.Proper) (proper' : b.Proper) (same : a.alike b = true) :
    b.alike a = true := by
  induction a using byParts generalizing b with
  | null =>
    cases b with
    | null => rfl
    | _ => cases same
  | bool p => exact alike_symm_of_integer rfl same
  | int n => exact alike_symm_of_integer rfl same
  | float x =>
    rcases alike_float_iff.mp same with ⟨y, rfl, both⟩ | ⟨n, there, equals⟩
    · exact alike_float_iff.mpr (.inl ⟨x, rfl, Double.same_symm both⟩)
    · exact (alike_integer_iff there).mpr (.inl ⟨x, rfl, equals⟩)
  | text s =>
    cases b with
    | text t =>
      have both : s = t := by simpa using same
      rwa [both] at same ⊢
    | _ => cases same
  | handle kind =>
    cases b with
    | handle kind' =>
      have both : kind = kind' := by simpa using same
      rwa [both] at same ⊢
    | _ => cases same
  | array items ih =>
    cases b with
    | array others =>
      refine alikeItems_symm (fun x inside y inside' => ?_) same
      exact ih x inside (proper_array_iff.mp proper x inside) (proper_array_iff.mp proper' y inside')
    | _ => cases same
  | object fields ih =>
    cases b with
    | object others =>
      obtain ⟨distinct, all⟩ := proper_object_iff.mp proper
      obtain ⟨distinct', all'⟩ := proper_object_iff.mp proper'
      have names := names_of_alike distinct same
      obtain ⟨lengths, each⟩ := alike_object_iff.mp same
      refine alike_object_iff.mpr ⟨lengths.symm, fun entry inside => ?_⟩
      have named : entry.1 ∈ Entries.names fields := names.mem_iff.mp (List.mem_map.mpr ⟨entry, inside, rfl⟩)
      obtain ⟨counterpart, member, name⟩ := List.mem_map.mp named
      obtain ⟨w, found, both⟩ := each counterpart member
      have here : w = entry.2 := by
        rw [name, Entries.get?_of_mem distinct' inside] at found
        exact (Option.some.inj found).symm
      subst here
      refine ⟨counterpart.2, name ▸ Entries.get?_of_mem distinct member, ?_⟩
      exact ih counterpart member (all counterpart member) (all' entry inside) both
    | _ => cases same

/-! ## Values that stand alone -/

theorem equal_text_iff {v : Value} {s : String} : v.equal (.text s) = true ↔ v = .text s := by
  cases v <;> simp [equal, isNaN, sameNumber, integer?]

/-- Nothing but a NaN is alike to a NaN. -/
theorem isNaN_of_alike {a b : Value} (same : a.alike b = true) (nan : b.isNaN = true) : a.isNaN = true := by
  cases b with
  | float y =>
    cases y with
    | nan computed =>
      cases a with
      | float x =>
        have both : x.same (.nan computed) = true := by simpa [sameNumber] using same
        cases x with
        | nan _ => rfl
        | _ => cases both
      | bool _ => cases same
      | int _ => cases same
      | _ => cases same
    | _ => cases nan
  | _ => cases nan

/-- Equal proper values are equal to the same ones. -/
theorem equal_congr {a b : Value} (proper : a.Proper) (proper' : b.Proper) (same : a.equal b = true) (c : Value) :
    a.equal c = b.equal c := by
  rw [equal, Bool.and_eq_true, Bool.not_eq_true'] at same
  obtain ⟨number, both⟩ := same
  have number' : b.isNaN = false := by
    rw [← Bool.not_eq_true]
    intro nan
    rw [isNaN_of_alike both nan] at number
    cases number
  rw [equal, equal, number, number', Bool.eq_iff_iff]
  exact ⟨alike_trans (alike_symm proper proper' both), alike_trans both⟩

/-! ## What texts give back -/

private theorem same_settled_iff (x : Double) : x.settled.same x = true ↔ x.settled = x := by
  cases x with
  | nan computed => cases computed <;> simp [Double.settled, Double.same]
  | infinity negative => simp [Double.settled, Double.same]
  | finite negative ordinal => simp [Double.settled, Double.same]

private theorem alikeItems_settled_iff {items : List Value} :
    alikeItems (settledItems items) items = true ↔ ∀ x ∈ items, x.settled.alike x = true := by
  induction items with
  | nil => simp [settledItems]
  | cons x rest ih => rw [settledItems, alikeItems, Bool.and_eq_true, ih, List.forall_mem_cons]

/-- What a text gives back is alike to the proper value that was written just when nothing changed on the way. -/
theorem alike_settled_iff {v : Value} (proper : v.Proper) : v.settled.alike v = true ↔ v.settled = v := by
  induction v using byParts with
  | null => exact iff_of_true rfl rfl
  | bool b => exact iff_of_true (by simp [settled, integer?]) rfl
  | int n => exact iff_of_true (by simp [settled, integer?]) rfl
  | float x =>
    rw [settled, alike, sameNumber, float.injEq]
    exact same_settled_iff x
  | text s => exact iff_of_true (by simp [settled]) rfl
  | handle kind => exact iff_of_true (by simp [settled]) rfl
  | array items ih =>
    rw [settled, alike, alikeItems_settled_iff, array.injEq, settledItems_eq_self_iff]
    exact forall₂_congr fun x inside => ih x inside (proper_array_iff.mp proper x inside)
  | object fields ih =>
    obtain ⟨distinct, all⟩ := proper_object_iff.mp proper
    rw [settled, alike_object_iff, object.injEq, settledFields_eq_self_iff, settledFields_eq, Entries.mapValues,
      List.length_map, eq_self_iff_true, true_and, List.forall_mem_map]
    refine forall₂_congr fun entry inside => ?_
    rw [← ih entry inside (all entry inside)]
    have found : Entries.get? fields entry.1 = some entry.2 := Entries.get?_of_mem distinct inside
    simp [found]

/-- A proper value without computed NaNs is alike to itself. -/
theorem alike_self {v : Value} (proper : v.Proper) (same : v.settled = v) : v.alike v = true := by
  have back := (alike_settled_iff proper).mpr same
  rwa [same] at back

/-- A value that compares as equal to itself: proper, and no computed NaN in it. -/
def Plain (v : Value) : Prop := v.Proper ∧ v.settled = v

/-- A plain value that stands alone equals itself unless it is a NaN. -/
theorem Plain.equal_self {v : Value} (plain : v.Plain) (number : v.isNaN = false) : v.equal v = true := by
  rw [equal, number]
  exact alike_self plain.1 plain.2

theorem Plain.of_get? {fields : Fields} (plain : (object fields).Plain) {key : String} {v : Value}
    (found : fields.get? key = some v) : v.Plain := by
  obtain ⟨proper, settled⟩ := plain
  rw [Value.settled, object.injEq, settledFields_eq_self_iff] at settled
  exact ⟨proper.of_get? found, settled _ (Entries.mem_of_get? found)⟩

/-! ## Copies -/

private theorem itemsEqualCopies_iff {items : List Value} :
    itemsEqualCopies items = true ↔ ∀ x ∈ items, x.equalsCopies = true := by
  induction items with
  | nil => simp [itemsEqualCopies]
  | cons x rest ih => rw [itemsEqualCopies, Bool.and_eq_true, ih, List.forall_mem_cons]

private theorem fieldsEqualCopies_iff {fields : Fields} :
    fieldsEqualCopies fields = true ↔ ∀ entry ∈ fields, entry.2.equalsCopies = true := by
  induction fields with
  | nil => simp [fieldsEqualCopies]
  | cons entry rest ih => rw [fieldsEqualCopies, Bool.and_eq_true, ih, List.forall_mem_cons]

/-- A value equals its copies unless one of the handles in it does not. -/
theorem equalsCopies_iff {v : Value} : v.equalsCopies = true ↔ ∀ part, v.Part part → part ≠ .handle false := by
  induction v using byParts with
  | array items ih =>
    rw [equalsCopies, itemsEqualCopies_iff, forall₂_congr ih, forall_part_array_iff]
    exact (and_iff_right nofun).symm
  | object fields ih =>
    rw [equalsCopies, fieldsEqualCopies_iff, forall₂_congr ih, forall_part_object_iff]
    exact (and_iff_right nofun).symm
  | handle kind =>
    constructor
    · rintro same part ⟨⟩ other
      cases other
      cases same
    · intro none
      cases kind with
      | true => rfl
      | false => exact absurd rfl (none _ (.self _))
  | _ => exact iff_of_true rfl (by rintro _ ⟨⟩; exact nofun)

/-- A plain object equals a copy of it unless a handle in it tells them apart. -/
theorem Plain.alikeAsCopies_iff {document : Fields} (plain : (object document).Plain) :
    document.alikeAsCopies document = true ↔ ∀ part, (object document).Part part → part ≠ .handle false := by
  rw [Fields.alikeAsCopies, Fields.alike, alike_self plain.1 plain.2, Bool.true_and, equalsCopies_iff]

end HomeTiles.Value
